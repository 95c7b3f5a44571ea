import Keystroke.Proofs.Safety

namespace Keystroke

namespace ClosingPair

variable {p : ClosingPair} {before typed after : Text} {c : Char}

theorem completes_iff :
    p.completes before typed = true ↔ typed <:+ p.opening ∧ p.opening <:+ before ++ typed := by
  simp only [completes, Bool.and_eq_true, List.isSuffixOf_iff_suffix]

/-- A pair is completed if its opening text is the typed one with the end of what stands before
the caret in front of it. -/
theorem completes_iff_append :
    p.completes before typed = true ↔
      ∃ kept head, before = kept ++ head ∧ p.opening = head ++ typed := by
  rw [completes_iff]
  constructor
  · rintro ⟨⟨head, hopening⟩, ⟨kept, hkept⟩⟩
    refine ⟨kept, head, ?_, hopening.symm⟩
    rw [← hopening, ← List.append_assoc] at hkept
    exact (List.append_cancel_right hkept).symm
  · rintro ⟨kept, head, rfl, hopening⟩
    exact ⟨⟨head, hopening.symm⟩, ⟨kept, by rw [hopening, List.append_assoc]⟩⟩

theorem isRepeated_iff (hafter : typed <+: after) :
    p.isRepeated typed after = true ↔ p.opening = typed ∨ p.closing = typed := by
  simp only [isRepeated, Bool.or_eq_true, Bool.and_eq_true, decide_eq_true_eq,
    List.isPrefixOf_iff_prefix]
  constructor
  · rintro (⟨h, _⟩ | ⟨h, _⟩)
    · exact Or.inl h.symm
    · exact Or.inr h.symm
  · rintro (h | h)
    · exact Or.inl ⟨h.symm, h ▸ hafter⟩
    · exact Or.inr ⟨h.symm, h ▸ hafter⟩

/-- Every pair around the caret was completed by the character before it. -/
theorem completes_of_surrounds (h : p.surrounds (before ++ [c]) after = true) :
    p.completes before [c] = true := by
  have hsuffix := (surrounds_iff.mp h).1
  rcases List.suffix_concat_iff.mp hsuffix with hnil | ⟨head, hopening, kept, hkept⟩
  · exact absurd hnil p.pair.opening_ne
  · exact completes_iff_append.mpr ⟨kept, head, hkept.symm, hopening⟩

end ClosingPair

namespace ClosingPairs

variable {e : ClosingPairs} {tokens : TokenSource} {before typed after : Text} {p : ClosingPair}

theorem stepsOver_iff :
    e.stepsOver typed after = true ↔ (∃ p ∈ e.pairs, p.closing = typed) ∧ typed <+: after := by
  simp only [stepsOver, List.any_eq_true, Bool.and_eq_true, decide_eq_true_eq,
    List.isPrefixOf_iff_prefix]
  constructor
  · rintro ⟨p, hp, hclosing, hafter⟩
    exact ⟨⟨p, hp, hclosing⟩, hafter⟩
  · rintro ⟨⟨p, hp, hclosing⟩, hafter⟩
    exact ⟨p, hp, hclosing, hafter⟩

theorem decision_of_none (ht : typed ≠ []) (hclosing : ∃ q ∈ e.pairs, q.closing = typed)
    (hafter : typed <+: after) (hp : e.opened? before typed = none) :
    e.decision tokens before typed after = .suppress := by
  have hs : e.stepsOver typed after = true := stepsOver_iff.mpr ⟨hclosing, hafter⟩
  simp only [decision, if_neg ht, hp, if_pos hs]

theorem decision_of_some (ht : typed ≠ []) (hafter : typed <+: after)
    (hp : e.opened? before typed = some p) :
    e.decision tokens before typed after =
      if p.opening = typed ∨ p.closing = typed then .suppress
      else if e.closesBefore after && scopeAllows p tokens before then .insertWithClose p.closing
      else .passThrough := by
  simp only [decision, if_neg ht, hp, decideOpening, ClosingPair.isRepeated_iff hafter]

/-- A closing text that stands after the caret is stepped over just if the first pair that it
completes, if any, has it as one of its two texts. -/
theorem decision_eq_suppress_iff (ht : typed ≠ []) (hclosing : ∃ q ∈ e.pairs, q.closing = typed)
    (hafter : typed <+: after) :
    e.decision tokens before typed after = .suppress ↔
      ∀ p, e.opened? before typed = some p → p.opening = typed ∨ p.closing = typed := by
  cases hp : e.opened? before typed with
  | none =>
    simp only [decision_of_none ht hclosing hafter hp, true_iff]
    exact nofun
  | some p =>
    rw [decision_of_some ht hafter hp]
    simp only [Option.some.injEq, forall_eq']
    by_cases h : p.opening = typed ∨ p.closing = typed
    · rw [if_pos h]
      exact iff_of_true rfl h
    · rw [if_neg h]
      refine iff_of_false ?_ h
      split <;> simp

/-- Once a typed character has been closed, the first pair around the caret is the one that was
completed: any pair before it that is around the caret would have been completed as well. -/
theorem find?_surrounds_of_opened? {c : Char} (hp : e.opened? before [c] = some p)
    (after : Text) :
    e.pairs.find? (·.surrounds (before ++ [c]) (p.closing ++ after)) = some p := by
  obtain ⟨hcompletes, front, back, hpairs, hfront⟩ := List.find?_eq_some_iff_append.mp hp
  have hopening := (ClosingPair.completes_iff.mp hcompletes).2
  refine List.find?_eq_some_iff_append.mpr ⟨?_, front, back, hpairs, ?_⟩
  · exact ClosingPair.surrounds_iff.mpr ⟨hopening, List.prefix_append p.closing after⟩
  · intro q hq
    have hq' := hfront q hq
    simp only [Bool.not_eq_true'] at hq' ⊢
    by_contra hsurrounds
    have hcompletes' := ClosingPair.completes_of_surrounds (Bool.not_eq_false _ ▸ hsurrounds)
    rw [hq'] at hcompletes'
    exact absurd hcompletes' (by decide)

theorem completes_of_opened? (hp : e.opened? before typed = some p) :
    p.completes before typed = true := by
  have hcompletes := List.find?_some hp
  exact hcompletes

theorem opened?_of_insertWithClose {closing : Text}
    (h : e.decision tokens before typed after = .insertWithClose closing) :
    ∃ p, e.opened? before typed = some p ∧ p.closing = closing := by
  rcases e.decision_cases tokens before typed after with h' | ⟨h', _⟩ | ⟨p, hp, h'⟩
  · cases h.symm.trans h'
  · cases h.symm.trans h'
  · cases h.symm.trans h'
    exact ⟨p, hp, rfl⟩

/-- Comments that open with two stars, and stars that close one another. -/
def starred : ClosingPairs where
  pairs := [⟨{ opening := ['/', '*', '*'], closing := [' ', '*', '/'] }, []⟩,
    ⟨{ opening := ['*'], closing := ['*'] }, []⟩]
  closeBefore := []

end ClosingPairs

namespace Assistant

open ClosingPairs

/-- A closing text that is typed where it stands after the caret leaves the text as it is, and the
caret steps over it. This holds unless the first pair that is completed has two other texts; such
a pair is closed or not as it would be elsewhere. -/
theorem closing_stepped_over (a : Assistant) (s : IndentSettings) (tokens : TokenSource)
    (before typed rest : Text) (hclosing : ∃ q ∈ a.pairs.pairs, q.closing = typed) :
    ∃ decision notices,
      a.pairs.decide (before ++ (typed ++ rest)) (Text.width before) typed tokens =
        .ok ⟨decision, notices⟩ ∧
      (decision = .suppress ↔
        ∀ p, a.pairs.opened? before typed = some p → p.opening = typed ∨ p.closing = typed) ∧
      (∀ p, a.pairs.opened? before typed = some p → p.opening ≠ typed → p.closing ≠ typed →
        decision =
          if a.pairs.closesBefore (typed ++ rest) && scopeAllows p tokens before then
            .insertWithClose p.closing
          else .passThrough) ∧
      (decision = .suppress →
        (typedCommand (Text.width before) typed decision).apply (before ++ (typed ++ rest)) =
          before ++ (typed ++ rest) ∧
        (typedCommand (Text.width before) typed decision).caretAfter =
          Text.width (before ++ typed) ∧
        (isLineDelimiter typed = false → ∃ notices,
          a.customize (before ++ (typed ++ rest)) (Text.width before) typed s tokens =
            .ok ⟨typedCommand (Text.width before) typed decision, notices⟩)) := by
  have ht : typed ≠ [] := by
    obtain ⟨q, _, rfl⟩ := hclosing
    exact q.pair.closing_ne
  have hafter : typed <+: typed ++ rest := List.prefix_append typed rest
  obtain ⟨notices, hdecide⟩ := a.pairs.decide_width tokens before typed (typed ++ rest)
  refine ⟨_, notices, hdecide, decision_eq_suppress_iff ht hclosing hafter, ?_, ?_⟩
  · intro p hp hopening hclosing'
    rw [decision_of_some ht hafter hp, if_neg (not_or.mpr ⟨hopening, hclosing'⟩)]
  · intro hsuppress
    have hleads := Command.leads_stepOver before typed rest
    refine ⟨?_, ?_, a.customize_typed s tokens before typed (typed ++ rest)⟩
    · rw [hsuppress, typedCommand, hleads.text, List.append_assoc]
    · rw [hsuppress, typedCommand, hleads.caret]

theorem closing_stepped_over_star :
    ∃ notices, (⟨⟨[], []⟩, starred⟩ : Assistant).customize ['*', 'a', '*'] 2 ['*'] .standard
      (fun _ => none) = .ok ⟨.insertAround 2 [] 1, notices⟩ := by
  obtain ⟨decision, _, _, hsuppress, _, hstep⟩ := closing_stepped_over ⟨⟨[], []⟩, starred⟩ .standard
    (fun _ => none) ['*', 'a'] ['*'] [] ⟨_, .tail _ (.head _), rfl⟩
  have hdecision : decision = .suppress := hsuppress.mpr (by decide)
  have hcustomize := (hstep hdecision).2.2 (by decide)
  rw [hdecision] at hcustomize
  exact hcustomize

/-- A star behind the start of a comment completes its opening text, and the star after the caret
is not stepped over. -/
theorem star_not_stepped_over :
    (∃ q ∈ starred.pairs, q.closing = ['*']) ∧ ['*'] <+: ['*'] ∧
      starred.decide (['/', '*'] ++ ['*']) (Text.width ['/', '*']) ['*'] (fun _ => none) =
        .ok ⟨.passThrough, [.openingTyped ['*'] 2 .passThrough]⟩ :=
  ⟨⟨_, .tail _ (.head _), rfl⟩, List.prefix_rfl, rfl⟩

end Assistant

namespace Session

open ClosingPairs

theorem decide_eq_insertWithClose {s : Session} {before typed after closing : Text}
    {notices : List Notice} (hs : s.At before after)
    (hd : s.assistant.pairs.decide s.text s.caret typed s.tokens =
      .ok ⟨.insertWithClose closing, notices⟩) :
    s.assistant.pairs.decision s.tokens before typed after = .insertWithClose closing := by
  obtain ⟨notices', hdecide⟩ := s.assistant.pairs.decide_width s.tokens before typed after
  rw [hs.text, hs.caret, hdecide] at hd
  exact congrArg Logged.value (Except.ok.inj hd)

/-- A backspace after a character that was closed deletes the two texts of the pair that was chosen
then. What stood before the caret of its opening text goes with it; if there was nothing, the
session has its text and caret back. -/
theorem erase_closed (s : Session) (before after : Text) (hs : s.At before after) (c : Char)
    (hc : c ≠ '\n' ∧ c ≠ '\r') (closing : Text) (notices : List Notice)
    (hd : s.assistant.pairs.decide s.text s.caret [c] s.tokens =
      .ok ⟨.insertWithClose closing, notices⟩) :
    ∃ p kept head typed erased,
      s.assistant.pairs.opened? before [c] = some p ∧ p.closing = closing ∧
      p.opening = head ++ [c] ∧ before = kept ++ head ∧
      s.receive (.key [c]) = .ok typed ∧ typed.At (kept ++ p.opening) (p.closing ++ after) ∧
      s.assistant.pairs.pairs.find? (·.surrounds (kept ++ p.opening) (p.closing ++ after)) =
        some p ∧
      typed.answer .backspace =
        .ok (some (.delete (Text.width kept) (Text.width (p.opening ++ p.closing)) false)) ∧
      typed.receive .backspace = .ok erased ∧ erased.At kept after ∧
      (p.opening = [c] → erased.text = s.text ∧ erased.caret = s.caret) := by
  have hdelimiter : isLineDelimiter [c] = false := by
    simp [isLineDelimiter, hc.1, hc.2]
  have hdecision := decide_eq_insertWithClose hs hd
  obtain ⟨p, hp, rfl⟩ := opened?_of_insertWithClose hdecision
  obtain ⟨kept, head, rfl, hopening⟩ :=
    ClosingPair.completes_iff_append.mp (completes_of_opened? hp)
  have hfind := find?_surrounds_of_opened? hp after
  rw [List.append_assoc, ← hopening] at hfind
  -- the character is typed
  obtain ⟨_, hcustomize⟩ :=
    s.assistant.customize_typed s.settings s.tokens (kept ++ head) [c] after hdelimiter
  rw [hdecision, ← hs.text, ← hs.caret] at hcustomize
  have htyped := hs.apply (Command.leads_insertAround (kept ++ head) after [c] p.closing)
  rw [List.append_assoc, ← hopening, ← hs.caret] at htyped
  -- and erased
  have hbackspace := s.assistant.backspace_pair kept after p hfind
  rw [← htyped.text, ← htyped.caret] at hbackspace
  have herased := htyped.apply (Command.leads_delete kept p.opening p.closing after false)
  refine ⟨p, kept, head, _, _, hp, rfl, hopening, rfl, receive_key hcustomize, htyped, hfind,
    answer_backspace hbackspace rfl, receive_backspace hbackspace rfl, herased, ?_⟩
  intro hsingle
  have hhead : head = [] := by simpa [hsingle] using hopening
  have hbefore : kept = kept ++ head := by rw [hhead, List.append_nil]
  refine ⟨?_, ?_⟩
  · rw [hs.text, ← hbefore]
    exact herased.text
  · rw [hs.caret, ← hbefore]
    exact herased.caret

theorem erase_closed_comment :
    ∃ typed erased,
      (between ⟨⟨[], []⟩, starred⟩ ['é', '/', '*'] []).receive (.key ['*']) = .ok typed ∧
        typed.text = ['é', '/', '*', '*', ' ', '*', '/'] ∧
        typed.receive .backspace = .ok erased ∧ erased.text = ['é'] ∧ erased.caret = 2 := by
  obtain ⟨p, kept, head, typed, erased, hp, _, hopening, hbefore, htyped, hat, _, _, herased, hat',
      _⟩ :=
    erase_closed (between ⟨⟨[], []⟩, starred⟩ ['é', '/', '*'] []) ['é', '/', '*'] []
      (at_between _ _ _) '*' (by decide) [' ', '*', '/'] _ rfl
  obtain rfl : ⟨{ opening := ['/', '*', '*'], closing := [' ', '*', '/'] }, []⟩ = p :=
    Option.some.inj hp
  obtain rfl : ['/', '*'] = head := List.append_cancel_right hopening
  obtain rfl : ['é'] = kept := List.append_cancel_right hbefore
  exact ⟨typed, erased, htyped, hat.text, herased, hat'.text, hat'.caret⟩

end Session

end Keystroke
