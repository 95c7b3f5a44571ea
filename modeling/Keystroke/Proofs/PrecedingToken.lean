import Keystroke.Proofs.Positions
import Keystroke.Proofs.Restrictions
import Mathlib.Data.List.TakeWhile

namespace Keystroke

section Tokens

variable {tokens : List Token} {place : Nat} {t : Token}

/-- The token is the one with the greatest start among those that start at or before a place. -/
structure Covers (tokens : List Token) (place : Nat) (t : Token) : Prop where
  mem : t ∈ tokens
  start_le : t.start ≤ place
  greatest : ∀ u ∈ tokens, u.start ≤ place → u.start ≤ t.start

theorem getLast?_eq_some_iff_greatest (hsorted : tokens.Pairwise (·.start < ·.start)) :
    tokens.getLast? = some t ↔ t ∈ tokens ∧ ∀ u ∈ tokens, u.start ≤ t.start := by
  have hlast {t : Token} (h : tokens.getLast? = some t) :
      ∀ u ∈ tokens, u = t ∨ u.start < t.start := by
    obtain ⟨front, rfl⟩ := List.getLast?_eq_some_iff.mp h
    intro u hu
    rcases List.mem_append.mp hu with hu | hu
    · exact Or.inr ((List.pairwise_append.mp hsorted).2.2 u hu t List.mem_cons_self)
    · exact Or.inl (List.mem_singleton.mp hu)
  constructor
  · intro h
    refine ⟨List.mem_of_getLast? h, fun u hu => ?_⟩
    rcases hlast h u hu with rfl | hlt
    · exact Nat.le_refl _
    · exact Nat.le_of_lt hlt
  · rintro ⟨hmem, hgreatest⟩
    obtain ⟨v, hv⟩ := Option.isSome_iff_exists.mp
      (List.getLast?_isSome.mpr (List.ne_nil_of_mem hmem))
    rcases hlast hv t hmem with rfl | hlt
    · exact hv
    · have hle := hgreatest v (List.mem_of_getLast? hv)
      omega

/-- Where tokens are in the order of their starts, reading them up to a place loses none that starts
at or before it. -/
theorem mem_takeWhile_start_iff (hsorted : tokens.Pairwise (·.start < ·.start)) :
    t ∈ tokens.takeWhile (·.start ≤ place) ↔ t ∈ tokens ∧ t.start ≤ place := by
  constructor
  · intro h
    exact ⟨(List.takeWhile_prefix _).subset h, by simpa using List.mem_takeWhile_imp h⟩
  · rintro ⟨hmem, hle⟩
    induction tokens with
    | nil => cases hmem
    | cons u tokens ih =>
      obtain ⟨hfirst, hrest⟩ := List.pairwise_cons.mp hsorted
      have hu : u.start ≤ place := by
        rcases List.mem_cons.mp hmem with rfl | hmem
        · exact hle
        · have hlt := hfirst t hmem
          omega
      rw [List.takeWhile_cons_of_pos (by simpa using hu)]
      rcases List.mem_cons.mp hmem with rfl | hmem
      · exact List.mem_cons_self
      · exact List.mem_cons_of_mem u (ih hrest hmem)

namespace LineTokens

variable {l : LineTokens}

theorem tokenAt_add (l : LineTokens) (place : Nat) :
    l.tokenAt (l.offset + place) = (l.tokens.takeWhile (·.start ≤ place)).getLast? := by
  rw [tokenAt, if_neg (by omega), Nat.add_sub_cancel_left]

theorem tokenAt_eq_some_iff (hsorted : l.tokens.Pairwise (·.start < ·.start)) :
    l.tokenAt (l.offset + place) = some t ↔ Covers l.tokens place t := by
  have hread := hsorted.sublist (List.takeWhile_sublist (·.start ≤ place))
  rw [tokenAt_add, getLast?_eq_some_iff_greatest hread, mem_takeWhile_start_iff hsorted]
  constructor
  · rintro ⟨⟨hmem, hle⟩, hgreatest⟩
    exact ⟨hmem, hle, fun u hu hplace =>
      hgreatest u ((mem_takeWhile_start_iff hsorted).mpr ⟨hu, hplace⟩)⟩
  · rintro ⟨hmem, hle, hgreatest⟩
    refine ⟨⟨hmem, hle⟩, fun u hu => ?_⟩
    obtain ⟨hu, hplace⟩ := (mem_takeWhile_start_iff hsorted).mp hu
    exact hgreatest u hu hplace

theorem tokenAt_eq_none_iff (hsorted : l.tokens.Pairwise (·.start < ·.start)) :
    l.tokenAt (l.offset + place) = none ↔ ∀ t ∈ l.tokens, place < t.start := by
  rw [tokenAt_add, List.getLast?_eq_none_iff, List.eq_nil_iff_forall_not_mem]
  refine forall_congr' fun t => ?_
  rw [mem_takeWhile_start_iff hsorted, not_and, Nat.not_le]

end LineTokens

end Tokens

section Preceding

variable {t l kept after : Text} {offset : Nat} {upper lower : List (Text × LineEnding)}
  {e : LineEnding} {c : Char}

theorem FallsInto.ending_ne_absent (h : FallsInto t offset upper l e lower) :
    ∀ u ∈ upper, u.2 ≠ .absent := by
  obtain ⟨above, last, hlines, habove⟩ := (dividesInto_lineTexts t).exists_last
  have hdrop := congrArg List.dropLast (h.lines.symm.trans hlines)
  rw [List.dropLast_append_of_ne_nil (List.cons_ne_nil _ _), List.dropLast_concat] at hdrop
  intro u hu
  exact habove u (hdrop ▸ List.mem_append_left _ hu)

/-- What stands above a line ends with the ending of a line. -/
theorem eq_of_getLast?_flatMap_withEnding (hupper : ∀ u ∈ upper, u.2 ≠ .absent)
    (hc : (upper.flatMap withEnding).getLast? = some c) : c = '\n' ∨ c = '\r' := by
  rcases List.eq_nil_or_concat upper with rfl | ⟨above, ⟨m, f⟩, rfl⟩
  · cases hc
  · have hf : f ≠ .absent := hupper (m, f) (by simp)
    have hne : f.text ≠ [] := by cases f <;> simp_all [LineEnding.text]
    rw [List.concat_eq_append, List.flatMap_append, List.flatMap_singleton, withEnding,
      ← List.append_assoc, List.getLast?_append_of_ne_nil _ hne] at hc
    cases f with
    | absent => exact absurd rfl hf
    | lineFeed | both => exact Or.inl (Option.some.inj hc).symm
    | carriageReturn => exact Or.inr (Option.some.inj hc).symm

/-- A character before the caret that ends no line stands in the line of the caret. -/
theorem FallsInto.start_le_width
    (h : FallsInto (kept ++ [c] ++ after) (Text.width (kept ++ [c])) upper l e lower)
    (hc : ¬ (c = '\n' ∨ c = '\r')) :
    Text.width (upper.flatMap withEnding) ≤ Text.width kept := by
  have hparts : upper.flatMap withEnding ++ ((l, e) :: lower).flatMap withEnding =
      kept ++ [c] ++ after := by
    rw [← List.flatMap_append, ← h.lines]
    exact (dividesInto_lineTexts _).flatMap_withEnding
  obtain ⟨m, hm, -⟩ := Text.exists_append_of_width_le hparts h.start
  rcases List.eq_nil_or_concat m with rfl | ⟨m, c', rfl⟩
  · -- The caret is where its line starts, so the character ends the line above.
    have hlast : (upper.flatMap withEnding).getLast? = some c := by
      rw [List.append_nil] at hm
      rw [← hm, List.getLast?_concat]
    exact absurd (eq_of_getLast?_flatMap_withEnding h.ending_ne_absent hlast) hc
  · rw [List.concat_eq_append, ← List.append_assoc] at hm
    rw [(List.append_inj' hm rfl).1, Text.width_append]
    exact Nat.le_add_right _ _

end Preceding

namespace ClosingPairs

variable {e : ClosingPairs} {tokens : TokenSource} {before typed after kept : Text}
  {p : ClosingPair} {c : Char} {place : Nat} {l : LineTokens}

theorem tokenBefore_concat (tokens : TokenSource) (kept : Text) (c : Char) :
    tokenBefore tokens (kept ++ [c]) = tokens (Text.width kept) := by
  simp [tokenBefore]

theorem closesBefore_iff :
    e.closesBefore after = true ↔
      after = [] ∨ ∃ c ∈ after.head?, Unicode.isBlank c = true ∨ c ∈ e.closeBefore := by
  cases after with
  | nil => simp [closesBefore]
  | cons c after => simp [closesBefore]

/-- Behind a character of its own line, the token that covers this character decides. -/
theorem scopeAllows_concat_iff (hsorted : l.tokens.Pairwise (·.start < ·.start))
    (hplace : l.offset + place = Text.width kept) (hc : ¬ (c = '\n' ∨ c = '\r')) :
    scopeAllows p l.tokenAt (kept ++ [c]) = true ↔
      p.notIn = [] ∨ (∀ t ∈ l.tokens, place < t.start) ∨
        ∃ t, Covers l.tokens place t ∧ t.inAnyScope p.notIn = false := by
  have hending : ¬ ∃ x ∈ some c, x = '\n' ∨ x = '\r' := by simpa using hc
  rw [scopeAllows_iff, tokenBefore_concat, List.getLast?_concat, ← hplace, or_iff_right hending,
    ← LineTokens.tokenAt_eq_none_iff hsorted]
  simp only [← LineTokens.tokenAt_eq_some_iff hsorted]
  refine or_congr_right ?_
  cases l.tokenAt (l.offset + place) with
  | none => simp
  | some t => simp

theorem scopeAllows_line_iff {row : Nat}
    (hrow : (Document.ofText (before ++ after)).rowOf (Text.width before) = .ok row)
    (hstart : (Document.ofText (before ++ after)).lineStart? row = some l.offset)
    (hsorted : l.tokens.Pairwise (·.start < ·.start)) :
    scopeAllows p l.tokenAt before = true ↔
      p.notIn = [] ∨ before = [] ∨ ∃ kept c, before = kept ++ [c] ∧
        (c = '\n' ∨ c = '\r' ∨ ∃ place, l.offset + place = Text.width kept ∧
          ((∀ t ∈ l.tokens, place < t.start) ∨
            ∃ t, Covers l.tokens place t ∧ t.inAnyScope p.notIn = false)) := by
  rcases List.eq_nil_or_concat before with rfl | ⟨kept, c, hbefore⟩
  · simp [scopeAllows]
  rw [List.concat_eq_append] at hbefore
  subst hbefore
  simp only [List.append_eq_nil_iff, List.cons_ne_nil, and_false, false_or,
    List.append_singleton_inj, exists_and_left, and_assoc, exists_eq_left']
  by_cases hc : c = '\n' ∨ c = '\r'
  · rw [scopeAllows_iff]
    refine iff_of_true (Or.inr (Or.inl ⟨c, List.getLast?_concat, hc⟩)) (Or.inr ?_)
    exact hc.imp_right Or.inl
  · obtain ⟨upper, line, ending, lower, h⟩ :=
      exists_fallsInto (kept ++ [c] ++ after) (Text.width (kept ++ [c]))
    have hoffset : l.offset = Text.width (upper.flatMap withEnding) := by
      obtain rfl := Except.ok.inj (hrow.symm.trans (h.rowOf (Text.isBoundary_width _ after)))
      exact Option.some.inj (hstart.symm.trans h.lineStart?)
    have hle := h.start_le_width hc
    obtain ⟨place, hplace⟩ := Nat.exists_eq_add_of_le (hoffset ▸ hle)
    obtain ⟨hfeed, hreturn⟩ := not_or.mp hc
    rw [scopeAllows_concat_iff hsorted hplace.symm hc]
    simp only [hfeed, hreturn, false_or, hplace, Nat.add_left_cancel_iff, exists_eq_left]

/-- Where typed text completes the opening text of a pair and steps over nothing, the pair is closed
exactly if nothing but a blank or one of the configured characters follows, and the token of the
character before the caret is in none of the scopes that the pair is kept out of. This is the token
that starts last among those that start at or before this character. There may be none, and none is
asked for where the pair is kept out of no scope or the caret starts the text or a line. -/
theorem closed_by_covering_token (e : ClosingPairs) (l : LineTokens)
    {text before after typed : Text} {offset row : Nat} {p : ClosingPair}
    (hsplit : Text.splitAt text offset = .ok (before, after)) (htyped : typed ≠ [])
    (hpair : e.opened? before typed = some p) (hrepeated : p.isRepeated typed after = false)
    (hrow : (Document.ofText text).rowOf offset = .ok row)
    (hstart : (Document.ofText text).lineStart? row = some l.offset)
    (hsorted : l.tokens.Pairwise (·.start < ·.start)) :
    let follows := after = [] ∨
      ∃ c ∈ after.head?, Unicode.isBlank c = true ∨ c ∈ e.closeBefore
    let permits := p.notIn = [] ∨ before = [] ∨ ∃ kept c, before = kept ++ [c] ∧
      (c = '\n' ∨ c = '\r' ∨ ∃ place, l.offset + place = Text.width kept ∧
        ((∀ t ∈ l.tokens, place < t.start) ∨
          ∃ t, Covers l.tokens place t ∧ t.inAnyScope p.notIn = false))
    ∃ decided, e.decide text offset typed l.tokenAt = .ok decided ∧
      (decided.value = .insertWithClose p.closing ↔ follows ∧ permits) ∧
      (¬ (follows ∧ permits) → decided.value = .passThrough) := by
  intro follows permits
  obtain ⟨rfl, rfl⟩ := Text.splitAt_eq_ok hsplit
  obtain ⟨notices, hdecide⟩ := e.decide_width l.tokenAt before typed after
  have hallowed : (e.closesBefore after && scopeAllows p l.tokenAt before) = true ↔
      follows ∧ permits := by
    rw [Bool.and_eq_true, closesBefore_iff, scopeAllows_line_iff hrow hstart hsorted]
  refine ⟨_, hdecide, ?_⟩
  rw [decision_of_not_repeated htyped hpair hrepeated]
  by_cases h : follows ∧ permits
  · rw [if_pos (hallowed.mpr h)]
    exact ⟨iff_of_true rfl h, fun hnot => absurd h hnot⟩
  · rw [if_neg (mt hallowed.mp h)]
    exact ⟨iff_of_false nofun h, fun _ => rfl⟩

/-- Behind a character of two bytes in the second line, with tokens of strings before it and at the
caret. -/
theorem closed_by_covering_token_wide :
    let p : ClosingPair := ⟨{ opening := ['('], closing := [')'] }, [['s', 't', 'r']]⟩
    let e : ClosingPairs := ⟨[p], standardCloseBefore⟩
    let code : Token := ⟨1, ['s', 'r', 'c']⟩
    let l : LineTokens := ⟨2, [⟨0, ['s', 't', 'r']⟩, code, ⟨3, ['s', 't', 'r']⟩]⟩
    Covers l.tokens 1 code ∧ ∃ decided,
      e.decide ['a', '\n', 'b', 'é', ')'] 5 ['('] l.tokenAt = .ok decided ∧
        decided.value = .insertWithClose [')'] := by
  intro p e code l
  have hcovers : Covers l.tokens 1 code :=
    ⟨by simp [l], Nat.le_refl 1, fun _ _ hplace => hplace⟩
  have hscope : code.inAnyScope p.notIn = false := by decide +kernel
  let text := ['a', '\n', 'b', 'é', ')']
  have hsplit : Text.splitAt text 5 = .ok (['a', '\n', 'b', 'é'], [')']) := rfl
  have hpair : e.opened? ['a', '\n', 'b', 'é'] ['('] = some p := rfl
  have hrow : (Document.ofText text).rowOf 5 = .ok 1 := rfl
  have hsorted : l.tokens.Pairwise (·.start < ·.start) := by simp [l, code]
  obtain ⟨decided, hdecide, hclosed, -⟩ :=
    closed_by_covering_token e l hsplit (by decide) hpair rfl hrow rfl hsorted
  refine ⟨hcovers, decided, hdecide, hclosed.mpr ⟨Or.inr ⟨')', rfl, Or.inr ?_⟩, Or.inr (Or.inr ?_)⟩⟩
  · simp [e, standardCloseBefore]
  · exact ⟨['a', '\n', 'b'], 'é', rfl, Or.inr (Or.inr ⟨1, rfl, Or.inr ⟨code, hcovers, hscope⟩⟩)⟩

end ClosingPairs

end Keystroke
