import Keystroke.Proofs.ClosingTexts

namespace Keystroke

namespace ClosingPairs

variable {e : ClosingPairs} {before after kept rest : Text}

theorem Erases.exists_erased (h : e.Erases before after kept rest) :
    ∃ erased, erased ≠ [] ∧ before = kept ++ erased := by
  cases h with
  | @pair _ _ p _ _ _ _ hbefore _ => exact ⟨p.opening, p.pair.opening_ne, hbefore⟩
  | @char _ last _ hbefore => exact ⟨[last], List.cons_ne_nil last [], hbefore⟩

theorem Erases.suffix (h : e.Erases before after kept rest) : rest <:+ after := by
  cases h with
  | @pair _ _ p _ _ _ _ _ hafter => exact ⟨p.closing, hafter.symm⟩
  | char => exact List.suffix_rfl

end ClosingPairs

namespace Session

namespace Event

/-- The event types nothing. -/
def IsSilent : Event → Prop
  | .key _ => False
  | .backspace | .assist _ | .indentWith _ | .tokenize _ => True

def isBackspace : Event → Bool
  | .backspace => true
  | .key _ | .assist _ | .indentWith _ | .tokenize _ => false

end Event

variable {s : Session} {before after : Text}

theorem At.caret_eq_zero_iff (hs : s.At before after) : s.caret = 0 ↔ before = [] := by
  have hle := Text.length_le_width before
  rw [hs.caret]
  constructor
  · intro hzero
    exact List.eq_nil_of_length_eq_zero (by omega)
  · rintro rfl
    rfl

theorem At.caret_lt {next : Session} {kept rest erased : Text} (hs : s.At (kept ++ erased) after)
    (hnext : next.At kept rest) (herased : erased ≠ []) : next.caret < s.caret := by
  have hlength := List.length_pos_of_ne_nil herased
  have hle := Text.length_le_width erased
  rw [hs.caret, hnext.caret, Text.width_append]
  omega

theorem backspace_at (hs : s.At before after) :
    (before = [] ∧ s.answer .backspace = .ok none ∧ s.receive .backspace = .ok s) ∨
      ∃ c kept rest, s.answer .backspace = .ok (some c) ∧
        s.receive .backspace = .ok (s.apply c) ∧ (s.apply c).At kept rest ∧
        s.assistant.pairs.Erases before after kept rest := by
  obtain ⟨a, ha, ⟨hbefore, hnone⟩ | ⟨c, kept, rest, hc, hleads, herases⟩⟩ :=
    s.assistant.backspace_erases before after
  all_goals rw [← hs.text, ← hs.caret] at ha
  · exact Or.inl ⟨hbefore, receive_backspace_none ha hnone⟩
  · exact Or.inr ⟨c, kept, rest, answer_backspace ha hc, receive_backspace ha hc,
      hs.apply hleads, herases⟩

/-- An event that types nothing: a backspace brings the caret nearer to the start if it is not there,
and all else leaves the text and the caret alone. -/
theorem receive_silent (hs : s.At before after) {e : Event} (he : e.IsSilent) :
    ∃ next kept rest, s.receive e = .ok next ∧ next.At kept rest ∧ kept <+: before ∧
      rest <:+ after ∧ kept.length ≤ before.length - (if e.isBackspace then 1 else 0) ∧
      (if e.isBackspace then next.caret < s.caret ∨ (s.caret = 0 ∧ next = s)
        else next.text = s.text ∧ next.caret = s.caret) := by
  cases e with
  | key typed => exact he.elim
  | backspace =>
    rcases backspace_at hs with ⟨rfl, -, hreceive⟩ | ⟨c, kept, rest, -, hreceive, hat, herases⟩
    · exact ⟨s, [], after, hreceive, hs, List.prefix_rfl, List.suffix_rfl, Nat.zero_le _,
        Or.inr ⟨hs.caret_eq_zero_iff.mpr rfl, rfl⟩⟩
    · obtain ⟨erased, hne, rfl⟩ := herases.exists_erased
      have hpos := List.length_pos_of_ne_nil hne
      refine ⟨s.apply c, kept, rest, hreceive, hat, List.prefix_append kept erased, herases.suffix,
        ?_, Or.inl (hs.caret_lt hat hne)⟩
      simp only [Event.isBackspace, if_true, List.length_append]
      omega
  | assist | indentWith | tokenize =>
    exact ⟨_, before, after, rfl, ⟨hs.text, hs.caret⟩, List.prefix_rfl, List.suffix_rfl, Nat.le_refl _,
      rfl, rfl⟩

/-- The induction is on the events, of which every backspace takes a character of the text before the
caret while there is one. -/
theorem receiveAll_silent {events : List Event} (hevents : ∀ e ∈ events, e.IsSilent)
    (hs : s.At before after) :
    ∃ s' kept rest, events.foldlM receive s = .ok s' ∧ s'.At kept rest ∧ kept <+: before ∧
      rest <:+ after ∧ kept.length ≤ before.length - events.countP Event.isBackspace := by
  induction events generalizing s before after with
  | nil => exact ⟨s, before, after, rfl, hs, List.prefix_rfl, List.suffix_rfl, Nat.le_refl _⟩
  | cons e events ih =>
    obtain ⟨next, kept₁, rest₁, hnext, hat₁, hkept₁, hrest₁, hlength₁, -⟩ :=
      receive_silent hs (hevents e List.mem_cons_self)
    obtain ⟨s', kept, rest, hrun, hat, hkept, hrest, hlength⟩ :=
      ih (fun e he => hevents e (List.mem_cons_of_mem _ he)) hat₁
    refine ⟨s', kept, rest, ?_, hat, hkept.trans hkept₁, hrest.trans hrest₁, ?_⟩
    · rw [List.foldlM_cons, hnext, ok_bind, hrun]
    · rw [List.countP_cons]
      omega

/-- There is a command for a backspace unless the caret is at the start of the text, and it does what
`ClosingPairs.Erases` says. However many backspaces there are, and whatever changes between them, each
brings the caret nearer to the start until it is there. As many as there are characters before the
caret are enough for this, and nothing but an end of what stood after the caret is left then. -/
theorem backspaces_reach_start (s : Session) (before after : Text) (hs : s.At before after) :
    (∃ answer next, s.answer .backspace = .ok answer ∧ s.receive .backspace = .ok next ∧
      (answer = none ↔ s.caret = 0) ∧ (answer = none → next = s) ∧
      ∀ c ∈ answer, next = s.apply c ∧ ∃ kept rest, next.At kept rest ∧ kept <+: before ∧
        kept ≠ before ∧ rest <:+ after ∧ s.assistant.pairs.Erases before after kept rest) ∧
    ∀ events : List Event, (∀ e ∈ events, e.IsSilent) →
      ∃ s', events.foldlM receive s = .ok s' ∧
        (before.length ≤ events.countP Event.isBackspace → s'.caret = 0) ∧
        (s'.caret = 0 → s'.text <:+ after) ∧
        ∀ e : Event, e.IsSilent → ∃ next, s'.receive e = .ok next ∧
          (if e.isBackspace then next.caret < s'.caret ∨ (s'.caret = 0 ∧ next = s')
            else next.text = s'.text ∧ next.caret = s'.caret) := by
  constructor
  · rcases backspace_at hs with ⟨hbefore, hanswer, hreceive⟩ |
      ⟨c, kept, rest, hanswer, hreceive, hat, herases⟩
    · exact ⟨none, s, hanswer, hreceive, iff_of_true rfl (hs.caret_eq_zero_iff.mpr hbefore),
        fun _ => rfl, nofun⟩
    · obtain ⟨erased, hne, hbefore⟩ := herases.exists_erased
      have hcaret : s.caret ≠ 0 := by
        rw [Ne, hs.caret_eq_zero_iff, hbefore]
        exact List.append_ne_nil_of_right_ne_nil kept hne
      refine ⟨some c, s.apply c, hanswer, hreceive, iff_of_false nofun hcaret, nofun, ?_⟩
      intro c' hc'
      obtain rfl := Option.some.inj hc'
      refine ⟨rfl, kept, rest, hat, ⟨erased, hbefore.symm⟩, ?_, herases.suffix, herases⟩
      intro hsame
      exact hne (List.append_right_eq_self.mp (hbefore.symm.trans hsame.symm))
  · intro events hevents
    obtain ⟨s', kept, rest, hrun, hat, -, hrest, hlength⟩ := receiveAll_silent hevents hs
    refine ⟨s', hrun, ?_, ?_, ?_⟩
    · intro hmany
      exact hat.caret_eq_zero_iff.mpr (List.eq_nil_of_length_eq_zero (by omega))
    · intro hzero
      rw [hat.text, hat.caret_eq_zero_iff.mp hzero]
      exact hrest
    · intro e he
      obtain ⟨next, -, -, hnext, -, -, -, -, hmoves⟩ := receive_silent hat he
      exact ⟨next, hnext, hmoves⟩

/-- A pair goes, and then, where stars close one another, the letter before it. -/
theorem backspaces_reach_start_letter :
    ∃ s', [Event.backspace, .assist ⟨⟨[], []⟩, .starred⟩, .backspace].foldlM receive
        (between .brackets ['é', '('] [')', ';']) = .ok s' ∧
      s'.caret = 0 ∧ s'.text <:+ [')', ';'] := by
  have hsilent : ∀ e ∈ [Event.backspace, .assist ⟨⟨[], []⟩, .starred⟩, .backspace],
      e.IsSilent := by
    simp [Event.IsSilent]
  obtain ⟨s', hrun, hmany, hstart, -⟩ :=
    (backspaces_reach_start _ _ _ (at_between .brackets ['é', '('] [')', ';'])).2 _ hsilent
  have hzero : s'.caret = 0 := hmany (by decide)
  exact ⟨s', hrun, hzero, hstart hzero⟩

end Session

end Keystroke
