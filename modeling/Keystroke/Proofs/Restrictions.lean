import Keystroke.Proofs.ClosingTexts
import Mathlib.Data.List.Forall2

namespace Keystroke

namespace ClosingPair

/-- The pairs have the same texts, and the first one is kept out of every kind of scope that the
second one is kept out of. -/
structure Restricts (p q : ClosingPair) : Prop where
  pair : q.pair = p.pair
  notIn : q.notIn ⊆ p.notIn

/-- The pair, in whatever scope. -/
def unrestricted (p : ClosingPair) : ClosingPair :=
  ⟨p.pair, []⟩

section Texts

variable {p q : ClosingPair}

theorem unrestricted_congr (h : q.pair = p.pair) : q.unrestricted = p.unrestricted := by
  rw [unrestricted, unrestricted, h]

theorem closing_congr (h : q.pair = p.pair) : q.closing = p.closing :=
  congrArg BracketPair.closing h

theorem completes_congr (h : q.pair = p.pair) (before typed : Text) :
    q.completes before typed = p.completes before typed := by
  show q.unrestricted.completes before typed = p.unrestricted.completes before typed
  rw [unrestricted_congr h]

theorem isRepeated_congr (h : q.pair = p.pair) (typed after : Text) :
    q.isRepeated typed after = p.isRepeated typed after := by
  show q.unrestricted.isRepeated typed after = p.unrestricted.isRepeated typed after
  rw [unrestricted_congr h]

end Texts

end ClosingPair

theorem Token.inAnyScope_mono {t : Token} {kinds kinds' : List Text} (h : kinds ⊆ kinds')
    (ht : t.inAnyScope kinds = true) : t.inAnyScope kinds' = true := by
  obtain ⟨scope, hscope, hany⟩ := List.any_eq_true.mp ht
  obtain ⟨kind, hkind, hhas⟩ := List.any_eq_true.mp hany
  exact List.any_eq_true.mpr ⟨scope, hscope, List.any_eq_true.mpr ⟨kind, h hkind, hhas⟩⟩

/-- The second source knows no token that the first one does not know. -/
def Forgets (tokens tokens' : TokenSource) : Prop :=
  ∀ offset, tokens' offset = tokens offset ∨ tokens' offset = none

/-- The token of the character before the caret. -/
def tokenBefore (tokens : TokenSource) (before : Text) : Option Token :=
  before.getLast?.bind fun c => tokens (Text.width before - c.utf8Size)

namespace ClosingPairs

/-- The pairs have the same texts in the same order. The first ones are kept out of every kind of
scope that the second ones are kept out of, and closed before no character that the second ones are
not closed before. -/
structure Restricts (e e' : ClosingPairs) : Prop where
  pairs : List.Forall₂ ClosingPair.Restricts e.pairs e'.pairs
  closeBefore : e.closeBefore ⊆ e'.closeBefore

def unrestricted (e : ClosingPairs) : ClosingPairs :=
  { e with pairs := e.pairs.map ClosingPair.unrestricted }

section Search

/-- The first pair that is completed has the same place among pairs with the same texts. -/
theorem find?_completes_rel {R : ClosingPair → ClosingPair → Prop}
    (hR : ∀ p q, R p q → q.pair = p.pair) {ps qs : List ClosingPair} (h : List.Forall₂ R ps qs)
    (before typed : Text) :
    Option.Rel R (ps.find? (·.completes before typed)) (qs.find? (·.completes before typed)) := by
  induction h with
  | nil => exact .none
  | @cons p q ps qs hpq _ ih =>
    rw [List.find?_cons, List.find?_cons, ClosingPair.completes_congr (hR p q hpq)]
    cases p.completes before typed with
    | true => exact .some hpq
    | false => exact ih

theorem map_pair_of_forall₂ {R : ClosingPair → ClosingPair → Prop}
    (hR : ∀ p q, R p q → q.pair = p.pair) {ps qs : List ClosingPair} (h : List.Forall₂ R ps qs) :
    qs.map ClosingPair.pair = ps.map ClosingPair.pair := by
  induction h with
  | nil => rfl
  | @cons p q ps qs hpq _ ih => rw [List.map_cons, List.map_cons, hR p q hpq, ih]

theorem forall₂_of_map_pair {ps qs : List ClosingPair}
    (h : qs.map ClosingPair.pair = ps.map ClosingPair.pair) :
    List.Forall₂ (fun p q => q.pair = p.pair) ps qs := by
  have hmap : List.Forall₂ (· = ·) (ps.map ClosingPair.pair) (qs.map ClosingPair.pair) := by
    rw [List.forall₂_eq_eq_eq]
    exact h.symm
  rw [List.forall₂_map_left_iff, List.forall₂_map_right_iff] at hmap
  exact hmap.imp fun _ _ hpq => hpq.symm

theorem stepsOver_congr {e e' : ClosingPairs}
    (h : e'.pairs.map ClosingPair.pair = e.pairs.map ClosingPair.pair) (typed after : Text) :
    e'.stepsOver typed after = e.stepsOver typed after := by
  have hmap (e : ClosingPairs) : e.stepsOver typed after =
      (e.pairs.map ClosingPair.pair).any fun b => b.closing = typed && typed.isPrefixOf after := by
    rw [List.any_map]
    rfl
  rw [hmap, hmap, h]

end Search

section Allowed

variable {e e' : ClosingPairs} {p q : ClosingPair} {tokens tokens' : TokenSource}
  {before after : Text}

theorem closesBefore_mono (h : e.closeBefore ⊆ e'.closeBefore)
    (hcloses : e.closesBefore after = true) : e'.closesBefore after = true := by
  unfold closesBefore at hcloses ⊢
  cases after with
  | nil => rfl
  | cons c after =>
    simp only [List.head?_cons, Option.all_some, Bool.or_eq_true, List.contains_iff_mem] at hcloses ⊢
    exact hcloses.imp_right fun hc => h hc

/-- A pair is kept from being closed by the kinds of scopes of one token only, that of the character
before the caret, unless this character ends a line. -/
theorem scopeAllows_iff :
    scopeAllows p tokens before = true ↔
      p.notIn = [] ∨ (∃ c ∈ before.getLast?, c = '\n' ∨ c = '\r') ∨
        ∀ t ∈ tokenBefore tokens before, t.inAnyScope p.notIn = false := by
  unfold scopeAllows tokenBefore
  rw [Bool.or_eq_true, List.isEmpty_iff]
  refine or_congr_right ?_
  cases before.getLast? with
  | none => simp
  | some c =>
    by_cases hc : c = '\n' ∨ c = '\r'
    · simp [hc]
    · simp only [Option.bind_some, Option.mem_def, Option.some.injEq, exists_eq_left', hc,
        false_or]
      cases tokens (Text.width before - c.utf8Size) with
      | none => simp
      | some t => simp

theorem scopeAllows_mono (hpq : p.Restricts q) (htokens : Forgets tokens tokens')
    (h : scopeAllows p tokens before = true) : scopeAllows q tokens' before = true := by
  rw [scopeAllows_iff] at h ⊢
  rcases h with hempty | hline | hscope
  · exact Or.inl (List.subset_nil.mp (hempty ▸ hpq.notIn))
  · exact Or.inr (Or.inl hline)
  · refine Or.inr (Or.inr fun t ht => ?_)
    obtain ⟨c, hc, ht⟩ := Option.bind_eq_some_iff.mp ht
    rcases htokens (Text.width before - c.utf8Size) with hsame | hnone
    · have hknown := hscope t (Option.bind_eq_some_iff.mpr ⟨c, hc, hsame ▸ ht⟩)
      exact Bool.eq_false_iff.mpr
        (mt (Token.inAnyScope_mono hpq.notIn) (Bool.eq_false_iff.mp hknown))
    · rw [hnone] at ht
      cases ht

theorem scopeAllows_congr (h : tokenBefore tokens' before = tokenBefore tokens before) :
    scopeAllows p tokens' before = scopeAllows p tokens before := by
  rw [Bool.eq_iff_iff, scopeAllows_iff, scopeAllows_iff, h]

theorem scopeAllows_of_tokenBefore (h : tokenBefore tokens before = none) :
    scopeAllows p tokens before = true :=
  scopeAllows_iff.mpr (Or.inr (Or.inr (by simp [h])))

end Allowed

section Decision

variable {e e' : ClosingPairs} {p q : ClosingPair} {tokens tokens' : TokenSource}
  {before typed after : Text}

theorem decideOpening_eq_suppress_iff :
    e.decideOpening p tokens before typed after = .suppress ↔ p.isRepeated typed after = true := by
  unfold decideOpening
  split
  next h => exact iff_of_true rfl h
  next h =>
    refine iff_of_false ?_ h
    split <;> exact nofun

theorem decideOpening_mono (h : e.Restricts e') (hpq : p.Restricts q)
    (htokens : Forgets tokens tokens') :
    e'.decideOpening q tokens' before typed after = e.decideOpening p tokens before typed after ∨
      (e.decideOpening p tokens before typed after = .passThrough ∧
        e'.decideOpening q tokens' before typed after = .insertWithClose q.closing) := by
  unfold decideOpening
  rw [ClosingPair.isRepeated_congr hpq.pair, ClosingPair.closing_congr hpq.pair]
  by_cases hrepeated : p.isRepeated typed after = true
  · exact Or.inl (by rw [if_pos hrepeated, if_pos hrepeated])
  · rw [if_neg hrepeated, if_neg hrepeated]
    by_cases hallowed : (e.closesBefore after && scopeAllows p tokens before) = true
    · -- What allows the first pair to be closed allows it for the second one.
      obtain ⟨hcloses, hscope⟩ := Bool.and_eq_true_iff.mp hallowed
      have hallowed' : (e'.closesBefore after && scopeAllows q tokens' before) = true :=
        Bool.and_eq_true_iff.mpr
          ⟨closesBefore_mono h.closeBefore hcloses, scopeAllows_mono hpq htokens hscope⟩
      exact Or.inl (by rw [if_pos hallowed, if_pos hallowed'])
    · rw [if_neg hallowed]
      split
      next => exact Or.inr ⟨rfl, rfl⟩
      next => exact Or.inl rfl

/-- Decisions among pairs with the same texts compare in whatever way the decisions on the opening of
the pair that is found compare: all else is decided by the texts. -/
theorem decision_rel {R : ClosingPair → ClosingPair → Prop} (hR : ∀ p q, R p q → q.pair = p.pair)
    (h : List.Forall₂ R e.pairs e'.pairs) {S : CloseDecision → CloseDecision → Prop}
    (hrefl : ∀ d, S d d)
    (hopening : ∀ p q, R p q → S (e.decideOpening p tokens before typed after)
      (e'.decideOpening q tokens' before typed after)) :
    S (e.decision tokens before typed after) (e'.decision tokens' before typed after) := by
  have hopened : Option.Rel R (e.opened? before typed) (e'.opened? before typed) :=
    find?_completes_rel hR h before typed
  have hsteps : e'.stepsOver typed after = e.stepsOver typed after :=
    stepsOver_congr (map_pair_of_forall₂ hR h) typed after
  unfold decision
  rw [hsteps]
  split
  next => exact hrefl _
  next =>
    generalize e.opened? before typed = opened, e'.opened? before typed = opened' at hopened
    cases hopened with
    | none => exact hrefl _
    | some hpq => exact hopening _ _ hpq

theorem decision_mono (h : e.Restricts e') (htokens : Forgets tokens tokens')
    (before typed after : Text) :
    e'.decision tokens' before typed after = e.decision tokens before typed after ∨
      (e.decision tokens before typed after = .passThrough ∧
        ∃ closing, e'.decision tokens' before typed after = .insertWithClose closing) := by
  refine decision_rel (S := fun d d' => d' = d ∨ d = .passThrough ∧ ∃ t, d' = .insertWithClose t)
    (fun _ _ hpq => hpq.pair) h.pairs (fun _ => Or.inl rfl) ?_
  intro p q hpq
  rcases decideOpening_mono h hpq htokens with hsame | ⟨hpasses, hcloses⟩
  · exact Or.inl hsame
  · exact Or.inr ⟨hpasses, _, hcloses⟩

theorem decision_eq_suppress_congr
    (h : e'.pairs.map ClosingPair.pair = e.pairs.map ClosingPair.pair) :
    e'.decision tokens' before typed after = .suppress ↔
      e.decision tokens before typed after = .suppress := by
  refine decision_rel (S := fun d d' => d' = .suppress ↔ d = .suppress) (fun _ _ hpq => hpq)
    (forall₂_of_map_pair h) (fun _ => Iff.rfl) ?_
  intro p q hpq
  rw [decideOpening_eq_suppress_iff, decideOpening_eq_suppress_iff,
    ClosingPair.isRepeated_congr hpq]

/-- Among pairs with the same texts, whose opening is decided in the same way, the decision is the
same, down to what is reported. -/
theorem decide_congr {R : ClosingPair → ClosingPair → Prop} (hR : ∀ p q, R p q → q.pair = p.pair)
    (h : List.Forall₂ R e.pairs e'.pairs)
    (hopening : ∀ p q, R p q → e'.decideOpening q tokens' before typed after =
      e.decideOpening p tokens before typed after) :
    e'.decide (before ++ after) (Text.width before) typed tokens' =
      e.decide (before ++ after) (Text.width before) typed tokens := by
  have hopened : Option.Rel R (e.opened? before typed) (e'.opened? before typed) :=
    find?_completes_rel hR h before typed
  have hsteps : e'.stepsOver typed after = e.stepsOver typed after :=
    stepsOver_congr (map_pair_of_forall₂ hR h) typed after
  simp only [decide, Text.splitAt_width, ok_bind, hsteps]
  generalize e.opened? before typed = opened, e'.opened? before typed = opened' at hopened
  cases hopened with
  | none => rfl
  | some hpq => simp only [hopening _ _ hpq]

/-- Where no token is known for the character before the caret, no scope keeps a pair from being
closed. -/
theorem decide_unrestricted (h : tokenBefore tokens before = none) (tokens' : TokenSource) :
    e.unrestricted.decide (before ++ after) (Text.width before) typed tokens' =
      e.decide (before ++ after) (Text.width before) typed tokens := by
  refine decide_congr (R := fun p q => q = p.unrestricted) ?_ ?_ ?_
  · rintro p q rfl
    rfl
  · exact List.forall₂_map_right_iff.mpr (List.forall₂_same.mpr fun _ _ => rfl)
  · rintro p q rfl
    have hscope : scopeAllows p.unrestricted tokens' before = scopeAllows p tokens before := by
      rw [scopeAllows_of_tokenBefore h, scopeAllows_iff]
      exact Or.inl rfl
    unfold decideOpening
    rw [hscope]
    rfl

theorem decide_tokenBefore (h : tokenBefore tokens' before = tokenBefore tokens before) :
    e.decide (before ++ after) (Text.width before) typed tokens' =
      e.decide (before ++ after) (Text.width before) typed tokens := by
  refine decide_congr (R := Eq) ?_ (by rw [List.forall₂_eq_eq_eq]) ?_
  · rintro p q rfl
    rfl
  · rintro p q rfl
    unfold decideOpening
    rw [scopeAllows_congr h]

end Decision

/-- Pairs that are kept out of fewer scopes and closed before more characters, with fewer tokens known,
are stepped over where the others are, closed where the others are, and perhaps closed where the
others are passed through. Nothing but the texts of the pairs decides what is stepped over. A token
that is not known keeps no pair from being closed, and only that of the character before the caret
matters. -/
theorem restrictions_only_withhold (e e' : ClosingPairs) (h : e.Restricts e')
    (tokens tokens' : TokenSource) (htokens : Forgets tokens tokens') (before typed after : Text) :
    ∃ d notices,
      e.decide (before ++ after) (Text.width before) typed tokens = .ok ⟨d, notices⟩ ∧
      (∃ d' notices',
        e'.decide (before ++ after) (Text.width before) typed tokens' = .ok ⟨d', notices'⟩ ∧
        (d = .suppress → d' = .suppress) ∧
        (∀ closing, d = .insertWithClose closing → d' = .insertWithClose closing) ∧
        (d = .passThrough → d' = .passThrough ∨ ∃ closing, d' = .insertWithClose closing)) ∧
      (∀ (e'' : ClosingPairs) (tokens'' : TokenSource),
        e''.pairs.map ClosingPair.pair = e.pairs.map ClosingPair.pair →
        ∃ d'' notices'',
          e''.decide (before ++ after) (Text.width before) typed tokens'' = .ok ⟨d'', notices''⟩ ∧
          (d'' = .suppress ↔ d = .suppress)) ∧
      (tokenBefore tokens before = none →
        (∀ tokens'' : TokenSource,
          e.unrestricted.decide (before ++ after) (Text.width before) typed tokens'' =
            .ok ⟨d, notices⟩) ∧
        ∀ p, typed ≠ [] → e.opened? before typed = some p → p.isRepeated typed after = false →
          e.closesBefore after = true → d = .insertWithClose p.closing) ∧
      ∀ tokens'' : TokenSource, tokenBefore tokens'' before = tokenBefore tokens before →
        e.decide (before ++ after) (Text.width before) typed tokens'' = .ok ⟨d, notices⟩ := by
  obtain ⟨notices, hdecide⟩ := e.decide_width tokens before typed after
  refine ⟨_, notices, hdecide, ?_, ?_, ?_, ?_⟩
  · obtain ⟨notices', hdecide'⟩ := e'.decide_width tokens' before typed after
    refine ⟨_, notices', hdecide', ?_⟩
    rcases decision_mono h htokens before typed after with hsame | ⟨hpasses, hcloses⟩
    · rw [hsame]
      exact ⟨id, fun _ => id, Or.inl⟩
    · rw [hpasses]
      exact ⟨nofun, nofun, fun _ => Or.inr hcloses⟩
  · intro e'' tokens'' hpairs
    obtain ⟨notices'', hdecide''⟩ := e''.decide_width tokens'' before typed after
    exact ⟨_, notices'', hdecide'', decision_eq_suppress_congr hpairs⟩
  · intro hnone
    refine ⟨fun tokens'' => (decide_unrestricted hnone tokens'').trans hdecide, ?_⟩
    intro p ht hp hrepeated hcloses
    exact decision_of_allowed ht hp hrepeated hcloses (scopeAllows_of_tokenBefore hnone)
  · intro tokens'' hsame
    exact (decide_tokenBefore hsame).trans hdecide

/-- A quote that is kept out of strings, in a comment and where no token is known. -/
theorem restrictions_only_withhold_quote :
    let quote : BracketPair := { opening := ['"'], closing := ['"'] }
    let e : ClosingPairs := ⟨[⟨quote, [['s'], ['t', '.', 's']]⟩], [';']⟩
    let e' : ClosingPairs := ⟨[⟨quote, [['s']]⟩], ['!', ';']⟩
    let comment : TokenSource := fun _ => some ⟨0, ['c', '.', 's', 't']⟩
    e.Restricts e' ∧ Forgets comment (fun _ => none) ∧
      ∃ notices', e'.decide ['é', ';'] 2 ['"'] (fun _ => none) =
        .ok ⟨.insertWithClose ['"'], notices'⟩ := by
  intro quote e e' comment
  have hpairs : e.Restricts e' := ⟨.cons ⟨rfl, by simp⟩ .nil, by simp [e, e']⟩
  have htokens : Forgets comment (fun _ => none) := fun _ => Or.inr rfl
  obtain ⟨d, _, hd, ⟨d', notices', hd', -, hcloses, -⟩, -⟩ :=
    restrictions_only_withhold e e' hpairs comment (fun _ => none) htokens ['é'] ['"'] [';']
  obtain ⟨_, hdecide⟩ := e.decide_width comment ['é'] ['"'] [';']
  have hdecision : d = e.decision comment ['é'] ['"'] [';'] :=
    congrArg Logged.value (Except.ok.inj (hd.symm.trans hdecide))
  obtain rfl : d = .insertWithClose ['"'] := hdecision.trans (by decide +kernel)
  obtain rfl := hcloses ['"'] rfl
  exact ⟨hpairs, htokens, notices', hd'⟩

end ClosingPairs

end Keystroke
