import Keystroke.Proofs.Heuristics

namespace Keystroke

namespace Pattern

variable {p : Pattern} {t : Text}

/-- The pattern is found in every text. -/
def IsVacuous (p : Pattern) : Prop :=
  ∀ t, p.search t = .found

/-- The pattern is not found in the text, or the search for it is given up. -/
def Fails (p : Pattern) (t : Text) : Prop :=
  p.search t = .absent ∨ p.search t = .aborted

theorem fails_iff : p.Fails t ↔ p.search t ≠ .found := by
  unfold Fails
  cases p.search t <;> simp

theorem value_findIn : (p.findIn t).value = true ↔ p.search t = .found := by
  unfold findIn
  cases p.search t <;> simp

theorem IsVacuous.findIn (h : p.IsVacuous) (t : Text) : p.findIn t = pure true := by
  rw [Pattern.findIn, h t]

/-- The pattern without any signs. -/
def empty : Pattern :=
  ⟨[], .empty, 0⟩

theorem rule_nil (letters : Text) : Pattern.rule [] letters = .ok .empty := rfl

theorem isVacuous_empty : empty.IsVacuous :=
  fun t => (search_eq_found rfl t).mpr ⟨[], [], t, rfl, rfl⟩

/-- A pattern that is found nowhere: nothing must not follow. -/
def never : Pattern :=
  ⟨['(', '?', '!', ')'], .lookAhead true .empty, 0⟩

theorem rule_never : Pattern.rule ['(', '?', '!', ')'] [] = .ok .never := rfl

/-- Where every attempt fails, the search is given up if there are more places than steps. -/
theorem runFrom_of_fail {n : Node} {text : Array Char} {groups : Slots}
    (hfail : ∀ i steps, n.run text false groups i steps .matched = .fail steps)
    {places : List Nat} {steps : Nat} (h : steps < places.length) :
    n.runFrom text groups places steps = .aborted := by
  induction places generalizing steps with
  | nil => cases h
  | cons i places ih =>
    rw [Node.runFrom, hfail]
    cases steps with
    | zero => rfl
    | succ steps =>
      have hrest : n.runFrom text groups places steps = .aborted := ih (Nat.lt_of_succ_lt_succ h)
      exact hrest

theorem search_never (h : stepLimit ≤ t.length) : never.search t = .aborted := by
  have hsearched : never.searched = .lookAhead true .empty := rfl
  have hfail (i steps : Nat) :
      (Node.lookAhead true (.lookAhead false .empty)).run t.toArray false (Slots.ofCount 0) i steps
        .matched = .fail steps := rfl
  have hlength : stepLimit < (List.range (t.toArray.size + 1)).length := by
    rw [List.length_range, List.size_toArray]
    omega
  have hrun := runFrom_of_fail hfail hlength
  have hnarrow : (Node.lookAhead true .empty).narrow .existence =
      .lookAhead true (.lookAhead false .empty) := rfl
  have hgroups : never.groups = 0 := rfl
  simp only [search, hsearched, Node.isRegular, Bool.false_eq_true, if_false, hnarrow, hgroups,
    hrun]

end Pattern

namespace EnterRule

variable {r : EnterRule} {previous before after : Text} {rules above more below : List EnterRule}

/-- All patterns of the rule are found, each in its text. -/
structure Applies (r : EnterRule) (previous before after : Text) : Prop where
  before : r.before.search before = .found
  after : ∀ p ∈ r.after, p.search after = .found
  previous : ∀ p ∈ r.previous, p.search previous = .found

theorem value_findOptional {p : Option Pattern} {t : Text} :
    (findOptional p t).value = true ↔ ∀ q ∈ p, q.search t = .found := by
  cases p with
  | none => simp [findOptional]
  | some q => simp [findOptional, Pattern.value_findIn]

theorem value_fires :
    (r.fires previous before after).value = true ↔ r.Applies previous before after := by
  have hparts : r.Applies previous before after ↔ r.before.search before = .found ∧
      (∀ p ∈ r.after, p.search after = .found) ∧ ∀ p ∈ r.previous, p.search previous = .found :=
    ⟨fun h => ⟨h.before, h.after, h.previous⟩, fun ⟨hb, ha, hp⟩ => ⟨hb, ha, hp⟩⟩
  rw [hparts, ← Pattern.value_findIn, ← value_findOptional, ← value_findOptional, fires,
    Logged.value_bind]
  cases (r.before.findIn before).value with
  | false => simp
  | true =>
    rw [if_pos rfl, Logged.value_bind]
    cases (findOptional r.after after).value with
    | false => simp
    | true => simp

/-- A rule does not apply exactly if one of the patterns that it has fails. -/
theorem not_applies_iff :
    ¬ r.Applies previous before after ↔ r.before.Fails before ∨ (∃ p ∈ r.after, p.Fails after) ∨
      ∃ p ∈ r.previous, p.Fails previous := by
  simp only [Pattern.fails_iff]
  constructor
  · intro hnot
    by_contra hfails
    simp only [not_or, not_exists, not_and, ne_eq, not_not] at hfails
    exact hnot ⟨hfails.1, hfails.2.1, hfails.2.2⟩
  · rintro (hfails | ⟨p, hp, hfails⟩ | ⟨p, hp, hfails⟩) h
    · exact hfails h.before
    · exact hfails (h.after p hp)
    · exact hfails (h.previous p hp)

theorem fires_eq_false (h : ¬ r.Applies previous before after) :
    (r.fires previous before after).value = false :=
  Bool.eq_false_iff.mpr (mt value_fires.mp h)

theorem firstFiring_of_applies (habove : ∀ q ∈ above, ¬ q.Applies previous before after)
    (hr : r.Applies previous before after) :
    (firstFiring previous before after (above ++ r :: below)).value = some r := by
  rw [value_firstFiring]
  refine List.find?_eq_some_iff_append.mpr ⟨value_fires.mpr hr, above, below, rfl, fun q hq => ?_⟩
  rw [fires_eq_false (habove q hq)]
  rfl

theorem firstFiring_leave_out (hmore : ∀ q ∈ more, ¬ q.Applies previous before after) :
    (firstFiring previous before after (above ++ more ++ below)).value =
      (firstFiring previous before after (above ++ below)).value := by
  have hnone : more.find? (fun r => (r.fires previous before after).value) = none := by
    refine List.find?_eq_none.mpr fun q hq => ?_
    exact mt value_fires.mp (hmore q hq)
  rw [value_firstFiring, value_firstFiring, List.find?_append, List.find?_append, hnone,
    Option.or_none, List.find?_append]

theorem firstFiring_congr {r' : EnterRule}
    (hfires : r'.fires previous before after = r.fires previous before after)
    (haction : r'.action = r.action) (above below : List EnterRule) :
    (firstFiring previous before after (above ++ r' :: below)).value.map action =
        (firstFiring previous before after (above ++ r :: below)).value.map action ∧
      (firstFiring previous before after (above ++ r' :: below)).notices =
        (firstFiring previous before after (above ++ r :: below)).notices := by
  induction above with
  | nil =>
    simp only [List.nil_append, firstFiring, hfires, Logged.value_bind, Logged.notices_bind]
    cases (r.fires previous before after).value with
    | true => exact ⟨congrArg some haction, rfl⟩
    | false => exact ⟨rfl, rfl⟩
  | cons q above ih =>
    simp only [List.cons_append, firstFiring, Logged.value_bind, Logged.notices_bind]
    cases (q.fires previous before after).value with
    | true => exact ⟨rfl, rfl⟩
    | false => exact ⟨ih.1, congrArg _ ih.2⟩

/-- A pattern that is found in every text may be left out of a rule, or put into it. -/
theorem fires_after_of_isVacuous {p : Pattern} (h : p.IsVacuous) (r : EnterRule) :
    { r with after := some p }.fires previous before after =
      { r with after := none }.fires previous before after := by
  simp only [fires, findOptional, h.findIn]

theorem fires_previous_of_isVacuous {p : Pattern} (h : p.IsVacuous) (r : EnterRule) :
    { r with previous := some p }.fires previous before after =
      { r with previous := none }.fires previous before after := by
  simp only [fires, findOptional, h.findIn]

end EnterRule

namespace EnterRules

open EnterRule

variable {previous before after : Text} {brackets : List BracketPatterns}
  {rules rules' above more below : List EnterRule} {r r' : EnterRule}

theorem decide_eq (e : EnterRules) (previous before after : Text) :
    e.decide previous before after =
      let first := firstFiring previous before after e.rules
      match first.value.map EnterRule.action with
      | some action => ⟨some action, first.notices ++ [.ruleMatched action]⟩
      | none =>
        let around := e.decideBrackets before after
        ⟨around.value, first.notices ++ around.notices⟩ := by
  unfold decide
  cases h : (firstFiring previous before after e.rules).value with
  | none => simp only [bind, h]; rfl
  | some r => simp only [bind, h]; rfl

theorem value_decide_congr
    (h : (firstFiring previous before after rules).value =
      (firstFiring previous before after rules').value) :
    ((⟨brackets, rules⟩ : EnterRules).decide previous before after).value =
      ((⟨brackets, rules'⟩ : EnterRules).decide previous before after).value := by
  simp only [decide_eq, h]
  cases (firstFiring previous before after rules').value <;> rfl

theorem value_decide_of_applies (habove : ∀ q ∈ above, ¬ q.Applies previous before after)
    (hr : r.Applies previous before after) :
    ((⟨brackets, above ++ r :: below⟩ : EnterRules).decide previous before after).value =
      some r.action := by
  simp only [decide_eq, firstFiring_of_applies habove hr, Option.map_some]

theorem value_decide_leave_out (above below : List EnterRule)
    (hmore : ∀ q ∈ more, ¬ q.Applies previous before after) :
    ((⟨brackets, above ++ more ++ below⟩ : EnterRules).decide previous before after).value =
      ((⟨brackets, above ++ below⟩ : EnterRules).decide previous before after).value :=
  value_decide_congr (firstFiring_leave_out hmore)

/-- Two rules that fire alike and have the same action stand for one another. -/
theorem decide_instead (hfires : r'.fires previous before after = r.fires previous before after)
    (haction : r'.action = r.action) :
    (⟨brackets, above ++ r' :: below⟩ : EnterRules).decide previous before after =
      (⟨brackets, above ++ r :: below⟩ : EnterRules).decide previous before after := by
  obtain ⟨hvalue, hnotices⟩ := firstFiring_congr hfires haction above below
  simp only [decide_eq, hvalue, hnotices]
  rfl

/-- The first rule that applies decides, whatever rules come after it and whatever the brackets are;
if none applies, the brackets decide as they do without rules. Rules that do not apply may be put in
or left out anywhere; a rule is one of these as soon as one of its patterns is not found or its
search is given up. A pattern that is found in every text, as the empty one is, makes no difference
to the rule that has it. -/
theorem decide_by_order (brackets : Option (List BracketPair)) (previous before after : Text) :
    let engine (rules : List EnterRule) : EnterRules := (ofBrackets brackets rules).value
    let decided (rules : List EnterRule) := ((engine rules).decide previous before after).value
    (∀ above r below, (∀ q ∈ above, ¬ q.Applies previous before after) →
        r.Applies previous before after →
          decided (above ++ r :: below) = some r.action ∧
            ∀ below', decided (above ++ r :: below') = decided (above ++ r :: below)) ∧
      (∀ rules : List EnterRule, (∀ q ∈ rules, ¬ q.Applies previous before after) →
        decided rules = decided []) ∧
      (∀ above more below : List EnterRule, (∀ q ∈ more, ¬ q.Applies previous before after) →
        decided (above ++ more ++ below) = decided (above ++ below)) ∧
      (∀ r : EnterRule, r.before.Fails before ∨ (∃ p ∈ r.after, p.Fails after) ∨
          (∃ p ∈ r.previous, p.Fails previous) →
        ∀ above below, decided (above ++ r :: below) = decided (above ++ below)) ∧
      (∀ (r : EnterRule) (p : Pattern), p.IsVacuous → ∀ above below,
        (engine (above ++ { r with after := some p } :: below)).decide previous before after =
            (engine (above ++ { r with after := none } :: below)).decide previous before after ∧
          (engine (above ++ { r with previous := some p } :: below)).decide previous before after =
            (engine (above ++ { r with previous := none } :: below)).decide previous before
              after) ∧
      Pattern.empty.IsVacuous ∧ ∀ letters, Pattern.rule [] letters = .ok .empty := by
  intro engine decided
  simp only [decided, engine, ofBrackets_eq, Logged.value_pure]
  refine ⟨?_, ?_, fun above _ below => value_decide_leave_out above below, ?_, ?_,
    Pattern.isVacuous_empty, Pattern.rule_nil⟩
  · intro above r below habove hr
    refine ⟨value_decide_of_applies habove hr, fun below' => ?_⟩
    rw [value_decide_of_applies habove hr, value_decide_of_applies habove hr]
  · intro rules hrules
    simpa only [List.nil_append, List.append_nil] using value_decide_leave_out [] [] hrules
  · intro r hfails above below
    have hr : ∀ q ∈ [r], ¬ q.Applies previous before after := by
      simpa using not_applies_iff.mpr hfails
    simpa only [List.append_assoc, List.singleton_append] using
      value_decide_leave_out above below hr
  · intro r p hp above below
    exact ⟨decide_instead (fires_after_of_isVacuous hp r) rfl,
      decide_instead (fires_previous_of_isVacuous hp r) rfl⟩

/-- A rule whose search is given up in a long line, above one that asks for nothing after the
caret. -/
theorem decide_by_order_aborted :
    let never : EnterRule := { before := .never, action := { indent := .outdent } }
    let always : EnterRule :=
      { before := .empty, action := { indent := .keep, appendText := some ['#'] } }
    let rules := [never, { always with after := some .empty }]
    let long := List.replicate Pattern.stepLimit 'a'
    Pattern.rule ['(', '?', '!', ')'] [] = .ok never.before ∧
      never.before.search long = .aborted ∧
      ((ofBrackets none rules).value.decide [] long []).value = some always.action := by
  intro never always rules long
  have haborted : never.before.search long = .aborted :=
    Pattern.search_never (Nat.le_of_eq List.length_replicate.symm)
  have halways : always.Applies [] long [] :=
    ⟨Pattern.isVacuous_empty long, by simp [always], by simp [always]⟩
  obtain ⟨hfirst, -, -, hfails, hsame, -⟩ := decide_by_order none [] long []
  have hskipped := hfails never (Or.inl (Or.inr haborted)) [] [always]
  have hleft := congrArg Logged.value (hsame always .empty Pattern.isVacuous_empty [never] []).1
  have hdecided := (hfirst [] always [] (by simp) halways).1
  exact ⟨Pattern.rule_never, haborted, hleft.trans (hskipped.trans hdecided)⟩

end EnterRules

end Keystroke
