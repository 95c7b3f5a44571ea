import Keystroke.Configuration
import Keystroke.Proofs.Heuristics

namespace Keystroke

/-- The error of a result that is one. -/
def failure? {ε α : Type} : Except ε α → Option ε
  | .ok _ => none
  | .error e => some e

namespace Logged

variable {ε α β : Type}

theorem value_keepOk (notice : ε → Notice) (results : List (Except ε α)) :
    (keepOk notice results).value = results.filterMap Except.toOption := by
  induction results with
  | nil => rfl
  | cons r rest ih =>
    cases r with
    | ok a =>
      have hvalue : (keepOk notice (.ok a :: rest)).value = a :: (keepOk notice rest).value := rfl
      rw [hvalue, ih]
      rfl
    | error e =>
      have hvalue : (keepOk notice (.error e :: rest)).value = (keepOk notice rest).value := rfl
      rw [hvalue, ih]
      rfl

/-- Every failure is reported once, and nothing else is. -/
theorem notices_keepOk (notice : ε → Notice) (results : List (Except ε α)) :
    (keepOk notice results).notices = results.filterMap fun r => (failure? r).map notice := by
  induction results with
  | nil => rfl
  | cons r rest ih =>
    cases r with
    | ok a =>
      have hnotices : (keepOk notice (.ok a :: rest)).notices =
          (keepOk notice rest).notices ++ [] := rfl
      rw [hnotices, List.append_nil, ih]
      rfl
    | error e =>
      have hnotices : (keepOk notice (.error e :: rest)).notices =
          notice e :: (keepOk notice rest).notices := rfl
      rw [hnotices, ih]
      rfl

end Logged

section Lists

variable {α β ε : Type} {f : α → Option β} {valid : α → Bool}

theorem filterMap_filter_valid (h : ∀ a, valid a = false → f a = none) (l : List α) :
    (l.filter valid).filterMap f = l.filterMap f := by
  rw [List.filterMap_filter]
  refine List.filterMap_congr fun a _ => ?_
  cases ha : valid a with
  | true => exact if_pos rfl
  | false => exact (if_neg Bool.false_ne_true).trans (h a ha).symm

theorem filter_insert_invalid {a : α} (ha : valid a = false) (above below : List α) :
    (above ++ a :: below).filter valid = (above ++ below).filter valid := by
  have hnot : ¬ valid a = true := by simp [ha]
  rw [List.filter_append, List.filter_cons_of_neg hnot, List.filter_append]

theorem filterMap_mapIdx {g : Nat → α → Except ε β} (h : ∀ i a, (g i a).toOption = f a)
    (l : List α) : (l.mapIdx fun i a => g i a).filterMap Except.toOption = l.filterMap f := by
  induction l generalizing g with
  | nil => rfl
  | cons a l ih =>
    rw [List.mapIdx_cons, List.filterMap_cons, List.filterMap_cons, h,
      ih (g := fun i a => g (i + 1) a) fun i a => h (i + 1) a]

theorem toOption_eq_none {r : Except ε α} (h : r.isOk = false) : r.toOption = none := by
  cases r with
  | ok a => cases h
  | error e => rfl

/-- Where nothing fails, there is nothing to tell of failures. -/
theorem filterMap_failure?_eq_nil {γ : Type} {build : α → Except ε β} {l : List α}
    (h : ∀ a ∈ l, (build a).isOk = true) (notice : α → ε → γ) :
    (l.filterMap fun a => (failure? (build a)).map (notice a)) = [] := by
  refine List.filterMap_eq_nil_iff.mpr fun a ha => ?_
  have hok := h a ha
  cases hbuild : build a with
  | ok b => rfl
  | error e => rw [hbuild] at hok; cases hok

end Lists

/-- Both texts of a bracket are given. -/
def isBracket (p : Text × Text) : Bool :=
  p.1 ≠ [] && p.2 ≠ []

theorem isOk_ofTexts (opening closing : Text) :
    (BracketPair.ofTexts opening closing).isOk = isBracket (opening, closing) := by
  unfold BracketPair.ofTexts isBracket
  split
  next h => simp [h.1, h.2, Except.isOk, Except.toBool]
  next h =>
    have hempty : opening = [] ∨ closing = [] := by
      by_contra hne
      exact h (not_or.mp hne)
    rcases hempty with rfl | rfl <;> simp [Except.isOk, Except.toBool]

namespace ClosingPairEntry

def isValid : ClosingPairEntry → Bool
  | always opening closing | conditional opening closing _ => isBracket (opening, closing)

theorem isOk_build (e : ClosingPairEntry) : e.build.isOk = e.isValid := by
  cases e with
  | always opening closing | conditional opening closing _ =>
    have h := isOk_ofTexts opening closing
    rw [isValid, ← h, build]
    cases BracketPair.ofTexts opening closing <;> rfl

end ClosingPairEntry

def PatternEntry.isValid (p : PatternEntry) : Bool :=
  p.compile.isOk

/-- All patterns of the entry compile. -/
def EnterRuleEntry.isValid (e : EnterRuleEntry) : Bool :=
  e.before.isValid && e.after.all (·.isValid) && e.previous.all (·.isValid)

theorem PatternEntry.isOk_mapM (p : Option PatternEntry) :
    (p.mapM PatternEntry.compile).isOk = p.all (·.isValid) := by
  cases p with
  | none => rfl
  | some p =>
    rw [Option.all_some, isValid, Option.mapM_some]
    cases p.compile <;> rfl

theorem EnterRuleEntry.isOk_compile (e : EnterRuleEntry) : e.compile.isOk = e.isValid := by
  rw [isValid, ← PatternEntry.isOk_mapM, ← PatternEntry.isOk_mapM, PatternEntry.isValid, compile]
  cases e.before.compile with
  | error _ => rfl
  | ok before =>
    cases e.after.mapM PatternEntry.compile with
    | error _ => rfl
    | ok after => cases e.previous.mapM PatternEntry.compile <;> rfl

namespace Configuration

/-- The configuration with every key given: the valid entries of each list, or what the absence of
the list stands for. -/
def explicit (c : Configuration) : Configuration where
  brackets := some (match c.brackets with
    | some brackets => brackets.filter isBracket
    | none => BracketPair.standard.map fun p => (p.opening, p.closing))
  closingPairs := some (match c.closingPairs with
    | some entries => entries.filter (·.isValid)
    | none => ((c.brackets.getD []).filter isBracket).map fun p => .always p.1 p.2)
  closeBefore := some (c.closeBefore.getD ClosingPairs.standardCloseBefore)
  enterRules := some ((c.enterRules.getD []).filter (·.isValid))

/-- Every key is given, and no entry is invalid. -/
structure IsExplicit (c : Configuration) : Prop where
  brackets : ∃ brackets, c.brackets = some brackets ∧ ∀ p ∈ brackets, isBracket p = true
  closingPairs : ∃ entries, c.closingPairs = some entries ∧
    ∀ e ∈ entries, ClosingPairEntry.isValid e = true
  closeBefore : ∃ characters, c.closeBefore = some characters
  enterRules : ∃ entries, c.enterRules = some entries ∧
    ∀ e ∈ entries, EnterRuleEntry.isValid e = true

theorem isBracket_of_pair (p : BracketPair) : isBracket (p.opening, p.closing) = true := by
  simp [isBracket, p.opening_ne, p.closing_ne]

theorem isExplicit_explicit (c : Configuration) : c.explicit.IsExplicit where
  brackets := by
    refine ⟨_, rfl, ?_⟩
    intro p hp
    cases hbrackets : c.brackets with
    | some brackets =>
      rw [hbrackets] at hp
      exact (List.mem_filter.mp hp).2
    | none =>
      rw [hbrackets] at hp
      obtain ⟨q, _, rfl⟩ := List.mem_map.mp hp
      exact isBracket_of_pair q
  closingPairs := by
    refine ⟨_, rfl, ?_⟩
    intro e he
    cases hpairs : c.closingPairs with
    | some entries =>
      rw [hpairs] at he
      exact (List.mem_filter.mp he).2
    | none =>
      rw [hpairs] at he
      obtain ⟨p, hp, rfl⟩ := List.mem_map.mp he
      exact (List.mem_filter.mp hp).2
  closeBefore := ⟨_, rfl⟩
  enterRules := ⟨_, rfl, fun _ he => (List.mem_filter.mp he).2⟩

theorem IsExplicit.explicit_eq {c : Configuration} (h : c.IsExplicit) : c.explicit = c := by
  obtain ⟨brackets, hbrackets, hvalid⟩ := h.brackets
  obtain ⟨pairs, hpairs, hpairsValid⟩ := h.closingPairs
  obtain ⟨characters, hcharacters⟩ := h.closeBefore
  obtain ⟨rules, hrules, hrulesValid⟩ := h.enterRules
  obtain ⟨_, _, _, _⟩ := c
  simp only at hbrackets hpairs hcharacters hrules
  subst hbrackets hpairs hcharacters hrules
  simp only [explicit, List.filter_eq_self.mpr hvalid, List.filter_eq_self.mpr hpairsValid,
    List.filter_eq_self.mpr hrulesValid, Option.getD_some]

/-- The pair of a configured bracket, if it is valid. -/
def bracket? (p : Text × Text) : Option BracketPair :=
  (BracketPair.ofTexts p.1 p.2).toOption

theorem bracket?_eq_none {p : Text × Text} (h : isBracket p = false) : bracket? p = none :=
  toOption_eq_none ((isOk_ofTexts p.1 p.2).trans h)

theorem bracket?_texts (p : BracketPair) : bracket? (p.opening, p.closing) = some p := by
  have hne : p.opening ≠ [] ∧ p.closing ≠ [] := ⟨p.opening_ne, p.closing_ne⟩
  rw [bracket?, BracketPair.ofTexts, dif_pos hne]
  rfl

theorem toOption_build_always (p : Text × Text) :
    (ClosingPairEntry.always p.1 p.2).build.toOption = (bracket? p).map (⟨·, []⟩) := by
  rw [ClosingPairEntry.build, bracket?]
  cases BracketPair.ofTexts p.1 p.2 <;> rfl

theorem value_bracketPairs (c : Configuration) :
    c.bracketPairs.value = c.brackets.map (·.filterMap bracket?) := by
  unfold bracketPairs
  cases c.brackets with
  | none => rfl
  | some brackets =>
    simp only [Logged.value_bind, Logged.value_pure, Logged.value_keepOk, List.filterMap_map]
    rfl

theorem value_validRules (c : Configuration) :
    c.validRules.value = (c.enterRules.getD []).filterMap fun e => e.compile.toOption := by
  have hcompile (index : Nat) (e : EnterRuleEntry) :
      (compileRule e index).toOption = e.compile.toOption := by
    unfold compileRule
    cases e.compile <;> rfl
  rw [validRules, Logged.value_keepOk]
  exact filterMap_mapIdx hcompile _

theorem value_validPairs (c : Configuration) :
    c.validPairs.value =
      match c.closingPairs with
      | some entries => entries.filterMap fun e => e.build.toOption
      | none => ((c.brackets.getD []).filterMap bracket?).map (⟨·, []⟩) := by
  unfold validPairs
  cases c.closingPairs with
  | some entries => simp only [Logged.value_keepOk, List.filterMap_map]; rfl
  | none =>
    simp only [Logged.value_bind, Logged.value_pure, value_bracketPairs]
    cases c.brackets <;> rfl

theorem notices_bracketPairs (c : Configuration) :
    c.bracketPairs.notices = (c.brackets.getD []).filterMap fun p =>
      (failure? (BracketPair.ofTexts p.1 p.2)).map Notice.bracketSkipped := by
  unfold bracketPairs
  cases c.brackets with
  | none => rfl
  | some brackets =>
    simp only [Logged.notices_bind, Logged.notices_pure, List.append_nil, Logged.notices_keepOk,
      List.filterMap_map]
    rfl

theorem notices_validRules (c : Configuration) :
    c.validRules.notices = (c.enterRules.getD []).zipIdx.filterMap fun x =>
      (failure? x.1.compile).map (Notice.ruleSkipped x.2) := by
  have hcompile (x : EnterRuleEntry × Nat) :
      failure? (compileRule x.1 x.2) = (failure? x.1.compile).map (Notice.ruleSkipped x.2) := by
    unfold compileRule
    cases x.1.compile <;> rfl
  rw [validRules, Logged.notices_keepOk, List.mapIdx_eq_zipIdx_map, List.filterMap_map]
  exact List.filterMap_congr fun x _ => Option.map_id'.trans (hcompile x)

theorem notices_validPairs (c : Configuration) :
    c.validPairs.notices =
      match c.closingPairs with
      | some entries => entries.filterMap fun e => (failure? e.build).map Notice.pairSkipped
      | none => c.bracketPairs.notices := by
  unfold validPairs
  cases c.closingPairs with
  | some entries => simp only [Logged.notices_keepOk, List.filterMap_map]; rfl
  | none => simp only [Logged.notices_bind, Logged.notices_pure, List.append_nil]

theorem value_setUpEnter (c : Configuration) :
    c.setUpEnter.value =
      ⟨(c.bracketPairs.value.getD BracketPair.standard).map BracketPair.patterns,
        c.validRules.value⟩ := by
  simp only [setUpEnter, EnterRules.ofBrackets_eq, Logged.value_bind, Logged.value_pure]

theorem notices_setUpEnter (c : Configuration) :
    c.setUpEnter.notices = c.bracketPairs.notices ++ c.validRules.notices ++
      [.rulesReady c.setUpEnter.value.rules.length] := by
  simp only [setUpEnter, EnterRules.ofBrackets_eq, Logged.notices_bind, Logged.notices_pure,
    Logged.notices_report, Logged.value_bind, Logged.value_pure, List.nil_append, List.append_nil,
    List.append_assoc]

theorem notices_setUpPairs (c : Configuration) :
    c.setUpPairs.notices =
      c.validPairs.notices ++ [.pairsReady c.setUpPairs.value.pairs.length] := by
  simp only [setUpPairs, Logged.notices_bind, Logged.notices_pure, Logged.notices_report,
    Logged.value_bind, Logged.value_pure, List.append_nil]

theorem value_bracketPairs_explicit (c : Configuration) :
    c.explicit.bracketPairs.value = some (c.bracketPairs.value.getD BracketPair.standard) := by
  rw [value_bracketPairs, value_bracketPairs, explicit]
  cases c.brackets with
  | some brackets =>
    exact congrArg some (filterMap_filter_valid (fun _ => bracket?_eq_none) brackets)
  | none =>
    have hstandard : (BracketPair.standard.map fun p => (p.opening, p.closing)).filterMap bracket? =
        BracketPair.standard := by
      simp only [List.filterMap_map, Function.comp_def, bracket?_texts, List.filterMap_some]
    exact congrArg some hstandard

theorem value_validRules_explicit (c : Configuration) :
    c.explicit.validRules.value = c.validRules.value := by
  rw [value_validRules, value_validRules]
  refine filterMap_filter_valid (fun e he => ?_) _
  exact toOption_eq_none (e.isOk_compile.trans he)

theorem value_validPairs_explicit (c : Configuration) :
    c.explicit.validPairs.value = c.validPairs.value := by
  rw [value_validPairs, value_validPairs, explicit]
  cases c.closingPairs with
  | some entries =>
    refine filterMap_filter_valid (fun e he => ?_) entries
    exact toOption_eq_none (e.isOk_build.trans he)
  | none =>
    -- As pairs, the valid brackets are built once more, and none of them fails.
    have hfilter : ((c.brackets.getD []).filter isBracket).filterMap bracket? =
        (c.brackets.getD []).filterMap bracket? :=
      filterMap_filter_valid (fun _ => bracket?_eq_none) _
    simp only [List.filterMap_map, Function.comp_def, toOption_build_always]
    rw [← List.map_filterMap, hfilter]

theorem value_assistant_explicit (c : Configuration) :
    c.explicit.assistant.value = c.assistant.value := by
  have henter : c.explicit.setUpEnter.value = c.setUpEnter.value := by
    rw [value_setUpEnter, value_setUpEnter, value_bracketPairs_explicit, value_validRules_explicit,
      Option.getD_some]
  have hpairs : c.explicit.setUpPairs.value = c.setUpPairs.value := by
    simp only [setUpPairs, Logged.value_bind, Logged.value_pure, value_validPairs_explicit]
    rfl
  simp only [assistant, Logged.value_bind, Logged.value_pure, henter, hpairs]

theorem IsExplicit.notices_assistant {c : Configuration} (h : c.IsExplicit) :
    c.assistant.notices =
      [.rulesReady c.setUpEnter.value.rules.length,
        .pairsReady c.setUpPairs.value.pairs.length] := by
  obtain ⟨brackets, hbrackets, hvalid⟩ := h.brackets
  obtain ⟨pairs, hpairs, hpairsValid⟩ := h.closingPairs
  obtain ⟨rules, hrules, hrulesValid⟩ := h.enterRules
  have hnoBracket : c.bracketPairs.notices = [] := by
    rw [notices_bracketPairs, hbrackets, Option.getD_some]
    exact filterMap_failure?_eq_nil (fun p hp => (isOk_ofTexts p.1 p.2).trans (hvalid p hp)) _
  have hnoRule : c.validRules.notices = [] := by
    have hcompile : ∀ x ∈ rules.zipIdx, x.1.compile.isOk = true := fun x hx =>
      x.1.isOk_compile.trans (hrulesValid x.1 (List.fst_mem_of_mem_zipIdx hx))
    rw [notices_validRules, hrules, Option.getD_some]
    exact filterMap_failure?_eq_nil hcompile fun x => Notice.ruleSkipped x.2
  have hnoPair : c.validPairs.notices = [] := by
    rw [notices_validPairs, hpairs]
    exact filterMap_failure?_eq_nil (fun e he => e.isOk_build.trans (hpairsValid e he)) _
  simp only [assistant, Logged.notices_bind, Logged.notices_pure, notices_setUpEnter,
    notices_setUpPairs, hnoBracket, hnoRule, hnoPair, List.nil_append, List.append_nil,
    List.singleton_append]

/-- Configurations that come to the same when written out set up the same assistant. -/
theorem value_assistant_congr {c c' : Configuration} (h : c.explicit = c'.explicit) :
    c.assistant.value = c'.assistant.value := by
  rw [← value_assistant_explicit c, h, value_assistant_explicit]

theorem brackets_assistant (c : Configuration) :
    c.assistant.value.enter.brackets =
      ((c.brackets.map (·.filterMap bracket?)).getD BracketPair.standard).map
        BracketPair.patterns := by
  have h := congrArg EnterRules.brackets c.value_setUpEnter
  rwa [value_bracketPairs] at h

theorem pairs_assistant (c : Configuration) :
    c.assistant.value.pairs.pairs =
      match c.closingPairs with
      | some entries => entries.filterMap fun e => e.build.toOption
      | none => ((c.brackets.getD []).filterMap bracket?).map (⟨·, []⟩) :=
  c.value_validPairs

/-- A configuration and what it comes to when written out set up the same assistant, which gives the
same edits. Nothing is skipped any more then, and writing it out again changes nothing. So an
invalid entry anywhere in a list makes no difference, and a list of nothing else is an empty list
and not an absent one. -/
theorem explicit_sets_up_same (c : Configuration) :
    c.explicit.assistant.value = c.assistant.value ∧
      (∀ text offset typed s tokens,
        c.explicit.assistant.value.customize text offset typed s tokens =
          c.assistant.value.customize text offset typed s tokens) ∧
      (∀ text caret,
        c.explicit.assistant.value.backspace text caret =
          c.assistant.value.backspace text caret) ∧
      (∀ n ∈ c.explicit.assistant.notices, n.severity ≠ .warning) ∧
      c.explicit.explicit = c.explicit ∧
      (∀ above p below, isBracket p = false →
        { c with brackets := some (above ++ p :: below) }.assistant.value =
          { c with brackets := some (above ++ below) }.assistant.value) ∧
      (∀ above e below, ClosingPairEntry.isValid e = false →
        { c with closingPairs := some (above ++ e :: below) }.assistant.value =
          { c with closingPairs := some (above ++ below) }.assistant.value) ∧
      (∀ above e below, EnterRuleEntry.isValid e = false →
        { c with enterRules := some (above ++ e :: below) }.assistant.value =
          { c with enterRules := some (above ++ below) }.assistant.value) ∧
      (∀ brackets, (∀ p ∈ brackets, isBracket p = false) →
        { c with brackets := some brackets }.assistant.value.enter.brackets = []) ∧
      { c with brackets := none }.assistant.value.enter.brackets =
        BracketPair.standard.map BracketPair.patterns ∧
      (∀ entries, (∀ e ∈ entries, ClosingPairEntry.isValid e = false) →
        { c with closingPairs := some entries }.assistant.value.pairs.pairs = []) ∧
      { c with closingPairs := none }.assistant.value.pairs.pairs =
        ((c.brackets.getD []).filterMap bracket?).map (⟨·, []⟩) := by
  have hsame := c.value_assistant_explicit
  have hexplicit := c.isExplicit_explicit
  refine ⟨hsame, fun _ _ _ _ _ => by rw [hsame], fun _ _ => by rw [hsame], ?_,
    hexplicit.explicit_eq, ?_, ?_, ?_, ?_, brackets_assistant _, ?_, pairs_assistant _⟩
  · intro n hn
    rw [hexplicit.notices_assistant] at hn
    rcases List.mem_pair.mp hn with rfl | rfl
    · simp [Notice.severity]
    · simp [Notice.severity]
  · intro above p below hp
    refine value_assistant_congr ?_
    simp only [explicit, Option.getD_some, filter_insert_invalid hp]
  · intro above e below he
    refine value_assistant_congr ?_
    simp only [explicit, filter_insert_invalid he]
  · intro above e below he
    refine value_assistant_congr ?_
    simp only [explicit, Option.getD_some, filter_insert_invalid he]
  · intro brackets hinvalid
    have hnone : brackets.filterMap bracket? = [] :=
      List.filterMap_eq_nil_iff.mpr fun p hp => bracket?_eq_none (hinvalid p hp)
    rw [brackets_assistant]
    simp only [Option.map_some, hnone, Option.getD_some, List.map_nil]
  · intro entries hinvalid
    rw [pairs_assistant]
    refine List.filterMap_eq_nil_iff.mpr fun e he => ?_
    exact toOption_eq_none (e.isOk_build.trans (hinvalid e he))

/-- A bracket without an opening text and a rule with an open group, beside valid ones. -/
theorem explicit_sets_up_same_unclosed :
    let rule : EnterRuleEntry := { before := .source ['a'], action := { indent := .outdent } }
    let unclosed : EnterRuleEntry := { before := .source ['('], action := { indent := .indent } }
    let c : Configuration :=
      { brackets := some [([], [')']), (['<'], ['>'])], enterRules := some [unclosed, rule] }
    c.explicit = ⟨some [(['<'], ['>'])], some [.always ['<'] ['>']],
        some ClosingPairs.standardCloseBefore, some [rule]⟩ ∧
      c.explicit.assistant.value = c.assistant.value ∧
      c.assistant.value = { c with enterRules := some [rule] }.assistant.value := by
  intro rule unclosed c
  have hunclosed : unclosed.isValid = false := by cbv
  have hrule : rule.isValid = true := by cbv
  obtain ⟨hsame, -, -, -, -, -, -, hinsert, -⟩ := explicit_sets_up_same c
  refine ⟨?_, hsame, hinsert [] unclosed [rule] hunclosed⟩
  have hrules : [unclosed, rule].filter (·.isValid) = [rule] := by
    rw [List.filter_cons_of_neg (by simp [hunclosed]), List.filter_cons_of_pos hrule,
      List.filter_nil]
  simp only [explicit, c, Option.getD_some, hrules]
  rfl

end Configuration

end Keystroke
