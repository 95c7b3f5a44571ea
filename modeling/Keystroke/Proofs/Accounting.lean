import Keystroke.Proofs.Entries

namespace Keystroke

theorem isSome_failure? {ε α : Type} (r : Except ε α) : (failure? r).isSome = !r.isOk := by
  cases r <;> rfl

/-- If the second step fails with the same error whatever the first one gives, both together fail
with the first error that there is. -/
theorem failure?_bind {ε α β : Type} {r : Except ε α} {f : α → Except ε β} {e : Option ε}
    (h : ∀ a, failure? (f a) = e) : failure? (r >>= f) = (failure? r).or e := by
  cases r with
  | ok a => exact h a
  | error _ => rfl

namespace PatternEntry

def pattern : PatternEntry → Text
  | source pattern | withFlags pattern _ => pattern

def error (p : PatternEntry) : InvalidPattern :=
  ⟨.rule, p.pattern⟩

theorem failure?_rule (source letters : Text) :
    failure? (Pattern.rule source letters) =
      if (Pattern.rule source letters).isOk then none else some ⟨.rule, source⟩ := by
  unfold Pattern.rule
  cases RulePattern.parse? (Pattern.flagsOf letters) source <;> rfl

theorem failure?_compile (p : PatternEntry) :
    failure? p.compile = if p.isValid then none else some p.error := by
  cases p with
  | source pattern => exact failure?_rule pattern []
  | withFlags pattern flags => exact failure?_rule pattern flags

theorem failure?_mapM (p : Option PatternEntry) :
    failure? (p.mapM compile) = (p.toList.find? (!·.isValid)).map error := by
  cases p with
  | none => rfl
  | some p =>
    have hcompile : failure? (some p |>.mapM compile) = failure? p.compile := by
      rw [Option.mapM_some]
      cases p.compile <;> rfl
    rw [hcompile, failure?_compile, Option.toList_some, List.find?_singleton]
    cases p.isValid <;> rfl

end PatternEntry

namespace EnterRuleEntry

/-- The patterns in the order in which they are compiled. -/
def patterns (e : EnterRuleEntry) : List PatternEntry :=
  e.before :: (e.after.toList ++ e.previous.toList)

/-- The first pattern that does not compile. -/
def invalid? (e : EnterRuleEntry) : Option PatternEntry :=
  e.patterns.find? (!·.isValid)

/-- A rule fails with the error of its first pattern that does not compile. -/
theorem failure?_compile (e : EnterRuleEntry) :
    failure? e.compile = e.invalid?.map PatternEntry.error := by
  have hafter (before : Pattern) : failure? (do
      return ⟨before, ← e.after.mapM PatternEntry.compile, ← e.previous.mapM PatternEntry.compile,
        e.action⟩ : Except InvalidPattern EnterRule) =
      ((e.after.toList ++ e.previous.toList).find? (!·.isValid)).map PatternEntry.error := by
    rw [List.find?_append, Option.map_or, ← PatternEntry.failure?_mapM,
      ← PatternEntry.failure?_mapM]
    refine failure?_bind fun after => ?_
    rw [failure?_bind (e := none) fun _ => rfl, Option.or_none]
  rw [compile, failure?_bind hafter, PatternEntry.failure?_compile, invalid?, patterns,
    List.find?_cons]
  cases e.before.isValid <;> rfl

theorem isSome_invalid? (e : EnterRuleEntry) : e.invalid?.isSome = !e.isValid := by
  rw [← e.isOk_compile, ← isSome_failure?, failure?_compile, Option.isSome_map]

end EnterRuleEntry

def ClosingPairEntry.error : ClosingPairEntry → EmptyDelimiter
  | always opening closing | conditional opening closing _ => ⟨opening, closing⟩

theorem failure?_ofTexts (opening closing : Text) :
    failure? (BracketPair.ofTexts opening closing) =
      if isBracket (opening, closing) then none else some ⟨opening, closing⟩ := by
  rw [← isOk_ofTexts]
  unfold BracketPair.ofTexts
  split <;> rfl

theorem ClosingPairEntry.failure?_build (e : ClosingPairEntry) :
    failure? e.build = if e.isValid then none else some e.error := by
  cases e with
  | always opening closing | conditional opening closing _ =>
    rw [isValid, error, ← failure?_ofTexts, build]
    cases BracketPair.ofTexts opening closing <;> rfl

theorem filterMap_not_valid {α γ : Type} {valid : α → Bool} (f : α → γ) (l : List α) :
    (l.filterMap fun a => if valid a then none else some (f a)) =
      (l.filter (!valid ·)).map f := by
  rw [← List.filterMap_eq_map, List.filterMap_filter]
  refine List.filterMap_congr fun a _ => ?_
  cases valid a <;> rfl

namespace Notice

/-- One for each bracket with an empty side. -/
def ofBrackets (brackets : List (Text × Text)) : List Notice :=
  (brackets.filter (!isBracket ·)).map fun p => bracketSkipped ⟨p.1, p.2⟩

/-- One for each closing pair with an empty side. -/
def ofPairs (entries : List ClosingPairEntry) : List Notice :=
  (entries.filter (!·.isValid)).map fun e => pairSkipped e.error

/-- One for each rule with a pattern that does not compile, with the index of the rule. -/
def ofRules (entries : List EnterRuleEntry) : List Notice :=
  entries.zipIdx.filterMap fun (e, index) => e.invalid?.map fun p => ruleSkipped index p.error

theorem ofBrackets_eq (brackets : List (Text × Text)) :
    ofBrackets brackets = brackets.filterMap fun p =>
      (failure? (BracketPair.ofTexts p.1 p.2)).map bracketSkipped := by
  simp only [failure?_ofTexts, apply_ite (Option.map _), Option.map_none, Option.map_some]
  exact (filterMap_not_valid _ brackets).symm

theorem ofPairs_eq (entries : List ClosingPairEntry) :
    ofPairs entries = entries.filterMap fun e => (failure? e.build).map pairSkipped := by
  simp only [ClosingPairEntry.failure?_build, apply_ite (Option.map _), Option.map_none,
    Option.map_some]
  exact (filterMap_not_valid _ entries).symm

theorem ofRules_eq (entries : List EnterRuleEntry) :
    ofRules entries = entries.zipIdx.filterMap fun x =>
      (failure? x.1.compile).map (ruleSkipped x.2) := by
  refine List.filterMap_congr fun x _ => ?_
  rw [x.1.failure?_compile, Option.map_map]
  rfl

theorem length_ofRules (entries : List EnterRuleEntry) :
    (ofRules entries).length = (entries.filter (!·.isValid)).length := by
  have hinvalid : (fun x : EnterRuleEntry × Nat =>
      (x.1.invalid?.map fun p => ruleSkipped x.2 p.error).isSome) =
      (!·.isValid) ∘ Prod.fst := by
    funext x
    rw [Option.isSome_map, x.1.isSome_invalid?, Function.comp_apply]
  rw [ofRules, List.length_filterMap_eq_countP, hinvalid, ← List.countP_map, List.zipIdx_map_fst,
    List.countP_eq_length_filter]

end Notice

/-- The valid entries of a list are kept in their order, and there is one warning for each of the
others. -/
structure Accounts {α β ε : Type} (entries : List α) (valid : α → Bool) (build : α → Except ε β)
    (kept : List β) (warnings : List Notice) : Prop where
  inOrder : kept.map Except.ok = (entries.filter valid).map build
  total : kept.length + warnings.length = entries.length
  severity : ∀ n ∈ warnings, n.severity = .warning

section Lists

variable {α β ε : Type} {valid : α → Bool} {build : α → Except ε β}

theorem map_ok_filterMap (h : ∀ a, (build a).isOk = valid a) (l : List α) :
    (l.filterMap fun a => (build a).toOption).map Except.ok = (l.filter valid).map build := by
  induction l with
  | nil => rfl
  | cons a l ih =>
    rw [List.filterMap_cons, List.filter_cons, ← h a]
    cases hbuild : build a with
    | ok b => exact congrArg₂ _ hbuild.symm ih
    | error e => exact ih

theorem accounts_of_length {entries : List α} {warnings : List Notice}
    (hvalid : ∀ a, (build a).isOk = valid a)
    (hlength : warnings.length = (entries.filter (!valid ·)).length)
    (hseverity : ∀ n ∈ warnings, n.severity = .warning) :
    Accounts entries valid build (entries.filterMap fun a => (build a).toOption) warnings where
  inOrder := map_ok_filterMap hvalid entries
  total := by
    have hkept := congrArg List.length (map_ok_filterMap hvalid entries)
    rw [List.length_map, List.length_map] at hkept
    rw [hkept, hlength, ← List.length_eq_length_filter_add]
  severity := hseverity

end Lists

theorem accounts_brackets {β ε : Type} {build : Text × Text → Except ε β}
    (h : ∀ p, (build p).isOk = isBracket p) (brackets : List (Text × Text)) :
    Accounts brackets isBracket build (brackets.filterMap fun p => (build p).toOption)
      (Notice.ofBrackets brackets) := by
  refine accounts_of_length h (List.length_map _) fun n hn => ?_
  obtain ⟨p, -, rfl⟩ := List.mem_map.mp hn
  rfl

theorem accounts_pairs (entries : List ClosingPairEntry) :
    Accounts entries (·.isValid) (·.build) (entries.filterMap fun e => e.build.toOption)
      (Notice.ofPairs entries) := by
  refine accounts_of_length ClosingPairEntry.isOk_build (List.length_map _) fun n hn => ?_
  obtain ⟨e, -, rfl⟩ := List.mem_map.mp hn
  rfl

theorem accounts_rules (entries : List EnterRuleEntry) :
    Accounts entries (·.isValid) (·.compile) (entries.filterMap fun e => e.compile.toOption)
      (Notice.ofRules entries) := by
  refine accounts_of_length EnterRuleEntry.isOk_compile (Notice.length_ofRules entries)
    fun n hn => ?_
  obtain ⟨⟨e, index⟩, -, hnotice⟩ := List.mem_filterMap.mp hn
  obtain ⟨p, -, rfl⟩ := Option.map_eq_some_iff.mp hnotice
  rfl

namespace Configuration

/-- Every configured entry is accounted for: it is kept, in its order, or there is one warning about
it. The set-up of the Enter rules reports the brackets that it skips, then the rules, each with its
index among all that are configured, and then the number of rules; the set-up of the closing pairs
reports the pairs that it skips, or the brackets if no closing pairs are configured, and then the
number of pairs. -/
theorem every_entry_accounted (c : Configuration) :
    let brackets := c.brackets.getD []
    let rules := c.enterRules.getD []
    let enter := c.setUpEnter
    let closing := c.setUpPairs
    enter.notices = Notice.ofBrackets brackets ++ Notice.ofRules rules ++
        [.rulesReady enter.value.rules.length] ∧
      Accounts rules (·.isValid) (·.compile) enter.value.rules (Notice.ofRules rules) ∧
      (∀ configured, c.brackets = some configured → ∃ pairs,
        Accounts configured isBracket (fun p => BracketPair.ofTexts p.1 p.2) pairs
            (Notice.ofBrackets brackets) ∧
          pairs.map BracketPatterns.ofPair = enter.value.brackets.map .ok) ∧
      (c.brackets = none →
        BracketPair.standard.map BracketPatterns.ofPair = enter.value.brackets.map .ok) ∧
      (∀ entries, c.closingPairs = some entries →
        closing.notices = Notice.ofPairs entries ++ [.pairsReady closing.value.pairs.length] ∧
          Accounts entries (·.isValid) (·.build) closing.value.pairs (Notice.ofPairs entries)) ∧
      (c.closingPairs = none →
        closing.notices = Notice.ofBrackets brackets ++
            [.pairsReady closing.value.pairs.length] ∧
          Accounts brackets isBracket (fun p => (ClosingPairEntry.always p.1 p.2).build)
            closing.value.pairs (Notice.ofBrackets brackets)) ∧
      ∀ count, (Notice.rulesReady count).severity = .debug ∧
        (Notice.pairsReady count).severity = .debug := by
  intro brackets rules enter closing
  have hvalue : closing.value.pairs = c.validPairs.value := rfl
  have hofPair (pairs : List BracketPair) : pairs.map BracketPatterns.ofPair =
      (pairs.map BracketPair.patterns).map .ok := by
    rw [List.map_map]
    exact List.map_congr_left fun p _ => p.ofPair_eq
  have henter : enter.value.brackets =
      ((c.brackets.map (·.filterMap bracket?)).getD BracketPair.standard).map
        BracketPair.patterns := c.brackets_assistant
  have hrules : enter.value.rules = rules.filterMap fun e => e.compile.toOption :=
    (congrArg EnterRules.rules c.value_setUpEnter).trans c.value_validRules
  refine ⟨?_, ?_, ?_, ?_, ?_, ?_, fun _ => ⟨rfl, rfl⟩⟩
  · rw [c.notices_setUpEnter, notices_bracketPairs, notices_validRules, Notice.ofBrackets_eq,
      Notice.ofRules_eq]
  · rw [hrules]
    exact accounts_rules rules
  · intro configured hconfigured
    refine ⟨configured.filterMap bracket?, ?_, ?_⟩
    · simp only [brackets, hconfigured, Option.getD_some]
      exact accounts_brackets (fun p => isOk_ofTexts p.1 p.2) configured
    · rw [henter, hconfigured, hofPair]
      rfl
  · intro hnone
    rw [henter, hnone, hofPair]
    rfl
  · intro entries hentries
    rw [c.notices_setUpPairs, hvalue, notices_validPairs, value_validPairs, hentries]
    exact ⟨by rw [Notice.ofPairs_eq], accounts_pairs entries⟩
  · intro hnone
    have hbuild := accounts_brackets
      (fun p => (ClosingPairEntry.always p.1 p.2).isOk_build) brackets
    simp only [toOption_build_always, ← List.map_filterMap] at hbuild
    rw [c.notices_setUpPairs, hvalue, notices_validPairs, value_validPairs, hnone]
    exact ⟨by rw [Notice.ofBrackets_eq, ← notices_bracketPairs], hbuild⟩

/-- A bracket without an opening text and a rule with an open group, beside valid ones. -/
theorem every_entry_accounted_unclosed :
    let rule : EnterRuleEntry := { before := .source ['a'], action := { indent := .outdent } }
    let unclosed : EnterRuleEntry :=
      { rule with after := some (.source ['(']), previous := some (.source [')']) }
    let c : Configuration :=
      { brackets := some [([], [')']), (['<'], ['>'])], enterRules := some [rule, unclosed] }
    let noBracket := Notice.bracketSkipped ⟨[], [')']⟩
    c.setUpEnter.notices = [noBracket, .ruleSkipped 1 ⟨.rule, ['(']⟩, .rulesReady 1] ∧
      c.setUpPairs.notices = [noBracket, .pairsReady 1] := by
  intro rule unclosed c noBracket
  have hbrackets : Notice.ofBrackets (c.brackets.getD []) = [noBracket] := rfl
  have hrules : Notice.ofRules (c.enterRules.getD []) = [.ruleSkipped 1 ⟨.rule, ['(']⟩] := by cbv
  obtain ⟨henter, haccounts, -, -, -, hpairs, -⟩ := every_entry_accounted c
  obtain ⟨hclosing, hclosingAccounts⟩ := hpairs rfl
  have hkeptRules : c.setUpEnter.value.rules.length = 1 := by
    have htotal := haccounts.total
    rw [hrules] at htotal
    exact Nat.succ.inj htotal
  have hkeptPairs : c.setUpPairs.value.pairs.length = 1 := by
    have htotal := hclosingAccounts.total
    rw [hbrackets] at htotal
    exact Nat.succ.inj htotal
  rw [hbrackets, hrules, hkeptRules] at henter
  rw [hbrackets, hkeptPairs] at hclosing
  exact ⟨henter, hclosing⟩

end Configuration

end Keystroke
