import Keystroke.Proofs.ConfigurationValues
import Keystroke.Proofs.Written
import Mathlib.Data.List.Forall2

namespace Keystroke

open Json5

namespace Json5.Value

/-- Equal values, or arrays with related items. -/
inductive SameItems (R : Value → Value → Prop) : Value → Value → Prop
  | same (v : Value) : SameItems R v v
  | items {items items' : List Value} (h : List.Forall₂ R items items') :
      SameItems R (.array items) (.array items')

/-- The names of the members that an object is read by, each with the change that its value may
undergo. -/
abbrev Known :=
  List (String × (Value → Value → Prop))

def fixed (names : List String) : Known :=
  names.map fun name => (name, Eq)

/-- A member of one object and what it is in the other: if its name is known, its value is the same
or has undergone a change that it may undergo. -/
structure IsKept (known : Known) (m m' : Text × Value) : Prop where
  key : m'.1 = m.1
  value : ∀ R, known.lookup (String.ofList m.1) = some R → m'.2 = m.2 ∨ R m.2 m'.2

/-- Equal values, or objects: the members of the second are those of the first and others whose
names are not known, with any values and in any order. -/
inductive Rearranged (known : Known) : Value → Value → Prop
  | same (v : Value) : Rearranged known v v
  | members {members kept new members' : List (Text × Value)}
      (hkept : List.Forall₂ (IsKept known) members kept)
      (hnew : ∀ m ∈ new, known.lookup (String.ofList m.1) = none)
      (hperm : (kept ++ new).Perm members') :
      Rearranged known (.object members) (.object members')

/-- What a value stands for is not lost when the value changes. -/
def Respects {α : Type} (R : Value → Value → Prop) (f : Value → Option α) : Prop :=
  ∀ v v' a, R v v' → f v = some a → f v' = some a

section Respects

variable {α : Type} {R : Value → Value → Prop} {f : Value → Option α} {known : Known}

theorem respects_eq : Respects Eq f := by
  rintro v _ a rfl h
  exact h

theorem Respects.list (h : Respects R f) : Respects (SameItems R) (list? f) := by
  intro v v' as hv has
  cases hv with
  | same => exact has
  | @items items items' hitems =>
    simp only [list?] at has ⊢
    induction hitems generalizing as with
    | nil => exact has
    | cons hv _ ih =>
      simp only [List.mapM_cons, Option.bind_eq_bind, Option.bind_eq_some_iff] at has ⊢
      obtain ⟨a, ha, rest, hrest, hpure⟩ := has
      exact ⟨a, h _ _ _ hv ha, rest, ih rest hrest, hpure⟩

/-- A value that may be `null` is so before and after the change. -/
theorem Respects.optional (h : Respects R f) (hnull : ∀ v, R .null v → v = .null)
    (hf : f .null = none) : Respects R (optional? f) := by
  intro v v' o hv ho
  by_cases hv' : v = .null
  · subst hv'
    rw [hnull v' hv]
    exact ho
  rw [optional?_of_ne hv'] at ho
  obtain ⟨a, ha, rfl⟩ := Option.map_eq_some_iff.mp ho
  have ha' := h v v' a hv ha
  have hne : v' ≠ .null := by
    rintro rfl
    rw [hf] at ha'
    cases ha'
  rw [optional?_of_ne hne, ha', Option.map_some]

theorem SameItems.null {v : Value} (h : SameItems R .null v) : v = .null := by
  cases h
  rfl

theorem Rearranged.null {v : Value} (h : Rearranged known .null v) : v = .null := by
  cases h
  rfl

theorem respects_rearranged (h : ∀ members members' a,
    Rearranged known (.object members) (.object members') →
      f (.object members) = some a → f (.object members') = some a) :
    Respects (Rearranged known) f := by
  intro v v' a hv ha
  cases hv with
  | same => exact ha
  | members hkept hnew hperm => exact h _ _ a (.members hkept hnew hperm) ha

section Lookup

variable {name : String} {m m' : Text × Value} (hname : known.lookup name = some R)

include hname

theorem lookup_key (hkey : m.1 = name.toList) : known.lookup (String.ofList m.1) = some R := by
  rw [hkey, String.ofList_toList, hname]

theorem key_ne_of_lookup (h : known.lookup (String.ofList m.1) = none) : m.1 ≠ name.toList := by
  intro hkey
  rw [lookup_key hname hkey] at h
  cases h

theorem IsKept.eq_some (h : IsKept known m m') (hkey : m.1 = name.toList) (hf : Respects R f)
    {a : α} (ha : f m.2 = some a) : f m'.2 = some a := by
  obtain heq | hvalue := h.value R (lookup_key hname hkey)
  · rw [heq]
    exact ha
  · exact hf _ _ a hvalue ha

/-- A known member is found again among the members that are kept, and among the new ones there is
no other. -/
theorem Rearranged.member? {members members' : List (Text × Value)}
    (h : Rearranged known (.object members) (.object members')) (hf : Respects R f)
    {absent : Option α} {a : α} (ha : Value.member? members name f absent = some a) :
    Value.member? members' name f absent = some a := by
  cases h with
  | same => exact ha
  | @members _ kept new _ hkept hnew hperm =>
    have hnone : new.filter (·.1 = name.toList) = [] :=
      List.filter_eq_nil_iff.mpr fun m hm => by simpa using key_ne_of_lookup hname (hnew m hm)
    have hfound : List.Forall₂ (IsKept known) (members.filter (·.1 = name.toList))
        (kept.filter (·.1 = name.toList)) :=
      List.rel_filter (fun _ _ hm => by simp [hm.key]) hkept
    have hkey : ∀ m ∈ members.filter (·.1 = name.toList), m.1 = name.toList :=
      fun m hm => by simpa using List.of_mem_filter hm
    rw [← member?_perm hperm]
    -- No member, one or more than one is found, and the same number in both objects.
    unfold Value.member? at ha ⊢
    rw [List.filter_append, hnone, List.append_nil]
    generalize members.filter (·.1 = name.toList) = found at ha hfound hkey
    generalize kept.filter (·.1 = name.toList) = found' at hfound
    cases hfound with
    | nil => exact ha
    | @cons m _ _ _ hm hrest =>
      cases hrest with
      | nil => exact hm.eq_some hname (hkey m (List.mem_singleton_self m)) hf ha
      | cons => cases ha

end Lookup

theorem forall₂_isKept (members : List (Text × Value)) :
    List.Forall₂ (IsKept known) members members :=
  List.forall₂_same.mpr fun _ _ => ⟨rfl, fun _ _ => .inl rfl⟩

theorem IsKept.of_lookup {name : String} {v v' : Value} (hname : known.lookup name = some R)
    (h : R v v') : IsKept known (name.toList, v) (name.toList, v') := by
  refine ⟨rfl, fun R' hR' => .inr ?_⟩
  rw [String.ofList_toList, hname, Option.some.injEq] at hR'
  exact hR' ▸ h

end Respects

end Json5.Value

open Json5.Value

def PatternEntry.Rearranged : Value → Value → Prop :=
  Value.Rearranged (fixed ["pattern", "flags"])

theorem PatternEntry.respects : Respects PatternEntry.Rearranged ofValue? := by
  refine respects_rearranged fun members members' a h ha => ?_
  simp only [ofValue?, Option.bind_eq_bind, Option.bind_eq_some_iff] at ha ⊢
  obtain ⟨pattern, hpattern, flags, hflags, ha⟩ := ha
  exact ⟨pattern, h.member? rfl respects_eq hpattern, flags, h.member? rfl respects_eq hflags, ha⟩

def ClosingPairEntry.Rearranged : Value → Value → Prop :=
  Value.Rearranged (fixed ["open", "close", "notIn"])

theorem ClosingPairEntry.respects : Respects ClosingPairEntry.Rearranged ofValue? := by
  refine respects_rearranged fun members members' a h ha => ?_
  simp only [ofValue?, Option.bind_eq_bind, Option.bind_eq_some_iff] at ha ⊢
  obtain ⟨opening, hopening, closing, hclosing, notIn, hnotIn, ha⟩ := ha
  exact ⟨opening, h.member? rfl respects_eq hopening, closing,
    h.member? rfl respects_eq hclosing, notIn, h.member? rfl respects_eq hnotIn, ha⟩

def EnterAction.Rearranged : Value → Value → Prop :=
  Value.Rearranged (fixed ["indent", "appendText", "removeText"])

theorem EnterAction.respects : Respects EnterAction.Rearranged ofValue? := by
  refine respects_rearranged fun members members' a h ha => ?_
  simp only [ofValue?, Option.bind_eq_bind, Option.bind_eq_some_iff] at ha ⊢
  obtain ⟨i, hindent, append, happend, remove, hremove, ha⟩ := ha
  exact ⟨i, h.member? rfl respects_eq hindent, append, h.member? rfl respects_eq happend, remove,
    h.member? rfl respects_eq hremove, ha⟩

def EnterRuleEntry.Rearranged : Value → Value → Prop :=
  Value.Rearranged [("beforeText", PatternEntry.Rearranged),
    ("afterText", PatternEntry.Rearranged), ("previousLineText", PatternEntry.Rearranged),
    ("action", EnterAction.Rearranged)]

theorem EnterRuleEntry.respects : Respects EnterRuleEntry.Rearranged ofValue? := by
  have hpattern : Respects PatternEntry.Rearranged (optional? PatternEntry.ofValue?) :=
    PatternEntry.respects.optional (fun _ h => h.null) rfl
  refine respects_rearranged fun members members' a h ha => ?_
  simp only [ofValue?, Option.bind_eq_bind, Option.bind_eq_some_iff] at ha ⊢
  obtain ⟨before, hbefore, after, hafter, previous, hprevious, action, haction, ha⟩ := ha
  exact ⟨before, h.member? rfl PatternEntry.respects hbefore, after, h.member? rfl hpattern hafter,
    previous, h.member? rfl hpattern hprevious, action, h.member? rfl EnterAction.respects haction,
    ha⟩

def Configuration.Rearranged : Value → Value → Prop :=
  Value.Rearranged [("brackets", Eq),
    ("autoClosingPairs", SameItems ClosingPairEntry.Rearranged),
    ("autoCloseBefore", Eq),
    ("onEnterRules", SameItems EnterRuleEntry.Rearranged)]

theorem Configuration.respects : Respects Configuration.Rearranged ofValue? := by
  have hpairs : Respects (SameItems ClosingPairEntry.Rearranged)
      (optional? (list? ClosingPairEntry.ofValue?)) :=
    ClosingPairEntry.respects.list.optional (fun _ h => h.null) rfl
  have hrules : Respects (SameItems EnterRuleEntry.Rearranged)
      (optional? (list? EnterRuleEntry.ofValue?)) :=
    EnterRuleEntry.respects.list.optional (fun _ h => h.null) rfl
  refine respects_rearranged fun members members' a h ha => ?_
  simp only [ofValue?, Option.bind_eq_bind, Option.bind_eq_some_iff] at ha ⊢
  obtain ⟨brackets, hbrackets, pairs, hpairs', before, hbefore, rules, hrules', ha⟩ := ha
  exact ⟨brackets, h.member? rfl respects_eq hbrackets, pairs, h.member? rfl hpairs hpairs', before,
    h.member? rfl respects_eq hbefore, rules, h.member? rfl hrules hrules', ha⟩

namespace Configuration

/-- Neither the order of members nor members with unknown names change the configuration that a text
is read as. -/
theorem ofText_rearranged (t : Text) (c : Configuration) (h : ofText t = .ok c) :
    ∃ v, IsDocument t v ∧ ∀ v' t', Configuration.Rearranged v v' → IsDocument t' v' →
      ofText t' = .ok c := by
  obtain ⟨v, hv, hc⟩ := decodes.load_eq_ok.mp h
  exact ⟨v, hv, fun v' t' hrearranged ht' =>
    decodes.load_eq_ok.mpr ⟨v', ht', respects v v' c hrearranged hc⟩⟩

def ruleAction : Text × Value :=
  ("action".toList, .object [("indent".toList, .string "indent".toList)])

/-- The first condition of a rule, in whose pattern other members stand before the known one. -/
def ruleBefore (others : List (Text × Value)) : Text × Value :=
  ("beforeText".toList, .object (others ++ [("pattern".toList, .string "a".toList)]))

def withRule (members : List (Text × Value)) : Value :=
  .object [("onEnterRules".toList, .array [.object members])]

def ruleRead : Configuration where
  enterRules := some [{ before := .withFlags "a".toList [], action := { indent := .indent } }]

/-- The members of a rule change places, and its pattern gets another member. -/
theorem rearranged_withRule (v : Value) :
    Configuration.Rearranged (withRule [ruleBefore [], ruleAction])
      (withRule [ruleAction, ruleBefore [("x".toList, v)]]) := by
  have hpattern : PatternEntry.Rearranged (.object [("pattern".toList, .string "a".toList)])
      (.object [("x".toList, v), ("pattern".toList, .string "a".toList)]) :=
    .members (forall₂_isKept _) (List.forall_mem_singleton.mpr rfl) List.perm_append_comm
  have hrule : EnterRuleEntry.Rearranged (.object [ruleBefore [], ruleAction])
      (.object [ruleAction, ruleBefore [("x".toList, v)]]) :=
    .members (.cons (.of_lookup rfl hpattern) (forall₂_isKept _)) (List.forall_mem_nil _)
      (.swap ..)
  exact .members (.cons (.of_lookup rfl (.items (.cons hrule .nil))) .nil) (List.forall_mem_nil _)
    (.refl _)

/-- The other member holds an integer of more than 64 bits. -/
theorem ofText_rearranged_wide :
    ofText (withRule [ruleBefore [], ruleAction]).written = .ok ruleRead ∧
      ofText (withRule [ruleAction,
        ruleBefore [("x".toList, .number (.integer 18446744073709551616))]]).written =
          .ok ruleRead := by
  have hread : IsDocument (withRule [ruleBefore [], ruleAction]).written _ :=
    Value.isDocument_written (by decide)
  have hload : ofText (withRule [ruleBefore [], ruleAction]).written = .ok ruleRead :=
    decodes.load_eq_ok.mpr ⟨_, hread, by decide⟩
  obtain ⟨v, hv, hall⟩ := ofText_rearranged _ ruleRead hload
  obtain rfl := hv.unique hread
  exact ⟨hload, hall _ _ (rearranged_withRule _) (Value.isDocument_written (by decide))⟩

end Configuration

end Keystroke
