import Mathlib.Algebra.Group.Nat.Defs
import Keystroke.Configuration.Writing
import Keystroke.Proofs.ConfigurationValues
import Keystroke.Proofs.Written

namespace Keystroke

open Json5

namespace Json5.Value

variable {α : Type} {name other : String} {v : Option Value} {members : List (Text × Value)}

/-- Members that come to the same ones under a name: what is absent may be `null`. -/
def IsMember (name : String) (v : Option Value) (members : List (Text × Value)) : Prop :=
  members = optionalMember name v ∨ v = none ∧ members = [(name.toList, .null)]

theorem IsMember.key_eq (h : IsMember name v members) : ∀ m ∈ members, m.1 = name.toList := by
  obtain rfl | ⟨-, rfl⟩ := h
  · cases v <;> simp [optionalMember]
  · simp

theorem IsMember.filter_self (h : IsMember name v members) :
    members.filter (·.1 = name.toList) = members :=
  List.filter_eq_self.mpr fun m hm => decide_eq_true (h.key_eq m hm)

theorem IsMember.filter_other (h : IsMember name v members) (hother : name ≠ other) :
    members.filter (·.1 = other.toList) = [] := by
  refine List.filter_eq_nil_iff.mpr fun m hm => ?_
  rw [h.key_eq m hm, decide_eq_true_iff, String.toList_inj]
  exact hother

/-- What is absent is read as absent, whether it is left out or `null`. -/
theorem IsMember.member?_optional (h : IsMember name v members) {all : List (Text × Value)}
    (hall : all.filter (·.1 = name.toList) = members) {f : Value → Option α} {a : Option α}
    (hf : v.map f = a.map some) (hnull : v ≠ some .null) :
    member? all name (optional? f) (some none) = some a := by
  unfold member?
  rw [hall]
  obtain rfl | ⟨rfl, rfl⟩ := h
  · cases v with
    | none =>
      obtain rfl : a = none := by simpa using hf.symm
      rfl
    | some v =>
      obtain ⟨a, rfl, ha⟩ := Option.map_eq_some_iff.mp hf.symm
      have hv : v ≠ .null := fun h => hnull (congrArg some h)
      simp [optionalMember, optional?_of_ne hv, ← ha]
  · obtain rfl : a = none := by simpa using hf.symm
    rfl

end Json5.Value

namespace EnterAction

/-- The members of an object that stands for an action. -/
def IsForm (a : EnterAction) (members : List (Text × Value)) : Prop :=
  ∃ appendText removeText,
    Value.IsMember "appendText" (a.appendText.map .string) appendText ∧
    Value.IsMember "removeText" (a.removeText.map fun n : Nat => .number (.integer n)) removeText ∧
    (("indent".toList, .string a.indent.name.toList) :: (appendText ++ removeText)).Perm members

theorem toValue_eq (a : EnterAction) : a.toValue =
    .object (("indent".toList, .string a.indent.name.toList) ::
      (Value.optionalMember "appendText" (a.appendText.map .string) ++
        Value.optionalMember "removeText"
          (a.removeText.map fun n : Nat => .number (.integer n)))) := by
  obtain ⟨i, t, n⟩ := a
  cases n <;> rfl

theorem indent_ofValue? (i : IndentAction) :
    IndentAction.ofValue? (.string i.name.toList) = some i := by
  cases i <;> rfl

theorem size_integer {n : Nat} (h : n < 2 ^ 64) : Number.size (.integer n) = .ok n := by
  have hhigh : Int.pow 2 64 = (2 ^ 64 : Nat) := rfl
  unfold Number.size
  simp only [hhigh]
  generalize 2 ^ 64 = high at h
  rw [if_pos (by omega), if_pos (by omega), Int.toNat_natCast]

theorem number?_size {n : Nat} (h : n < 2 ^ 64) :
    Value.number? Number.size (.number (.integer n)) = some n := by
  rw [Value.number?, size_integer h]
  rfl

theorem isInteger_of_size {n : Nat} (h : n < 2 ^ 64) : (Number.integer n).isInteger = true := by
  have hpow : 2 ^ 64 ≤ Nat.pow 2 128 := by decide
  rw [Number.isInteger_iff]
  generalize Nat.pow 2 127 = low
  generalize Nat.pow 2 128 = high at hpow
  omega

variable {a : EnterAction} {members : List (Text × Value)}

theorem IsForm.member?_indent (h : a.IsForm members) :
    Value.member? members "indent" IndentAction.ofValue? none = some a.indent := by
  obtain ⟨appendText, removeText, happend, hremove, hperm⟩ := h
  rw [← Value.member?_perm hperm, Value.member?, List.filter_cons_of_pos (by simp),
    List.filter_append, happend.filter_other (by simp), hremove.filter_other (by simp)]
  exact indent_ofValue? a.indent

theorem IsForm.member?_appendText (h : a.IsForm members) :
    Value.member? members "appendText" (Value.optional? Value.string?) (some none) =
      some a.appendText := by
  obtain ⟨appendText, removeText, happend, hremove, hperm⟩ := h
  rw [← Value.member?_perm hperm]
  refine happend.member?_optional ?_ ?_ ?_
  · rw [List.filter_cons_of_neg (by simp), List.filter_append, happend.filter_self,
      hremove.filter_other (by simp), List.append_nil]
  · cases a.appendText <;> rfl
  · cases a.appendText <;> simp

theorem IsForm.member?_removeText (h : a.IsForm members) (hsize : ∀ n ∈ a.removeText, n < 2 ^ 64) :
    Value.member? members "removeText" (Value.optional? (Value.number? Number.size)) (some none) =
      some a.removeText := by
  obtain ⟨appendText, removeText, happend, hremove, hperm⟩ := h
  rw [← Value.member?_perm hperm]
  refine hremove.member?_optional ?_ ?_ ?_
  · rw [List.filter_cons_of_neg (by simp), List.filter_append, happend.filter_other (by simp),
      hremove.filter_self, List.nil_append]
  · cases h : a.removeText with
    | none => rfl
    | some n => exact congrArg some (number?_size (hsize n h))
  · cases a.removeText <;> simp

theorem IsForm.ofValue? (h : a.IsForm members) (hsize : ∀ n ∈ a.removeText, n < 2 ^ 64) :
    EnterAction.ofValue? (.object members) = some a := by
  simp [EnterAction.ofValue?, h.member?_indent, h.member?_appendText, h.member?_removeText hsize]

theorem allNumbers_toValue (hsize : ∀ n ∈ a.removeText, n < 2 ^ 64) :
    a.toValue.allNumbers Number.isInteger = true := by
  rw [toValue_eq, Value.allNumbers_object]
  cases hremove : a.removeText with
  | none => cases a.appendText <;> simp [Value.optionalMember]
  | some n =>
    have hn := isInteger_of_size (hsize n hremove)
    cases a.appendText <;> simp [Value.optionalMember, hn]

/-- What is written for an action is a document of its form. -/
theorem isDocument_written (hsize : ∀ n ∈ a.removeText, n < 2 ^ 64) :
    ∃ members, IsDocument a.written (.object members) ∧ a.IsForm members := by
  have hdocument := Value.isDocument_written (allNumbers_toValue hsize)
  have hform := a.toValue_eq
  exact ⟨_, hform ▸ hdocument, _, _, .inl rfl, .inl rfl, .refl _⟩

/-- An action is read back from any document of its form, and so from what is written for it: no two
actions are written alike. -/
theorem load_written (a : EnterAction) (hsize : ∀ n ∈ a.removeText, n < 2 ^ 64) :
    reader.load a.written = .ok a ∧
      (∀ b : EnterAction, (∀ n ∈ b.removeText, n < 2 ^ 64) → b.written = a.written → b = a) ∧
      ∀ t members, IsDocument t (.object members) → a.IsForm members →
        reader.load t = .ok a := by
  have hload : ∀ (b : EnterAction) t members, (∀ n ∈ b.removeText, n < 2 ^ 64) →
      IsDocument t (.object members) → b.IsForm members → reader.load t = .ok b :=
    fun b t members hb ht hform => decodes.load_eq_ok.mpr ⟨_, ht, hform.ofValue? hb⟩
  have hback : ∀ b : EnterAction, (∀ n ∈ b.removeText, n < 2 ^ 64) →
      reader.load b.written = .ok b := by
    intro b hb
    obtain ⟨members, hdocument, hform⟩ := isDocument_written hb
    exact hload b _ members hb hdocument hform
  refine ⟨hback a hsize, fun b hb hwritten => ?_, fun t members => hload a t members hsize⟩
  have hread := hback b hb
  rw [hwritten, hback a hsize] at hread
  exact (Except.ok.inj hread).symm

theorem load_written_reordered :
    (∀ n ∈ some 3, n < 2 ^ 64) ∧
      reader.load (Value.object [("removeText".toList, .number (.integer 3)),
        ("appendText".toList, .null), ("indent".toList, .string "indent".toList)]).written =
          .ok ⟨.indent, none, some 3⟩ :=
  ⟨by simp, (load_written ⟨.indent, none, some 3⟩ (by simp)).2.2 _ _
    (Value.isDocument_written (by decide))
    ⟨_, _, .inr ⟨rfl, rfl⟩, .inl rfl, (List.reverse_perm _).symm⟩⟩

end EnterAction

end Keystroke
