import Keystroke.Proofs.Decoding

namespace Keystroke.Json5

open Reader

section AnyValue

/-- The arrays and objects of a value do not go deeper than a bound. -/
def Value.fits : Nat → Value → Bool
  | 0, _ => false
  | depth + 1, .array items => items.all (fits depth)
  | depth + 1, .object members => members.all fun m => fits depth m.2
  | _ + 1, _ => true

variable {α : Type}

theorem mapM_guard (q : α → Bool) (as : List α) :
    (as.mapM fun a => if q a then some a else none) = if as.all q then some as else none := by
  induction as with
  | nil => rfl
  | cons a as ih =>
    by_cases ha : q a
    · by_cases hall : as.all q <;> simp [List.mapM_cons, ih, ha, hall]
    · simp [List.mapM_cons, ha]

theorem foldlM_guard (q : α → Bool) (as bs : List α) :
    (as.foldlM (fun s a => if q a then some (a :: s) else none) bs) =
      if as.all q then some (as.reverse ++ bs) else none := by
  induction as generalizing bs with
  | nil => rfl
  | cons a as ih => by_cases ha : q a <;> simp [ha, ih]

variable {element : Reader Value} {q : Value → Bool}

theorem decodes_array (h : Decodes element fun v => if q v then some v else none) :
    Decodes (do return Value.array (← list element)) fun v =>
      match v with
      | .array items => if items.all q then some v else none
      | _ => none := by
  refine (h.list.map Value.array).congr (fun _ _ _ => Iff.rfl) fun v => ?_
  cases v with
  | array items =>
    simp only [Value.list?, mapM_guard]
    split <;> rfl
  | _ => rfl

theorem decodes_object (h : Decodes element fun v => if q v then some v else none) :
    Decodes (do
      let members ← object (fun members k => do
        return (k, ← memberValue element) :: members) []
      return Value.object members.reverse) fun v =>
      match v with
      | .object members => if members.all (fun m => q m.2) then some v else none
      | _ => none := by
  let put (members : List (Text × Value)) (m : Text × Value) : Option (List (Text × Value)) :=
    if q m.2 then some (m :: members) else none
  have hstep : ∀ (members : List (Text × Value)) k,
      DecodesMember (do return (k, ← memberValue element) :: members) fun v =>
        put members (k, v) := by
    intro members k
    have hput : (fun v => put members (k, v)) =
        fun v => (if q v then some v else none).map fun v => (k, v) :: members := by
      funext v
      simp only [put]
      split <;> rfl
    exact hput ▸ h.memberValue.map fun v => (k, v) :: members
  have hpure : ∀ (s : List (Text × Value)) t a rest,
      (pure s : Reader _).Reads t a rest ↔ some s = some a ∧ t = rest := by simp
  have hobject := decodes_members hstep hpure []
  refine (hobject.map fun members => Value.object members.reverse).congr (fun t a rest => ?_)
    fun v => ?_
  · simp [object, reads_braced]
  · cases v with
    | object members =>
      simp only [Value.record?, put, foldlM_guard (fun m : Text × Value => q m.2)]
      split <;> simp
    | _ => rfl

theorem decodes_anyNumber :
    Decodes (do return Value.number (← numberAs .ok)) fun v =>
      match v with
      | .number n => some (.number n)
      | _ => none :=
  ((decodes_number .ok).map Value.number).congr (fun _ _ _ => Iff.rfl) fun v => by cases v <;> rfl

theorem decodes_valueWithin (depth : Nat) :
    Decodes (valueWithin depth) fun v => if v.fits depth then some v else none := by
  -- The first character tells the kind of value, and with it the reader that goes on.
  induction depth with
  | zero =>
    refine ⟨fun h => absurd h not_reads_fail, fun _ _ h => ?_⟩
    simp [Value.fits] at h
  | succ depth ih =>
    refine decodes_parts (fun _ _ => not_reads_fail) fun c u hc => ?_
    by_cases harray : c = '['
    · subst harray
      refine ⟨_, _, decodes_array ih, fun v hv => ?_, fun _ _ => Iff.rfl⟩
      cases v with
      | array => rfl
      | _ => simp [StartsValue, startsNumber] at hv
    by_cases hobject : c = '\x7b'
    · subst hobject
      refine ⟨_, _, decodes_object ih, fun v hv => ?_, fun _ _ => Iff.rfl⟩
      cases v with
      | object => rfl
      | _ => simp [StartsValue, startsNumber] at hv
    by_cases hnull : c = 'n'
    · subst hnull
      refine ⟨_, _, decodes_null.map fun _ => .null, fun v hv => ?_, fun w rest => ?_⟩
      · obtain rfl := startsValue_n.mp hv
        rfl
      · simp [afterBlanks_solid hc]
    by_cases hquote : c = '"' ∨ c = '\x27'
    · refine ⟨_, _, decodes_string.map .string, fun v hv => ?_, fun w rest => ?_⟩
      · cases v with
        | string => rfl
        | _ => rcases hquote with rfl | rfl <;> simp [StartsValue, startsNumber] at hv
      · simp [hquote]
    by_cases hword : c = 't' ∨ c = 'f'
    · refine ⟨_, _, decodes_bool.map .bool, fun v hv => ?_, fun w rest => ?_⟩
      · cases v with
        | bool => rfl
        | _ => rcases hword with rfl | rfl <;> simp [StartsValue, startsNumber] at hv
      · simp [hquote, hword]
    by_cases hdigit : startsNumber c
    · refine ⟨_, _, decodes_anyNumber, fun v hv => ?_, fun w rest => ?_⟩
      · cases v with
        | number => rfl
        | _ => simp_all [StartsValue]
      · simp [hquote, hword, hdigit]
    · refine ⟨_, _, decodes_failHere (.expected .value), fun v hv => ?_, fun w rest => ?_⟩
      · cases v <;> simp_all [StartsValue]
      · simp [hquote, hword, hdigit]

/-- A value goes less deep than its text is long. -/
theorem Spells.fits {t : Text} {v : Value} (h : Spells t v) {depth : Nat}
    (hdepth : t.length < depth) : v.fits depth = true := by
  induction h generalizing depth with
  | null | yes | no | string | number =>
    obtain ⟨depth, rfl⟩ := Nat.exists_eq_add_one_of_ne_zero (Nat.ne_zero_of_lt hdepth)
    simp [Value.fits]
  | @array items tail _ _ ih =>
    obtain ⟨depth, rfl⟩ := Nat.exists_eq_add_one_of_ne_zero (Nat.ne_zero_of_lt hdepth)
    simp only [Value.fits, List.all_map, List.all_eq_true]
    intro i hi
    have hlength : i.content.text.length + 1 <
        (enclosed '[' ']' (items.map (Spaced.text Item.text)) tail).length := length_lt_enclosed hi
    exact ih i hi (by omega)
  | @object entries tail _ _ _ ih =>
    obtain ⟨depth, rfl⟩ := Nat.exists_eq_add_one_of_ne_zero (Nat.ne_zero_of_lt hdepth)
    simp only [Value.fits, List.all_map, List.all_eq_true]
    intro e he
    have hlength : e.content.text.length + 1 <
        (enclosed '\x7b' '\x7d' (entries.map (Spaced.text Entry.text)) tail).length :=
      length_lt_enclosed he
    simp only [Entry.text, List.length_append, List.length_cons] at hlength
    exact ih e he (by omega)

/-- Every document can be read. -/
theorem decodes_any : Decodes anyValue some where
  sound {t rest a} hread := by
    obtain ⟨g, core, v, hg, hcore, ha, rfl⟩ := (decodes_valueWithin _).sound hread
    rw [hcore.fits (by simp only [List.length_append]; omega), if_pos rfl] at ha
    exact ⟨g, core, v, hg, hcore, ha, rfl⟩
  complete {g core rest v a} hg hcore ha hrest := by
    refine (decodes_valueWithin _).complete hg hcore ?_ hrest
    rw [hcore.fits (by simp only [List.length_append]; omega), if_pos rfl]
    exact ha

end AnyValue

theorem run_eq_ok {α : Type} {r : Reader α} {t : Text} {a : α} :
    r.run t = .ok a ↔ ∃ tail, r.Reads t a tail ∧ afterBlanks .between tail = .ok [] := by
  unfold run
  constructor
  · intro h
    dsimp only at h
    split at h
    next b rest hread =>
      cases h
      obtain ⟨b, tail, hb, hend⟩ := reads_bind.mp hread
      obtain ⟨u, htail, hend⟩ := reads_ahead_bind.mp hend
      cases u with
      | nil =>
        obtain ⟨rfl, rfl⟩ := reads_pure.mp hend
        exact ⟨tail, hb, htail⟩
      | cons c u => exact absurd hend not_reads_failHere
    next => cases h
  · rintro ⟨tail, hread, htail⟩
    have hend : ahead.Reads tail [] [] := reads_ahead.mpr ⟨htail, rfl⟩
    unfold Reads at hread hend
    simp [bind, hread, hend, pure]

theorem load_eq_ok {α : Type} {r : Reader α} {t : Text} {a : α} :
    r.load t = .ok a ↔ r.run t = .ok a := by
  unfold load
  split
  next h => rw [h, Except.ok.injEq, Except.ok.injEq]
  next h => simp [h]

theorem Decodes.load_eq_ok {α : Type} {r : Reader α} {f : Value → Option α} (h : Decodes r f)
    {t : Text} {a : α} : r.load t = .ok a ↔ ∃ v, IsDocument t v ∧ f v = some a := by
  rw [Json5.load_eq_ok, run_eq_ok]
  constructor
  · rintro ⟨tail, hread, htail⟩
    obtain ⟨lead, core, v, hlead, hcore, ha, rfl⟩ := h.sound hread
    exact ⟨v, ⟨lead, core, tail, hlead, hcore, htail, rfl⟩, ha⟩
  · rintro ⟨v, ⟨lead, core, tail, hlead, hcore, htail, rfl⟩, ha⟩
    refine ⟨tail, h.complete hlead hcore ha fun c hc => .inl fun hsolid => ?_, htail⟩
    obtain ⟨u, rfl⟩ := List.head?_eq_some_iff.mp hc
    rw [afterBlanks_solid hsolid] at htail
    cases htail

/-- A text is a document in one way only. -/
theorem IsDocument.unique {t : Text} {v v' : Value} (h : IsDocument t v) (h' : IsDocument t v') :
    v = v' := by
  have hload := decodes_any.load_eq_ok.mpr ⟨v, h, rfl⟩
  rw [decodes_any.load_eq_ok.mpr ⟨v', h', rfl⟩] at hload
  exact (Except.ok.inj hload).symm

end Keystroke.Json5
