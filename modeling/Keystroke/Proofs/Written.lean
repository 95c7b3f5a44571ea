import Mathlib.Data.List.TakeWhile
import Keystroke.Proofs.Documents

namespace Keystroke.Json5

open Reader

theorem reads_hexDigits {place n v : Nat} {digits : Text}
    (h : digits.foldlM (fun n c => (hexDigit? c).map (16 * n + ·)) n = some v) (rest : Text) :
    (hexDigits place digits.length n).Reads (digits ++ rest) v rest := by
  induction digits generalizing n with
  | nil =>
    cases h
    exact reads_pure.mpr ⟨rfl, rfl⟩
  | cons c digits ih =>
    rw [List.foldlM_cons] at h
    obtain ⟨_, hc, h⟩ := Option.bind_eq_some_iff.mp h
    obtain ⟨d, hd, rfl⟩ := Option.map_eq_some_iff.mp hc
    rw [List.length_cons, hexDigits, reads_bind]
    exact ⟨_, _, reads_left.mpr ⟨rfl, rfl⟩, by simp [hd, ih h]⟩

/-- The hexadecimal digits of a control character, four in number. -/
def controlDigits (n : Nat) : Text :=
  List.replicate (4 - (Text.hexadecimal n).length) '0' ++ Text.hexadecimal n

theorem reads_controlDigits {n : Nat} (hn : n < 32) (place : Nat) (rest : Text) :
    (hexDigits place 4 0).Reads (controlDigits n ++ rest) n rest := by
  have hdigits : ∀ n < 32, (controlDigits n).length = 4 ∧
      (controlDigits n).foldlM (fun n c => (hexDigit? c).map (16 * n + ·)) 0 = some n := by
    decide +kernel
  obtain ⟨hlength, hvalue⟩ := hdigits n hn
  exact hlength ▸ reads_hexDigits hvalue rest

theorem takesWhole_controlDigits {c : Char} (hc : c < ' ') :
    TakesWhole stringEscape ('u' :: controlDigits c.toNat) [c] := by
  intro place rest
  have hread := reads_controlDigits hc place rest
  have hlow : c.toNat < 32 := hc
  have hplain : (isHighSurrogate c.toNat || isLowSurrogate c.toNat) = false := by
    simp only [isHighSurrogate, isLowSurrogate, Bool.or_eq_false_iff, Bool.and_eq_false_iff,
      decide_eq_false_iff_not]
    omega
  have hescape : (unicodeEscape place).Reads (controlDigits c.toNat ++ rest) c rest := by
    rw [unicodeEscape, reads_bind]
    exact ⟨c.toNat, rest, hread, by simp [hplain]⟩
  rw [stringEscape, reads_bind]
  refine ⟨_, _, reads_left.mpr ⟨rfl, rfl⟩, ?_⟩
  simp [hescape]

/-- A character is written as itself or as an escape that stands for it. -/
theorem writtenChar_cases (c : Char) :
    (writtenChar c = [c] ∧ c ≠ '"' ∧ c ≠ '\\' ∧ c ≠ '\n' ∧ c ≠ '\r') ∨
      ∃ e, writtenChar c = '\\' :: e ∧ TakesWhole stringEscape e [c] := by
  unfold writtenChar
  split
  next hc =>
    refine .inr ⟨[c], rfl, fun place rest => (reads_stringEscape_other ?_ ?_).mpr ?_⟩
    all_goals rcases hc with rfl | rfl <;> simp [isLineTerminator]
  next hquote =>
    rw [not_or] at hquote
    iterate 5
      split
      next hc =>
        subst hc
        exact .inr ⟨_, rfl, fun place rest => by simp [stringEscape]⟩
      rename_i hc
    split
    next hc => exact .inr ⟨_, rfl, takesWhole_controlDigits hc⟩
    next => exact .inl ⟨rfl, hquote.1, hquote.2, by assumption, by assumption⟩

/-- What is written for the characters of a string is read as that string. -/
theorem reads_writtenChars {t : Text} {n : Nat} {rest : Text}
    (hn : (t.flatMap writtenChar).length < n) :
    (stringBody '"' n).Reads (t.flatMap writtenChar ++ '"' :: rest) t rest := by
  induction t generalizing n with
  | nil =>
    obtain ⟨n, rfl⟩ := Nat.exists_eq_add_one_of_ne_zero (Nat.ne_zero_of_lt hn)
    simp [stringBody]
  | cons c t ih =>
    obtain ⟨n, rfl⟩ := Nat.exists_eq_add_one_of_ne_zero (Nat.ne_zero_of_lt hn)
    rw [List.flatMap_cons, List.append_assoc]
    rw [List.flatMap_cons, List.length_append] at hn
    rcases writtenChar_cases c with ⟨hc, hquote, hescape, hfeed, hreturn⟩ | ⟨e, he, hread⟩
    · rw [hc] at hn ⊢
      have hnext := ih (n := n) (by simp only [List.length_cons] at hn; omega)
      simp [stringBody, hquote, hescape, hfeed, hreturn, hnext]
    · rw [he] at hn ⊢
      have hnext := ih (n := n) (by simp only [List.length_cons] at hn; omega)
      rw [stringBody, reads_bind]
      refine ⟨_, _, reads_left.mpr ⟨rfl, rfl⟩, ?_⟩
      have hquote : ¬ '\\' = '"' := by decide
      simp only [List.cons_append, hquote, if_false, if_true, reads_bind, reads_drop]
      exact ⟨(), _, rfl, [c], _, hread _ _, t, rest, hnext, reads_pure.mpr ⟨rfl, rfl⟩⟩

theorem isString_written (t : Text) : IsString (writtenString t) t := by
  refine ⟨⟨'"', by simp [writtenString], .inl rfl⟩, fun rest => ?_⟩
  have hlength : (t.flatMap writtenChar).length < (writtenString t ++ rest).length := by
    simp only [writtenString, List.length_append, List.length_cons]
    omega
  have hbody : (stringBody '"' (writtenString t ++ rest).length).Reads
      (t.flatMap writtenChar ++ '"' :: rest) t rest :=
    reads_writtenChars hlength
  simpa [writtenString, quotedString, Reads] using hbody

theorem isDigit_of_mem_writtenNat {n : Nat} {c : Char} (hc : c ∈ writtenNat n) :
    c.isDigit = true :=
  Nat.isDigit_of_mem_toDigits (by decide) (by decide) hc

theorem decimalValue_writtenNat (n : Nat) : decimalValue (writtenNat n) = n :=
  Nat.ofDigitChars_ten_toDigits

/-- Only the number zero is written with a zero in front. -/
theorem eq_zero_of_head? {n : Nat} (h : (writtenNat n).head? = some '0') : n = 0 := by
  induction n using Nat.strongRecOn with
  | ind n ih =>
    by_cases hn : n < 10
    · have hdigits : ∀ n < 10, (writtenNat n).head? = some '0' → n = 0 := by decide
      exact hdigits n hn h
    · rw [writtenNat, Nat.toDigits_of_base_le (by decide) (by omega),
        List.head?_append_of_ne_nil _ Nat.toDigits_ne_nil] at h
      have := ih (n / 10) (by omega) h
      omega

theorem decimal?_writtenNat (negative : Bool) {n : Nat} {x : Number}
    (hx : Number.ofMagnitude negative n = some x) :
    Number.decimal? negative (writtenNat n) = some x := by
  have htake : takeDigits (writtenNat n) = (writtenNat n, []) := by
    rw [takeDigits, List.takeWhile_eq_self_iff.mpr fun c hc => isDigit_of_mem_writtenNat hc,
      List.dropWhile_eq_nil_iff.mpr fun c hc => isDigit_of_mem_writtenNat hc]
  have hne : writtenNat n ≠ [] := Nat.toDigits_ne_nil
  have hall : (writtenNat n).all Char.isDigit = true :=
    List.all_eq_true.mpr fun c hc => isDigit_of_mem_writtenNat hc
  simp [Number.decimal?, htake, hne, hall, decimalValue_writtenNat, hx]

theorem takesBeforeEnd_decimal (negative : Bool) {n : Nat} {x : Number}
    (hx : Number.ofMagnitude negative n = some x) :
    TakesBeforeEnd (decimal negative) (writtenNat n) x := by
  have hchars : ∀ c ∈ writtenNat n, Number.isDecimalChar c = true := by
    intro c hc
    simp [Number.isDecimalChar, isDigit_of_mem_writtenNat hc]
  exact takesBeforeEnd_of_all (P := fun p x => Number.decimal? negative p = some x)
    (fun _ _ _ => reads_decimal) (fun _ hrest _ hc => (hrest.not_number hc).1) hchars
    (decimal?_writtenNat negative hx)

theorem takesBeforeEnd_magnitude (negative : Bool) {n : Nat} {x : Number}
    (hx : Number.ofMagnitude negative n = some x) :
    TakesBeforeEnd (magnitude negative) (writtenNat n) x := by
  intro rest hrest
  have hdecimal := takesBeforeEnd_decimal negative hx rest hrest
  obtain ⟨c, t, htext⟩ := List.exists_cons_of_ne_nil (Nat.toDigits_ne_nil (n := n) (b := 10))
  -- Behind a zero in front there is no other digit.
  have hzero : c = '0' → t = [] := by
    rintro rfl
    obtain rfl := eq_zero_of_head? (n := n) (by rw [writtenNat, htext]; rfl)
    exact (List.cons.inj htext).2.symm
  rw [writtenNat, htext, List.cons_append] at hdecimal ⊢
  have hc : c.isDigit ∨ c = '.' :=
    .inl (isDigit_of_mem_writtenNat (n := n) (by rw [writtenNat, htext]; exact List.mem_cons_self))
  refine (reads_magnitude_decimal hc fun hc d hd => ?_).mpr ⟨fun hc d hd => ?_, hdecimal⟩
  · obtain rfl := hzero hc
    exact (hrest.not_number hd).2.2
  · obtain rfl := hzero hc
    exact hrest.not_digit hd

/-- An integer of at most 128 bits. -/
def Number.isInteger : Number → Bool
  | integer n => -(Int.pow 2 127) ≤ n ∧ n < Int.pow 2 128
  | _ => false

theorem Number.isInteger_iff {n : Int} :
    (integer n).isInteger = true ↔ -(Nat.pow 2 127 : Nat) ≤ n ∧ n < (Nat.pow 2 128 : Nat) := by
  have hlow : Int.pow 2 127 = (Nat.pow 2 127 : Nat) := by decide
  have hhigh : Int.pow 2 128 = (Nat.pow 2 128 : Nat) := by decide
  simp only [isInteger, hlow, hhigh, decide_eq_true_eq]

theorem ofMagnitude_natAbs {n : Int} (hn : (Number.integer n).isInteger = true) :
    Number.ofMagnitude (n < 0) n.natAbs = some (.integer n) := by
  rw [Number.isInteger_iff] at hn
  unfold Number.ofMagnitude
  generalize Nat.pow 2 127 = low at hn
  generalize Nat.pow 2 128 = high at hn
  by_cases hneg : n < 0
  · rw [if_pos (by simpa using hneg), if_pos (by omega), Int.ofNat_natAbs_of_nonpos (by omega),
      Int.neg_neg]
  · rw [if_neg (by simpa using hneg), if_pos (by omega), Int.natAbs_of_nonneg (by omega)]

theorem isNumber_written {n : Number} (hn : n.isInteger = true) : IsNumber n.written n := by
  cases n with
  | integer n =>
    have hmagnitude := takesBeforeEnd_magnitude (n < 0) (ofMagnitude_natAbs hn)
    obtain ⟨c, t, htext⟩ := List.exists_cons_of_ne_nil
      (Nat.toDigits_ne_nil (n := n.natAbs) (b := 10))
    have hc : c.isDigit = true :=
      isDigit_of_mem_writtenNat (n := n.natAbs) (by simp [writtenNat, htext])
    by_cases hneg : n < 0
    · refine ⟨⟨'-', by simp [Number.written, writtenInt, signed, hneg], by decide⟩, ?_⟩
      intro rest hrest
      have hread := hmagnitude rest hrest
      simp only [hneg, decide_true] at hread
      simp [Number.written, writtenInt, signed, hneg, signedMagnitude, hread]
    · refine ⟨⟨c, by simp [Number.written, writtenInt, signed, hneg, writtenNat, htext], ?_⟩, ?_⟩
      · simp [startsNumber, hc]
      intro rest hrest
      have hread := hmagnitude rest hrest
      simp only [hneg, decide_false] at hread
      have hsign : c ≠ '+' ∧ c ≠ '-' := by
        constructor <;>
          · rintro rfl
            exact absurd hc (by decide)
      simp only [writtenNat, htext, List.cons_append] at hread
      simp [Number.written, writtenInt, signed, hneg, writtenNat, htext, signedMagnitude, hsign,
        hread]
  | _ => cases hn

theorem writtenItems_eq (items : List Value) : writtenItems items = items.map Value.written := by
  induction items with
  | nil => rfl
  | cons v items ih => rw [writtenItems, ih, List.map_cons]

theorem writtenMembers_eq (members : List (Text × Value)) :
    writtenMembers members = members.map writtenMember := by
  induction members with
  | nil => rfl
  | cons m members ih => rw [writtenMembers, ih, List.map_cons]

/-- Elements without gaps around them. -/
def unspaced {ι : Type} (is : List ι) : List (Spaced ι) :=
  is.map fun i => ⟨[], i, []⟩

theorem isLaidOut_unspaced {ι : Type} (is : List ι) : IsLaidOut (unspaced is) [] := by
  refine ⟨fun i hi => ?_, .inl .nil, fun _ => .nil⟩
  obtain ⟨i, -, rfl⟩ := List.mem_map.mp hi
  exact ⟨.nil, .nil⟩

theorem map_text_unspaced {ι : Type} (contentText : ι → Text) (is : List ι) :
    (unspaced is).map (Spaced.text contentText) = is.map contentText := by
  simp [unspaced, Spaced.text]

theorem spells_items {items : List Value} (h : ∀ v ∈ items, Spells v.written v) :
    Spells (Value.array items).written (.array items) := by
  have hspells := Spells.array (isLaidOut_unspaced (items.map fun v => Item.mk v.written v))
    (by simpa [unspaced] using h)
  rw [map_text_unspaced] at hspells
  simpa [Value.written, writtenItems_eq, enclosed, unspaced, Function.comp_def] using hspells

theorem spells_members {members : List (Text × Value)} (h : ∀ m ∈ members, Spells m.2.written m.2) :
    Spells (Value.object members).written (.object members) := by
  let entry (m : Text × Value) : Entry := ⟨writtenString m.1, m.1, [], [], ⟨m.2.written, m.2⟩⟩
  have hnamed : ∀ e ∈ unspaced (members.map entry), e.content.IsNamed := by
    simp only [unspaced, List.forall_mem_map]
    exact fun m _ => ⟨(isString_written m.1).isKey, .nil, .nil⟩
  have hitems : ∀ e ∈ unspaced (members.map entry),
      Spells e.content.item.text e.content.item.value := by
    simp only [unspaced, List.forall_mem_map]
    exact h
  have hspells := Spells.object (isLaidOut_unspaced _) hnamed hitems
  rw [map_text_unspaced] at hspells
  have htext : (members.map entry).map Entry.text = members.map writtenMember := by
    simp [entry, Entry.text, writtenMember]
  simpa [Value.written, writtenMembers_eq, enclosed, unspaced, entry, htext, Entry.member,
    Function.comp_def] using hspells

mutual

/-- All numbers of a value pass a test. -/
def Value.allNumbers (p : Number → Bool) : Value → Bool
  | .number n => p n
  | .array items => allNumbersOfItems p items
  | .object members => allNumbersOfMembers p members
  | _ => true

def allNumbersOfItems (p : Number → Bool) : List Value → Bool
  | [] => true
  | v :: items => v.allNumbers p && allNumbersOfItems p items

def allNumbersOfMembers (p : Number → Bool) : List (Text × Value) → Bool
  | [] => true
  | (_, v) :: members => v.allNumbers p && allNumbersOfMembers p members

end

variable {p : Number → Bool}

@[simp] theorem Value.allNumbers_number (n : Number) :
    (Value.number n).allNumbers p = p n := by
  rw [allNumbers]

@[simp] theorem Value.allNumbers_string (t : Text) : (Value.string t).allNumbers p = true := by
  simp [allNumbers]

@[simp] theorem Value.allNumbers_object (members : List (Text × Value)) :
    (Value.object members).allNumbers p = members.all fun m => m.2.allNumbers p := by
  rw [allNumbers]
  induction members with
  | nil => rfl
  | cons m members ih => simp [allNumbersOfMembers, ih]

mutual

/-- A value whose numbers are integers of at most 128 bits is spelled by what is written for it. -/
theorem Value.spells_written : (v : Value) → v.allNumbers Number.isInteger = true →
    Spells v.written v
  | .null, _ => .null
  | .bool true, _ => .yes
  | .bool false, _ => .no
  | .number _, h => .number (isNumber_written h)
  | .string t, _ => .string (isString_written t)
  | .array items, h => spells_items (spells_writtenItems items h)
  | .object members, h => spells_members (spells_writtenMembers members h)

theorem spells_writtenItems : (items : List Value) →
    allNumbersOfItems Number.isInteger items = true → ∀ v ∈ items, Spells v.written v
  | [], _ => nofun
  | v :: items, h => by
    obtain ⟨hv, hitems⟩ := Bool.and_eq_true_iff.mp h
    exact List.forall_mem_cons.mpr ⟨v.spells_written hv, spells_writtenItems items hitems⟩

theorem spells_writtenMembers : (members : List (Text × Value)) →
    allNumbersOfMembers Number.isInteger members = true → ∀ m ∈ members, Spells m.2.written m.2
  | [], _ => nofun
  | (_, v) :: members, h => by
    obtain ⟨hv, hmembers⟩ := Bool.and_eq_true_iff.mp h
    exact List.forall_mem_cons.mpr ⟨v.spells_written hv, spells_writtenMembers members hmembers⟩

end

theorem Value.isDocument_written {v : Value} (h : v.allNumbers Number.isInteger = true) :
    IsDocument v.written v :=
  ⟨[], v.written, [], .nil, v.spells_written h, rfl, by simp⟩

end Keystroke.Json5
