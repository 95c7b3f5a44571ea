import Keystroke.Proofs.Spelling

namespace Keystroke.Json5

/-- A value and a text that spells it. -/
structure Item where
  text : Text
  value : Value

/-- A key, a colon and a value, with gaps between them. -/
structure Entry where
  keyText : Text
  key : Text
  afterKey : Text
  beforeItem : Text
  item : Item

namespace Entry

def text (e : Entry) : Text :=
  e.keyText ++ (e.afterKey ++ ':' :: (e.beforeItem ++ e.item.text))

def member (e : Entry) : Text × Value :=
  (e.key, e.item.value)

structure IsNamed (e : Entry) : Prop where
  key : IsKey e.keyText e.key
  afterKey : IsGap e.afterKey
  beforeItem : IsGap e.beforeItem

end Entry

/-- Elements between the signs of an array or object. -/
def enclosed (opening closing : Char) (elements : List Text) (tail : Text) : Text :=
  opening :: (separated elements ++ (tail ++ [closing]))

/-- The text spells the value. -/
inductive Spells : Text → Value → Prop
  | null : Spells ['n', 'u', 'l', 'l'] .null
  | yes : Spells ['t', 'r', 'u', 'e'] (.bool true)
  | no : Spells ['f', 'a', 'l', 's', 'e'] (.bool false)
  | number {t : Text} {n : Number} (h : IsNumber t n) : Spells t (.number n)
  | string {t s : Text} (h : IsString t s) : Spells t (.string s)
  | array {items : List (Spaced Item)} {tail : Text} (hlayout : IsLaidOut items tail)
      (hitems : ∀ i ∈ items, Spells i.content.text i.content.value) :
      Spells (enclosed '[' ']' (items.map (Spaced.text Item.text)) tail)
        (.array (items.map fun i => i.content.value))
  | object {entries : List (Spaced Entry)} {tail : Text} (hlayout : IsLaidOut entries tail)
      (hnamed : ∀ e ∈ entries, e.content.IsNamed)
      (hitems : ∀ e ∈ entries, Spells e.content.item.text e.content.item.value) :
      Spells (enclosed '\x7b' '\x7d' (entries.map (Spaced.text Entry.text)) tail)
        (.object (entries.map fun e => e.content.member))

/-- The text is a value with blanks and comments around it. -/
def IsDocument (t : Text) (v : Value) : Prop :=
  ∃ lead core tail, IsGap lead ∧ Spells core v ∧ afterBlanks .between tail = .ok [] ∧
    t = lead ++ (core ++ tail)

/-- A kind of value is told by the first character. -/
def StartsValue (v : Value) (c : Char) : Prop :=
  match v with
  | .null => c = 'n'
  | .bool _ => c = 't' ∨ c = 'f'
  | .number _ => startsNumber c = true
  | .string _ => c = '"' ∨ c = '\x27'
  | .array _ => c = '['
  | .object _ => c = '\x7b'

theorem Spells.starts {t : Text} {v : Value} (h : Spells t v) :
    ∃ c u, t = c :: u ∧ StartsValue v c := by
  cases h with
  | null => exact ⟨_, _, rfl, rfl⟩
  | yes => exact ⟨_, _, rfl, .inl rfl⟩
  | no => exact ⟨_, _, rfl, .inr rfl⟩
  | number h =>
    obtain ⟨⟨c, hhead, hc⟩, -⟩ := h
    obtain ⟨u, rfl⟩ := List.head?_eq_some_iff.mp hhead
    exact ⟨c, u, rfl, hc⟩
  | string h =>
    obtain ⟨⟨c, hhead, hc⟩, -⟩ := h
    obtain ⟨u, rfl⟩ := List.head?_eq_some_iff.mp hhead
    exact ⟨c, u, rfl, hc⟩
  | array => exact ⟨_, _, rfl, rfl⟩
  | object => exact ⟨_, _, rfl, rfl⟩

theorem StartsValue.isSolid {v : Value} {c : Char} (h : StartsValue v c) :
    IsSolid c ∧ c ∉ [']', '\x7d'] := by
  cases v with
  | null | array | object =>
    cases h
    exact ⟨isSolid_visible (by decide), by decide⟩
  | bool | string => rcases h with rfl | rfl <;> exact ⟨isSolid_visible (by decide), by decide⟩
  | number =>
    refine ⟨isSolid_startsNumber h, fun hc => ?_⟩
    simp only [List.mem_cons, List.not_mem_nil, or_false] at hc
    rcases hc with rfl | rfl <;> simp [StartsValue, startsNumber] at h

theorem startsValue_n {v : Value} : StartsValue v 'n' ↔ v = .null := by
  cases v <;> simp [StartsValue, startsNumber]

theorem Spells.startsElement {t : Text} {v : Value} (h : Spells t v) {c : Char}
    (hc : c ∈ [']', '\x7d']) : StartsElement c t := by
  obtain ⟨d, u, rfl, hd⟩ := h.starts
  refine ⟨d, rfl, hd.isSolid.1, ?_⟩
  rintro rfl
  exact hd.isSolid.2 hc

theorem length_le_separated {t : Text} {ts : List Text} (h : t ∈ ts) :
    t.length ≤ (separated ts).length := by
  fun_induction separated ts with
  | case1 => cases h
  | case2 u => rw [List.mem_singleton.mp h]
  | case3 u rest _ ih =>
    simp only [List.length_append, List.length_cons]
    rcases List.mem_cons.mp h with rfl | h
    · omega
    · have := ih h
      omega

theorem length_lt_enclosed {ι : Type} {contentText : ι → Text} {is : List (Spaced ι)}
    {opening closingSign : Char} {tail : Text} {i : Spaced ι} (h : i ∈ is) :
    (contentText i.content).length + 1 <
      (enclosed opening closingSign (is.map (Spaced.text contentText)) tail).length := by
  have := length_le_separated (List.mem_map_of_mem (f := Spaced.text contentText) h)
  simp only [Spaced.text, List.length_append] at this
  simp only [enclosed, List.length_cons, List.length_append, List.length_nil]
  omega

end Keystroke.Json5
