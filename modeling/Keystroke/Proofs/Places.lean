import Keystroke.Proofs.Division

namespace Keystroke

/-- The offset falls into the line `l`, which has `upper` above it and `lower` below it. A line
reaches as far as its ending, and the last one as far as wanted. -/
structure FallsInto (t : Text) (offset : Nat) (upper : List (Text × LineEnding)) (l : Text)
    (e : LineEnding) (lower : List (Text × LineEnding)) : Prop where
  lines : lineTexts t = upper ++ (l, e) :: lower
  start : Text.width (upper.flatMap withEnding) ≤ offset
  stop : lower ≠ [] →
    offset < Text.width (upper.flatMap withEnding) + Text.width l + Text.width e.text

/-- The text of the last of some lines, or nothing if there are none. -/
def lastText (lines : List (Text × LineEnding)) : Text :=
  (lines.getLast?.map (·.1)).getD []

section Falling

variable {t l : Text} {offset : Nat} {upper lower lines : List (Text × LineEnding)}
  {e : LineEnding}

theorem width_flatMap_cons (l : Text) (e : LineEnding) (lines : List (Text × LineEnding)) :
    Text.width (((l, e) :: lines).flatMap withEnding) =
      Text.width l + Text.width e.text + Text.width (lines.flatMap withEnding) := by
  simp [withEnding, Nat.add_assoc]

theorem exists_split_lines (hne : lines ≠ []) (offset : Nat) :
    ∃ upper l e lower, lines = upper ++ (l, e) :: lower ∧
      Text.width (upper.flatMap withEnding) ≤ offset ∧ (lower ≠ [] →
        offset < Text.width (upper.flatMap withEnding) + Text.width l + Text.width e.text) := by
  induction lines generalizing offset with
  | nil => exact absurd rfl hne
  | cons u rest ih =>
    obtain ⟨l, e⟩ := u
    by_cases hhere : rest = [] ∨ offset < Text.width l + Text.width e.text
    · refine ⟨[], l, e, rest, rfl, Nat.zero_le _, fun hrest => ?_⟩
      have hlt := hhere.resolve_left hrest
      rw [List.flatMap_nil, Text.width_nil]
      omega
    · obtain ⟨hrest, hle⟩ := not_or.mp hhere
      obtain ⟨upper, m, f, lower, rfl, hstart, hstop⟩ :=
        ih hrest (offset - (Text.width l + Text.width e.text))
      refine ⟨(l, e) :: upper, m, f, lower, rfl, ?_, fun hlower => ?_⟩
      · rw [width_flatMap_cons]
        omega
      · have hlt := hstop hlower
        rw [width_flatMap_cons]
        omega

theorem exists_fallsInto (t : Text) (offset : Nat) :
    ∃ upper l e lower, FallsInto t offset upper l e lower := by
  have hne : lineTexts t ≠ [] := by
    obtain ⟨upper, l, hlines, -⟩ := (dividesInto_lineTexts t).exists_last
    simp [hlines]
  obtain ⟨upper, l, e, lower, hlines, hstart, hstop⟩ := exists_split_lines hne offset
  exact ⟨upper, l, e, lower, hlines, hstart, hstop⟩

theorem Document.isBoundary_of_rowOf {d : Document} {row : Nat} (h : d.rowOf offset = .ok row) :
    Text.IsBoundary d.text offset := by
  refine Text.isBoundary_iff_splitAt.mpr ?_
  cases hsplit : Text.splitAt d.text offset with
  | error fault => rw [rowOf, hsplit] at h; cases h
  | ok parts => exact ⟨parts, rfl⟩

theorem length_placeLines (n : Nat) (lines : List (Text × LineEnding)) :
    (placeLines n lines).length = lines.length := by
  rw [← List.length_map (f := fun l : Line => (l.text, l.ending)), map_placeLines]

theorem lineText?_ofText (t : Text) (row : Nat) :
    (Document.ofText t).lineText? row = (lineTexts t)[row]?.map (·.1) := by
  rw [Document.lineText?, ← List.getElem?_map, ← List.getElem?_map, Document.ofText,
    map_text_placeLines]

namespace FallsInto

/-- The lines that start at or before the offset are those down to the line into which it falls. -/
theorem length_takeWhile (h : FallsInto t offset upper l e lower) :
    ((placeLines 0 (lineTexts t)).takeWhile (·.start ≤ offset)).length = upper.length + 1 := by
  have hstart := h.start
  have hupper : ∀ u ∈ placeLines 0 upper, decide (u.start ≤ offset) = true := by
    intro u hu
    obtain ⟨above, below, hparts, hplace⟩ := exists_of_mem_placeLines hu
    rw [hparts, List.flatMap_append, Text.width_append] at hstart
    rw [decide_eq_true_eq, hplace]
    omega
  rw [h.lines, placeLines_append, List.takeWhile_append_of_pos hupper, List.length_append,
    length_placeLines, placeLines, List.takeWhile_cons_of_pos (by simpa using hstart),
    List.length_cons]
  cases lower with
  | nil => rfl
  | cons u lower =>
    have hstop := h.stop (List.cons_ne_nil u lower)
    rw [placeLines, List.takeWhile_cons_of_neg (by simpa using hstop)]
    rfl

theorem rowOf (h : FallsInto t offset upper l e lower) (hb : Text.IsBoundary t offset) :
    (Document.ofText t).rowOf offset = .ok upper.length := by
  have hrow : (Document.ofText t).rowOf offset = _ := Document.rowOf_ok hb
  rw [hrow, Document.ofText, h.length_takeWhile]
  rfl

theorem line (h : FallsInto t offset upper l e lower) :
    (Document.ofText t).line upper.length =
      ⟨Text.width (upper.flatMap withEnding), l, e⟩ := by
  have hlength := length_placeLines 0 upper
  have hget : (placeLines 0 (lineTexts t))[upper.length]? =
      some ⟨Text.width (upper.flatMap withEnding), l, e⟩ := by
    rw [h.lines, placeLines_append, List.getElem?_append_right (Nat.le_of_eq hlength), hlength]
    simp [placeLines]
  rw [Document.line, Document.ofText, hget, Option.getD_some]

theorem splitLineAt (h : FallsInto t offset upper l e lower) (hb : Text.IsBoundary t offset) :
    (Document.ofText t).splitLineAt offset =
      .ok (Text.cut l (offset - Text.width (upper.flatMap withEnding))) := by
  simp only [Document.splitLineAt, h.rowOf hb, ok_bind, h.line, pure_eq_ok]

theorem lineText?_above (h : FallsInto t offset upper l e lower) :
    (if upper.length = 0 then []
      else ((Document.ofText t).lineText? (upper.length - 1)).getD []) = lastText upper := by
  rw [lineText?_ofText, h.lines]
  cases hupper : upper.length with
  | zero =>
    obtain rfl := List.length_eq_zero_iff.mp hupper
    rfl
  | succ n =>
    have hlt : n < upper.length := by omega
    rw [if_neg (Nat.succ_ne_zero n), Nat.add_sub_cancel, List.getElem?_append_left hlt, lastText,
      List.getLast?_eq_getElem?, hupper]
    rfl

end FallsInto

end Falling

end Keystroke
