import Keystroke.Proofs.Columns
import Keystroke.Proofs.Places

namespace Keystroke

namespace Text

variable {s t : Text} {n : Nat}

theorem cut_of_width_le (h : width t ≤ n) : cut t n = (t, []) := by
  induction t generalizing n with
  | nil => rfl
  | cons c t ih =>
    rw [width_cons] at h
    have hc : c.utf8Size ≤ n := by omega
    have ht : cut t (n - c.utf8Size) = (t, []) := ih (by omega)
    rw [cut, if_pos hc, ht]

theorem IsBoundary.width_cut (h : IsBoundary t n) : width (cut t n).1 = n := by
  obtain ⟨before, after, rfl, rfl⟩ := h
  rw [cut_width]

/-- Of two beginnings of a text the wider one goes on from the other. -/
theorem exists_append_of_width_le {s' t' : Text} (h : s ++ t = s' ++ t')
    (hw : width s ≤ width s') : ∃ m, s' = s ++ m ∧ t = m ++ t' := by
  rcases List.append_eq_append_iff.mp h with ⟨m, hs', ht⟩ | ⟨m, hs, ht'⟩
  · exact ⟨m, hs', ht⟩
  · have hlength := length_le_width m
    rw [hs, width_append] at hw
    obtain rfl : m = [] := List.length_eq_zero_iff.mp (by omega)
    exact ⟨[], by rw [hs, List.append_nil, List.append_nil], ht'.symm⟩

/-- A boundary of a text that falls into a part of it is a boundary of this part. -/
theorem IsBoundary.within {above below : Text}
    (h : IsBoundary (above ++ (t ++ below)) (width above + n)) (hn : n ≤ width t) :
    IsBoundary t n := by
  obtain ⟨before, after, hparts, hw⟩ := h
  obtain ⟨m, rfl, hrest⟩ := exists_append_of_width_le hparts (by omega)
  rw [width_append] at hw
  obtain ⟨rest, rfl, -⟩ := exists_append_of_width_le hrest.symm (by omega)
  exact ⟨m, rest, rfl, by omega⟩

/-- The spaces and tabs at the start of a part that ends at a caret are those of the whole text, as
far as the caret. -/
theorem leadingIndent_eq_cut (front back : Text) :
    leadingIndent front = (cut (leadingIndent (front ++ back)) (width front)).1 := by
  by_cases hall : front.IsIndent
  · rw [leadingIndent_append hall, cut_width, leadingIndent_of_isIndent hall]
  · -- The spaces and tabs end before the caret, and the cut takes nothing off.
    have hsame : leadingIndent (front ++ back) = leadingIndent front := by
      unfold leadingIndent
      rw [List.takeWhile_append, if_neg]
      intro hlength
      have hfront := (List.takeWhile_prefix isIndentChar).eq_of_length hlength
      exact hall (hfront ▸ isIndent_leadingIndent front)
    have hle : width (leadingIndent front) ≤ width front := by
      obtain ⟨rest, hrest⟩ := List.takeWhile_prefix (l := front) isIndentChar
      have hw := congrArg width hrest
      rw [width_append] at hw
      exact Nat.le.intro hw
    rw [hsame, cut_of_width_le hle]

end Text

/-- The first place from `low` on at which a test fails, found by halving what is left below
`high`. -/
def bisect (test : Nat → Bool) (low high : Nat) : Nat :=
  if low < high then
    let middle := (low + high) / 2
    if test middle then bisect test (middle + 1) high else bisect test low middle
  else low
termination_by high - low

theorem bisect_eq {test : Nat → Bool} {low high n : Nat} (hlow : low ≤ n) (hhigh : n ≤ high)
    (htest : ∀ i < high, test i = true ↔ i < n) : bisect test low high = n := by
  fun_induction bisect test low high with
  | case1 low high hlt middle hmiddle ih =>
    have hbefore : middle < n := (htest middle (by omega)).mp hmiddle
    exact ih hbefore hhigh htest
  | case2 low high hlt middle hmiddle ih =>
    have hbehind : n ≤ middle := by
      by_contra h
      exact hmiddle ((htest middle (by omega)).mpr (by omega))
    exact ih hlow hbehind fun i hi => htest i (by omega)
  | case3 low high hlt => omega

section Starts

variable {t l : Text} {offset : Nat} {upper lower lines : List (Text × LineEnding)}
  {e : LineEnding}

theorem map_start_getElem?_placeLines (n : Nat) (lines : List (Text × LineEnding)) (row : Nat) :
    (placeLines n lines)[row]?.map Line.start =
      lines[row]?.map fun _ => n + Text.width ((lines.take row).flatMap withEnding) := by
  induction lines generalizing n row with
  | nil => rfl
  | cons u rest ih =>
    cases row with
    | zero => rfl
    | succ row =>
      rw [placeLines, List.getElem?_cons_succ, ih, List.getElem?_cons_succ, List.take_succ_cons,
        width_flatMap_cons]
      simp only [Nat.add_assoc]

theorem Document.lineStart?_ofText (t : Text) (row : Nat) :
    (ofText t).lineStart? row =
      (lineTexts t)[row]?.map fun _ =>
        Text.width (((lineTexts t).take row).flatMap withEnding) := by
  have h := map_start_getElem?_placeLines 0 (lineTexts t) row
  simp only [Nat.zero_add] at h
  exact h

theorem Document.lineCount_ofText (t : Text) : (ofText t).lineCount = (lineTexts t).length :=
  length_placeLines 0 (lineTexts t)

namespace FallsInto

theorem lineStart? (h : FallsInto t offset upper l e lower) :
    (Document.ofText t).lineStart? upper.length =
      some (Text.width (upper.flatMap withEnding)) := by
  rw [Document.lineStart?_ofText, h.lines]
  simp

theorem lineText? (h : FallsInto t offset upper l e lower) :
    (Document.ofText t).lineText? upper.length = some l := by
  rw [lineText?_ofText, h.lines]
  simp

/-- The rows that start at or before an offset are those down to the one into which it falls. -/
theorem start_le_iff (h : FallsInto t offset upper l e lower) {row start : Nat}
    (hstart : (Document.ofText t).lineStart? row = some start) :
    start ≤ offset ↔ row ≤ upper.length := by
  rw [Document.lineStart?_ofText] at hstart
  obtain ⟨u, hu, rfl⟩ := Option.map_eq_some_iff.mp hstart
  have hlt : row < (lineTexts t).length := (List.getElem?_eq_some_iff.mp hu).1
  rw [h.lines] at hlt ⊢
  by_cases hrow : row ≤ upper.length
  · have habove : Text.width ((upper.take row).flatMap withEnding) ≤
        Text.width (upper.flatMap withEnding) := by
      conv_rhs => rw [← List.take_append_drop row upper, List.flatMap_append, Text.width_append]
      omega
    have hbegin := h.start
    rw [List.take_append_of_le_length hrow]
    omega
  · -- A row further down exists only below a line with an ending, where the offset stops short.
    obtain ⟨m, rfl⟩ := Nat.exists_eq_add_of_lt (Nat.lt_of_not_le hrow)
    have hlower : lower ≠ [] := by
      rintro rfl
      rw [List.length_append, List.length_singleton] at hlt
      omega
    have hstop := h.stop hlower
    have htake : (upper ++ (l, e) :: lower).take (upper.length + m + 1) =
        upper ++ (l, e) :: lower.take m := by
      rw [Nat.add_assoc, List.take_length_add_append, List.take_succ_cons]
    rw [htake, List.flatMap_append, Text.width_append, width_flatMap_cons]
    omega

theorem isBoundary_column (h : FallsInto t offset upper l e lower) (hb : Text.IsBoundary t offset)
    (hcolumn : offset - Text.width (upper.flatMap withEnding) ≤ Text.width l) :
    Text.IsBoundary l (offset - Text.width (upper.flatMap withEnding)) := by
  have hparts : t = upper.flatMap withEnding ++ (l ++ (e.text ++ lower.flatMap withEnding)) := by
    conv_lhs => rw [← (dividesInto_lineTexts t).flatMap_withEnding, h.lines]
    simp [withEnding]
  have hoffset : offset = Text.width (upper.flatMap withEnding) +
      (offset - Text.width (upper.flatMap withEnding)) := by
    have hstart := h.start
    omega
  rw [hparts, hoffset] at hb
  exact hb.within hcolumn

theorem width_cut (h : FallsInto t offset upper l e lower) (hb : Text.IsBoundary t offset) :
    Text.width (Text.cut l (offset - Text.width (upper.flatMap withEnding))).1 =
      min (offset - Text.width (upper.flatMap withEnding)) (Text.width l) := by
  by_cases hcolumn : offset - Text.width (upper.flatMap withEnding) ≤ Text.width l
  · rw [(h.isBoundary_column hb hcolumn).width_cut, Nat.min_eq_left hcolumn]
  · have hle : Text.width l ≤ offset - Text.width (upper.flatMap withEnding) := by omega
    rw [Text.cut_of_width_le hle, Nat.min_eq_right hle]

theorem positionOf (h : FallsInto t offset upper l e lower) (hb : Text.IsBoundary t offset) :
    (Document.ofText t).positionOf offset =
      .ok ⟨upper.length, offset - Text.width (upper.flatMap withEnding)⟩ := by
  simp only [Document.positionOf, h.rowOf hb, ok_bind, h.line, pure_eq_ok]

end FallsInto

end Starts

/-- The position stands before another one. -/
def Position.Before (p q : Position) : Prop :=
  p.row < q.row ∨ (p.row = q.row ∧ p.column < q.column)

namespace Document

theorem positionOf_before {t : Text} {offset offset' : Nat} (hb : Text.IsBoundary t offset)
    (hb' : Text.IsBoundary t offset') (hlt : offset < offset') :
    ∃ p q, (ofText t).positionOf offset = .ok p ∧ (ofText t).positionOf offset' = .ok q ∧
      p.Before q := by
  obtain ⟨upper, l, e, lower, h⟩ := exists_fallsInto t offset
  obtain ⟨upper', l', e', lower', h'⟩ := exists_fallsInto t offset'
  have hstart := h.start
  have hrow : upper.length ≤ upper'.length := (h'.start_le_iff h.lineStart?).mp (by omega)
  refine ⟨_, _, h.positionOf hb, h'.positionOf hb', ?_⟩
  rcases Nat.lt_or_eq_of_le hrow with hless | hsame
  · exact Or.inl hless
  · -- In one row, both columns count from the same start.
    have hparts : upper ++ (l, e) :: lower = upper' ++ (l', e') :: lower' :=
      h.lines.symm.trans h'.lines
    obtain ⟨rfl, -⟩ := List.append_inj hparts hsame
    refine Or.inr ⟨rfl, ?_⟩
    simp only
    omega

/-- An offset between two characters has the last row that starts at or before it, which halving the
rows finds as well. Its column counts from there, positions are in the order of their offsets, and
the line of the row is divided at the column, or at its end if the column lies behind it. The
indentation there is that of the line, as far as the division. -/
theorem position_of_boundary (t : Text) {offset : Nat} (hb : Text.IsBoundary t offset) :
    let d := ofText t
    ∃ row column start line front back indentation,
      d.rowOf offset = .ok row ∧ d.lineStart? row = some start ∧ d.lineText? row = some line ∧
      start ≤ offset ∧
      (∀ row' start', d.lineStart? row' = some start' → start' ≤ offset → row' ≤ row) ∧
      bisect (fun row => (d.lineStart? row).any (· ≤ offset)) 0 d.lineCount - 1 = row ∧
      d.positionOf offset = .ok ⟨row, column⟩ ∧ start + column = offset ∧
      (∀ offset', Text.IsBoundary t offset' → offset < offset' →
        ∃ p, d.positionOf offset' = .ok p ∧ Position.Before ⟨row, column⟩ p) ∧
      d.splitLineAt offset = .ok (front, back) ∧ front ++ back = line ∧
      Text.width front = min column (Text.width line) ∧
      d.leadingIndentAt offset = .ok indentation ∧
      indentation = (Text.cut (leadingIndent line) (min column (Text.width line))).1 ∧
      indentation <+: front := by
  intro d
  obtain ⟨upper, l, e, lower, h⟩ := exists_fallsInto t offset
  have hstart := h.start
  have hposition := h.positionOf hb
  have hsplit := h.splitLineAt hb
  have hwidth := h.width_cut hb
  have hparts := Text.cut_append l (offset - Text.width (upper.flatMap withEnding))
  obtain ⟨front, back, hcut⟩ : ∃ front back,
      Text.cut l (offset - Text.width (upper.flatMap withEnding)) = (front, back) := ⟨_, _, rfl⟩
  rw [hcut] at hsplit hwidth hparts
  have hindent : d.leadingIndentAt offset = .ok (leadingIndent front) := by
    simp only [leadingIndentAt, d, hsplit, ok_bind, pure_eq_ok]
  have hcount : upper.length + 1 ≤ d.lineCount := by
    rw [lineCount_ofText, h.lines, List.length_append, List.length_cons]
    omega
  have hbisect : bisect (fun row => (d.lineStart? row).any (· ≤ offset)) 0 d.lineCount =
      upper.length + 1 := by
    refine bisect_eq (Nat.zero_le _) hcount fun row hrow => ?_
    obtain ⟨start, hrow⟩ : ∃ start, d.lineStart? row = some start := by
      rw [lineCount_ofText] at hrow
      rw [lineStart?_ofText, List.getElem?_eq_getElem hrow]
      exact ⟨_, rfl⟩
    have hle := h.start_le_iff hrow
    simp only [hrow, Option.any_some, decide_eq_true_eq]
    omega
  refine ⟨upper.length, _, _, l, front, back, _, h.rowOf hb, h.lineStart?, h.lineText?, hstart,
    fun row' start' hrow' hle => (h.start_le_iff hrow').mp hle, ?_, hposition,
    Nat.add_sub_cancel' hstart, ?_, hsplit, hparts, hwidth, hindent, ?_,
    List.takeWhile_prefix isIndentChar⟩
  · rw [hbisect, Nat.add_sub_cancel]
  · intro offset' hb' hlt
    obtain ⟨p, q, hp, hq, hbefore⟩ := positionOf_before hb hb' hlt
    obtain rfl := Except.ok.inj (hp.symm.trans hposition)
    exact ⟨q, hq, hbefore⟩
  · rw [← hwidth, ← hparts]
    exact Text.leadingIndent_eq_cut front back

/-- Between the two characters of an ending, below a line of one character in three bytes. -/
theorem position_of_boundary_ending :
    Text.IsBoundary ['€', '\n', '\t', 'é', '\r', '\n', 'x'] 8 ∧
      (ofText ['€', '\n', '\t', 'é', '\r', '\n', 'x']).positionOf 8 = .ok ⟨1, 4⟩ ∧
      (ofText ['€', '\n', '\t', 'é', '\r', '\n', 'x']).splitLineAt 8 = .ok (['\t', 'é'], []) := by
  have hb : Text.IsBoundary ['€', '\n', '\t', 'é', '\r', '\n', 'x'] 8 :=
    ⟨['€', '\n', '\t', 'é', '\r'], ['\n', 'x'], rfl, rfl⟩
  obtain ⟨row, column, start, line, front, back, -, hrow, hstart, hline, -, -, -, hposition,
    hoffset, -, hsplit, hparts, hwidth, -, -, -⟩ :=
    position_of_boundary ['€', '\n', '\t', 'é', '\r', '\n', 'x'] hb
  obtain rfl : 1 = row := Except.ok.inj hrow
  obtain rfl : 4 = start := Option.some.inj hstart
  obtain rfl : ['\t', 'é'] = line := Option.some.inj hline
  obtain rfl : column = 4 := by omega
  have hline : Text.width front + Text.width back = 3 := by
    rw [← Text.width_append, hparts]
    rfl
  have hfront : Text.width front = 3 := hwidth
  have hback := Text.length_le_width back
  obtain rfl : back = [] := List.length_eq_zero_iff.mp (by omega)
  rw [List.append_nil] at hparts
  exact ⟨hb, hposition, hparts ▸ hsplit⟩

end Document

end Keystroke
