import Keystroke.Proofs.Answer

namespace Keystroke

/-- No line ends within the text. -/
def Text.IsOneLine (t : Text) : Prop :=
  ∀ c ∈ t, c ≠ '\n' ∧ c ≠ '\r'

/-- The place between two texts divides a line ending. -/
def InsideEnding (before after : Text) : Prop :=
  before.getLast? = some '\r' ∧ after.head? = some '\n'

namespace LineEnding

/-- Lines one after another, with the ending between them. -/
def joined (d : LineEnding) (lines : List Text) : Text :=
  d.text.intercalate lines

/-- Lines one after another, each with the ending. -/
def above (d : LineEnding) (lines : List Text) : Text :=
  lines.flatMap (· ++ d.text)

/-- Lines that have the ending, but for the last one. -/
def ended (d : LineEnding) : List Text → List (Text × LineEnding)
  | [] => []
  | [l] => [(l, .absent)]
  | l :: rest => (l, d) :: d.ended rest

/-- No line of the text has another ending. -/
def Delimits (d : LineEnding) (t : Text) : Prop :=
  ∃ lines, lines ≠ [] ∧ (∀ l ∈ lines, Text.IsOneLine l) ∧ t = d.joined lines

variable {d : LineEnding} {lines upper lower : List Text} {l front back before after t : Text}

theorem width_text_pos (hd : d ≠ .absent) : 0 < Text.width d.text := by
  cases d with
  | absent => exact absurd rfl hd
  | lineFeed | carriageReturn | both => decide

@[simp] theorem joined_singleton (d : LineEnding) (l : Text) : d.joined [l] = l := by
  simp [joined]

theorem joined_cons (d : LineEnding) (l : Text) {rest : List Text} (hrest : rest ≠ []) :
    d.joined (l :: rest) = l ++ (d.text ++ d.joined rest) := by
  simp [joined, List.intercalate_cons_of_ne_nil hrest]

theorem joined_append (d : LineEnding) (upper : List Text) {lower : List Text}
    (hlower : lower ≠ []) :
    d.joined (upper ++ lower) = d.above upper ++ d.joined lower := by
  induction upper with
  | nil => rfl
  | cons l upper ih =>
    have hne : upper ++ lower ≠ [] := List.append_ne_nil_of_right_ne_nil upper hlower
    rw [List.cons_append, joined_cons d l hne, ih]
    simp [above]

theorem joined_append_cons (d : LineEnding) (front back : Text) (lower : List Text) :
    d.joined ((front ++ back) :: lower) = front ++ d.joined (back :: lower) := by
  cases lower with
  | nil => simp
  | cons m lower =>
    have hne : m :: lower ≠ [] := List.cons_ne_nil m lower
    rw [joined_cons d _ hne, joined_cons d _ hne, List.append_assoc]

/-- A text of lines, at a place in one of them. -/
theorem joined_split (d : LineEnding) (upper : List Text) (front back : Text) (lower : List Text) :
    d.joined (upper ++ (front ++ back) :: lower) =
      d.above upper ++ front ++ d.joined (back :: lower) := by
  rw [joined_append d upper (List.cons_ne_nil _ lower), joined_append_cons, List.append_assoc]

theorem ended_cons (d : LineEnding) (l : Text) {rest : List Text} (hrest : rest ≠ []) :
    d.ended (l :: rest) = (l, d) :: d.ended rest := by
  cases rest with
  | nil => exact absurd rfl hrest
  | cons m rest => rfl

theorem map_fst_ended (d : LineEnding) (lines : List Text) : (d.ended lines).map (·.1) = lines := by
  induction lines with
  | nil => rfl
  | cons l rest ih =>
    cases rest with
    | nil => rfl
    | cons m rest => rw [ended_cons d l (List.cons_ne_nil m rest), List.map_cons, ih]

end LineEnding

section Texts

variable {d e : LineEnding} {lines : List Text} {l m t : Text} {rest : List (Text × LineEnding)}

theorem lineTexts_char {c : Char} (hc : c ≠ '\n' ∧ c ≠ '\r') (t : Text) :
    lineTexts (c :: t) = extendFirst c (lineTexts t) := by
  rw [lineTexts]
  · simp [hc.2]
  · simp [hc.2]
  · simp [hc.1]

/-- What is put in front of a text extends its first line. -/
theorem lineTexts_append (hl : l.IsOneLine) (ht : lineTexts t = (m, e) :: rest) :
    lineTexts (l ++ t) = (l ++ m, e) :: rest := by
  induction l with
  | nil => exact ht
  | cons c l ih =>
    have hl' : Text.IsOneLine l := fun x hx => hl x (by simp [hx])
    rw [List.cons_append, lineTexts_char (hl c (by simp)), ih hl']
    rfl

/-- A carriage return is an ending of its own unless a line feed follows. -/
theorem lineTexts_ending (hd : d ≠ .absent)
    (ht : d = .carriageReturn → t.head? ≠ some '\n') :
    lineTexts (d.text ++ t) = ([], d) :: lineTexts t := by
  cases d with
  | lineFeed => rfl
  | both => rfl
  | absent => exact absurd rfl hd
  | carriageReturn =>
    have hhead := ht rfl
    cases t with
    | nil => rfl
    | cons c t =>
      have hc : c ≠ '\n' := by simpa using hhead
      simp only [LineEnding.text, List.singleton_append]
      rw [lineTexts]
      simpa using hc

theorem LineEnding.head?_joined_ne (hl : l.IsOneLine) (hd : d = .carriageReturn) :
    (d.joined (l :: lines)).head? ≠ some '\n' := by
  subst hd
  cases lines with
  | nil =>
    rw [joined_singleton]
    intro hhead
    exact (hl '\n' (List.mem_of_mem_head? hhead)).1 rfl
  | cons m lines =>
    rw [joined_cons _ l (List.cons_ne_nil m lines)]
    cases l with
    | nil => simp [LineEnding.text]
    | cons c l => simpa using (hl c (by simp)).1

theorem lineTexts_joined (hd : d ≠ .absent) (hne : lines ≠ [])
    (hlines : ∀ l ∈ lines, Text.IsOneLine l) : lineTexts (d.joined lines) = d.ended lines := by
  induction lines with
  | nil => exact absurd rfl hne
  | cons l rest ih =>
    have hl : l.IsOneLine := hlines l (by simp)
    cases rest with
    | nil => simpa [LineEnding.ended] using lineTexts_append (t := []) hl rfl
    | cons m rest =>
      have hrest := ih (List.cons_ne_nil m rest) (fun x hx => hlines x (by simp [hx]))
      have hm : m.IsOneLine := hlines m (by simp)
      have hending : lineTexts (d.text ++ d.joined (m :: rest)) = _ :=
        lineTexts_ending hd (LineEnding.head?_joined_ne hm)
      rw [LineEnding.joined_cons d l (List.cons_ne_nil m rest), lineTexts_append hl hending, hrest,
        List.append_nil, LineEnding.ended_cons d l (List.cons_ne_nil m rest)]

theorem map_text_placeLines (n : Nat) (lines : List (Text × LineEnding)) :
    (placeLines n lines).map Line.text = lines.map (·.1) := by
  induction lines generalizing n with
  | nil => rfl
  | cons l rest ih => rw [placeLines, List.map_cons, ih, List.map_cons]

/-- The line of a row starts after the lines above it. -/
theorem getElem?_placeLines (d : LineEnding) (upper : List Text) (l : Text) (lower : List Text)
    (n : Nat) :
    ∃ e, (placeLines n (d.ended (upper ++ l :: lower)))[upper.length]? =
      some ⟨n + Text.width (d.above upper), l, e⟩ := by
  induction upper generalizing n with
  | nil => cases lower <;> exact ⟨_, rfl⟩
  | cons u upper ih =>
    obtain ⟨e, he⟩ := ih (n + Text.width u + Text.width d.text)
    refine ⟨e, ?_⟩
    rw [List.cons_append, LineEnding.ended_cons d u (by simp), placeLines, List.length_cons,
      List.getElem?_cons_succ, he]
    simp [LineEnding.above, Nat.add_assoc]

/-- The lines that start at or before a place are those down to the line into which it falls. -/
theorem length_takeWhile_placeLines (hd : d ≠ .absent) (upper : List Text) (front back : Text)
    (lower : List Text) (n : Nat) :
    ((placeLines n (d.ended (upper ++ (front ++ back) :: lower))).takeWhile
      (·.start ≤ n + Text.width (d.above upper ++ front))).length = upper.length + 1 := by
  induction upper generalizing n with
  | nil =>
    cases lower with
    | nil => simp [LineEnding.ended, LineEnding.above, placeLines]
    | cons m lower =>
      have hpos := LineEnding.width_text_pos hd
      have hnext : ¬ n + Text.width (front ++ back) + Text.width d.text ≤
          n + Text.width (d.above [] ++ front) := by
        simp only [Text.width_append, LineEnding.above, List.flatMap_nil, Text.width_nil]
        omega
      obtain ⟨e, rest, hrest⟩ : ∃ e rest, d.ended (m :: lower) = (m, e) :: rest := by
        cases lower <;> exact ⟨_, _, rfl⟩
      rw [List.nil_append, LineEnding.ended_cons d _ (List.cons_ne_nil m lower), hrest, placeLines,
        placeLines, List.takeWhile_cons_of_pos (by simp),
        List.takeWhile_cons_of_neg (by simpa using hnext)]
      rfl
  | cons u upper ih =>
    have hn := ih (n + Text.width u + Text.width d.text)
    have hwidth : n + Text.width (d.above (u :: upper) ++ front) =
        n + Text.width u + Text.width d.text + Text.width (d.above upper ++ front) := by
      simp [LineEnding.above]
      omega
    rw [List.cons_append, LineEnding.ended_cons d u (by simp), placeLines,
      List.takeWhile_cons_of_pos (by simp), List.length_cons, hwidth, hn]
    rfl

end Texts

namespace Document

variable {d : LineEnding} {lines upper lower : List Text} {front back : Text}

theorem map_text_lines (hd : d ≠ .absent) (hne : lines ≠ [])
    (hlines : ∀ l ∈ lines, Text.IsOneLine l) :
    (ofText (d.joined lines)).lines.map Line.text = lines := by
  rw [ofText, lineTexts_joined hd hne hlines, map_text_placeLines, LineEnding.map_fst_ended]

section Places

variable (hd : d ≠ .absent) (hlines : ∀ l ∈ upper ++ (front ++ back) :: lower, Text.IsOneLine l)

include hd hlines

theorem lines_ofText_joined :
    (ofText (d.joined (upper ++ (front ++ back) :: lower))).lines =
      placeLines 0 (d.ended (upper ++ (front ++ back) :: lower)) := by
  rw [ofText, lineTexts_joined hd (by simp) hlines]

theorem rowOf_joined :
    (ofText (d.joined (upper ++ (front ++ back) :: lower))).rowOf
      (Text.width (d.above upper ++ front)) = .ok upper.length := by
  have hboundary := Text.isBoundary_width (d.above upper ++ front) (d.joined (back :: lower))
  rw [← LineEnding.joined_split] at hboundary
  have hlength := length_takeWhile_placeLines hd upper front back lower 0
  rw [Nat.zero_add] at hlength
  rw [rowOf_ok hboundary, lines_ofText_joined hd hlines, hlength]
  rfl

theorem line_joined :
    ∃ e, (ofText (d.joined (upper ++ (front ++ back) :: lower))).line upper.length =
      ⟨Text.width (d.above upper), front ++ back, e⟩ := by
  obtain ⟨e, he⟩ := getElem?_placeLines d upper (front ++ back) lower 0
  refine ⟨e, ?_⟩
  rw [line, lines_ofText_joined hd hlines, he, Option.getD_some, Nat.zero_add]

theorem splitLineAt_joined :
    (ofText (d.joined (upper ++ (front ++ back) :: lower))).splitLineAt
      (Text.width (d.above upper ++ front)) = .ok (front, back) := by
  obtain ⟨e, he⟩ := line_joined hd hlines
  have hcolumn : Text.width (d.above upper ++ front) - Text.width (d.above upper) =
      Text.width front := by simp
  simp only [splitLineAt, rowOf_joined hd hlines, ok_bind, he, hcolumn, Text.cut_width, pure_eq_ok]

theorem positionOf_joined :
    (ofText (d.joined (upper ++ (front ++ back) :: lower))).positionOf
      (Text.width (d.above upper ++ front)) = .ok ⟨upper.length, Text.width front⟩ := by
  obtain ⟨e, he⟩ := line_joined hd hlines
  have hcolumn : Text.width (d.above upper ++ front) - Text.width (d.above upper) =
      Text.width front := by simp
  simp only [positionOf, rowOf_joined hd hlines, ok_bind, he, hcolumn, pure_eq_ok]

end Places

end Document

namespace LineEnding

variable {d : LineEnding} {lines : List Text} {before after t : Text}

/-- Nothing but a pair of characters can be divided. -/
theorem insideEnding_of_text {first second : Text} (h : d.text = first ++ second)
    (hfirst : first ≠ []) (hsecond : second ≠ []) : InsideEnding first (second ++ t) := by
  have hlength := congrArg List.length h
  have hfirst' := List.length_pos_iff.mpr hfirst
  have hsecond' := List.length_pos_iff.mpr hsecond
  rw [List.length_append] at hlength
  cases d with
  | both =>
    have hlength' : first.length + second.length = 2 := hlength.symm
    obtain ⟨c, rfl⟩ := List.length_eq_one_iff.mp (by omega : first.length = 1)
    obtain ⟨c', rfl⟩ := List.length_eq_one_iff.mp (by omega : second.length = 1)
    simp only [text, List.singleton_append, List.cons.injEq, and_true] at h
    obtain ⟨rfl, rfl⟩ := h
    exact ⟨rfl, rfl⟩
  | lineFeed | carriageReturn =>
    have hlength' : first.length + second.length = 1 := hlength.symm
    omega
  | absent =>
    have hlength' : first.length + second.length = 0 := hlength.symm
    omega

/-- A place behind the text of a line is behind its ending as well. -/
theorem exists_of_append_eq (h : before ++ after = d.text ++ t) (hbefore : before ≠ [])
    (hinside : ¬ InsideEnding before after) :
    ∃ next, before = d.text ++ next ∧ t = next ++ after := by
  rcases List.append_eq_append_iff.mp h with ⟨tail, hdtext, rfl⟩ | ⟨next, rfl, ht⟩
  · have htail : tail = [] := by
      by_contra htail
      exact hinside (insideEnding_of_text hdtext hbefore htail)
    subst htail
    exact ⟨[], by simpa using hdtext.symm, rfl⟩
  · exact ⟨next, rfl, ht⟩

/-- A place that divides no line ending falls into a line. -/
theorem exists_split (hne : lines ≠ []) (hjoined : before ++ after = d.joined lines)
    (hinside : ¬ InsideEnding before after) :
    ∃ upper front back lower, lines = upper ++ (front ++ back) :: lower ∧
      before = d.above upper ++ front ∧ after = d.joined (back :: lower) := by
  induction lines generalizing before with
  | nil => exact absurd rfl hne
  | cons l rest ih =>
    by_cases hrest : rest = []
    · subst hrest
      rw [joined_singleton] at hjoined
      exact ⟨[], before, after, [], by rw [hjoined]; rfl, rfl, (joined_singleton d after).symm⟩
    rw [joined_cons d l hrest] at hjoined
    by_cases hpre : before <+: l
    · obtain ⟨back, rfl⟩ := hpre
      rw [List.append_assoc] at hjoined
      have hafter := List.append_cancel_left hjoined
      exact ⟨[], before, back, rest, rfl, rfl, by rw [joined_cons d back hrest, hafter]⟩
    -- the line ends before the place
    rcases List.append_eq_append_iff.mp hjoined with ⟨back, hback, _⟩ | ⟨more, rfl, hmore⟩
    · exact absurd ⟨back, hback.symm⟩ hpre
    have hne' : more ≠ [] := by
      rintro rfl
      exact hpre (by simp)
    have hlast : (l ++ more).getLast? = more.getLast? := List.getLast?_append_of_ne_nil l hne'
    obtain ⟨next, rfl, hnext⟩ :=
      exists_of_append_eq hmore.symm hne' (by rwa [InsideEnding, ← hlast])
    have hinside' : ¬ InsideEnding next after := by
      rintro ⟨hlast', hhead⟩
      refine hinside ⟨?_, hhead⟩
      rw [hlast, List.getLast?_append, hlast']
      rfl
    obtain ⟨upper, front, back, lower, rfl, rfl, rfl⟩ := ih hrest hnext.symm hinside'
    exact ⟨l :: upper, front, back, lower, rfl, by simp [above], rfl⟩

end LineEnding

end Keystroke
