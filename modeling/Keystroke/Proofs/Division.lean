import Keystroke.Proofs.Lines

namespace Keystroke

/-- A line as it stands in a text. -/
def withEnding (l : Text × LineEnding) : Text :=
  l.1 ++ l.2.text

/-- The text is made of these lines, all but the last with an ending. A carriage return ends a line
only where no line feed follows. -/
inductive DividesInto : Text → List (Text × LineEnding) → Prop
  | last {l : Text} : l.IsOneLine → DividesInto l [(l, .absent)]
  | line {l : Text} {e : LineEnding} {t : Text} {lines : List (Text × LineEnding)} :
    l.IsOneLine → e ≠ .absent → (e = .carriageReturn → t.head? ≠ some '\n') →
      DividesInto t lines → DividesInto (l ++ (e.text ++ t)) ((l, e) :: lines)

section Division

variable {t : Text} {lines : List (Text × LineEnding)} {c : Char}

theorem DividesInto.cons (hc : c ≠ '\n' ∧ c ≠ '\r') (h : DividesInto t lines) :
    DividesInto (c :: t) (extendFirst c lines) := by
  have hone {l : Text} (hl : l.IsOneLine) : Text.IsOneLine (c :: l) := by
    intro x hx
    rcases List.mem_cons.mp hx with rfl | hx
    · exact hc
    · exact hl x hx
  cases h with
  | last hl => exact .last (hone hl)
  | line hl he hreturn ht => exact .line (hone hl) he hreturn ht

theorem dividesInto_lineTexts (t : Text) : DividesInto t (lineTexts t) := by
  have hnil : Text.IsOneLine [] := by simp [Text.IsOneLine]
  fun_induction lineTexts t with
  | case1 => exact .last hnil
  | case2 t ih => exact .line (l := []) (e := .both) hnil (by decide) (by simp) ih
  | case3 t hnot ih =>
    refine .line (l := []) (e := .carriageReturn) hnil (by decide) ?_ ih
    intro _ hhead
    obtain ⟨rest, rfl⟩ := List.head?_eq_some_iff.mp hhead
    exact hnot rest rfl
  | case4 t ih => exact .line (l := []) (e := .lineFeed) hnil (by decide) (by simp) ih
  | case5 c t h₁ h₂ h₃ ih => exact ih.cons ⟨h₃, h₂⟩

theorem lineTexts_line {l : Text} {e : LineEnding} (hl : l.IsOneLine) (he : e ≠ .absent)
    (hreturn : e = .carriageReturn → t.head? ≠ some '\n') :
    lineTexts (l ++ (e.text ++ t)) = (l, e) :: lineTexts t := by
  rw [lineTexts_append hl (lineTexts_ending he hreturn), List.append_nil]

theorem DividesInto.flatMap_withEnding (h : DividesInto t lines) :
    lines.flatMap withEnding = t := by
  induction h with
  | last hl => simp [withEnding, LineEnding.text]
  | line _ _ _ _ ih => rw [List.flatMap_cons, ih, withEnding, List.append_assoc]

theorem DividesInto.isOneLine (h : DividesInto t lines) : ∀ l ∈ lines, l.1.IsOneLine := by
  induction h with
  | last hl => simpa using hl
  | line hl _ _ _ ih => simpa using ⟨hl, fun l e hm => ih (l, e) hm⟩

theorem DividesInto.exists_last (h : DividesInto t lines) :
    ∃ upper l, lines = upper ++ [(l, .absent)] ∧ ∀ u ∈ upper, u.2 ≠ .absent := by
  induction h with
  | @last l _ => exact ⟨[], l, rfl, by simp⟩
  | @line l e _ _ _ he _ _ ih =>
    obtain ⟨upper, m, rfl, hupper⟩ := ih
    refine ⟨(l, e) :: upper, m, rfl, ?_⟩
    intro u hu
    rcases List.mem_cons.mp hu with rfl | hu
    · exact he
    · exact hupper u hu

/-- From any line on, what is left of the text is divided in the same way. -/
theorem DividesInto.of_append {upper lower : List (Text × LineEnding)}
    (h : DividesInto t (upper ++ lower)) (hlower : lower ≠ []) :
    DividesInto (lower.flatMap withEnding) lower := by
  induction upper generalizing t with
  | nil =>
    have hflat := h.flatMap_withEnding
    rw [List.nil_append] at h hflat
    rwa [hflat]
  | cons u upper ih =>
    rw [List.cons_append] at h
    generalize hrest : upper ++ lower = rest at h
    cases h with
    | last => exact absurd (List.append_eq_nil_iff.mp hrest).2 hlower
    | line _ _ _ hbelow => exact ih (hrest ▸ hbelow)

theorem DividesInto.head?_below_ne {upper lower : List (Text × LineEnding)} {l : Text}
    (h : DividesInto t (upper ++ (l, .carriageReturn) :: lower)) :
    (lower.flatMap withEnding).head? ≠ some '\n' := by
  have hbelow := h.of_append (List.cons_ne_nil _ _)
  generalize ((l, LineEnding.carriageReturn) :: lower).flatMap withEnding = u at hbelow
  cases hbelow with
  | line _ _ hreturn hlower =>
    rw [hlower.flatMap_withEnding]
    exact hreturn rfl

/-- The number of places where a carriage return and a line feed stand together. -/
def returnsWithFeed (t : Text) : Nat :=
  (t.zip t.tail).count ('\r', '\n')

theorem returnsWithFeed_cons (hc : c ≠ '\r' ∨ t.head? ≠ some '\n') :
    returnsWithFeed (c :: t) = returnsWithFeed t := by
  cases t with
  | nil => rfl
  | cons x t =>
    have hne : (c, x) ≠ ('\r', '\n') := by
      rintro h
      obtain ⟨rfl, rfl⟩ := Prod.mk.inj h
      simp at hc
    rw [returnsWithFeed, List.tail_cons, List.zip_cons_cons, List.count_cons_of_ne hne]
    rfl

theorem returnsWithFeed_append {l : Text} (hl : l.IsOneLine) (t : Text) :
    returnsWithFeed (l ++ t) = returnsWithFeed t := by
  induction l with
  | nil => rfl
  | cons c l ih =>
    rw [List.cons_append, returnsWithFeed_cons (Or.inl (hl c (by simp)).2),
      ih fun x hx => hl x (by simp [hx])]

theorem Text.IsOneLine.count_eq_zero {l : Text} (hl : l.IsOneLine) :
    l.count '\n' = 0 ∧ l.count '\r' = 0 :=
  ⟨List.count_eq_zero.mpr fun hmem => (hl _ hmem).1 rfl,
    List.count_eq_zero.mpr fun hmem => (hl _ hmem).2 rfl⟩

/-- An ending counts once, also when it is made of two characters. -/
theorem LineEnding.returnsWithFeed_text {e : LineEnding} (he : e ≠ .absent)
    (hreturn : e = .carriageReturn → t.head? ≠ some '\n') :
    returnsWithFeed (e.text ++ t) + 1 =
      returnsWithFeed t + e.text.count '\n' + e.text.count '\r' := by
  have hfeed : returnsWithFeed ('\n' :: t) = returnsWithFeed t :=
    returnsWithFeed_cons (Or.inl (by decide))
  cases e with
  | absent => exact absurd rfl he
  | lineFeed => exact congrArg (· + 1) hfeed
  | carriageReturn => exact congrArg (· + 1) (returnsWithFeed_cons (Or.inr (hreturn rfl)))
  | both =>
    have hpair : returnsWithFeed ('\r' :: '\n' :: t) = returnsWithFeed ('\n' :: t) + 1 :=
      List.count_cons_self
    exact congrArg (· + 1) (hpair.trans (congrArg (· + 1) hfeed))

theorem DividesInto.length_eq (h : DividesInto t lines) :
    lines.length + returnsWithFeed t = 1 + t.count '\n' + t.count '\r' := by
  induction h with
  | last hl =>
    have hpairs := returnsWithFeed_append hl []
    rw [List.append_nil] at hpairs
    rw [hpairs, hl.count_eq_zero.1, hl.count_eq_zero.2]
    rfl
  | line hl he hreturn _ ih =>
    have hending := LineEnding.returnsWithFeed_text he hreturn
    rw [returnsWithFeed_append hl]
    simp only [List.count_append, hl.count_eq_zero.1, hl.count_eq_zero.2, List.length_cons]
    omega

end Division

section Places

variable {t : Text} {lines : List (Text × LineEnding)} {n : Nat}

theorem map_placeLines (n : Nat) (lines : List (Text × LineEnding)) :
    (placeLines n lines).map (fun l => (l.text, l.ending)) = lines := by
  induction lines generalizing n with
  | nil => rfl
  | cons l rest ih => rw [placeLines, List.map_cons, ih]

theorem placeLines_append (n : Nat) (upper lower : List (Text × LineEnding)) :
    placeLines n (upper ++ lower) =
      placeLines n upper ++ placeLines (n + Text.width (upper.flatMap withEnding)) lower := by
  induction upper generalizing n with
  | nil => rfl
  | cons l upper ih =>
    rw [List.cons_append, placeLines, ih, placeLines]
    simp [withEnding, Nat.add_assoc]

/-- A line starts behind all that stands above it. -/
theorem exists_of_mem_placeLines {l : Line} (h : l ∈ placeLines n lines) :
    ∃ upper lower, lines = upper ++ (l.text, l.ending) :: lower ∧
      l.start = n + Text.width (upper.flatMap withEnding) := by
  induction lines generalizing n with
  | nil => cases h
  | cons m lines ih =>
    rw [placeLines] at h
    rcases List.mem_cons.mp h with rfl | h
    · exact ⟨[], lines, rfl, rfl⟩
    · obtain ⟨upper, lower, rfl, hstart⟩ := ih h
      refine ⟨m :: upper, lower, rfl, ?_⟩
      rw [hstart]
      simp [withEnding, Nat.add_assoc]

theorem DividesInto.head?_start (h : DividesInto t lines) (n : Nat) :
    (placeLines n lines).head?.map Line.start = some n := by
  cases h <;> rfl

/-- What starts and stops where a line does is the text of this line. -/
theorem DividesInto.exists_around (h : DividesInto t lines) {l : Line}
    (hl : l ∈ placeLines 0 lines) :
    ∃ before after, t = before ++ l.text ++ after ∧ Text.width before = l.start ∧
      Text.width (before ++ l.text) = l.stop := by
  obtain ⟨upper, lower, hlines, hstart⟩ := exists_of_mem_placeLines hl
  rw [Nat.zero_add] at hstart
  refine ⟨upper.flatMap withEnding, l.ending.text ++ lower.flatMap withEnding, ?_, hstart.symm, ?_⟩
  · rw [← h.flatMap_withEnding, hlines]
    simp [withEnding]
  · rw [Text.width_append, Line.stop, hstart]

theorem DividesInto.pairwise_start (h : DividesInto t lines) (n : Nat) :
    (placeLines n lines).Pairwise (·.start < ·.start) := by
  induction h generalizing n with
  | last => exact List.pairwise_singleton _ _
  | @line l e _ _ _ he _ _ ih =>
    refine List.pairwise_cons.mpr ⟨?_, ih _⟩
    intro m hm
    obtain ⟨_, _, _, hstart⟩ := exists_of_mem_placeLines hm
    have hpos := LineEnding.width_text_pos he
    rw [hstart]
    simp only
    omega

end Places

section Bytes

variable {t : Text} {lines : List (Text × LineEnding)}

/-- The UTF-8 form of a text. -/
def Text.bytes (t : Text) : List UInt8 :=
  t.flatMap String.utf8EncodeChar

/-- Where lines start and stop, read off the bytes one by one: `start` is where the line of the next
byte starts, and `place` is where this byte is. -/
def byteSpans (start place : Nat) : List UInt8 → List (Nat × Nat)
  | [] => [(start, place)]
  | 13 :: 10 :: bs => (start, place) :: byteSpans (place + 2) (place + 2) bs
  | 13 :: bs => (start, place) :: byteSpans (place + 1) (place + 1) bs
  | 10 :: bs => (start, place) :: byteSpans (place + 1) (place + 1) bs
  | _ :: bs => byteSpans start (place + 1) bs

theorem byteSpans_cons {b : UInt8} (hb : b ≠ 10 ∧ b ≠ 13) (start place : Nat) (bs : List UInt8) :
    byteSpans start place (b :: bs) = byteSpans start (place + 1) bs := by
  rw [byteSpans]
  · simp [hb.2]
  · simp [hb.2]
  · simp [hb.1]

theorem byteSpans_append {bs : List UInt8} (hbs : ∀ b ∈ bs, b ≠ 10 ∧ b ≠ 13)
    (start place : Nat) (rest : List UInt8) :
    byteSpans start place (bs ++ rest) = byteSpans start (place + bs.length) rest := by
  induction bs generalizing place with
  | nil => rfl
  | cons b bs ih =>
    rw [List.cons_append, byteSpans_cons (hbs b (by simp)), ih fun x hx => hbs x (by simp [hx]),
      List.length_cons]
    congr 1
    omega

/-- Only the characters below 128 have bytes below 128, and each of them is its own byte. -/
theorem toNat_of_mem_utf8EncodeChar {b : UInt8} {c : Char} (h : b ∈ String.utf8EncodeChar c)
    (hb : b.toNat < 128) : c.toNat = b.toNat := by
  have hlarge {n m k : Nat} (hm : 0 < m) (hk : 128 ≤ k) (hmk : m + k ≤ 256) :
      ¬ (UInt8.ofNat (n % m + k)).toNat < 128 := by
    have hlt := Nat.mod_lt n hm
    rw [UInt8.toNat_ofNat', Nat.mod_eq_of_lt (by omega)]
    omega
  unfold String.utf8EncodeChar at h
  simp only at h
  split at h
  next hc =>
    obtain rfl := List.mem_singleton.mp h
    have hlt : c.val.toNat < 256 := by omega
    rw [UInt8.toNat_ofNat']
    exact (Nat.mod_eq_of_lt hlt).symm
  next =>
    refine absurd hb ?_
    split at h
    next =>
      simp only [List.mem_cons, List.not_mem_nil, or_false] at h
      rcases h with rfl | rfl <;> exact hlarge (by decide) (by decide) (by decide)
    next =>
      split at h
      next =>
        simp only [List.mem_cons, List.not_mem_nil, or_false] at h
        rcases h with rfl | rfl | rfl <;> exact hlarge (by decide) (by decide) (by decide)
      next =>
        simp only [List.mem_cons, List.not_mem_nil, or_false] at h
        rcases h with rfl | rfl | rfl | rfl <;> exact hlarge (by decide) (by decide) (by decide)

theorem eq_of_mem_utf8EncodeChar {b : UInt8} {c d : Char} (h : b ∈ String.utf8EncodeChar c)
    (hb : b.toNat < 128) (hd : b.toNat = d.toNat) : c = d :=
  Char.toNat_inj.mp ((toNat_of_mem_utf8EncodeChar h hb).trans hd)

theorem Text.bytes_append (s t : Text) : Text.bytes (s ++ t) = Text.bytes s ++ Text.bytes t :=
  List.flatMap_append

theorem Text.length_bytes (t : Text) : (Text.bytes t).length = Text.width t := by
  induction t with
  | nil => rfl
  | cons c t ih =>
    rw [bytes, List.flatMap_cons, List.length_append, String.length_utf8EncodeChar]
    exact congrArg (c.utf8Size + ·) ih

theorem Text.IsOneLine.ne_of_mem_bytes {l : Text} (hl : l.IsOneLine) :
    ∀ b ∈ Text.bytes l, b ≠ 10 ∧ b ≠ 13 := by
  intro b hb
  obtain ⟨c, hc, hbc⟩ := List.mem_flatMap.mp hb
  constructor
  · rintro rfl
    exact (hl c hc).1 (eq_of_mem_utf8EncodeChar hbc (by decide) rfl)
  · rintro rfl
    exact (hl c hc).2 (eq_of_mem_utf8EncodeChar hbc (by decide) rfl)

theorem Text.head?_bytes_ne (ht : t.head? ≠ some '\n') : (Text.bytes t).head? ≠ some 10 := by
  cases t with
  | nil => simp [bytes]
  | cons c t =>
    intro hhead
    have hmem : 10 ∈ (String.utf8EncodeChar c).head? := by
      rwa [bytes, List.flatMap_cons,
        List.head?_append_of_ne_nil _ String.utf8EncodeChar_ne_nil] at hhead
    have hc : c = '\n' := eq_of_mem_utf8EncodeChar (List.mem_of_mem_head? hmem) (by decide) rfl
    exact ht (congrArg some hc)

/-- An ending ends the line at its place, and the next line starts behind it. -/
theorem byteSpans_ending {e : LineEnding} (he : e ≠ .absent)
    (hreturn : e = .carriageReturn → t.head? ≠ some '\n') (start place : Nat) :
    byteSpans start place (Text.bytes (e.text ++ t)) =
      (start, place) :: byteSpans (place + Text.width e.text) (place + Text.width e.text)
        (Text.bytes t) := by
  cases e with
  | absent => exact absurd rfl he
  | lineFeed | both => rfl
  | carriageReturn =>
    have hhead := Text.head?_bytes_ne (hreturn rfl)
    have hbytes : Text.bytes (LineEnding.carriageReturn.text ++ t) = 13 :: Text.bytes t := rfl
    rw [hbytes, byteSpans]
    · rfl
    · rintro rest hrest
      exact hhead (by rw [hrest]; rfl)

/-- Reading bytes finds the lines, because no byte of a longer character is taken for an ending. -/
theorem DividesInto.byteSpans_eq (h : DividesInto t lines) (n : Nat) :
    byteSpans n n (Text.bytes t) = (placeLines n lines).map fun l => (l.start, l.stop) := by
  induction h generalizing n with
  | @last l hl =>
    have hspans := byteSpans_append hl.ne_of_mem_bytes n n []
    rw [List.append_nil, Text.length_bytes] at hspans
    exact hspans
  | @line l e t lines hl he hreturn _ ih =>
    rw [Text.bytes_append, byteSpans_append hl.ne_of_mem_bytes, Text.length_bytes,
      byteSpans_ending he hreturn, ih, placeLines, List.map_cons]
    rfl

end Bytes

namespace Document

/-- The lines of a document are its text without loss: each but the last has an ending, no line
holds one, no pair of carriage return and line feed is divided, and a line starts and stops between
characters, behind the lines above it. Reading the bytes from first to last finds the same lines. -/
theorem ofText_partition (t : Text) :
    let d := ofText t
    d.lines.flatMap (fun l => l.text ++ l.ending.text) = t ∧
      (∃ upper last, d.lines = upper ++ [last] ∧ last.ending = .absent ∧
        ∀ l ∈ upper, l.ending ≠ .absent) ∧
      (∀ l ∈ d.lines, Text.IsOneLine l.text) ∧
      (∀ upper l lower, d.lines = upper ++ l :: lower → l.ending = .carriageReturn →
        (lower.flatMap fun m => m.text ++ m.ending.text).head? ≠ some '\n') ∧
      d.lineCount + (t.zip t.tail).count ('\r', '\n') = 1 + t.count '\n' + t.count '\r' ∧
      d.lines.head?.map Line.start = some 0 ∧ d.lines.Pairwise (·.start < ·.start) ∧
      (∀ l ∈ d.lines, Text.IsBoundary t l.start ∧ Text.IsBoundary t l.stop ∧
        ∃ before after, t = before ++ l.text ++ after ∧ Text.width before = l.start ∧
          Text.width (before ++ l.text) = l.stop) ∧
      byteSpans 0 0 (Text.bytes t) = d.lines.map (fun l => (l.start, l.stop)) := by
  intro d
  have hplaced : DividesInto t (lineTexts t) := dividesInto_lineTexts t
  have hmap : d.lines.map (fun l => (l.text, l.ending)) = lineTexts t :=
    map_placeLines 0 (lineTexts t)
  have hlines := hplaced
  rw [← hmap] at hlines
  refine ⟨?_, ?_, ?_, ?_, ?_, hplaced.head?_start 0, hplaced.pairwise_start 0, ?_,
    hplaced.byteSpans_eq 0⟩
  · have hflat := hlines.flatMap_withEnding
    rwa [List.flatMap_map] at hflat
  · obtain ⟨upper, l, heq, hupper⟩ := hlines.exists_last
    obtain ⟨above, below, hparts, rfl, hbelow⟩ := List.map_eq_append_iff.mp heq
    obtain ⟨last, rfl, hlast⟩ := List.map_eq_singleton_iff.mp hbelow
    exact ⟨above, last, hparts, congrArg Prod.snd hlast,
      fun m hm => hupper _ (List.mem_map_of_mem hm)⟩
  · exact fun l hl => hlines.isOneLine _ (List.mem_map_of_mem hl)
  · intro upper l lower hparts hending
    rw [hparts, List.map_append, List.map_cons, hending] at hlines
    have hbelow := hlines.head?_below_ne
    rwa [List.flatMap_map] at hbelow
  · have hcount := hlines.length_eq
    rwa [List.length_map] at hcount
  · intro l hl
    obtain ⟨before, after, ht, hstart, hstop⟩ := hplaced.exists_around hl
    refine ⟨⟨before, l.text ++ after, by rw [ht, List.append_assoc], hstart⟩,
      ⟨before ++ l.text, after, ht, hstop⟩, before, after, ht, hstart, hstop⟩

end Document

end Keystroke
