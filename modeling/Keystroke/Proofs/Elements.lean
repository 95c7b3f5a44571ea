import Keystroke.Proofs.Reading

namespace Keystroke.Json5

/-- An element of an array or object and the gaps around it. -/
structure Spaced (ι : Type) where
  before : Text
  content : ι
  after : Text

namespace Spaced

variable {ι : Type}

def text (contentText : ι → Text) (i : Spaced ι) : Text :=
  i.before ++ contentText i.content ++ i.after

def HasGaps (i : Spaced ι) : Prop :=
  IsGap i.before ∧ IsGap i.after

end Spaced

/-- What can stand between an element and the closing sign: a gap, perhaps with a comma in front. -/
def IsTail (tail : Text) : Prop :=
  IsGap tail ∨ ∃ g, IsGap g ∧ tail = ',' :: g

/-- Elements with gaps around them, and what stands before the closing sign: a comma only behind an
element. -/
structure IsLaidOut {ι : Type} (is : List (Spaced ι)) (tail : Text) : Prop where
  gaps : ∀ i ∈ is, i.HasGaps
  isTail : IsTail tail
  empty : is = [] → IsGap tail

/-- A state changes with each of some elements. -/
inductive Chain {σ ι : Type} (P : σ → ι → σ → Prop) : σ → List ι → σ → Prop
  | nil (s : σ) : Chain P s [] s
  | cons {s s₁ s' : σ} {i : ι} {is : List ι} : P s i s₁ → Chain P s₁ is s' → Chain P s (i :: is) s'

theorem separated_cons (t : Text) (ts : List Text) :
    separated (t :: ts) = t ++ ts.flatMap (',' :: ·) := by
  induction ts generalizing t with
  | nil => simp [separated]
  | cons u ts ih => simp [separated, ih]

theorem length_le_flatMap_cons (ts : List Text) : ts.length ≤ (ts.flatMap (',' :: ·)).length := by
  induction ts with
  | nil => exact Nat.le_refl 0
  | cons t ts ih =>
    simp only [List.flatMap_cons, List.length_append, List.length_cons]
    omega

section Elements

variable {σ ι : Type} {c : Char} {unfinished : Construct} {step : σ → Reader σ}
  {contentText : ι → Text} {P : σ → ι → σ → Prop}

open Reader

theorem reads_allElements {s s' : σ} {t rest : Text} :
    (allElements c unfinished step s).Reads t s' rest ↔
      (elements c unfinished step (t.length + 1) true s).Reads t s' rest := Iff.rfl

theorem reads_more_first {b : Bool} {t rest : Text} :
    (more c unfinished true).Reads t b rest ↔
      ∃ d u, afterBlanks .between t = .ok (d :: u) ∧ b = decide (d ≠ c) ∧ rest = d :: u := by
  rw [more, reads_ahead_bind]
  constructor
  · rintro ⟨u, hu, h⟩
    cases u with
    | nil => exact absurd h not_reads_fail
    | cons d u =>
      refine ⟨d, u, hu, ?_⟩
      by_cases hd : d = c <;> simpa [hd, eq_comm] using h
  · rintro ⟨d, u, hu, rfl, rfl⟩
    refine ⟨_, hu, ?_⟩
    by_cases hd : d = c <;> simp [hd]

/-- Behind a comma it goes on as at the beginning. -/
theorem reads_more_next {b : Bool} {t rest : Text} :
    (more c unfinished false).Reads t b rest ↔
      ∃ d u, afterBlanks .between t = .ok (d :: u) ∧
        (d = c ∧ b = false ∧ rest = d :: u ∨
          d ≠ c ∧ d = ',' ∧ (more c unfinished true).Reads u b rest) := by
  rw [more, reads_ahead_bind]
  constructor
  · rintro ⟨u, hu, h⟩
    cases u with
    | nil => exact absurd h not_reads_fail
    | cons d u =>
      refine ⟨d, u, hu, ?_⟩
      by_cases hd : d = c
      · exact .inl (by simpa [hd, eq_comm] using h)
      refine .inr ⟨hd, ?_⟩
      by_cases hcomma : d = ','
      · subst hcomma
        simp only [hd, if_false, Bool.false_eq_true, if_true, reads_bind, reads_drop,
          reads_ahead] at h
        obtain ⟨_, _, rfl, _, v, ⟨hv, rfl⟩, h⟩ := h
        cases v with
        | nil => exact absurd h not_reads_fail
        | cons e v =>
          obtain ⟨rfl, rfl⟩ := reads_pure.mp h
          exact ⟨rfl, reads_more_first.mpr ⟨e, v, hv, rfl, rfl⟩⟩
      · simp [hd, hcomma] at h
  · rintro ⟨d, u, hu, h⟩
    refine ⟨_, hu, ?_⟩
    rcases h with ⟨rfl, rfl, rfl⟩ | ⟨hd, rfl, h⟩
    · simp
    · obtain ⟨e, v, hv, rfl, rfl⟩ := reads_more_first.mp h
      simp [hd, hv]

/-- What an element starts with: neither a gap nor the closing sign. -/
def StartsElement (c : Char) (t : Text) : Prop :=
  ∃ d ∈ t.head?, IsSolid d ∧ d ≠ c

theorem StartsElement.append {t : Text} (h : StartsElement c t) (u : Text) :
    StartsElement c (t ++ u) := by
  obtain ⟨d, hhead, hd⟩ := h
  obtain ⟨t, rfl⟩ := List.head?_eq_some_iff.mp hhead
  exact ⟨d, rfl, hd⟩

/-- An element that must be there is read behind a gap. -/
theorem reads_due_first {r : Reader σ} {e : Cause} {b : σ} {t rest : Text} :
    Reads (do if ← more c unfinished true then r else fail e) t b rest ↔
      ∃ g u, IsGap g ∧ StartsElement c u ∧ t = g ++ u ∧ r.Reads u b rest := by
  simp only [reads_bind, reads_more_first]
  constructor
  · rintro ⟨_, _, ⟨d, u, hu, rfl, rfl⟩, h⟩
    obtain ⟨g, hg, hd, rfl⟩ := exists_gap hu
    by_cases hdc : d = c
    · simp [hdc] at h
    · exact ⟨g, d :: u, hg, ⟨d, rfl, hd, hdc⟩, rfl, by simpa [hdc] using h⟩
  · rintro ⟨g, _, hg, ⟨d, hhead, hd, hdc⟩, rfl, h⟩
    obtain ⟨u, rfl⟩ := List.head?_eq_some_iff.mp hhead
    exact ⟨true, _, ⟨d, u, hg.afterBlanks_solid hd u, by simp [hdc], rfl⟩, h⟩

/-- Another element that must be there is read behind a comma. -/
theorem reads_due_next (hcomma : c ≠ ',') {r : Reader σ} {e : Cause} {b : σ} {t rest : Text} :
    Reads (do if ← more c unfinished false then r else fail e) t b rest ↔
      ∃ g u, IsGap g ∧ t = g ++ ',' :: u ∧
        Reads (do if ← more c unfinished true then r else fail e) u b rest := by
  simp only [reads_bind, reads_more_next]
  constructor
  · rintro ⟨_, _, ⟨d, u, hu, ⟨rfl, rfl, rfl⟩ | ⟨-, rfl, hmore⟩⟩, h⟩
    · exact absurd h not_reads_fail
    · obtain ⟨g, hg, -, rfl⟩ := exists_gap hu
      exact ⟨g, u, hg, rfl, _, _, hmore, h⟩
  · rintro ⟨g, u, hg, rfl, b, v, hmore, h⟩
    exact ⟨b, v, ⟨',', u, hg.afterBlanks_solid (isSolid_visible (by decide)) u,
      .inr ⟨hcomma.symm, rfl, hmore⟩⟩, h⟩

/-- What is read of the elements behind the first one, or behind a gap. -/
theorem exists_chain_next
    (hstep : ∀ s d t s₁ rest, IsSolid d → (step s).Reads (d :: t) s₁ rest →
      ∃ i, P s i s₁ ∧ d :: t = contentText i ++ rest)
    {n : Nat} {s s' : σ} {t rest : Text}
    (h : (elements c unfinished step n false s).Reads t s' rest) :
    ∃ (g : Text) (is : List (Spaced ι)) (tail u : Text), IsGap g ∧ (∀ i ∈ is, i.HasGaps) ∧
      Chain P s (is.map Spaced.content) s' ∧ IsTail tail ∧
      t = g ++ (is.map (Spaced.text contentText)).flatMap (',' :: ·) ++ tail ++ c :: u ∧
      rest = c :: u := by
  -- Each round takes one element, or the comma that may stand behind the last.
  induction n generalizing s t with
  | zero => exact absurd h not_reads_fail
  | succ n ih =>
    simp only [elements, reads_bind] at h
    obtain ⟨b, v, hmore, h⟩ := h
    obtain ⟨d, u, hu, hnext⟩ := reads_more_next.mp hmore
    obtain ⟨g, hg, -, rfl⟩ := exists_gap hu
    rcases hnext with ⟨rfl, rfl, rfl⟩ | ⟨-, rfl, hfirst⟩
    · obtain ⟨rfl, rfl⟩ := by simpa using h
      exact ⟨g, [], [], u, hg, by simp, .nil _, .inl .nil, by simp, rfl⟩
    · obtain ⟨e, v, hv, rfl, rfl⟩ := reads_more_first.mp hfirst
      obtain ⟨g', hg', hsolid, rfl⟩ := exists_gap hv
      by_cases he : e = c
      · obtain ⟨rfl, rfl⟩ := by simpa [he] using h
        subst he
        exact ⟨g, [], ',' :: g', v, hg, by simp, .nil _, .inr ⟨g', hg', rfl⟩, by simp, rfl⟩
      · obtain ⟨s₁, mid, hread, h⟩ := by simpa [he] using h
        obtain ⟨i, hi, htext⟩ := hstep _ _ _ _ _ hsolid hread
        obtain ⟨g'', is, tail, u, hg'', hgaps, hchain, htail, rfl, rfl⟩ := ih h
        refine ⟨g, ⟨g', i, g''⟩ :: is, tail, u, hg, ?_, .cons hi hchain, htail, ?_, rfl⟩
        · simpa [Spaced.HasGaps, hg', hg''] using hgaps
        · simp [Spaced.text, htext]

theorem exists_chain
    (hstep : ∀ s d t s₁ rest, IsSolid d → (step s).Reads (d :: t) s₁ rest →
      ∃ i, P s i s₁ ∧ d :: t = contentText i ++ rest)
    {s s' : σ} {t rest : Text}
    (h : (allElements c unfinished step s).Reads t s' rest) :
    ∃ (is : List (Spaced ι)) (tail u : Text), IsLaidOut is tail ∧
      Chain P s (is.map Spaced.content) s' ∧
      t = separated (is.map (Spaced.text contentText)) ++ (tail ++ c :: u) ∧ rest = c :: u := by
  rw [reads_allElements, elements, reads_bind] at h
  obtain ⟨b, v, hmore, hread⟩ := h
  obtain ⟨d, u, hu, rfl, rfl⟩ := reads_more_first.mp hmore
  obtain ⟨g, hg, hsolid, rfl⟩ := exists_gap hu
  by_cases hd : d = c
  · obtain ⟨rfl, rfl⟩ := by simpa [hd] using hread
    subst hd
    exact ⟨[], g, u, ⟨by simp, .inl hg, fun _ => hg⟩, .nil _, by simp [separated], rfl⟩
  · obtain ⟨s₁, mid, hfirst, hnext⟩ := by simpa [hd] using hread
    obtain ⟨i, hi, htext⟩ := hstep _ _ _ _ _ hsolid hfirst
    obtain ⟨g', is, tail, u, hg', hgaps, hchain, htail, rfl, rfl⟩ := exists_chain_next hstep hnext
    refine ⟨⟨g, i, g'⟩ :: is, tail, u, ⟨?_, htail, nofun⟩, .cons hi hchain, ?_, rfl⟩
    · simpa [Spaced.HasGaps, hg, hg'] using hgaps
    · simp [Spaced.text, separated_cons, htext]

theorem reads_more_element {g t : Text} (hg : IsGap g) (ht : StartsElement c t) (rest : Text) :
    (more c unfinished true).Reads (g ++ (t ++ rest)) true (t ++ rest) := by
  obtain ⟨d, hhead, hd, hdc⟩ := ht
  obtain ⟨t, rfl⟩ := List.head?_eq_some_iff.mp hhead
  exact reads_more_first.mpr ⟨d, t ++ rest, hg.afterBlanks_solid hd _, by simp [hdc], rfl⟩

theorem reads_tail (hc : IsSolid c) (hcomma : c ≠ ',') {tail g u : Text} (hg : IsGap g)
    (htail : IsTail tail) :
    (more c unfinished false).Reads (g ++ tail ++ c :: u) false (c :: u) := by
  rcases htail with htail | ⟨g', hg', rfl⟩
  · refine reads_more_next.mpr ⟨c, u, ?_, .inl ⟨rfl, rfl, rfl⟩⟩
    exact (hg.append htail).afterBlanks_solid hc u
  · refine reads_more_next.mpr ⟨',', g' ++ c :: u, ?_, .inr ⟨hcomma.symm, rfl, ?_⟩⟩
    · rw [List.append_assoc]
      exact hg.afterBlanks_solid (isSolid_visible (by decide)) _
    · exact reads_more_first.mpr ⟨c, u, hg'.afterBlanks_solid hc u, by simp, rfl⟩

theorem endsValue_next (hclosing : c ∈ [']', '\x7d']) {tail : Text}
    (htail : IsTail tail) (texts : List Text) (u : Text) :
    EndsValue (texts.flatMap (',' :: ·) ++ (tail ++ c :: u)) := by
  cases texts with
  | nil =>
    rcases htail with htail | ⟨g, -, rfl⟩
    · exact htail.endsValue (endsValue_cons (List.mem_cons_of_mem _ hclosing) u)
    · exact endsValue_cons (by simp) _
  | cons t texts => exact endsValue_cons (by simp) _

variable (hc : IsSolid c) (hclosing : c ∈ [']', '\x7d'])
  (hstart : ∀ s i s₁, P s i s₁ → StartsElement c (contentText i))
  (hstep : ∀ s i s₁ rest, P s i s₁ → EndsValue rest →
    (step s).Reads (contentText i ++ rest) s₁ rest)

include hc hclosing hstart hstep

theorem reads_chain_next {n : Nat} {s s' : σ} {is : List (Spaced ι)}
    (hchain : Chain P s (is.map Spaced.content) s') (hgaps : ∀ i ∈ is, i.HasGaps)
    (hn : is.length < n) {g tail : Text} (hg : IsGap g)
    (htail : IsTail tail) (u : Text) :
    (elements c unfinished step n false s).Reads
      (g ++ ((is.map (Spaced.text contentText)).flatMap (',' :: ·) ++ (tail ++ c :: u))) s'
      (c :: u) := by
  have hcomma : c ≠ ',' := by
    rintro rfl
    simp at hclosing
  induction is generalizing n s g with
  | nil =>
    cases hchain
    obtain ⟨n, rfl⟩ := Nat.exists_eq_add_one_of_ne_zero (Nat.ne_zero_of_lt hn)
    simp only [elements, reads_bind]
    refine ⟨false, c :: u, ?_, by simp⟩
    simpa using reads_tail hc hcomma hg htail
  | cons i is ih =>
    obtain ⟨n, rfl⟩ := Nat.exists_eq_add_one_of_ne_zero (Nat.ne_zero_of_lt hn)
    obtain ⟨⟨hbefore, hafter⟩, hgaps⟩ := List.forall_mem_cons.mp hgaps
    cases hchain with
    | @cons _ s₁ _ _ _ hi hchain =>
      have hnext := ih hchain hgaps (by simpa using hn) hafter
      have hends := hafter.endsValue
        (endsValue_next hclosing htail (is.map (Spaced.text contentText)) u)
      have hsplit : g ++ (((i :: is).map (Spaced.text contentText)).flatMap (',' :: ·) ++
          (tail ++ c :: u)) = g ++ ',' :: (i.before ++ (contentText i.content ++ (i.after ++
            ((is.map (Spaced.text contentText)).flatMap (',' :: ·) ++ (tail ++ c :: u))))) := by
        simp [Spaced.text]
      rw [hsplit]
      generalize i.after ++ ((is.map (Spaced.text contentText)).flatMap (',' :: ·) ++
        (tail ++ c :: u)) = mid at hnext hends
      have hmore : (more c unfinished false).Reads
          (g ++ ',' :: (i.before ++ (contentText i.content ++ mid))) true
          (contentText i.content ++ mid) :=
        reads_more_next.mpr ⟨',', _, hg.afterBlanks_solid (isSolid_visible (by decide)) _, .inr
          ⟨hcomma.symm, rfl, reads_more_element hbefore (hstart _ _ _ hi) mid⟩⟩
      rw [elements, reads_bind]
      refine ⟨true, _, hmore, ?_⟩
      rw [if_pos rfl, reads_bind]
      exact ⟨s₁, mid, hstep _ _ _ mid hi hends, hnext⟩

theorem reads_chain {s s' : σ} {is : List (Spaced ι)}
    (hchain : Chain P s (is.map Spaced.content) s') {tail : Text} (hlayout : IsLaidOut is tail)
    (u : Text) :
    (allElements c unfinished step s).Reads
      (separated (is.map (Spaced.text contentText)) ++ (tail ++ c :: u)) s' (c :: u) := by
  obtain ⟨hgaps, htail, hempty⟩ := hlayout
  cases is with
  | nil =>
    cases hchain
    have hmore : (more c unfinished true).Reads (tail ++ c :: u) false (c :: u) :=
      reads_more_first.mpr ⟨c, u, (hempty rfl).afterBlanks_solid hc u, by simp, rfl⟩
    rw [List.map_nil, separated, List.nil_append, reads_allElements, elements, reads_bind]
    exact ⟨false, _, hmore, by simp⟩
  | cons i is =>
    obtain ⟨⟨hbefore, hafter⟩, hgaps⟩ := List.forall_mem_cons.mp hgaps
    cases hchain with
    | @cons _ s₁ _ _ _ hi hchain =>
      have hends := hafter.endsValue
        (endsValue_next hclosing htail (is.map (Spaced.text contentText)) u)
      have hsplit : separated ((i :: is).map (Spaced.text contentText)) ++ (tail ++ c :: u) =
          i.before ++ (contentText i.content ++ (i.after ++
            ((is.map (Spaced.text contentText)).flatMap (',' :: ·) ++ (tail ++ c :: u)))) := by
        simp [Spaced.text, separated_cons]
      have hlength : is.length < (separated ((i :: is).map (Spaced.text contentText)) ++
          (tail ++ c :: u)).length := by
        have hcommas := length_le_flatMap_cons (is.map (Spaced.text contentText))
        rw [List.length_map] at hcommas
        simp only [hsplit, List.length_append, List.length_cons]
        omega
      rw [reads_allElements, elements, reads_bind]
      refine ⟨true, _, hsplit ▸ reads_more_element hbefore (hstart _ _ _ hi) _, ?_⟩
      rw [if_pos rfl, reads_bind]
      exact ⟨s₁, _, hstep _ _ _ _ hi hends,
        reads_chain_next hc hclosing hstart hstep hchain hgaps hlength hafter htail u⟩

end Elements

end Keystroke.Json5
