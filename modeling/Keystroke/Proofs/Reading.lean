import Mathlib.Data.List.Basic
import Keystroke.Json5.Value

namespace Keystroke.Json5

namespace Reader

variable {α β σ : Type}

/-- The reader takes a value from the start of a text and leaves the rest. -/
def Reads (r : Reader α) (t : Text) (a : α) (rest : Text) : Prop :=
  r t = .ok (a, rest)

variable {r : Reader α} {t rest : Text} {a : α} {b : β}

theorem Reads.unique {a' : α} {rest' : Text} (h : r.Reads t a rest) (h' : r.Reads t a' rest') :
    a = a' ∧ rest = rest' := by
  have heq : Except.ok (a, rest) = Except.ok (a', rest') := h.symm.trans h'
  cases heq
  exact ⟨rfl, rfl⟩

@[simp] theorem reads_pure {a' : α} : (pure a' : Reader α).Reads t a rest ↔ a' = a ∧ t = rest := by
  constructor
  · intro h
    cases h
    exact ⟨rfl, rfl⟩
  · rintro ⟨rfl, rfl⟩
    rfl

@[simp] theorem reads_bind {f : α → Reader β} :
    (r >>= f).Reads t b rest ↔ ∃ a u, r.Reads t a u ∧ (f a).Reads u b rest := by
  unfold Reads
  constructor
  · intro h
    cases hr : r t with
    | ok result => exact ⟨result.1, result.2, rfl, by simpa [bind, hr] using h⟩
    | error e => simp [bind, hr] at h
  · rintro ⟨a, u, hr, h⟩
    simpa [bind, hr] using h

@[simp] theorem reads_left {u : Text} : left.Reads t u rest ↔ u = t ∧ rest = t := by
  constructor
  · intro h
    cases h
    exact ⟨rfl, rfl⟩
  · rintro ⟨rfl, rfl⟩
    rfl

@[simp] theorem reads_drop {n : Nat} {u : Unit} : (drop n).Reads t u rest ↔ rest = t.drop n := by
  constructor
  · intro h
    cases h
    rfl
  · rintro rfl
    rfl

@[simp] theorem not_reads_fail {c : Cause} : ¬ (fail c : Reader α).Reads t a rest := nofun

@[simp] theorem not_reads_failHere {c : Cause} : ¬ (failHere c : Reader α).Reads t a rest := nofun

@[simp] theorem not_reads_error {e : Text → Fault} :
    ¬ Reads (fun t => .error (e t)) t a rest := nofun

@[simp] theorem reads_within : (within r).Reads t a rest ↔ r.Reads t a rest := by
  unfold Reads within
  split
  next result h => rw [h]
  next e h => simp [h]

@[simp] theorem reads_blanks {u : Unit} :
    blanks.Reads t u rest ↔ afterBlanks .between t = .ok rest := by
  unfold Reads blanks
  cases afterBlanks .between t with
  | ok v => simp
  | error e => simp

@[simp] theorem reads_ahead {u : Text} :
    ahead.Reads t u rest ↔ afterBlanks .between t = .ok u ∧ rest = u := by
  simp only [ahead, reads_bind, reads_blanks, reads_left]
  constructor
  · rintro ⟨_, v, hv, rfl, rfl⟩
    exact ⟨hv, rfl⟩
  · rintro ⟨hu, rfl⟩
    exact ⟨(), _, hu, rfl, rfl⟩

theorem reads_ahead_bind {f : Text → Reader β} :
    (ahead >>= f).Reads t b rest ↔ ∃ u, afterBlanks .between t = .ok u ∧ (f u).Reads u b rest := by
  simp only [reads_bind, reads_ahead]
  constructor
  · rintro ⟨_, u, ⟨hu, rfl⟩, h⟩
    exact ⟨u, hu, h⟩
  · rintro ⟨u, hu, h⟩
    exact ⟨u, u, ⟨hu, rfl⟩, h⟩

theorem reads_word {w : Text} {c : Construct} {e : Wanted} {u : Unit} :
    (word w c e).Reads t u rest ↔ t = w ++ rest := by
  induction w generalizing t with
  | nil => simp [word]
  | cons x w ih =>
    cases t with
    | nil => simp [word]
    | cons y t =>
      by_cases hxy : x = y
      · simp [word, hxy, ih]
      · simp [word, hxy, Ne.symm hxy]

end Reader

/-- A text that is passed over wherever it stands: blanks and comments that are closed. -/
def IsGap (g : Text) : Prop :=
  ∀ rest, afterBlanks .between (g ++ rest) = afterBlanks .between rest

/-- A character that ends a gap. -/
def IsSolid (c : Char) : Prop :=
  isBlank c = false ∧ c ≠ '/'

/-- What holds of the first 128 characters holds of each of them. -/
theorem of_ascii {p : Char → Prop} (h : ∀ n < 128, p (Char.ofNat n)) {c : Char}
    (hc : c.toNat < 128) : p c := by
  have hp := h c.toNat hc
  rwa [Char.ofNat_toNat] at hp

/-- Of the first 128 characters, those behind the space are no blanks. -/
theorem isBlank_visible {c : Char} (hc : ' ' < c ∧ c.toNat < 128) : isBlank c = false :=
  of_ascii (p := fun c => ' ' < c → isBlank c = false) (by decide +kernel) hc.2 hc.1

theorem isSolid_visible {c : Char} (hc : (' ' < c ∧ c.toNat < 128) ∧ c ≠ '/') : IsSolid c :=
  ⟨isBlank_visible hc.1, hc.2⟩

theorem afterBlanks_solid {c : Char} (h : IsSolid c) (t : Text) :
    afterBlanks .between (c :: t) = .ok (c :: t) := by
  obtain ⟨hblank, hslash⟩ := h
  simp [afterBlanks, hblank, hslash]

namespace IsGap

theorem nil : IsGap [] := fun _ => rfl

theorem append {g g' : Text} (h : IsGap g) (h' : IsGap g') : IsGap (g ++ g') := by
  intro rest
  rw [List.append_assoc, h, h']

theorem afterBlanks_solid {g : Text} (h : IsGap g) {c : Char} (hc : IsSolid c) (t : Text) :
    afterBlanks .between (g ++ c :: t) = .ok (c :: t) := by
  rw [h, Json5.afterBlanks_solid hc]

end IsGap

theorem afterBlanks_blank {c : Char} (h : isBlank c = true) (t : Text) :
    afterBlanks .between (c :: t) = afterBlanks .between t := by
  have hc : c ≠ '/' := by
    rintro rfl
    rw [isBlank_visible (by decide)] at h
    cases h
  simp [afterBlanks, hc, h]

/-- What is passed over in some mode up to a character can be passed over wherever it stands. A
comment that is open takes a character at least to be closed. -/
theorem exists_passed {m : BlankMode} {t u : Text} {c : Char} (h : afterBlanks m t = .ok (c :: u)) :
    ∃ p, t = p ++ c :: u ∧ IsSolid c ∧ (m = .blockComment → p ≠ []) ∧
      ∀ rest, afterBlanks m (p ++ rest) = afterBlanks .between rest := by
  fun_induction afterBlanks m t with
  | case1 | case4 | case5 | case8 | case11 => cases h
  | case2 t ih =>
    obtain ⟨p, rfl, hc, -, hp⟩ := ih h
    exact ⟨'/' :: '/' :: p, rfl, hc, nofun, fun rest => by simp [afterBlanks, hp]⟩
  | case3 t ih =>
    obtain ⟨p, rfl, hc, -, hp⟩ := ih h
    exact ⟨'/' :: '*' :: p, rfl, hc, nofun, fun rest => by simp [afterBlanks, hp]⟩
  | case6 d t _ _ _ _ hd ih =>
    obtain ⟨p, rfl, hc, -, hp⟩ := ih h
    exact ⟨d :: p, rfl, hc, nofun, fun rest => (afterBlanks_blank hd _).trans (hp rest)⟩
  | case7 d t _ _ hlast hnext hd =>
    cases h
    have hslash : c ≠ '/' := by
      intro hslash
      cases u with
      | nil => exact hlast hslash rfl
      | cons x u => exact hnext x u hslash rfl
    exact ⟨[], rfl, ⟨by simpa using hd, hslash⟩, nofun, fun _ => rfl⟩
  | case9 d t hd ih =>
    obtain ⟨p, rfl, hc, -, hp⟩ := ih h
    exact ⟨d :: p, rfl, hc, nofun, fun rest => by simp [afterBlanks, hd, hp]⟩
  | case10 d t hd ih =>
    obtain ⟨p, rfl, hc, -, hp⟩ := ih h
    exact ⟨d :: p, rfl, hc, nofun, fun rest => by simp [afterBlanks, hd, hp]⟩
  | case12 t ih =>
    obtain ⟨p, rfl, hc, -, hp⟩ := ih h
    exact ⟨'*' :: '/' :: p, rfl, hc, nofun, fun rest => by simp [afterBlanks, hp]⟩
  | case13 d t hend ih =>
    obtain ⟨p, rfl, hc, hne, hp⟩ := ih h
    obtain ⟨x, p, rfl⟩ := List.exists_cons_of_ne_nil (hne rfl)
    refine ⟨d :: x :: p, rfl, hc, nofun, fun rest => ?_⟩
    rw [← hp, List.cons_append, afterBlanks]
    rintro t rfl ht
    exact hend _ rfl (by rw [List.cons_append, (List.cons.inj ht).1])

/-- Blanks and comments before a character are a gap. -/
theorem exists_gap {t u : Text} {c : Char} (h : afterBlanks .between t = .ok (c :: u)) :
    ∃ g, IsGap g ∧ IsSolid c ∧ t = g ++ c :: u := by
  obtain ⟨p, ht, hc, -, hp⟩ := exists_passed h
  exact ⟨p, hp, hc, ht⟩

theorem IsGap.not_isSolid {g : Text} (h : IsGap g) {c : Char} (hc : c ∈ g.head?) : ¬ IsSolid c := by
  intro hsolid
  cases g with
  | nil => cases hc
  | cons d g =>
    obtain rfl : d = c := Option.some.inj hc
    have hend := h []
    rw [List.cons_append, Json5.afterBlanks_solid hsolid] at hend
    cases hend

theorem IsGap.eq_nil {g u t : Text} {d : Char} (hg : IsGap g) (hd : IsSolid d)
    (h : d :: t = g ++ u) : g = [] := by
  cases g with
  | nil => rfl
  | cons c g =>
    obtain ⟨rfl, -⟩ := List.cons.inj h
    exact absurd hd (hg.not_isSolid rfl)

/-- What can follow a value: the end of the text, a gap, a comma or a closing sign. -/
def EndsValue (rest : Text) : Prop :=
  ∀ c ∈ rest.head?, ¬ IsSolid c ∨ c ∈ [',', ']', '\x7d']

theorem IsGap.endsValue {g rest : Text} (h : IsGap g) (hrest : EndsValue rest) :
    EndsValue (g ++ rest) := by
  cases g with
  | nil => exact hrest
  | cons d g =>
    intro c hc
    exact .inl (h.not_isSolid hc)

theorem endsValue_cons {c : Char} (hc : c ∈ [',', ']', '\x7d']) (t : Text) :
    EndsValue (c :: t) := by
  intro d hd
  cases hd
  exact .inr hc

end Keystroke.Json5
