import Keystroke.Pattern

namespace Keystroke

namespace Places

theorem mem_insertAll {x a : Nat} {as : Places} {next : Places → Places}
    (hnext : ∀ bs, x ∈ next bs ↔ x ∈ as ∨ x ∈ bs) (bs : Places) :
    x ∈ union.insertAll a next bs ↔ x ∈ a :: as ∨ x ∈ bs := by
  induction bs with
  | nil => simp [union.insertAll, hnext]
  | cons b bs ih =>
    rw [union.insertAll]
    split
    next => grind
    next =>
      split
      next => grind
      next => grind

@[simp] theorem mem_union {x : Nat} (as bs : Places) : x ∈ union as bs ↔ x ∈ as ∨ x ∈ bs := by
  induction as generalizing bs with
  | nil => simp [union]
  | cons a as ih => exact mem_insertAll ih bs

theorem mem_of_mem_minus {x : Nat} {as bs : Places} (h : x ∈ minus as bs) : x ∈ as := by
  induction as generalizing bs with
  | nil => exact h
  | cons a as ih =>
    simp only [minus] at h
    split at h
    next => exact List.mem_cons_of_mem a (ih h)
    next =>
      rcases List.mem_cons.mp h with rfl | h
      · exact List.mem_cons_self
      · exact List.mem_cons_of_mem a (ih h)

theorem mem_minus_or_mem {x : Nat} {as : Places} (h : x ∈ as) (bs : Places) :
    x ∈ minus as bs ∨ x ∈ bs := by
  induction as generalizing bs with
  | nil => cases h
  | cons a as ih =>
    have hdrop : ∀ {y}, y ∈ bs.dropWhile (a < ·) → y ∈ bs :=
      fun hy => (List.dropWhile_sublist _).mem hy
    simp only [minus]
    split
    next hhead =>
      rcases List.mem_cons.mp h with rfl | h
      · exact .inr (hdrop (List.mem_of_mem_head? hhead))
      · exact (ih h _).imp_right hdrop
    next =>
      rcases List.mem_cons.mp h with rfl | h
      · exact .inl List.mem_cons_self
      · exact (ih h _).imp (List.mem_cons_of_mem a) hdrop

end Places

/-- A condition on a part of a text, which can also look at what stands before and after it. -/
abbrev Matching := (before part after : Text) → Prop

namespace Matching

def nothing : Matching :=
  fun _ m _ => m = []

/-- A part for the first condition, followed by one for the second. -/
def andThen (P Q : Matching) : Matching :=
  fun x m y => ∃ m₁ m₂, m = m₁ ++ m₂ ∧ P x m₁ (m₂ ++ y) ∧ Q (x ++ m₁) m₂ y

def times (P : Matching) : Nat → Matching
  | 0 => nothing
  | n + 1 => P.andThen (P.times n)

theorem nothing_andThen (P : Matching) : nothing.andThen P = P := by
  funext x m y
  simp only [andThen, nothing, eq_iff_iff]
  constructor
  · rintro ⟨_, m, rfl, rfl, h⟩
    simpa using h
  · intro h
    exact ⟨[], m, rfl, rfl, by simpa using h⟩

theorem andThen_nothing (P : Matching) : P.andThen nothing = P := by
  funext x m y
  simp [andThen, nothing]

theorem andThen_assoc (P Q R : Matching) :
    (P.andThen Q).andThen R = P.andThen (Q.andThen R) := by
  funext x m y
  simp only [eq_iff_iff]
  constructor
  · rintro ⟨_, m₃, rfl, ⟨m₁, m₂, rfl, hP, hQ⟩, hR⟩
    exact ⟨m₁, m₂ ++ m₃, by simp, by simpa using hP, m₂, m₃, rfl, hQ, by simpa using hR⟩
  · rintro ⟨m₁, _, rfl, hP, m₂, m₃, rfl, hQ, hR⟩
    exact ⟨m₁ ++ m₂, m₃, by simp, ⟨m₁, m₂, rfl, by simpa using hP, hQ⟩, by simpa using hR⟩

theorem times_add (P : Matching) (m n : Nat) :
    P.times (m + n) = (P.times m).andThen (P.times n) := by
  induction m with
  | zero => simp [times, nothing_andThen]
  | succ m ih => rw [Nat.succ_add, times, times, ih, andThen_assoc]

/-- The part of `t` from place `i` to place `j` satisfies the condition. -/
def Spans (P : Matching) (t : Text) (i j : Nat) : Prop :=
  ∃ x m y, t = x ++ m ++ y ∧ x.length = i ∧ (x ++ m).length = j ∧ P x m y

variable {P Q : Matching} {t : Text} {i j : Nat}

theorem Spans.le (h : P.Spans t i j) : i ≤ j := by
  obtain ⟨x, m, y, -, rfl, rfl, -⟩ := h
  simp

theorem Spans.le_length (h : P.Spans t i j) : j ≤ t.length := by
  obtain ⟨x, m, y, rfl, -, rfl, -⟩ := h
  simp

theorem spans_empty (hi : i ≤ t.length) :
    Spans (fun x m y => m = [] ∧ P x m y) t i j ↔ i = j ∧ P (t.take i) [] (t.drop i) := by
  constructor
  · rintro ⟨x, m, y, rfl, rfl, rfl, rfl, h⟩
    simpa using h
  · rintro ⟨rfl, h⟩
    have hlength : (t.take i).length = i := List.length_take_of_le hi
    exact ⟨t.take i, [], t.drop i, by simp, hlength, by simpa using hlength, rfl, h⟩

theorem spans_nothing (hi : i ≤ t.length) : nothing.Spans t i j ↔ i = j := by
  have h : Spans (fun x m y => m = [] ∧ True) t i j ↔ i = j ∧ True := spans_empty hi
  simp only [and_true] at h
  exact h

theorem spans_one {p : Char → Bool} :
    Spans (fun _ m _ => ∃ c, p c ∧ m = [c]) t i j ↔ t[i]?.any p ∧ i + 1 = j := by
  constructor
  · rintro ⟨x, m, y, rfl, rfl, rfl, c, hc, rfl⟩
    simpa using hc
  · rintro ⟨hp, rfl⟩
    obtain ⟨c, hget, hc⟩ := (Option.any_eq_true ..).mp hp
    obtain ⟨hi, rfl⟩ := List.getElem?_eq_some_iff.mp hget
    have hlength : (t.take i).length = i := List.length_take_of_le (Nat.le_of_lt hi)
    refine ⟨t.take i, [t[i]], t.drop (i + 1), by simp, hlength, ?_, t[i], hc, rfl⟩
    rw [List.length_append, hlength, List.length_singleton]

theorem spans_andThen :
    (P.andThen Q).Spans t i j ↔ ∃ k, P.Spans t i k ∧ Q.Spans t k j := by
  constructor
  · rintro ⟨x, _, y, rfl, rfl, rfl, m₁, m₂, rfl, hP, hQ⟩
    exact ⟨(x ++ m₁).length, ⟨x, m₁, m₂ ++ y, by simp, rfl, rfl, hP⟩,
      ⟨x ++ m₁, m₂, y, by simp, rfl, by simp, hQ⟩⟩
  · rintro ⟨_, ⟨x, m₁, y, rfl, rfl, rfl, hP⟩, x', m₂, y', ht, hx, rfl, hQ⟩
    obtain ⟨rfl, rfl⟩ := List.append_inj (ht.trans (List.append_assoc ..)) hx.symm
    exact ⟨x, m₁ ++ m₂, y', by simp, rfl, by simp, m₁, m₂, rfl, hP, hQ⟩

theorem spans_or :
    Spans (fun x m y => P x m y ∨ Q x m y) t i j ↔ P.Spans t i j ∨ Q.Spans t i j := by
  constructor
  · rintro ⟨x, m, y, ht, hi, hj, h | h⟩
    · exact .inl ⟨x, m, y, ht, hi, hj, h⟩
    · exact .inr ⟨x, m, y, ht, hi, hj, h⟩
  · rintro (⟨x, m, y, ht, hi, hj, h⟩ | ⟨x, m, y, ht, hi, hj, h⟩)
    · exact ⟨x, m, y, ht, hi, hj, .inl h⟩
    · exact ⟨x, m, y, ht, hi, hj, .inr h⟩

theorem spans_exists {A : Nat → Prop} {F : Nat → Matching} :
    Spans (fun x m y => ∃ k, A k ∧ F k x m y) t i j ↔ ∃ k, A k ∧ (F k).Spans t i j := by
  constructor
  · rintro ⟨x, m, y, ht, hi, hj, k, hk, h⟩
    exact ⟨k, hk, x, m, y, ht, hi, hj, h⟩
  · rintro ⟨k, hk, x, m, y, ht, hi, hj, h⟩
    exact ⟨x, m, y, ht, hi, hj, k, hk, h⟩

/-- Repetitions of nothing can be left out, so no more are needed than there are characters. -/
theorem Spans.times_le {n : Nat} (h : (P.times n).Spans t i j) :
    ∃ k ≤ j - i, (P.times k).Spans t i j := by
  induction n generalizing i with
  | zero => exact ⟨0, Nat.zero_le _, h⟩
  | succ n ih =>
    obtain ⟨i', hstep, hrest⟩ := spans_andThen.mp h
    obtain ⟨k, hk, hrest'⟩ := ih hrest
    have hle := hstep.le
    have hle' := hrest.le
    -- A part of no characters is left out.
    by_cases hi : i = i'
    · subst hi
      exact ⟨k, hk, hrest'⟩
    · exact ⟨k + 1, by omega, spans_andThen.mpr ⟨i', hstep, hrest'⟩⟩

end Matching

namespace Node

open Matching

/-- What a pattern matches. Nothing is said of patterns that are not regular. -/
def Matches : Node → Matching
  | empty => nothing
  | one s => fun _ m _ => ∃ c, s.contains c ∧ m = [c]
  | assert a => fun x m y => m = [] ∧ a.holds (x ++ y).toArray x.length
  | seq a b => a.Matches.andThen b.Matches
  | alt a b => fun x m y => a.Matches x m y ∨ b.Matches x m y
  | rep least most _ body =>
    fun x m y => ∃ k, (∀ n ∈ most, k ≤ n - least) ∧ body.Matches.times (least + k) x m y
  | _ => fun _ _ _ => False

/-- A step on sets of places goes from each place to the ends of the parts that start there. -/
def Follows (t : Text) (step : Places → Places) (P : Matching) : Prop :=
  ∀ s : Places, (∀ i ∈ s, i ≤ t.length) → ∀ j, j ∈ step s ↔ ∃ i ∈ s, P.Spans t i j

namespace Follows

variable {t : Text} {step : Places → Places} {P : Matching} {s : Places}

theorem le_length (h : Follows t step P) (hs : ∀ i ∈ s, i ≤ t.length) :
    ∀ j ∈ step s, j ≤ t.length := by
  intro j hj
  obtain ⟨i, -, hij⟩ := (h s hs j).mp hj
  exact hij.le_length

theorem exists_andThen (h : Follows t step P) (hs : ∀ i ∈ s, i ≤ t.length) (Q : Matching)
    (j : Nat) : (∃ i ∈ s, (P.andThen Q).Spans t i j) ↔ ∃ k ∈ step s, Q.Spans t k j := by
  constructor
  · rintro ⟨i, hi, hij⟩
    obtain ⟨k, hik, hkj⟩ := spans_andThen.mp hij
    exact ⟨k, (h s hs k).mpr ⟨i, hi, hik⟩, hkj⟩
  · rintro ⟨k, hk, hkj⟩
    obtain ⟨i, hi, hik⟩ := (h s hs k).mp hk
    exact ⟨i, hi, spans_andThen.mpr ⟨k, hik, hkj⟩⟩

theorem times_zero (hs : ∀ i ∈ s, i ≤ t.length) (j : Nat) :
    (∃ i ∈ s, (P.times 0).Spans t i j) ↔ j ∈ s := by
  constructor
  · rintro ⟨i, hi, hij⟩
    exact (spans_nothing (hs i hi)).mp hij ▸ hi
  · intro hj
    exact ⟨j, hj, (spans_nothing (hs j hj)).mpr rfl⟩

theorem times_of_fixed (h : Follows t step P) (hs : ∀ i ∈ s, i ≤ t.length) (hfix : step s = s)
    (n j : Nat) : (∃ i ∈ s, (P.times n).Spans t i j) ↔ j ∈ s := by
  induction n with
  | zero => exact times_zero hs j
  | succ n ih => rw [times, h.exists_andThen hs, hfix, ih]

theorem power (h : Follows t step P) (n : Nat) : Follows t (Node.power step n) (P.times n) := by
  intro s hs j
  induction n generalizing s with
  | zero => exact (times_zero hs j).symm
  | succ n ih =>
    simp only [Node.power]
    split
    -- The power stops early here: further steps change nothing.
    next hfix => exact (h.times_of_fixed hs hfix (n + 1) j).symm
    next => rw [ih _ (h.le_length hs), times, h.exists_andThen hs]

end Follows

/-- What holds after each round of a walk: a part that starts at a place seen ends at a place
seen, unless the place is fresh. -/
structure Walked (t : Text) (P : Matching) (seen fresh : Places) : Prop where
  le_length : ∀ i ∈ seen, i ≤ t.length
  mem_of_fresh : ∀ i ∈ fresh, i ∈ seen
  expanded : ∀ i ∈ seen, i ∈ fresh ∨ ∀ j, P.Spans t i j → j ∈ seen

namespace Walked

variable {t : Text} {step : Places → Places} {P : Matching} {seen fresh : Places}

theorem start {s : Places} (hs : ∀ i ∈ s, i ≤ t.length) : Walked t P s s :=
  ⟨hs, fun _ hi => hi, fun _ hi => .inl hi⟩

theorem fresh_le_length (w : Walked t P seen fresh) : ∀ i ∈ fresh, i ≤ t.length :=
  fun i hi => w.le_length i (w.mem_of_fresh i hi)

theorem mem_next (w : Walked t P seen fresh) (h : Follows t step P) {i k : Nat} (hi : i ∈ seen)
    (hik : P.Spans t i k) : k ∈ (step fresh).minus seen ∨ k ∈ seen := by
  rcases w.expanded i hi with hi | hi
  · exact Places.mem_minus_or_mem ((h fresh w.fresh_le_length k).mpr ⟨i, hi, hik⟩) seen
  · exact .inr (hi k hik)

theorem of_mem_next (w : Walked t P seen fresh) (h : Follows t step P) {k : Nat}
    (hk : k ∈ (step fresh).minus seen) : ∃ i ∈ seen, P.Spans t i k := by
  obtain ⟨i, hi, hik⟩ := (h fresh w.fresh_le_length k).mp (Places.mem_of_mem_minus hk)
  exact ⟨i, w.mem_of_fresh i hi, hik⟩

theorem next (w : Walked t P seen fresh) (h : Follows t step P) :
    Walked t P (((step fresh).minus seen).union seen) ((step fresh).minus seen) where
  le_length i hi := by
    rcases (Places.mem_union ..).mp hi with hi | hi
    · obtain ⟨_, -, hi⟩ := w.of_mem_next h hi
      exact hi.le_length
    · exact w.le_length i hi
  mem_of_fresh i hi := (Places.mem_union ..).mpr (.inl hi)
  expanded i hi := by
    refine ((Places.mem_union ..).mp hi).imp id fun hi k hik => ?_
    exact (Places.mem_union ..).mpr (w.mem_next h hi hik)

theorem times_next (w : Walked t P seen fresh) (h : Follows t step P) (n j : Nat) :
    (∃ i ∈ ((step fresh).minus seen).union seen, ∃ k ≤ n, (P.times k).Spans t i j) ↔
      ∃ i ∈ seen, ∃ k ≤ n + 1, (P.times k).Spans t i j := by
  constructor
  · rintro ⟨i, hi, k, hk, hij⟩
    rcases (Places.mem_union ..).mp hi with hi | hi
    · obtain ⟨i₀, hi₀, hii⟩ := w.of_mem_next h hi
      exact ⟨i₀, hi₀, k + 1, by omega, spans_andThen.mpr ⟨i, hii, hij⟩⟩
    · exact ⟨i, hi, k, by omega, hij⟩
  · rintro ⟨i, hi, k, hk, hij⟩
    cases k with
    | zero => exact ⟨i, (Places.mem_union ..).mpr (.inr hi), 0, Nat.zero_le _, hij⟩
    | succ k =>
      obtain ⟨i', hii', hij'⟩ := spans_andThen.mp hij
      exact ⟨i', (Places.mem_union ..).mpr (w.mem_next h hi hii'), k, by omega, hij'⟩

/-- Where no place is new, no number of parts leads away from the places seen. -/
theorem mem_seen (w : Walked t P seen fresh) (h : Follows t step P)
    (hnil : (step fresh).minus seen = []) {n i j : Nat} (hi : i ∈ seen)
    (hij : (P.times n).Spans t i j) : j ∈ seen := by
  induction n generalizing i with
  | zero => exact (spans_nothing (w.le_length i hi)).mp hij ▸ hi
  | succ n ih =>
    obtain ⟨i', hii', hij'⟩ := spans_andThen.mp hij
    rcases w.mem_next h hi hii' with hi' | hi'
    · simp [hnil] at hi'
    · exact ih hi' hij'

theorem mem_reach (w : Walked t P seen fresh) (h : Follows t step P) (n j : Nat) :
    j ∈ reach step n seen fresh ↔ ∃ i ∈ seen, ∃ k ≤ n, (P.times k).Spans t i j := by
  induction n generalizing seen fresh with
  | zero =>
    simp only [reach, Nat.le_zero, exists_eq_left]
    exact (Follows.times_zero w.le_length j).symm
  | succ n ih =>
    simp only [reach]
    split
    next hnil =>
      constructor
      · intro hj
        exact ⟨j, hj, 0, Nat.zero_le _, (spans_nothing (w.le_length j hj)).mpr rfl⟩
      · rintro ⟨i, hi, k, -, hij⟩
        exact w.mem_seen h hnil hi hij
    next => rw [ih (w.next h), w.times_next h]

end Walked

theorem matches_rep (P : Matching) (least : Nat) (most : Option Nat) :
    (fun x m y => ∃ k, (∀ n ∈ most, k ≤ n - least) ∧ P.times (least + k) x m y) =
      (P.times least).andThen fun x m y => ∃ k, (∀ n ∈ most, k ≤ n - least) ∧ P.times k x m y := by
  funext x m y
  simp only [times_add, eq_iff_iff]
  constructor
  · rintro ⟨k, hk, m₁, m₂, rfl, h₁, h₂⟩
    exact ⟨m₁, m₂, rfl, h₁, k, hk, h₂⟩
  · rintro ⟨m₁, m₂, rfl, h₁, k, hk, h₂⟩
    exact ⟨k, hk, m₁, m₂, rfl, h₁, h₂⟩

/-- A text has no more places than the steps of an unbounded repetition. -/
theorem exists_times_le {t : Text} {P : Matching} {i j : Nat} (most : Option Nat) (least : Nat) :
    (∃ k ≤ (match most with | none => t.length + 1 | some m => m - least),
        (P.times k).Spans t i j) ↔
      ∃ k, (∀ m ∈ most, k ≤ m - least) ∧ (P.times k).Spans t i j := by
  cases most with
  | some m => simp
  | none =>
    constructor
    · rintro ⟨k, -, h⟩
      exact ⟨k, by simp, h⟩
    · rintro ⟨k, -, h⟩
      obtain ⟨k', hk', h'⟩ := h.times_le
      have hle := h.le_length
      exact ⟨k', by simp only; omega, h'⟩

/-- The places that following a pattern gives are the ends of its matches. -/
theorem follows_image (t : Text) (n : Node) : Follows t (n.image t.toArray) n.Matches := by
  induction n with
  | empty =>
    intro s hs j
    exact (Follows.times_zero (P := nothing) hs j).symm
  | one set =>
    intro s hs j
    simp [image, Matches, spans_one]
  | assert a =>
    intro s hs j
    simp only [image, Matches, List.mem_filter]
    constructor
    · rintro ⟨hj, ha⟩
      exact ⟨j, hj, (spans_empty (hs j hj)).mpr ⟨rfl, by simpa [hs j hj] using ha⟩⟩
    · rintro ⟨i, hi, hij⟩
      obtain ⟨rfl, ha⟩ := (spans_empty (hs i hi)).mp hij
      exact ⟨hi, by simpa [hs i hi] using ha⟩
  | seq a b iha ihb =>
    intro s hs j
    simp only [image, Matches]
    rw [ihb _ (iha.le_length hs), iha.exists_andThen hs]
  | alt a b iha ihb =>
    intro s hs j
    simp only [image, Matches, Places.mem_union, spans_or]
    rw [iha s hs, ihb s hs]
    simp only [and_or_left, exists_or]
  | rep least most greedy body ih =>
    intro s hs j
    have hpower := ih.power least
    simp only [image, Matches, matches_rep]
    rw [(Walked.start (hpower.le_length hs)).mem_reach ih, hpower.exists_andThen hs]
    simp only [spans_exists]
    exact exists_congr fun i => and_congr_right fun _ => exists_times_le most least
  | capture | atomic | lookAhead | lookBehind | again =>
    intro s hs j
    simp [image, Matches, Matching.Spans]

/-- A search that follows sets of places finds a pattern exactly where it matches. -/
theorem occurs_iff (n : Node) (t : Text) :
    n.occurs t.toArray ↔ ∃ x m y, t = x ++ m ++ y ∧ n.Matches x m y := by
  have hplaces : ∀ i, i ∈ everywhere t.toArray ↔ i ≤ t.length := by
    intro i
    simp only [everywhere, List.mem_reverse, List.mem_range, List.size_toArray]
    omega
  have hfollows := follows_image t n (everywhere t.toArray) fun i hi => (hplaces i).mp hi
  simp only [occurs, ne_eq, decide_not, Bool.not_eq_true', decide_eq_false_iff_not]
  constructor
  · intro hne
    obtain ⟨j, hj⟩ := List.exists_mem_of_ne_nil _ hne
    obtain ⟨i, -, x, m, y, ht, -, -, h⟩ := (hfollows j).mp hj
    exact ⟨x, m, y, ht, h⟩
  · rintro ⟨x, m, y, ht, h⟩
    have hi : x.length ≤ t.length := by simp [ht]
    exact List.ne_nil_of_mem
      ((hfollows (x ++ m).length).mpr ⟨x.length, (hplaces _).mpr hi, x, m, y, ht, rfl, rfl, h⟩)

theorem openFinalLookAhead_of_isRegular {n : Node} (h : n.isRegular) :
    n.openFinalLookAhead = n := by
  fun_induction openFinalLookAhead n with
  | case1 a b => simp [isRegular] at h
  | case2 a b _ ih => rw [ih (by simp [isRegular] at h; exact h.2)]
  | case3 n => rfl

theorem keepGroups_of_isRegular {n : Node} (asked : Nat → Bool) (h : n.isRegular) :
    n.keepGroups asked = n := by
  induction n with
  | empty | one | assert => rfl
  | seq a b iha ihb | alt a b iha ihb =>
    simp only [isRegular, Bool.and_eq_true] at h
    rw [keepGroups, iha h.1, ihb h.2]
  | rep least most greedy body ih => rw [keepGroups, ih h]
  | capture | atomic | lookAhead | lookBehind | again => cases h

theorem greatestAgain_of_isRegular {n : Node} (h : n.isRegular) : n.greatestAgain = 0 := by
  induction n with
  | empty | one | assert => rfl
  | seq a b iha ihb | alt a b iha ihb =>
    simp only [isRegular, Bool.and_eq_true] at h
    rw [greatestAgain, iha h.1, ihb h.2, Nat.max_self]
  | rep least most greedy body ih => rw [greatestAgain, ih h]
  | capture | atomic | lookAhead | lookBehind | again => cases h

end Node

/-- The search for a regular pattern follows sets of places and is never given up. -/
theorem Pattern.search_of_isRegular {p : Pattern} (h : p.node.isRegular) (t : Text) :
    p.search t = if p.node.occurs t.toArray then .found else .absent := by
  have hsearched : p.searched = p.node := by
    rw [searched, Node.openFinalLookAhead_of_isRegular h, Node.keepGroups_of_isRegular _ h]
  simp only [search, hsearched, h, if_true]

/-- The search for a regular pattern finds it exactly when some part of the text is matched. -/
theorem Pattern.search_eq_found {p : Pattern} (h : p.node.isRegular) (t : Text) :
    p.search t = .found ↔ ∃ x m y, t = x ++ m ++ y ∧ p.node.Matches x m y := by
  rw [search_of_isRegular h, ← Node.occurs_iff]
  split
  next hfound => simp [hfound]
  next hfound => simp [hfound]

namespace Assertion

theorem wordBefore_append (x y : Text) :
    wordBefore (x ++ y).toArray x.length = x.getLast?.any Unicode.isWord := by
  rcases List.eq_nil_or_concat x with rfl | ⟨x, c, rfl⟩
  · rfl
  · simp [wordBefore]

theorem wordAfter_append (x y : Text) :
    wordAfter (x ++ y).toArray x.length = y.head?.any Unicode.isWord := by
  have hget : (x ++ y)[x.length]? = y.head? := by
    rw [List.getElem?_append_right (Nat.le_refl _), Nat.sub_self, List.head?_eq_getElem?]
  simp [wordAfter, hget]

theorem holds_wordBoundary (x y : Text) :
    wordBoundary.holds (x ++ y).toArray x.length =
      (x.getLast?.any Unicode.isWord != y.head?.any Unicode.isWord) := by
  rw [holds, wordBefore_append, wordAfter_append]

theorem holds_notWordBoundary (x y : Text) :
    notWordBoundary.holds (x ++ y).toArray x.length =
      (x.getLast?.any Unicode.isWord == y.head?.any Unicode.isWord) := by
  rw [holds, wordBefore_append, wordAfter_append]

end Assertion

theorem Matching.times_one (p : Char → Bool) (n : Nat) (x m y : Text) :
    times (fun _ m _ => ∃ c, p c ∧ m = [c]) n x m y ↔ m.length = n ∧ ∀ c ∈ m, p c := by
  induction n generalizing x m with
  | zero => simp +contextual [times, nothing]
  | succ n ih =>
    constructor
    · rintro ⟨_, m, rfl, ⟨c, hc, rfl⟩, hm⟩
      obtain ⟨hlength, hall⟩ := (ih _ _).mp hm
      simpa [hlength, hc] using hall
    · rintro ⟨hlength, hall⟩
      cases m with
      | nil => cases hlength
      | cons c m =>
        have hm := (ih (x ++ [c]) m).mpr ⟨by simpa using hlength, fun d hd => hall d (by simp [hd])⟩
        exact ⟨[c], m, rfl, ⟨c, hall c (by simp), rfl⟩, hm⟩

namespace Node

open Matching

theorem matches_seqOf_cons (n : Node) (ns : List Node) :
    (seqOf (n :: ns)).Matches = n.Matches.andThen (seqOf ns).Matches := by
  cases ns with
  | nil => exact (andThen_nothing n.Matches).symm
  | cons => rfl

theorem matches_seqOf_append (as bs : List Node) :
    (seqOf (as ++ bs)).Matches = (seqOf as).Matches.andThen (seqOf bs).Matches := by
  induction as with
  | nil => exact (nothing_andThen _).symm
  | cons a as ih => rw [List.cons_append, matches_seqOf_cons, ih, matches_seqOf_cons, andThen_assoc]

theorem isRegular_seqOf (ns : List Node) : (seqOf ns).isRegular = ns.all isRegular := by
  induction ns with
  | nil => rfl
  | cons n ns ih =>
    cases ns with
    | nil => simp [seqOf]
    | cons => simp [seqOf, isRegular, ih]

/-- A literal matches itself, whatever stands around it. -/
theorem matches_literal (t x m y : Text) : (literal t).Matches x m y ↔ m = t := by
  induction t generalizing x m with
  | nil => rfl
  | cons c t ih =>
    rw [literal, List.map_cons, matches_seqOf_cons, ← literal]
    constructor
    · rintro ⟨_, m, rfl, ⟨d, hd, rfl⟩, hm⟩
      have hd : d = c := by simpa [CharSet.contains] using hd
      rw [hd, (ih _ _).mp hm, List.singleton_append]
    · rintro rfl
      exact ⟨[c], t, rfl, ⟨c, by simp [CharSet.contains], rfl⟩, (ih _ _).mpr rfl⟩

theorem matches_star (s : CharSet) (greedy : Bool) (x m y : Text) :
    (rep 0 none greedy (one s)).Matches x m y ↔ ∀ c ∈ m, s.contains c := by
  simp [Matches, times_one]

end Node

end Keystroke
