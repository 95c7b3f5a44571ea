import Mathlib.Data.List.TakeWhile
import Keystroke.Proofs.Elements

namespace Keystroke.Json5

open Reader

theorem EndsValue.head_ascii {rest : Text} (h : EndsValue rest) {c : Char} (hc : c ∈ rest.head?)
    (hascii : c.toNat < 128) : c ≤ ' ' ∨ c ∈ ['/', ',', ']', '\x7d'] := by
  rcases h c hc with hgap | hclosing
  · by_contra hno
    simp only [List.mem_cons, not_or, Char.not_le] at hno
    exact hgap (isSolid_visible ⟨⟨hno.1, hascii⟩, hno.2.1⟩)
  · exact .inr (List.mem_cons_of_mem _ hclosing)

/-- What can follow a number is no part of it. -/
theorem EndsValue.not_number {rest : Text} (h : EndsValue rest) {c : Char} (hc : c ∈ rest.head?) :
    Number.isDecimalChar c = false ∧ hexDigit? c = none ∧ c ≠ 'x' ∧ c ≠ 'X' := by
  by_cases hascii : c.toNat < 128
  · exact of_ascii (p := fun c => c ≤ ' ' ∨ c ∈ ['/', ',', ']', '\x7d'] →
      Number.isDecimalChar c = false ∧ hexDigit? c = none ∧ c ≠ 'x' ∧ c ≠ 'X')
      (by decide +kernel) hascii (h.head_ascii hc hascii)
  · have hne : ∀ d : Char, d.toNat < 128 → c ≠ d := by
      rintro d hd rfl
      exact hascii hd
    have hle : ∀ d : Char, d.toNat < 128 → ¬ c ≤ d := fun d hd hcd =>
      hascii (Nat.lt_of_le_of_lt hcd hd)
    refine ⟨?_, ?_, hne _ (by decide), hne _ (by decide)⟩
    · have hdigit : c.isDigit = false := by
        have := hle '9' (by decide)
        simp only [Char.isDigit, Bool.and_eq_false_iff, decide_eq_false_iff_not]
        exact .inr this
      simp [Number.isDecimalChar, hdigit, hne]
    · simp [hexDigit?, hle]

theorem EndsValue.not_digit {rest : Text} (h : EndsValue rest) {c : Char} (hc : c ∈ rest.head?) :
    c.isDigit = false := by
  have hno := (h.not_number hc).1
  simp only [Number.isDecimalChar, Bool.or_eq_false_iff] at hno
  exact hno.1

theorem blank_cases {c : Char} (h : isBlank c = true) :
    c.toNat < 128 ∨ c ∈ ['\u2028', '\u2029', '\uFEFF'] ∨ Unicode.category c = .zs := by
  simp only [isBlank, Bool.or_eq_true, Bool.and_eq_true, decide_eq_true_eq, beq_iff_eq] at h
  obtain (((⟨-, h⟩ | h) | h) | h) | h := h
  · exact .inl (Nat.lt_of_le_of_lt h (by decide))
  all_goals simp [h]

/-- The characters that are told apart by themselves are no spaces. -/
theorem category_ne_space : Unicode.category '$' ≠ .zs ∧ Unicode.category '_' ≠ .zs ∧
    Unicode.category '\u200C' ≠ .zs ∧ Unicode.category '\u200D' ≠ .zs := by
  decide +kernel

/-- Blanks are no parts of identifiers. -/
theorem isIdentifierPart_blank {c : Char} (h : isBlank c = true) : isIdentifierPart c = false := by
  rcases blank_cases h with hascii | h | h
  · exact of_ascii (p := fun c => isBlank c = true → isIdentifierPart c = false)
      (by decide +kernel) hascii h
  · simp only [List.mem_cons, List.not_mem_nil, or_false] at h
    rcases h with rfl | rfl | rfl <;> decide +kernel
  · have hne : ∀ d, Unicode.category d ≠ .zs → c ≠ d := by
      rintro d hd rfl
      exact hd h
    obtain ⟨hdollar, hline, hnonJoiner, hjoiner⟩ := category_ne_space
    have hjoin : Unicode.isJoinControl c = false := by
      have h₁ := hne _ hnonJoiner
      have h₂ := hne _ hjoiner
      simp [Unicode.isJoinControl, ← Char.toNat_inj] at h₁ h₂ ⊢
      exact ⟨h₁, h₂⟩
    simp [isIdentifierPart, isIdentifierStart, h, hjoin, Unicode.Category.isLetter,
      hne _ hdollar, hne _ hline]

/-- Signs that stand behind a key or in its place are no parts of one. -/
theorem isIdentifierPart_sign : isIdentifierPart '/' = false ∧ isIdentifierPart ':' = false ∧
    isIdentifierPart '\x7d' = false := by
  decide +kernel

/-- The reader takes `p` and reads `a`, wherever its escape stands and whatever follows. -/
def TakesWhole {α : Type} (r : Nat → Reader α) (p : Text) (a : α) : Prop :=
  ∀ place rest, (r place).Reads (p ++ rest) a rest

theorem exists_hexDigits {place count n v : Nat} {t rest : Text}
    (h : (hexDigits place count n).Reads t v rest) :
    ∃ p, t = p ++ rest ∧ TakesWhole (fun place => hexDigits place count n) p v := by
  induction count generalizing n t with
  | zero =>
    obtain ⟨rfl, rfl⟩ := reads_pure.mp h
    exact ⟨[], rfl, fun _ _ => reads_pure.mpr ⟨rfl, rfl⟩⟩
  | succ count ih =>
    simp only [hexDigits, reads_bind, reads_left] at h
    obtain ⟨_, _, ⟨rfl, rfl⟩, h⟩ := h
    split at h
    next => exact absurd h not_reads_fail
    next c t =>
      split at h
      next d hd =>
        simp only [reads_bind, reads_drop] at h
        obtain ⟨_, _, rfl, h⟩ := h
        obtain ⟨p, rfl, hp⟩ := ih h
        refine ⟨c :: p, rfl, fun place rest => ?_⟩
        simp only [hexDigits, reads_bind, reads_left, List.cons_append]
        exact ⟨_, _, ⟨rfl, rfl⟩, by simp [hd, hp place rest]⟩
      next => exact absurd h not_reads_error

theorem exists_unicodeEscape {place : Nat} {c : Char} {t rest : Text}
    (h : (unicodeEscape place).Reads t c rest) :
    ∃ p, t = p ++ rest ∧ TakesWhole unicodeEscape p c := by
  simp only [unicodeEscape, reads_bind] at h
  obtain ⟨first, u, hfirst, h⟩ := h
  obtain ⟨p, rfl, hp⟩ := exists_hexDigits hfirst
  by_cases hsurrogate : isHighSurrogate first || isLowSurrogate first
  · simp only [hsurrogate, if_true, reads_bind, reads_left] at h
    obtain ⟨_, _, ⟨rfl, rfl⟩, h⟩ := h
    split at h
    next => exact absurd h not_reads_fail
    next t =>
      simp only [reads_bind, reads_drop, reads_left] at h
      obtain ⟨_, _, rfl, _, _, ⟨rfl, rfl⟩, h⟩ := h
      split at h
      next => exact absurd h not_reads_fail
      next t ht =>
        simp only [reads_bind, reads_drop] at h
        obtain ⟨_, _, rfl, second, _, hsecond, h⟩ := h
        obtain ⟨q, rfl, hq⟩ := exists_hexDigits hsecond
        by_cases hpair : isHighSurrogate first && isLowSurrogate second
        · simp only [hpair] at h
          obtain ⟨rfl, rfl⟩ := reads_pure.mp h
          refine ⟨p ++ '\\' :: 'u' :: q, by simp, fun place rest => ?_⟩
          simp only [unicodeEscape, reads_bind]
          refine ⟨first, '\\' :: 'u' :: (q ++ rest), by simpa using hp place _, ?_⟩
          simp only [hsurrogate, if_true, reads_bind, reads_left]
          refine ⟨_, _, ⟨rfl, rfl⟩, ?_⟩
          simp only [reads_bind, reads_drop, reads_left]
          refine ⟨(), _, rfl, _, _, ⟨rfl, rfl⟩, ?_⟩
          simp only [List.drop_succ_cons, List.drop_zero, reads_bind, reads_drop]
          exact ⟨(), _, rfl, second, rest, hq place rest, by simp [hpair]⟩
        · simp only [hpair] at h
          exact absurd h not_reads_error
      next => exact absurd h not_reads_failHere
    next => exact absurd h not_reads_failHere
  · simp only [hsurrogate] at h
    obtain ⟨rfl, rfl⟩ := reads_pure.mp h
    refine ⟨p, rfl, fun place rest => ?_⟩
    simp only [unicodeEscape, reads_bind]
    exact ⟨first, rest, hp place rest, by simp [hsurrogate]⟩

/-- A character that is no sign of an escape stands for itself, or for nothing where it ends a
line. -/
theorem reads_stringEscape_other {place : Nat} {c : Char} {u part rest : Text}
    (hc : c ∉ ['b', 'f', 'n', 'r', 't', 'v', 'x', 'u', '0'])
    (hreturn : c = '\r' → u.head? ≠ some '\n') :
    (stringEscape place).Reads (c :: u) part rest ↔
      c.isDigit = false ∧ (if isLineTerminator c then [] else [c]) = part ∧ u = rest := by
  simp only [List.mem_cons, List.not_mem_nil, or_false, not_or] at hc
  have hfeed : ∀ v, c = '\r' → u = '\n' :: v → False := by
    rintro v hc rfl
    exact hreturn hc rfl
  by_cases hdigit : c.isDigit
  · simp [stringEscape, hc, hdigit]
  · by_cases hend : isLineTerminator c <;> simp [stringEscape, hc, hdigit, hend]

/-- What an escape is read as may depend on the character behind it. -/
theorem exists_stringEscape {place : Nat} {part t rest : Text}
    (h : (stringEscape place).Reads t part rest) :
    ∃ p, t = p ++ rest ∧ ∀ place' rest', rest'.head? = rest.head? →
      (stringEscape place').Reads (p ++ rest') part rest' := by
  have hread := h
  simp only [stringEscape, reads_bind, reads_left] at h
  obtain ⟨_, _, ⟨rfl, rfl⟩, h⟩ := h
  split at h
  next => exact absurd h not_reads_fail
  iterate 6
    next =>
      obtain ⟨rfl, rfl⟩ := by simpa using h
      exact ⟨[_], rfl, fun _ _ _ => by simp [stringEscape]⟩
  next t =>
    simp only [reads_bind, reads_drop] at h
    obtain ⟨_, _, rfl, v, u, hv, h⟩ := h
    obtain ⟨p, rfl, hp⟩ := exists_hexDigits hv
    obtain ⟨rfl, rfl⟩ := reads_pure.mp h
    refine ⟨'x' :: p, rfl, fun place rest _ => ?_⟩
    simp only [stringEscape, reads_bind, reads_left, List.cons_append]
    refine ⟨_, _, ⟨rfl, rfl⟩, ?_⟩
    simp only [reads_bind, reads_drop]
    exact ⟨(), _, rfl, v, rest, hp place rest, reads_pure.mpr ⟨rfl, rfl⟩⟩
  next t =>
    simp only [reads_bind, reads_drop] at h
    obtain ⟨_, _, rfl, c, u, hc, h⟩ := h
    obtain ⟨p, rfl, hp⟩ := exists_unicodeEscape hc
    obtain ⟨rfl, rfl⟩ := reads_pure.mp h
    refine ⟨'u' :: p, rfl, fun place rest _ => ?_⟩
    simp only [stringEscape, reads_bind, reads_left, List.cons_append]
    refine ⟨_, _, ⟨rfl, rfl⟩, ?_⟩
    simp only [reads_bind, reads_drop]
    exact ⟨(), _, rfl, c, rest, hp place rest, reads_pure.mpr ⟨rfl, rfl⟩⟩
  next =>
    obtain ⟨rfl, rfl⟩ := by simpa using h
    exact ⟨['\r', '\n'], rfl, fun _ _ _ => by simp [stringEscape]⟩
  next c u =>
    by_cases hc : c.isDigit
    · simp only [hc] at h
      exact absurd h not_reads_error
    · obtain ⟨rfl, rfl⟩ := by simpa [hc] using h
      refine ⟨['0'], rfl, fun place rest hrest => ?_⟩
      obtain ⟨v, rfl⟩ := List.head?_eq_some_iff.mp hrest
      simp [stringEscape, hc]
  next u hu =>
    obtain ⟨rfl, rfl⟩ := by simpa using h
    have hnil : u = [] := List.eq_nil_iff_forall_not_mem.mpr fun c hc => by
      cases u with
      | nil => cases hc
      | cons d u => exact hu d u rfl
    subst hnil
    refine ⟨['0'], rfl, fun place rest hrest => ?_⟩
    obtain rfl := List.head?_eq_none_iff.mp hrest
    simp [stringEscape]
  next c u _ _ _ _ _ _ _ _ hreturn _ hzero =>
    have hother : c ∉ ['b', 'f', 'n', 'r', 't', 'v', 'x', 'u', '0'] := by simp_all
    have hfeed : c = '\r' → u.head? ≠ some '\n' := by
      intro hc hu
      obtain ⟨v, hv⟩ := List.head?_eq_some_iff.mp hu
      exact hreturn v hc hv
    obtain ⟨hdigit, rfl, rfl⟩ := (reads_stringEscape_other hother hfeed).mp hread
    refine ⟨[c], rfl, fun place rest hrest => ?_⟩
    exact (reads_stringEscape_other hother (hrest ▸ hfeed)).mpr ⟨hdigit, rfl, rfl⟩

theorem exists_stringBody {quote : Char} {n : Nat} {t s rest : Text}
    (h : (stringBody quote n).Reads t s rest) :
    ∃ p, p ≠ [] ∧ t = p ++ rest ∧
      ∀ n' rest', p.length ≤ n' → (stringBody quote n').Reads (p ++ rest') s rest' := by
  induction n generalizing t s with
  | zero => exact absurd h not_reads_fail
  | succ n ih =>
    simp only [stringBody, reads_bind, reads_left] at h
    obtain ⟨_, _, ⟨rfl, rfl⟩, h⟩ := h
    split at h
    next => exact absurd h not_reads_fail
    next c t =>
      by_cases hquote : c = quote
      · obtain ⟨rfl, rfl⟩ := by simpa [hquote] using h
        refine ⟨[c], by simp, rfl, fun n' rest' hn => ?_⟩
        obtain ⟨n', rfl⟩ := Nat.exists_eq_add_one_of_ne_zero (Nat.ne_zero_of_lt hn)
        simp [stringBody, hquote]
      by_cases hescape : c = '\\'
      · rw [if_neg hquote, if_pos hescape] at h
        simp only [reads_bind, reads_drop] at h
        obtain ⟨_, _, rfl, part, _, hpart, s', _, hs, h⟩ := h
        obtain ⟨rfl, rfl⟩ := reads_pure.mp h
        obtain ⟨p, hne, rfl, hp⟩ := ih hs
        obtain ⟨e, htext, he⟩ := exists_stringEscape hpart
        -- The escape ends before the closing quote, so what follows the string is out of its sight.
        obtain ⟨x, p, rfl⟩ := List.exists_cons_of_ne_nil hne
        refine ⟨c :: (e ++ x :: p), by simp, by simpa using htext, fun n' rest' hn => ?_⟩
        obtain ⟨n', rfl⟩ := Nat.exists_eq_add_one_of_ne_zero (Nat.ne_zero_of_lt hn)
        have hbody := hp n' rest' (by simp at hn ⊢; omega)
        simp only [stringBody, reads_bind, reads_left, List.cons_append]
        refine ⟨_, _, ⟨rfl, rfl⟩, ?_⟩
        simp only [if_neg hquote, if_pos hescape, reads_bind, reads_drop]
        refine ⟨(), _, rfl, part, x :: p ++ rest', ?_, s', rest', hbody, reads_pure.mpr ⟨rfl, rfl⟩⟩
        simpa using he _ (x :: p ++ rest') rfl
      by_cases hend : c = '\n' ∨ c = '\r'
      · simp [hquote, hescape, hend] at h
      rw [if_neg hquote, if_neg hescape, if_neg hend] at h
      simp only [reads_bind, reads_drop] at h
      obtain ⟨_, _, rfl, s', _, hs, h⟩ := h
      obtain ⟨rfl, rfl⟩ := reads_pure.mp h
      obtain ⟨p, hne, htext, hp⟩ := ih hs
      refine ⟨c :: p, by simp, by simpa using htext, fun n' rest' hn => ?_⟩
      obtain ⟨n', rfl⟩ := Nat.exists_eq_add_one_of_ne_zero (Nat.ne_zero_of_lt hn)
      simp only [stringBody, reads_bind, reads_left, List.cons_append]
      refine ⟨_, _, ⟨rfl, rfl⟩, ?_⟩
      simp only [if_neg hquote, if_neg hescape, if_neg hend, reads_bind, reads_drop]
      exact ⟨(), _, rfl, s', rest', hp n' rest' (by simpa using hn), reads_pure.mpr ⟨rfl, rfl⟩⟩

/-- The text of a string with its quotes. -/
def IsString (t s : Text) : Prop :=
  (∃ q ∈ t.head?, q = '"' ∨ q = '\x27') ∧ ∀ rest, quotedString.Reads (t ++ rest) s rest

theorem exists_string {q : Char} (hq : q = '"' ∨ q = '\x27') {t s rest : Text}
    (h : quotedString.Reads (q :: t) s rest) : ∃ p, q :: t = p ++ rest ∧ IsString p s := by
  obtain ⟨p, -, rfl, hp⟩ := exists_stringBody h
  refine ⟨q :: p, rfl, ⟨q, rfl, hq⟩, fun rest' => hp _ rest' ?_⟩
  simp only [List.length_cons, List.length_append]
  omega

theorem exists_identifierEscape {isAllowed : Char → Bool} {place : Nat} {c : Char} {t rest : Text}
    (h : (identifierEscape isAllowed place).Reads t c rest) :
    ∃ p, t = p ++ rest ∧ TakesWhole (identifierEscape isAllowed) p c := by
  simp only [identifierEscape, reads_bind, reads_left] at h
  obtain ⟨_, _, ⟨rfl, rfl⟩, h⟩ := h
  split at h
  next => exact absurd h not_reads_fail
  next t =>
    simp only [reads_bind, reads_drop] at h
    obtain ⟨_, _, rfl, d, u, hd, h⟩ := h
    obtain ⟨p, rfl, hp⟩ := exists_unicodeEscape hd
    by_cases hallowed : isAllowed d
    · simp only [hallowed] at h
      obtain ⟨rfl, rfl⟩ := reads_pure.mp h
      refine ⟨'u' :: p, rfl, fun place rest => ?_⟩
      simp only [identifierEscape, reads_bind, reads_left, List.cons_append]
      refine ⟨_, _, ⟨rfl, rfl⟩, ?_⟩
      simp only [reads_bind, reads_drop]
      exact ⟨(), _, rfl, d, rest, hp place rest, by simp [hallowed]⟩
    · simp only [hallowed] at h
      exact absurd h not_reads_error
  next => exact absurd h not_reads_failHere

/-- What can follow a key: a gap or a colon. -/
def EndsKey (rest : Text) : Prop :=
  ∃ c ∈ rest.head?, ¬ IsSolid c ∨ c = ':'

theorem IsGap.endsKey {g : Text} (h : IsGap g) (rest : Text) : EndsKey (g ++ ':' :: rest) := by
  cases g with
  | nil => exact ⟨':', rfl, .inr rfl⟩
  | cons c g => exact ⟨c, rfl, .inl (h.not_isSolid rfl)⟩

theorem not_identifierPart {c : Char} (h : ¬ IsSolid c ∨ c = ':') :
    c ≠ '\\' ∧ isIdentifierPart c = false := by
  obtain ⟨hslash, hcolon, -⟩ := isIdentifierPart_sign
  rcases h with h | rfl
  · have hescape : c ≠ '\\' := by
      rintro rfl
      exact h (isSolid_visible (by decide))
    by_cases hc : c = '/'
    · exact ⟨hescape, hc ▸ hslash⟩
    · have hblank : isBlank c = true := by simpa [IsSolid, hc] using h
      exact ⟨hescape, isIdentifierPart_blank hblank⟩
  · exact ⟨by decide, hcolon⟩

theorem exists_identifierRest {n : Nat} {t k rest : Text}
    (h : (identifierRest n).Reads t k rest) :
    ∃ p, t = p ++ rest ∧ ∀ n' rest', p.length < n' → EndsKey rest' →
      (identifierRest n').Reads (p ++ rest') k rest' := by
  induction n generalizing t k with
  | zero => exact absurd h not_reads_fail
  | succ n ih =>
    simp only [identifierRest, reads_bind, reads_left] at h
    obtain ⟨_, _, ⟨rfl, rfl⟩, h⟩ := h
    split at h
    next => exact absurd h not_reads_fail
    next c t =>
      by_cases hescape : c = '\\'
      · rw [if_pos hescape] at h
        simp only [reads_bind, reads_drop] at h
        obtain ⟨_, _, rfl, d, _, hd, k', _, hk, h⟩ := h
        obtain ⟨rfl, rfl⟩ := reads_pure.mp h
        obtain ⟨e, htext, he⟩ := exists_identifierEscape hd
        obtain ⟨p, rfl, hp⟩ := ih hk
        refine ⟨c :: (e ++ p), by simpa using htext, fun n' rest' hn hrest => ?_⟩
        obtain ⟨n', rfl⟩ := Nat.exists_eq_add_one_of_ne_zero (Nat.ne_zero_of_lt hn)
        have hnext := hp n' rest' (by simp at hn ⊢; omega) hrest
        simp only [identifierRest, reads_bind, reads_left, List.cons_append, List.append_assoc]
        refine ⟨_, _, ⟨rfl, rfl⟩, ?_⟩
        simp only [if_pos hescape, reads_bind, reads_drop]
        exact ⟨(), _, rfl, d, p ++ rest', he _ _, k', rest', hnext, reads_pure.mpr ⟨rfl, rfl⟩⟩
      by_cases hpart : isIdentifierPart c
      · rw [if_neg hescape, if_pos hpart] at h
        simp only [reads_bind, reads_drop] at h
        obtain ⟨_, _, rfl, k', _, hk, h⟩ := h
        obtain ⟨rfl, rfl⟩ := reads_pure.mp h
        obtain ⟨p, htext, hp⟩ := ih hk
        refine ⟨c :: p, by simpa using htext, fun n' rest' hn hrest => ?_⟩
        obtain ⟨n', rfl⟩ := Nat.exists_eq_add_one_of_ne_zero (Nat.ne_zero_of_lt hn)
        simp only [identifierRest, reads_bind, reads_left, List.cons_append]
        refine ⟨_, _, ⟨rfl, rfl⟩, ?_⟩
        simp only [if_neg hescape, if_pos hpart, reads_bind, reads_drop]
        exact ⟨(), _, rfl, k', rest', hp n' rest' (by simpa using hn) hrest,
          reads_pure.mpr ⟨rfl, rfl⟩⟩
      · rw [if_neg hescape, if_neg hpart] at h
        obtain ⟨rfl, rfl⟩ := reads_pure.mp h
        refine ⟨[], rfl, fun n' rest' hn hrest => ?_⟩
        obtain ⟨n', rfl⟩ := Nat.exists_eq_add_one_of_ne_zero (Nat.ne_zero_of_lt hn)
        obtain ⟨d, hhead, hd⟩ := hrest
        obtain ⟨rest', rfl⟩ := List.head?_eq_some_iff.mp hhead
        obtain ⟨hd, hdpart⟩ := not_identifierPart hd
        simp [identifierRest, hd, hdpart]

/-- The text of a key: a string or an identifier. -/
def IsKey (t k : Text) : Prop :=
  StartsElement '\x7d' t ∧ ∀ rest, EndsKey rest → key.Reads (t ++ rest) k rest

theorem isSolid_identifierStart {c : Char} (h : isIdentifierStart c = true) :
    IsSolid c ∧ c ≠ '\x7d' := by
  have hpart : isIdentifierPart c = true := by simp [isIdentifierPart, h]
  obtain ⟨hslash, -, hbrace⟩ := isIdentifierPart_sign
  refine ⟨⟨?_, ?_⟩, ?_⟩
  · by_contra hblank
    rw [isIdentifierPart_blank (by simpa using hblank)] at hpart
    cases hpart
  · rintro rfl
    exact absurd hpart (by simp [hslash])
  · rintro rfl
    exact absurd hpart (by simp [hbrace])

theorem reads_key_quoted {q : Char} (hq : q = '"' ∨ q = '\x27') {t k rest : Text} :
    key.Reads (q :: t) k rest ↔ quotedString.Reads (q :: t) k rest := by
  simp only [Reads, key, if_pos hq]

theorem reads_key_escape {t k rest : Text} :
    key.Reads ('\\' :: t) k rest ↔
      ∃ c u r, (identifierEscape isIdentifierStart (t.length + 1)).Reads t c u ∧
        (identifierRest (t.length + 1)).Reads u r rest ∧ k = c :: r := by
  have hkey : key.Reads ('\\' :: t) k rest ↔ Reads (do
      let c ← identifierEscape isIdentifierStart (t.length + 1)
      return c :: (← identifierRest (t.length + 1))) t k rest := by
    simp [Reads, key]
  simp only [hkey, reads_bind, reads_pure]
  constructor
  · rintro ⟨c, u, hc, r, _, hr, rfl, rfl⟩
    exact ⟨c, u, r, hc, hr, rfl⟩
  · rintro ⟨c, u, r, hc, hr, rfl⟩
    exact ⟨c, u, hc, r, rest, hr, rfl, rfl⟩

theorem reads_key_start {c : Char} (hquote : ¬ (c = '"' ∨ c = '\x27')) (hescape : c ≠ '\\')
    {t k rest : Text} :
    key.Reads (c :: t) k rest ↔
      isIdentifierStart c ∧ ∃ r, (identifierRest (t.length + 1)).Reads t r rest ∧ k = c :: r := by
  by_cases hstart : isIdentifierStart c
  · have hkey : key.Reads (c :: t) k rest ↔ Reads (do
        return c :: (← identifierRest (t.length + 1))) t k rest := by
      simp only [Reads, key, if_neg hquote, if_neg hescape, if_pos hstart, List.length_cons]
    simp only [hkey, hstart, reads_bind, reads_pure, true_and]
    constructor
    · rintro ⟨r, _, hr, rfl, rfl⟩
      exact ⟨r, hr, rfl⟩
    · rintro ⟨r, hr, rfl⟩
      exact ⟨r, rest, hr, rfl, rfl⟩
  · simp [Reads, key, hquote, hescape, hstart]

theorem IsString.isKey {t s : Text} (h : IsString t s) : IsKey t s := by
  obtain ⟨⟨q, hhead, hq⟩, hread⟩ := h
  obtain ⟨t, rfl⟩ := List.head?_eq_some_iff.mp hhead
  refine ⟨⟨q, rfl, ?_⟩, fun rest _ => (reads_key_quoted hq).mpr (hread rest)⟩
  rcases hq with rfl | rfl <;> exact ⟨isSolid_visible (by decide), by decide⟩

theorem exists_key {t k rest : Text} (h : key.Reads t k rest) :
    ∃ p, t = p ++ rest ∧ IsKey p k := by
  cases t with
  | nil => cases h
  | cons c t =>
  by_cases hquote : c = '"' ∨ c = '\x27'
  · obtain ⟨p, htext, hp⟩ := exists_string hquote ((reads_key_quoted hquote).mp h)
    exact ⟨p, htext, hp.isKey⟩
  by_cases hescape : c = '\\'
  · subst hescape
    obtain ⟨d, u, r, hd, hr, rfl⟩ := reads_key_escape.mp h
    obtain ⟨e, rfl, he⟩ := exists_identifierEscape hd
    obtain ⟨p, rfl, hp⟩ := exists_identifierRest hr
    refine ⟨'\\' :: (e ++ p), by simp, ⟨'\\', rfl, isSolid_visible (by decide), by decide⟩, fun rest' hrest => ?_⟩
    rw [List.cons_append, List.append_assoc]
    refine reads_key_escape.mpr ⟨d, p ++ rest', r, he _ _, hp _ rest' ?_ hrest, rfl⟩
    simp only [List.length_append]
    omega
  · obtain ⟨hstart, r, hr, rfl⟩ := (reads_key_start hquote hescape).mp h
    obtain ⟨p, rfl, hp⟩ := exists_identifierRest hr
    refine ⟨c :: p, rfl, ⟨c, rfl, isSolid_identifierStart hstart⟩, fun rest' hrest => ?_⟩
    rw [List.cons_append]
    refine (reads_key_start hquote hescape).mpr ⟨hstart, r, hp _ rest' ?_ hrest, rfl⟩
    simp only [List.length_append]
    omega

/-- The reader takes `p` and reads `a` before anything that can follow a value. -/
def TakesBeforeEnd {α : Type} (r : Reader α) (p : Text) (a : α) : Prop :=
  ∀ rest, EndsValue rest → r.Reads (p ++ rest) a rest

section Taken

variable {α : Type} {r : Reader α} {f : Char → Bool} {P : Text → α → Prop}
  (hr : ∀ t a rest, r.Reads t a rest ↔ P (t.takeWhile f) a ∧ rest = t.drop (t.takeWhile f).length)
  (hf : ∀ rest, EndsValue rest → ∀ c ∈ rest.head?, f c = false)

include hr hf

/-- A reader that takes all characters of some kind takes them before anything that can follow a
value, if no character of that kind can. -/
theorem takesBeforeEnd_of_all {p : Text} {a : α} (hp : ∀ c ∈ p, f c = true) (ha : P p a) :
    TakesBeforeEnd r p a := by
  intro rest hrest
  have hend : rest.takeWhile f = [] := by
    cases rest with
    | nil => rfl
    | cons c rest => simp [hf _ hrest c rfl]
  have htake : (p ++ rest).takeWhile f = p := by
    rw [List.takeWhile_append_of_pos hp, hend, List.append_nil]
  exact (hr _ _ _).mpr ⟨htake.symm ▸ ha, by simp [htake]⟩

theorem exists_taken {t rest : Text} {a : α} (h : r.Reads t a rest) :
    ∃ p, t = p ++ rest ∧ TakesBeforeEnd r p a := by
  obtain ⟨ha, rfl⟩ := (hr _ _ _).mp h
  refine ⟨t.takeWhile f, (List.prefix_iff_eq_append.mp (List.takeWhile_prefix f)).symm, ?_⟩
  exact takesBeforeEnd_of_all hr hf (fun c hc => List.mem_takeWhile_imp hc) ha

end Taken

theorem reads_hexadecimal {negative : Bool} {t rest : Text} {n : Number} :
    (hexadecimal negative).Reads t n rest ↔
      (t.takeWhile (fun c => (hexDigit? c).isSome) ≠ [] ∧
        Number.ofMagnitude negative (((t.takeWhile fun c => (hexDigit? c).isSome).filterMap
          hexDigit?).foldl (fun n d => 16 * n + d) 0) = some n) ∧
      rest = t.drop (t.takeWhile fun c => (hexDigit? c).isSome).length := by
  simp only [hexadecimal, reads_bind, reads_left]
  constructor
  · rintro ⟨_, _, ⟨rfl, rfl⟩, h⟩
    split at h
    next =>
      simp only [reads_bind, reads_left] at h
      obtain ⟨_, _, ⟨rfl, rfl⟩, h⟩ := h
      split at h <;> simp at h
    next hne =>
      simp only [reads_bind, reads_drop] at h
      obtain ⟨_, _, rfl, h⟩ := h
      split at h
      next x hx =>
        obtain ⟨rfl, rfl⟩ := reads_pure.mp h
        exact ⟨⟨hne, hx⟩, rfl⟩
      next => exact absurd h not_reads_fail
  · rintro ⟨⟨hne, hn⟩, rfl⟩
    refine ⟨t, t, ⟨rfl, rfl⟩, ?_⟩
    simp only [if_neg hne, reads_bind, reads_drop]
    exact ⟨(), _, rfl, by simp [hn]⟩

theorem reads_decimal {negative : Bool} {t rest : Text} {n : Number} :
    (decimal negative).Reads t n rest ↔
      Number.decimal? negative (t.takeWhile Number.isDecimalChar) = some n ∧
      rest = t.drop (t.takeWhile Number.isDecimalChar).length := by
  simp only [decimal, reads_bind, reads_left, reads_drop]
  constructor
  · rintro ⟨_, _, ⟨rfl, rfl⟩, _, _, rfl, h⟩
    split at h
    next x hx =>
      obtain ⟨rfl, rfl⟩ := reads_pure.mp h
      exact ⟨hx, rfl⟩
    next => exact absurd h not_reads_fail
  · rintro ⟨hn, rfl⟩
    exact ⟨t, t, ⟨rfl, rfl⟩, (), _, rfl, by simp [hn]⟩

theorem exists_hexadecimal {negative : Bool} {n : Number} {t rest : Text}
    (h : (hexadecimal negative).Reads t n rest) :
    ∃ p, t = p ++ rest ∧ TakesBeforeEnd (hexadecimal negative) p n := by
  refine exists_taken (f := fun c => (hexDigit? c).isSome)
    (P := fun p n => p ≠ [] ∧ Number.ofMagnitude negative
      ((p.filterMap hexDigit?).foldl (fun n d => 16 * n + d) 0) = some n)
    (fun _ _ _ => reads_hexadecimal) (fun rest hrest c hc => ?_) h
  rw [(hrest.not_number hc).2.1, Option.isSome_none]

theorem exists_decimal {negative : Bool} {n : Number} {t rest : Text}
    (h : (decimal negative).Reads t n rest) :
    ∃ p, p ≠ [] ∧ t = p ++ rest ∧ TakesBeforeEnd (decimal negative) p n := by
  obtain ⟨p, htext, hp⟩ := exists_taken (P := fun p n => Number.decimal? negative p = some n)
    (fun _ _ _ => reads_decimal) (fun _ hrest _ hc => (hrest.not_number hc).1) h
  refine ⟨p, ?_, htext, hp⟩
  rintro rfl
  have hnil := (reads_decimal.mp (hp [] nofun)).1
  simp [Number.decimal?, takeDigits] at hnil

theorem reads_magnitude_decimal {negative : Bool} {n : Number} {c : Char} {t rest : Text}
    (hc : c.isDigit ∨ c = '.') (hx : c = '0' → ∀ d ∈ t.head?, d ≠ 'x' ∧ d ≠ 'X') :
    (magnitude negative).Reads (c :: t) n rest ↔
      (c = '0' → ∀ d ∈ t.head?, d.isDigit = false) ∧ (decimal negative).Reads (c :: t) n rest := by
  have hword : c ≠ 'I' ∧ c ≠ 'N' := by
    constructor <;>
      · rintro rfl
        exact absurd hc (by decide)
  by_cases hzero : c = '0'
  · subst hzero
    cases t with
    | nil => simp [magnitude]
    | cons d t =>
      obtain ⟨hd, hd'⟩ := hx rfl d rfl
      by_cases hdigit : d.isDigit <;> simp [magnitude, hd, hd', hdigit]
  · simp [magnitude, hword, hzero, hc]

theorem exists_magnitude_decimal {negative : Bool} {n : Number} {c : Char} {t rest : Text}
    (hc : c.isDigit ∨ c = '.') (hx : c = '0' → ∀ d ∈ t.head?, d ≠ 'x' ∧ d ≠ 'X')
    (h : (magnitude negative).Reads (c :: t) n rest) :
    ∃ p, c :: t = p ++ rest ∧ TakesBeforeEnd (magnitude negative) p n := by
  obtain ⟨hdigit, hread⟩ := (reads_magnitude_decimal hc hx).mp h
  obtain ⟨p, hne, htext, hp⟩ := exists_decimal hread
  obtain ⟨d, p, rfl⟩ := List.exists_cons_of_ne_nil hne
  obtain ⟨rfl, rfl⟩ : c = d ∧ t = p ++ rest := List.cons.inj htext
  refine ⟨c :: p, rfl, fun rest' hrest => ?_⟩
  rw [List.cons_append]
  -- A zero may stand before what follows the number, or before another of its characters.
  cases p with
  | nil =>
    refine (reads_magnitude_decimal hc fun _ d hd => (hrest.not_number hd).2.2).mpr
      ⟨fun _ d hd => hrest.not_digit hd, hp rest' hrest⟩
  | cons d p =>
    exact (reads_magnitude_decimal (t := d :: (p ++ rest')) hc hx).mpr ⟨hdigit, hp rest' hrest⟩

theorem exists_magnitude {negative : Bool} {n : Number} {t rest : Text}
    (h : (magnitude negative).Reads t n rest) :
    ∃ p, t = p ++ rest ∧ TakesBeforeEnd (magnitude negative) p n := by
  have hread := h
  simp only [magnitude, reads_bind, reads_left] at h
  obtain ⟨_, _, ⟨rfl, rfl⟩, h⟩ := h
  split at h
  next => exact absurd h not_reads_fail
  next t =>
    simp only [reads_bind, reads_word] at h
    obtain ⟨_, _, htext, h⟩ := h
    obtain ⟨rfl, rfl⟩ := reads_pure.mp h
    refine ⟨_, htext, fun rest' _ => ?_⟩
    simp [magnitude, reads_word]
  next t =>
    simp only [reads_bind, reads_word] at h
    obtain ⟨_, _, htext, h⟩ := h
    obtain ⟨rfl, rfl⟩ := reads_pure.mp h
    refine ⟨_, htext, fun rest' _ => ?_⟩
    simp [magnitude, reads_word]
  next c t =>
    by_cases hx : c = 'x' ∨ c = 'X'
    · simp only [if_pos hx, reads_bind, reads_drop] at h
      obtain ⟨_, _, rfl, h⟩ := h
      obtain ⟨p, htext, hp⟩ := exists_hexadecimal h
      refine ⟨'0' :: c :: p, congrArg (['0', c] ++ ·) htext, fun rest' hrest => ?_⟩
      simp [magnitude, hx, hp rest' hrest]
    · refine exists_magnitude_decimal (.inl (by decide)) (fun _ d hd => ?_) hread
      cases hd
      exact not_or.mp hx
  next c t _ _ hzero =>
    by_cases hc : c.isDigit ∨ c = '.'
    · refine exists_magnitude_decimal hc (fun hc d hd => ?_) hread
      obtain ⟨u, rfl⟩ := List.head?_eq_some_iff.mp hd
      exact (hzero d u hc rfl).elim
    · simp [hc] at h

/-- Reads a number at its sign. -/
def signedMagnitude : Reader Number := do
  match ← left with
  | '+' :: _ =>
    drop 1
    magnitude false
  | '-' :: _ =>
    drop 1
    magnitude true
  | _ => magnitude false

theorem reads_decoded {α : Type} {result : Except Cause α} {t rest : Text} {a : α} :
    (match result with
      | .ok a => pure a
      | .error c => fail c : Reader α).Reads t a rest ↔ result = .ok a ∧ t = rest := by
  cases result <;> simp

theorem reads_numberAs {α : Type} {decode : Number → Except Cause α} {t rest : Text} {a : α} :
    (numberAs decode).Reads t a rest ↔
      ∃ u n, afterBlanks .between t = .ok u ∧ signedMagnitude.Reads u n rest ∧
        decode n = .ok a := by
  simp only [numberAs, signedMagnitude, reads_bind, reads_within, reads_blanks, reads_left]
  constructor
  · rintro ⟨_, _, hu, _, _, ⟨rfl, rfl⟩, h⟩
    split at h
    · simp only [reads_bind, reads_drop] at h
      obtain ⟨_, _, rfl, n, _, hn, h⟩ := h
      obtain ⟨ha, rfl⟩ := reads_decoded.mp h
      exact ⟨_, n, hu, ⟨_, _, ⟨rfl, rfl⟩, by simpa using hn⟩, ha⟩
    · simp only [reads_bind, reads_drop] at h
      obtain ⟨_, _, rfl, n, _, hn, h⟩ := h
      obtain ⟨ha, rfl⟩ := reads_decoded.mp h
      exact ⟨_, n, hu, ⟨_, _, ⟨rfl, rfl⟩, by simpa using hn⟩, ha⟩
    next hplus hminus =>
      simp only [reads_bind] at h
      obtain ⟨n, _, hn, h⟩ := h
      obtain ⟨ha, rfl⟩ := reads_decoded.mp h
      exact ⟨_, n, hu, ⟨_, _, ⟨rfl, rfl⟩, by simpa [hplus, hminus] using hn⟩, ha⟩
  · rintro ⟨u, n, hu, ⟨_, _, ⟨rfl, rfl⟩, hn⟩, ha⟩
    refine ⟨(), _, hu, _, _, ⟨rfl, rfl⟩, ?_⟩
    split at hn
    · simp only [reads_bind, reads_drop] at hn ⊢
      obtain ⟨_, _, rfl, hn⟩ := hn
      exact ⟨(), _, rfl, n, rest, hn, reads_decoded.mpr ⟨ha, rfl⟩⟩
    · simp only [reads_bind, reads_drop] at hn ⊢
      obtain ⟨_, _, rfl, hn⟩ := hn
      exact ⟨(), _, rfl, n, rest, hn, reads_decoded.mpr ⟨ha, rfl⟩⟩
    · simp only [reads_bind] at hn ⊢
      exact ⟨n, rest, hn, reads_decoded.mpr ⟨ha, rfl⟩⟩

/-- Where nothing can be read from no text, what is read before an end has characters. -/
theorem TakesBeforeEnd.ne_nil {α : Type} {r : Reader α} {p : Text} {a : α}
    (h : TakesBeforeEnd r p a) (hnil : ∀ rest, ¬ r.Reads [] a rest) : p ≠ [] := by
  rintro rfl
  exact hnil [] (h [] nofun)

theorem exists_signedMagnitude {t rest : Text} {n : Number} (h : signedMagnitude.Reads t n rest) :
    ∃ p, t = p ++ rest ∧ TakesBeforeEnd signedMagnitude p n := by
  simp only [signedMagnitude, reads_bind, reads_left] at h
  obtain ⟨_, _, ⟨rfl, rfl⟩, h⟩ := h
  split at h
  next t =>
    simp only [reads_bind, reads_drop] at h
    obtain ⟨_, _, rfl, h⟩ := h
    obtain ⟨p, htext, hp⟩ := exists_magnitude h
    refine ⟨'+' :: p, congrArg ('+' :: ·) htext, fun rest' hrest => ?_⟩
    simp [signedMagnitude, hp rest' hrest]
  next t =>
    simp only [reads_bind, reads_drop] at h
    obtain ⟨_, _, rfl, h⟩ := h
    obtain ⟨p, htext, hp⟩ := exists_magnitude h
    refine ⟨'-' :: p, congrArg ('-' :: ·) htext, fun rest' hrest => ?_⟩
    simp [signedMagnitude, hp rest' hrest]
  next hplus hminus =>
    obtain ⟨p, rfl, hp⟩ := exists_magnitude h
    refine ⟨p, rfl, fun rest' hrest => ?_⟩
    obtain ⟨c, p, rfl⟩ := List.exists_cons_of_ne_nil (hp.ne_nil (by simp [magnitude]))
    have hne : c ≠ '+' ∧ c ≠ '-' := by
      constructor <;> rintro rfl
      · exact hplus _ rfl
      · exact hminus _ rfl
    simp only [signedMagnitude, reads_bind, reads_left]
    exact ⟨_, _, ⟨rfl, rfl⟩, by simpa [hne] using hp rest' hrest⟩

/-- The text of a number. -/
def IsNumber (t : Text) (n : Number) : Prop :=
  (∃ c ∈ t.head?, startsNumber c = true) ∧ TakesBeforeEnd signedMagnitude t n

theorem isSolid_startsNumber {c : Char} (h : startsNumber c = true) : IsSolid c := by
  simp only [startsNumber, Char.isDigit, Bool.or_eq_true, Bool.and_eq_true, decide_eq_true_eq,
    List.contains_eq_mem, List.mem_cons, List.not_mem_nil, or_false] at h
  rcases h with ⟨hlow, hhigh⟩ | rfl | rfl | rfl | rfl | rfl
  · refine isSolid_visible ⟨⟨?_, Nat.lt_of_le_of_lt hhigh (by decide)⟩, ?_⟩
    · exact Nat.lt_of_lt_of_le (by decide) hlow
    · rintro rfl
      exact absurd hlow (by decide)
  all_goals exact isSolid_visible (by decide)

theorem exists_number {c : Char} (hc : startsNumber c = true) {t rest : Text} {n : Number}
    (h : signedMagnitude.Reads (c :: t) n rest) : ∃ p, c :: t = p ++ rest ∧ IsNumber p n := by
  obtain ⟨p, htext, hp⟩ := exists_signedMagnitude h
  obtain ⟨d, p, rfl⟩ := List.exists_cons_of_ne_nil
    (hp.ne_nil (by simp [signedMagnitude, magnitude]))
  obtain ⟨rfl, -⟩ := List.cons.inj htext
  exact ⟨c :: p, htext, ⟨c, rfl, hc⟩, hp⟩

end Keystroke.Json5
