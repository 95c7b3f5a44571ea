namespace Keystroke

abbrev Text := List Char

namespace Text

/-- The number of bytes of a text in UTF-8. -/
def width : Text → Nat
  | [] => 0
  | c :: t => c.utf8Size + width t

@[simp] theorem width_nil : width [] = 0 := rfl

@[simp] theorem width_cons (c : Char) (t : Text) : width (c :: t) = c.utf8Size + width t := rfl

@[simp] theorem width_append (s t : Text) : width (s ++ t) = width s + width t := by
  induction s with
  | nil => simp
  | cons c s ih => simp [ih, Nat.add_assoc]

theorem length_le_width (t : Text) : t.length ≤ width t := by
  induction t with
  | nil => simp
  | cons c t ih =>
    have := c.utf8Size_pos
    simp only [List.length_cons, width_cons]
    omega

/-- The longest beginning of a text that has at most `n` bytes, and the rest. -/
def cut : Text → Nat → Text × Text
  | [], _ => ([], [])
  | c :: t, n =>
    if c.utf8Size ≤ n then
      let (before, after) := cut t (n - c.utf8Size)
      (c :: before, after)
    else ([], c :: t)

@[simp] theorem cut_append (t : Text) (n : Nat) : (cut t n).1 ++ (cut t n).2 = t := by
  induction t generalizing n with
  | nil => rfl
  | cons c t ih =>
    rw [cut]
    split
    · simpa using ih (n - c.utf8Size)
    · rfl

@[simp] theorem cut_width (s t : Text) : cut (s ++ t) (width s) = (s, t) := by
  induction s with
  | nil =>
    cases t with
    | nil => rfl
    | cons c t =>
      have := c.utf8Size_pos
      simp [cut]
      omega
  | cons c s ih =>
    simp [cut, ih]

def splice (t : Text) (offset length : Nat) (replacement : Text) : Text :=
  let (before, rest) := cut t offset
  before ++ replacement ++ (cut rest length).2

end Text

inductive OffsetError where
  | outOfBounds (offset length : Nat)
  | notCharBoundary (offset : Nat)
  deriving DecidableEq, Repr

namespace OffsetError

def message : OffsetError → String
  | outOfBounds offset length =>
    s!"Offset {offset} out of bounds for document of length {length}"
  | notCharBoundary offset => s!"Offset {offset} is not on a character boundary"

end OffsetError

def Text.splitAt (t : Text) (offset : Nat) : Except OffsetError (Text × Text) :=
  if width t < offset then .error (.outOfBounds offset (width t))
  else
    let parts := cut t offset
    if width parts.1 = offset then .ok parts else .error (.notCharBoundary offset)

@[simp] theorem Text.splitAt_width (s t : Text) :
    Text.splitAt (s ++ t) (Text.width s) = .ok (s, t) := by
  simp [Text.splitAt]

/-- A text splits at an offset only into two parts that make up the text, the first of them with
as many bytes as the offset says. -/
theorem Text.splitAt_eq_ok {t before after : Text} {offset : Nat}
    (h : Text.splitAt t offset = .ok (before, after)) :
    t = before ++ after ∧ Text.width before = offset := by
  unfold Text.splitAt at h
  split at h
  next => cases h
  next =>
    dsimp only at h
    split at h
    next hw =>
      have hp : Text.cut t offset = (before, after) := Except.ok.inj h
      have ht := Text.cut_append t offset
      rw [hp] at ht hw
      exact ⟨ht.symm, hw⟩
    next => cases h

end Keystroke
