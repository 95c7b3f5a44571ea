import Keystroke.Proofs.Outdent
import Mathlib.Logic.Function.Iterate

namespace Keystroke

section Leading

variable {t rest : Text}

theorem isIndent_replicate {c : Char} (hc : isIndentChar c) (n : Nat) :
    Text.IsIndent (List.replicate n c) := by
  intro d hd
  rw [List.eq_of_mem_replicate hd]
  exact hc

theorem Text.IsIndent.append (ht : t.IsIndent) (hrest : rest.IsIndent) : (t ++ rest).IsIndent :=
  fun c hc => (List.mem_append.mp hc).elim (ht c) (hrest c)

end Leading

namespace IndentSettings

/-- An indentation in normal form: spaces only where spaces are inserted, and otherwise tabs and
then fewer spaces than a tab is wide. -/
inductive IsNormal (s : IndentSettings) : Text → Prop
  | spaces (n : Nat) : s.insertSpaces = true → s.IsNormal (List.replicate n ' ')
  | tabs (n m : Nat) : s.insertSpaces = false → m < s.tabWidth →
    s.IsNormal (List.replicate n '\t' ++ List.replicate m ' ')

variable {s : IndentSettings} {t rest : Text}

theorem isNormal_canonical (s : IndentSettings) (n : Nat) : s.IsNormal (s.canonical n) := by
  unfold canonical
  split
  next hs => exact .spaces n hs
  next hs =>
    have hlt : n % s.tabWidth < s.tabWidth := Nat.mod_lt n s.tabWidth_pos
    exact .tabs _ _ (eq_false_of_ne_true hs) hlt

theorem IsNormal.isIndent (h : s.IsNormal t) : t.IsIndent := by
  cases h with
  | spaces n _ => exact isIndent_replicate rfl n
  | tabs n m _ _ => exact (isIndent_replicate rfl n).append (isIndent_replicate rfl m)

section Normalize

variable (s) (t)

variable {s} {t}

end Normalize

end IndentSettings

end Keystroke
