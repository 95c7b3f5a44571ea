import Keystroke.Enter.Rules
import Mathlib.Data.List.Basic

namespace Keystroke

/-- The text has spaces and tabs only. -/
def Text.IsIndent (t : Text) : Prop :=
  ∀ c ∈ t, isIndentChar c

theorem isIndent_leadingIndent (t : Text) : (leadingIndent t).IsIndent :=
  List.all_eq_true.mp List.all_takeWhile

section Leading

variable {t : Text}

theorem leadingIndent_append (ht : t.IsIndent) (rest : Text) :
    leadingIndent (t ++ rest) = t ++ leadingIndent rest :=
  List.takeWhile_append_of_pos ht

theorem leadingIndent_of_isIndent (ht : t.IsIndent) : leadingIndent t = t := by
  simpa only [leadingIndent, List.takeWhile_nil, List.append_nil] using leadingIndent_append ht []

theorem afterIndent_append (ht : t.IsIndent) (rest : Text) :
    afterIndent (t ++ rest) = afterIndent rest :=
  List.dropWhile_append_of_pos ht

end Leading

namespace IndentSettings

section Units

variable {s : IndentSettings} {t rest : Text}

theorem eq_of_dropUnit? (h : s.dropUnit? t = some rest) :
    t = '\t' :: rest ∨
      (s.insertSpaces = true ∧ t = List.replicate s.tabWidth ' ' ++ rest) := by
  unfold dropUnit? at h
  split at h
  next => exact Or.inl (by rw [Option.some.inj h])
  next =>
    split at h
    next hs => exact Or.inr ⟨hs, dropSpaces?_eq_some.mp h⟩
    next => cases h

theorem wholeUnits_begins (s : IndentSettings) (t : Text) : s.wholeUnits t <+: t := by
  fun_induction s.wholeUnits t with
  | case1 t rest h ih =>
    obtain ⟨more, hmore⟩ := ih
    refine ⟨more, ?_⟩
    rw [List.append_assoc, hmore]
    rcases eq_of_dropUnit? h with rfl | ⟨-, rfl⟩ <;> simp
  | case2 t => exact List.nil_prefix

end Units

section Columns

variable (s : IndentSettings)

@[simp] theorem columns_append (t rest : Text) :
    s.columns (t ++ rest) = s.columns t + s.columns rest := by
  induction t with
  | nil => simp [columns]
  | cons c t ih =>
    simp only [List.cons_append, columns, ih]
    omega

variable {s}

/-- Spaces and tabs run together with those of the text that follows. -/
theorem normalize_append {t : Text} (ht : t.IsIndent) (rest : Text) :
    s.normalize (t ++ rest) =
      s.canonical (s.columns t + s.columns (leadingIndent rest)) ++ afterIndent rest := by
  rw [normalize, leadingIndent_append ht, afterIndent_append ht, columns_append]

theorem normalize_of_isIndent {t : Text} (ht : t.IsIndent) :
    s.normalize t = s.canonical (s.columns t) := by
  have h := normalize_append (s := s) ht []
  rw [List.append_nil] at h
  rw [h]
  exact List.append_nil _

theorem isIndent_wholeUnits {t : Text} (ht : t.IsIndent) : (s.wholeUnits t).IsIndent :=
  fun c hc => ht c ((wholeUnits_begins s t).subset hc)

end Columns

end IndentSettings

namespace EnterAction

variable {a : EnterAction} {indentation : Text}

theorem isIndent_resolve (h : indentation.IsIndent) :
    (a.resolve indentation).indentation.IsIndent :=
  fun c hc => h c (List.mem_of_mem_take hc)

theorem appendText_resolve (a : EnterAction) (indentation : Text) :
    (a.resolve indentation).appendText =
      match a.indent with
      | .indent => '\t' :: a.appendText.getD []
      | .indentOutdent => a.appendText.getD ['\t']
      | .keep | .outdent => a.appendText.getD [] := by
  unfold resolve
  cases a.appendText <;> cases a.indent <;> rfl

end EnterAction

namespace ResolvedAction

end ResolvedAction

end Keystroke
