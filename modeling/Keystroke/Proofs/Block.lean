import Keystroke.Proofs.Balance
import Keystroke.Proofs.Columns
import Keystroke.Proofs.Division
import Keystroke.Proofs.Heuristics
import Keystroke.Proofs.NewLine

namespace Keystroke

/-- The pair of two characters. -/
def BracketPair.ofChars (p : Char × Char) : BracketPair where
  opening := [p.1]
  closing := [p.2]
  opening_ne := List.cons_ne_nil _ _
  closing_ne := List.cons_ne_nil _ _

/-- No character is a bracket twice, and none is part of a word or blank. -/
structure PlainBrackets (pairs : List (Char × Char)) : Prop where
  distinct : (pairs.map Prod.fst ++ pairs.map Prod.snd).Nodup
  plain : ∀ c ∈ pairs.map Prod.fst ++ pairs.map Prod.snd,
    Unicode.isWord c = false ∧ Unicode.isBlank c = false

namespace Configuration

variable {c : Configuration} {pairs : List (Char × Char)}

end Configuration

namespace PlainBrackets

variable {pairs : List (Char × Char)} {o c : Char}

theorem ne_of_not_isBlank (h : Unicode.isBlank c = false) :
    (c ≠ '\n' ∧ c ≠ '\r') ∧ ¬ isIndentChar c := by
  have hn : Unicode.isBlank '\n' = true := by decide
  have hr : Unicode.isBlank '\r' = true := by decide
  have hs : Unicode.isBlank ' ' = true := by decide
  have ht : Unicode.isBlank '\t' = true := by decide
  refine ⟨⟨?_, ?_⟩, ?_⟩
  · rintro rfl
    simp [hn] at h
  · rintro rfl
    simp [hr] at h
  · intro hindent
    simp only [isIndentChar, Bool.or_eq_true, decide_eq_true_eq] at hindent
    rcases hindent with rfl | rfl <;> simp_all

end PlainBrackets

section Between

variable {s : IndentSettings} {o : Char}

end Between

namespace Session

variable {config : Configuration} {pairs : List (Char × Char)} {o c : Char} {s : Session}

end Session

end Keystroke
