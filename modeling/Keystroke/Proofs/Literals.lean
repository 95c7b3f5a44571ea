import Keystroke.Proofs.Matching
import Keystroke.Proofs.Escaping

namespace Keystroke

theorem Node.isRegular_literal (s : Text) : (literal s).isRegular := by
  simp [literal, isRegular_seqOf, isRegular]

/-- A literal occurs in exactly the texts of which it is a part. -/
theorem Node.occurs_literal (s t : Text) : (literal s).occurs t.toArray ↔ s <:+: t := by
  rw [occurs_iff]
  constructor
  · rintro ⟨x, m, y, rfl, hm⟩
    obtain rfl := (matches_literal ..).mp hm
    exact ⟨x, y, rfl⟩
  · rintro ⟨x, y, rfl⟩
    exact ⟨x, s, y, rfl, (matches_literal ..).mpr rfl⟩

namespace PlainPattern

theorem plain_escape (s : Text) :
    Pattern.plain (escape s) = .ok ⟨escape s, .literal s, 0⟩ := by
  have hreads : Reads (escape s) [] (s.map fun c => .one (.single c)) := reads_escape s []
  have hparse := hreads.parse (Node.greatestAgain_of_isRegular (Node.isRegular_literal s))
  simp only [Pattern.plain, hparse]
  rfl

/-- An escaped text is always a valid pattern. The search for it is never given up, and it finds the
text itself and nothing else. -/
theorem escape_finds_itself (s : Text) :
    ∃ p, Pattern.plain (escape s) = .ok p ∧
      ∀ t, (p.search t = .found ↔ s <:+: t) ∧ (p.search t = .absent ↔ ¬ s <:+: t) := by
  refine ⟨_, plain_escape s, fun t => ?_⟩
  have hsearch := Pattern.search_of_isRegular (p := ⟨escape s, .literal s, 0⟩)
    (Node.isRegular_literal s) t
  have hoccurs : (Node.literal s).occurs t.toArray ↔ s <:+: t := Node.occurs_literal s t
  rw [hsearch, ← hoccurs]
  split
  next hfound => simp [hfound]
  next hfound => simp [hfound]

end PlainPattern

end Keystroke
