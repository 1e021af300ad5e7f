import Mathlib.Tactic.Lemma
import ShipReport.Text.Case

/-!
# Lower case

A text in lower case is empty only if the text is.
-/

namespace ShipReport.Text

/-- No character has an empty expansion. -/
lemma lowerExpansions_ne_nil : ∀ e ∈ lowerExpansions, e.2 ≠ [] := by
  decide

/-- The lower case of a character is at least one character. -/
lemma lowerChar_ne_nil (c : Char) : lowerChar c ≠ [] := by
  unfold lowerChar mapCase
  split
  · exact List.cons_ne_nil _ _
  · split
    · next ns hns =>
      obtain ⟨_, _, hl, -⟩ := List.lookup_eq_some_iff.mp hns
      have hne := lowerExpansions_ne_nil (c.toNat, ns) (by simp [hl])
      simpa using hne
    · exact List.cons_ne_nil _ _

/-- A text has an empty lower case only if it is empty. -/
lemma lowercase_eq_empty {s : String} : lowercase s = "" ↔ s = "" := by
  constructor
  · intro h
    unfold lowercase at h
    have hl : lowerAfter [] s.toList = [] := by simpa using h
    cases hs : s.toList with
    | nil => simpa using hs
    | cons c cs =>
      rw [hs, lowerAfter, List.append_eq_nil_iff] at hl
      have hc := hl.1
      split at hc
      · split at hc <;> cases hc
      · exact absurd hc (lowerChar_ne_nil c)
  · rintro rfl
    rfl

end ShipReport.Text
