import Mathlib.Data.List.DropRight
import ShipReport.Text.Blank

/-!
# The ends of a text

What is left of a text when characters at its ends are dropped, and when nothing is left.
-/

namespace ShipReport.Text

variable {p : Char → Bool} {c : Char} {cs : List Char}

/-- No ASCII character after the space is blank. -/
lemma isBlank_of_ascii (low : 32 < c.toNat) (high : c.toNat < 128) : isBlank c = false := by
  simp only [isBlank, Bool.or_eq_false_iff, decide_eq_false_iff_not, beq_eq_false_iff_ne]
  omega

/-- Nothing is dropped from a text whose ends are not of the kind that is dropped. -/
lemma dropEnds_of_ends (first : ∀ a ∈ cs.head?, p a = false)
    (last : ∀ z ∈ cs.getLast?, p z = false) : (cs.dropWhile p).rdropWhile p = cs := by
  have kept : cs.dropWhile p = cs := by
    cases cs with
    | nil => rfl
    | cons a cs => exact List.dropWhile_cons_of_neg (by simp [first a rfl])
  rw [kept, List.rdropWhile_eq_self_iff]
  intro present
  simp [last _ (List.getLast?_eq_getLast_of_ne_nil present)]

/-- A text that neither begins nor ends with a blank character is not trimmed. -/
lemma trimList_of_ends (first : ∀ a ∈ cs.head?, isBlank a = false)
    (last : ∀ z ∈ cs.getLast?, isBlank z = false) : trimList cs = cs :=
  dropEnds_of_ends first last

/-- Trimming leaves nothing if and only if all characters are blank. -/
lemma trimList_eq_nil : trimList cs = [] ↔ ∀ c ∈ cs, isBlank c := by
  have ends : trimList cs = (cs.dropWhile isBlank).rdropWhile isBlank := rfl
  rw [ends, List.rdropWhile_eq_nil_iff]
  constructor
  · intro rest
    refine List.dropWhile_eq_nil_iff.mp (List.eq_nil_iff_forall_not_mem.mpr fun c hc => ?_)
    -- the first character that is left would not be blank
    have present := List.ne_nil_of_mem hc
    exact absurd (rest _ (List.head_mem present))
      (Bool.eq_false_iff.mp (List.head_dropWhile_not isBlank present))
  · intro blank c hc
    exact blank c ((List.dropWhile_sublist _).mem hc)

/-- A text is blank exactly if nothing is left of it. -/
lemma isBlankText_iff {s : String} : isBlankText s ↔ trim s = "" := by
  rw [isBlankText, List.all_eq_true, ← trimList_eq_nil, trim, String.ofList_eq_empty_iff]

end ShipReport.Text
