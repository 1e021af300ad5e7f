import Mathlib.Tactic.Lemma

/-!
# Texts of integers

The text of a natural number has digits only, and that of a negative one a sign before them, so that
different integers have different texts.
-/

namespace ShipReport.Text

variable {m n : Nat}

/-- The text of a natural number consists of its digits. -/
lemma toList_toString (n : Nat) : (toString n).toList = Nat.toDigits 10 n := by
  rw [Nat.toString_eq_repr, Nat.toList_repr]

/-- The text of a natural number has digits only. -/
lemma isDigit_of_mem_toString {c : Char} (hc : c ∈ (toString n).toList) : c.isDigit := by
  rw [toList_toString] at hc
  exact Nat.isDigit_of_mem_toDigits (by decide) (by decide) hc

/-- The text of a natural number is not empty. -/
lemma toString_ne_nil (n : Nat) : (toString n).toList ≠ [] := by
  rw [toList_toString]
  exact Nat.toDigits_ne_nil

/-- Different natural numbers have different texts. -/
lemma toString_inj : toString m = toString n ↔ m = n := by
  refine ⟨fun h => ?_, congrArg toString⟩
  have digits := congrArg String.toList h
  rw [toList_toString, toList_toString] at digits
  have numbers := congrArg (Nat.ofDigitChars 10 · 0) digits
  rwa [Nat.ofDigitChars_ten_toDigits, Nat.ofDigitChars_ten_toDigits] at numbers

/-- No natural number has a text that begins with a sign. -/
lemma toString_ne_minus (cs : List Char) : (toString n).toList ≠ '-' :: cs := by
  intro h
  have digit : '-'.isDigit := isDigit_of_mem_toString (h ▸ List.mem_cons_self)
  exact absurd digit (by decide)

/-- Different integers have different texts. -/
lemma intText_inj {i j : Int} : toString i = toString j ↔ i = j := by
  have signed (m : Nat) : (toString (Int.negSucc m)).toList = '-' :: (toString (m + 1)).toList :=
    String.toList_append
  refine ⟨fun h => ?_, congrArg toString⟩
  have chars := congrArg String.toList h
  cases i with
  | ofNat m =>
    cases j with
    | ofNat n => rw [toString_inj.mp h]
    | negSucc n =>
      rw [signed] at chars
      exact absurd chars (toString_ne_minus _)
  | negSucc m =>
    cases j with
    | ofNat n =>
      rw [signed] at chars
      exact absurd chars.symm (toString_ne_minus _)
    | negSucc n =>
      rw [signed, signed] at chars
      rw [Nat.succ.inj (toString_inj.mp (String.toList_inj.mp (List.cons.inj chars).2))]

end ShipReport.Text
