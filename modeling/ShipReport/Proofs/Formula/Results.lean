import ShipReport.Proofs.Formula.SlotAddress

/-!
# Numeric results

Formulas that compute numbers or look them up never give a text: their value is a number, nothing,
or a fault, whatever their operands are.
-/

namespace ShipReport.Formula

/-- A value that is no text, apart from the empty one, and no truth value. -/
def Value.Numeric : Value → Prop
  | .text s => s = ""
  | .bool _ => False
  | _ => True

namespace Value

/-- Faults are among the numeric results. -/
lemma numeric_of_isFault {v : Value} (h : v.isFault) : v.Numeric := by
  cases v with
  | fault f => trivial
  | _ => cases h

/-- Arithmetic gives a number or a fault. -/
lemma numeric_arithmetic (op : Float → Float → Except Fault Float) (v w : Value) :
    (arithmetic op v w).Numeric := by
  unfold arithmetic
  generalize (do op (← v.asNumber) (← w.asNumber) : Except Fault Float) = x
  cases x <;> trivial

/-- What a formula shows is numeric when what it means is. -/
lemma Numeric.settled {v : Value} (h : v.Numeric) : (Grid.settled v).Numeric := by
  cases v with
  | empty => trivial
  | _ => exact h

end Value

namespace Meaning

variable {a : Meaning Id}

/-- An argument taken as a number fails or goes on. -/
lemma numeric_withNumber {next : Float → Id Value} (h : ∀ x, (next x).run.Numeric) :
    (a.withNumber next).run.Numeric := by
  cases hx : a.value.run.asNumber with
  | ok x => rw [withNumber_ok hx]; exact h x
  | error f => rw [withNumber_error hx]; trivial

end Meaning

variable {index : String → Option Nat} {σ : Nat → Position → Value} {i : Nat}

namespace Expr

/-- An operation on numbers gives a number or the fault of an operand. -/
lemma numeric_binary {op : Operator} (hop : op ∈ [.add, .sub, .mul, .div]) (lhs rhs : Expr) :
    ((binary op lhs rhs).valueUnder index σ i).Numeric := by
  rw [valueUnder_binary]
  dsimp only
  split
  · next h => exact Value.numeric_of_isFault h
  · split
    · next h => exact Value.numeric_of_isFault h
    · simp only [List.mem_cons, List.not_mem_nil, or_false] at hop
      rcases hop with rfl | rfl | rfl | rfl <;> exact Value.numeric_arithmetic _ _ _

/-- The blank text is among the numeric results. -/
lemma numeric_blank : (blank.valueUnder index σ i).Numeric := by
  rw [valueUnder_blank]
  rfl

/-- Rounding gives a number or a fault. -/
lemma numeric_round (e : Expr) (places : Nat) :
    ((e.round places).valueUnder index σ i).Numeric := by
  unfold valueUnder round
  simp only [meaning, meanings, Meaning.call, Meaning.ofValue, Meaning.round]
  exact Meaning.numeric_withNumber fun x => Meaning.numeric_withNumber fun d => trivial

/-- A result or its fallback is numeric if both are. -/
lemma numeric_orElse {e fallback : Expr} (he : (e.valueUnder index σ i).Numeric)
    (hfallback : (fallback.valueUnder index σ i).Numeric) :
    ((e.orElse fallback).valueUnder index σ i).Numeric := by
  rw [valueUnder_orElse]
  split
  · exact hfallback
  · exact he

/-- A case distinction is numeric if both cases are. -/
lemma numeric_conditional {test yes no : Expr} (hyes : (yes.valueUnder index σ i).Numeric)
    (hno : (no.valueUnder index σ i).Numeric) :
    ((conditional test yes no).valueUnder index σ i).Numeric := by
  rw [valueUnder_conditional]
  split
  · exact hyes
  · exact hno
  · trivial

/-- An entry of a range of numbers is numeric. -/
lemma numeric_index {r : RangeRef} {name : String} {j : Nat} (hr : r.sheet = some name)
    (hj : index name = some j) (cells : ∀ p ∈ r.positions, (σ j p).Numeric) (e : Expr) :
    ((Expr.index r e).valueUnder index σ i).Numeric := by
  have entry : ∀ row col : Int,
      (Meaning.entryAt (.given index σ) ⟨j, r⟩ row col).run.Numeric := by
    intro row col
    unfold Meaning.entryAt
    split
    · trivial
    · next inside =>
      -- the entry is one of the cells of the range
      apply cells
      have rows : (row - 1).toNat < r.rows := by dsimp only at inside; omega
      have cols : (col - 1).toNat < r.cols := by dsimp only at inside; omega
      exact List.mem_flatMap.mpr ⟨_, List.mem_range.mpr rows,
        List.mem_map.mpr ⟨_, List.mem_range.mpr cols, rfl⟩⟩
  have target := target_range (σ := σ) (i := i) hr hj
  simp only [meaning] at target
  unfold valueUnder Expr.index
  simp only [meaning, meanings, Meaning.call, Meaning.ofValue, Meaning.index]
  rw [Meaning.withTarget_ok target]
  exact Meaning.numeric_withNumber fun x => entry _ _

end Expr

namespace Pattern

/-- A gated formula is numeric if its body is. -/
lemma numeric_gated {driver : CellRef} {body : Expr} (h : (body.valueUnder index σ i).Numeric) :
    ((gated driver body).valueUnder index σ i).Numeric :=
  Expr.numeric_conditional Expr.numeric_blank h

/-- A formula that requires cells is numeric if its body is. -/
lemma numeric_requireAll {cells : List CellRef} {body : Expr}
    (h : (body.valueUnder index σ i).Numeric) :
    ((requireAll cells body).valueUnder index σ i).Numeric := by
  match cells with
  | [] => exact h
  | [_] | _ :: _ :: _ => exact Expr.numeric_conditional Expr.numeric_blank h

/-- What stands beside a key in a list of numbers is numeric. -/
lemma numeric_keyedLookup {key : Expr} {keys values : RangeRef} {name : String} {j : Nat}
    (hr : values.sheet = some name) (hj : index name = some j)
    (cells : ∀ p ∈ values.positions, (σ j p).Numeric) :
    ((keyedLookup key keys values).valueUnder index σ i).Numeric :=
  Expr.numeric_orElse (Expr.numeric_index hr hj cells _) Expr.numeric_blank

end Pattern

end ShipReport.Formula
