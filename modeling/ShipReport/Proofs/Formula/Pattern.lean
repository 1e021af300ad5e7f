import ShipReport.Formula.Pattern
import ShipReport.Proofs.Formula.Solution
import ShipReport.Proofs.Text.Case

/-!
# Formula patterns

What the recurring shapes of report formulas are worth when the values of all cells are given, and
which cells they look at.
-/

namespace ShipReport.Formula

namespace Value

/-- A blank value is no fault. -/
lemma isFault_of_isBlank {v : Value} (h : v.isBlank) : v.isFault = false := by
  cases v with
  | fault f => simp [isBlank] at h
  | _ => rfl

/-- A value that is no fault equals the empty text if and only if it is blank. -/
lemma order_blank {v : Value} (hv : v.isFault = false) :
    (v.order (.text "") == some .eq) = v.isBlank := by
  cases v with
  | empty => decide
  | text s =>
    -- texts are compared in lower case, and only the empty text is empty there
    have he : Text.lowercase "" = "" := Text.lowercase_eq_empty.mpr rfl
    simp only [order, comparePresent, isBlank, he]
    rw [Bool.eq_iff_iff]
    simp [Text.lowercase_eq_empty]
  | number x => rfl
  | bool b => rfl
  | fault f => cases hv

end Value

variable {index : String → Option Nat} {σ : Nat → Position → Value} {i : Nat}

namespace Expr

/-- A constant has its value. -/
@[simp]
lemma valueUnder_literal (l : Literal) : (literal l).valueUnder index σ i = l.value := by
  unfold valueUnder
  simp only [meaning]
  rfl

/-- The value of a conditional is that of the branch which the test selects. -/
lemma valueUnder_conditional (test yes no : Expr) :
    (conditional test yes no).valueUnder index σ i =
      match (test.valueUnder index σ i).asBool with
      | .ok true => yes.valueUnder index σ i
      | .ok false => no.valueUnder index σ i
      | .error f => Value.fault f := by
  unfold valueUnder
  simp only [meaning, Meaning.ofValue, Meaning.conditional]
  rw [Id.run_bind]
  cases (meaning (.given index σ) i test).value.run.asBool with
  | error f => rfl
  | ok b => cases b <;> rfl

/-- The value of an operation on values that are no faults. -/
lemma valueUnder_binary (op : Operator) (lhs rhs : Expr) :
    (binary op lhs rhs).valueUnder index σ i =
      let v := lhs.valueUnder index σ i
      let w := rhs.valueUnder index σ i
      if v.isFault then v else if w.isFault then w else v.apply op w := by
  unfold valueUnder
  simp only [meaning, Meaning.ofValue, Meaning.binary]
  rw [Id.run_bind]
  split
  · rfl
  · rw [Id.run_bind]
    split <;> rfl

section

variable {m : Type → Type} [Monad m] [LawfulMonad m] {row col : Nat} {rowAbs colAbs : Bool}

/-- A reference to a cell of the own sheet reads the cell. -/
lemma meaning_cell (s : Surroundings m) (i : Nat) :
    ((cell ⟨none, row, col, rowAbs, colAbs⟩).meaning s i).value = s.read i ⟨row, col⟩ := by
  simp [meaning, Meaning.ofTarget, Surroundings.targetOf, Surroundings.resolve, RangeRef.cell,
    Surroundings.valueAt, RangeRef.isCell, RangeRef.rows, RangeRef.cols, RangeRef.first,
    CellRef.position, Except.map]

/-- A reference to a cell of another sheet reads the cell. -/
lemma meaning_cell_of_sheet {s : Surroundings m} {name : String} {j : Nat}
    (h : s.sheetIndex name = some j) (i : Nat) :
    ((cell ⟨some name, row, col, rowAbs, colAbs⟩).meaning s i).value = s.read j ⟨row, col⟩ := by
  simp [meaning, Meaning.ofTarget, Surroundings.targetOf, Surroundings.resolve, RangeRef.cell,
    Surroundings.valueAt, RangeRef.isCell, RangeRef.rows, RangeRef.cols, RangeRef.first,
    CellRef.position, Except.map, h]

/-- A reference to a cell of the own sheet has the value of the cell. -/
@[simp]
lemma valueUnder_cell :
    (cell ⟨none, row, col, rowAbs, colAbs⟩).valueUnder index σ i = σ i ⟨row, col⟩ :=
  congrArg Id.run (meaning_cell (.given index σ) i)

/-- A reference to a cell of another sheet has the value of the cell. -/
lemma valueUnder_cell_of_sheet {name : String} {j : Nat} (h : index name = some j) :
    (cell ⟨some name, row, col, rowAbs, colAbs⟩).valueUnder index σ i = σ j ⟨row, col⟩ :=
  congrArg Id.run (meaning_cell_of_sheet (s := .given index σ) h i)

end

/-- The blank text is the empty text. -/
@[simp]
lemma valueUnder_blank : blank.valueUnder index σ i = .text "" :=
  valueUnder_literal _

/-- The test that an expression is blank. -/
lemma valueUnder_isBlank {e : Expr} (he : (e.valueUnder index σ i).isFault = false) :
    e.isBlank.valueUnder index σ i = .bool (e.valueUnder index σ i).isBlank := by
  rw [Expr.isBlank, valueUnder_binary, valueUnder_blank]
  dsimp only
  rw [if_neg (by simp [he]), if_neg (by decide)]
  simp only [Value.apply, Value.order_blank he]

/-- The test that an expression is not blank. -/
lemma valueUnder_isPresent {e : Expr} (he : (e.valueUnder index σ i).isFault = false) :
    e.isPresent.valueUnder index σ i = .bool !(e.valueUnder index σ i).isBlank := by
  rw [Expr.isPresent, valueUnder_binary, valueUnder_blank]
  dsimp only
  rw [if_neg (by simp [he]), if_neg (by decide)]
  simp only [Value.apply, bne, Value.order_blank he]

end Expr

namespace Pattern

/-- While its driver is blank, a gated formula is blank. -/
lemma gated_of_blank {driver : CellRef} {body : Expr}
    (h : ((Expr.cell driver).valueUnder index σ i).isBlank) :
    (gated driver body).valueUnder index σ i = .text "" := by
  simp only [gated, Expr.valueUnder_conditional,
    Expr.valueUnder_isBlank (Value.isFault_of_isBlank h), h, Value.asBool, Expr.valueUnder_blank]

/-- When its driver is filled, a gated formula has the value of its body. -/
lemma gated_of_filled {driver : CellRef} {body : Expr}
    (hf : ((Expr.cell driver).valueUnder index σ i).isFault = false)
    (h : ((Expr.cell driver).valueUnder index σ i).isBlank = false) :
    (gated driver body).valueUnder index σ i = body.valueUnder index σ i := by
  simp only [gated, Expr.valueUnder_conditional, Expr.valueUnder_isBlank hf, h, Value.asBool]

/-- A carried value is that of the source if the source is filled, and that of the cell above
otherwise; above the first row there is the empty text. -/
lemma carryDown_value {source : CellRef} {above : Option CellRef}
    (hf : ((Expr.cell source).valueUnder index σ i).isFault = false) :
    (carryDown source above).valueUnder index σ i =
      if ((Expr.cell source).valueUnder index σ i).isBlank then
        match above with
        | none => .text ""
        | some c => (Expr.cell c).valueUnder index σ i
      else (Expr.cell source).valueUnder index σ i := by
  cases above with
  | none =>
    simp only [carryDown, Expr.valueUnder_conditional, Expr.valueUnder_isBlank hf, Value.asBool,
      Expr.valueUnder_blank]
    cases ((Expr.cell source).valueUnder index σ i).isBlank <;> rfl
  | some c =>
    simp only [carryDown, Expr.valueUnder_conditional, Expr.valueUnder_isPresent hf, Value.asBool]
    cases ((Expr.cell source).valueUnder index σ i).isBlank <;> rfl

end Pattern

/-! ## Cells that formulas look at -/

namespace Expr

variable {A : Nat → Position → Prop}

/-- A constant looks at nothing. -/
@[simp]
lemma readsWithin_literal {l : Literal} : (literal l).ReadsWithin index i A := by
  simp only [ReadsWithin]

/-- A reference looks at its cell. -/
@[simp]
lemma readsWithin_cell {row col : Nat} {rowAbs colAbs : Bool} :
    (cell ⟨none, row, col, rowAbs, colAbs⟩).ReadsWithin index i A ↔ A i ⟨row, col⟩ := by
  simp [ReadsWithin, RangeRef.Within, RangeRef.cell, RangeRef.positions, RangeRef.rows,
    RangeRef.cols, RangeRef.cellAt, CellRef.position]

/-- A reference to another sheet looks at its cell there. -/
lemma readsWithin_cell_of_sheet {name : String} {j row col : Nat} {rowAbs colAbs : Bool}
    (h : index name = some j) :
    (cell ⟨some name, row, col, rowAbs, colAbs⟩).ReadsWithin index i A ↔ A j ⟨row, col⟩ := by
  simp [ReadsWithin, RangeRef.Within, RangeRef.cell, RangeRef.positions, RangeRef.rows,
    RangeRef.cols, RangeRef.cellAt, CellRef.position, h]

/-- A range reads itself. -/
@[simp]
lemma readsWithin_range {r : RangeRef} : (range r).ReadsWithin index i A ↔ r.Within index i A := by
  simp only [ReadsWithin]

/-- Several expressions look at what each of them looks at. -/
@[simp]
lemma allReadWithin_iff {es : List Expr} :
    allReadWithin index i A es ↔ ∀ e ∈ es, e.ReadsWithin index i A := by
  induction es with
  | nil => simp [allReadWithin]
  | cons e es ih => simp [allReadWithin, ih]

/-- A call that computes no address looks at what its arguments look at. -/
@[simp]
lemma readsWithin_call {f : Function} {args : List Expr} (hf : f ≠ .indirect) :
    (call f args).ReadsWithin index i A ↔ ∀ e ∈ args, e.ReadsWithin index i A := by
  simp only [ReadsWithin, hf, false_imp_iff, true_and, allReadWithin_iff]

/-- A case distinction reads what its three parts read. -/
@[simp]
lemma readsWithin_conditional {test yes no : Expr} :
    (conditional test yes no).ReadsWithin index i A ↔
      test.ReadsWithin index i A ∧ yes.ReadsWithin index i A ∧ no.ReadsWithin index i A := by
  simp only [ReadsWithin]

/-- A binary expression reads what its sides read. -/
@[simp]
lemma readsWithin_binary {op : Operator} {lhs rhs : Expr} :
    (binary op lhs rhs).ReadsWithin index i A ↔
      lhs.ReadsWithin index i A ∧ rhs.ReadsWithin index i A := by
  simp only [ReadsWithin]

/-- The blank text reads nothing. -/
@[simp]
lemma readsWithin_blank : blank.ReadsWithin index i A :=
  readsWithin_literal

/-- A number reads nothing. -/
@[simp]
lemma readsWithin_number {x : Float} : (number x).ReadsWithin index i A :=
  readsWithin_literal

/-- The test for a blank reads what is tested. -/
@[simp]
lemma readsWithin_isBlank {e : Expr} :
    e.isBlank.ReadsWithin index i A ↔ e.ReadsWithin index i A := by
  simp [isBlank]

/-- The test for a value reads what is tested. -/
@[simp]
lemma readsWithin_isPresent {e : Expr} :
    e.isPresent.ReadsWithin index i A ↔ e.ReadsWithin index i A := by
  simp [isPresent]

/-- Rounding reads what is rounded. -/
@[simp]
lemma readsWithin_round {e : Expr} {places : Nat} :
    (e.round places).ReadsWithin index i A ↔ e.ReadsWithin index i A := by
  simp [round]

/-- A fallback is read beside what it stands in for. -/
@[simp]
lemma readsWithin_orElse {e fallback : Expr} :
    (e.orElse fallback).ReadsWithin index i A ↔
      e.ReadsWithin index i A ∧ fallback.ReadsWithin index i A := by
  simp [orElse]

end Expr

namespace Pattern

variable {A : Nat → Position → Prop}

/-- A gated formula reads its driver and its body. -/
@[simp]
lemma readsWithin_gated {driver : CellRef} {body : Expr} :
    (gated driver body).ReadsWithin index i A ↔
      (Expr.cell driver).ReadsWithin index i A ∧ body.ReadsWithin index i A := by
  simp [gated]

/-- A formula that requires cells reads them and its body. -/
@[simp]
lemma readsWithin_requireAll {cells : List CellRef} {body : Expr} :
    (requireAll cells body).ReadsWithin index i A ↔
      (∀ c ∈ cells, (Expr.cell c).ReadsWithin index i A) ∧ body.ReadsWithin index i A := by
  match cells with
  | [] | [_] | _ :: _ :: _ => simp [requireAll, Expr.anyOf]

/-- A keyed lookup reads its key, its keys and its values. -/
@[simp]
lemma readsWithin_keyedLookup {key : Expr} {keys values : RangeRef} :
    (keyedLookup key keys values).ReadsWithin index i A ↔
      values.Within index i A ∧ key.ReadsWithin index i A ∧ keys.Within index i A := by
  simp [keyedLookup, Expr.index, Expr.exactMatch]

/-- A formula that carries down reads its source and the cell above, if there is one. -/
@[simp]
lemma readsWithin_carryDown {source : CellRef} {above : Option CellRef} :
    (carryDown source above).ReadsWithin index i A ↔
      (Expr.cell source).ReadsWithin index i A ∧
        ∀ c ∈ above, (Expr.cell c).ReadsWithin index i A := by
  cases above <;> simp [carryDown]

/-- The address of slots depends on the key and on the keys and counts of the table. -/
@[simp]
lemma readsWithin_slotAddress {key : Expr} {table : SlotTable} :
    (slotAddress key table).ReadsWithin index i A ↔
      table.counts.Within index i A ∧ key.ReadsWithin index i A ∧
        table.keys.Within index i A := by
  simp [slotAddress, Expr.index, Expr.exactMatch, Expr.text, Expr.bool]
  tauto

end Pattern

end ShipReport.Formula
