import ShipReport.Formula.Render
import ShipReport.Proofs.Formula.AddressText
import ShipReport.Proofs.Number.CellText

/-!
# The grammar of formulas

The texts that spreadsheets take as formulas, and what they stand for: constants, references with an
optional sheet, calls, and operands joined by operators that bind more or less tightly, those of one
tightness from left to right. Any operand may stand in parentheses. The text of an expression is one
of the texts that stand for it, except that a zero has no sign there.
-/

namespace ShipReport.Formula

/-! ## Constants and references -/

/-- The texts of numbers: digits, perhaps with a point among them, perhaps after a minus. -/
inductive IsNumberText : List Char → Prop
  | positive {cs : List Char} (h : Number.Positional cs) : IsNumberText cs
  | negative {cs : List Char} (h : Number.Positional cs) : IsNumberText ('-' :: cs)

/-- The number of a column that letters stand for, counted from one; zero without letters. -/
def columnNumber (letters : List Char) : Nat :=
  letters.foldl (fun n c => 26 * n + letterValue c) 0

/-- What stands before the address of a cell: nothing, or the name of a sheet, in quotes unless it
is plain. -/
inductive SheetPart : Option String → List Char → Prop
  | none : SheetPart none []
  | plain {name : List Char} (h : isPlainName name) :
      SheetPart (some (String.ofList name)) (name ++ ['!'])
  | quoted (name : List Char) :
      SheetPart (some (String.ofList name)) ('\'' :: (doubled '\'' name ++ ['\'', '!']))

/-- The address of a cell: capital letters and digits, each perhaps after a dollar sign. -/
inductive Place (row col : Nat) (rowAbs colAbs : Bool) : List Char → Prop
  | mk {letters digits : List Char} (hletters : ∀ c ∈ letters, c.isUpper)
      (hdigits : ∀ c ∈ digits, c.isDigit) (hcol : columnNumber letters = col + 1)
      (hrow : Number.ofDigits digits = row + 1) :
      Place row col rowAbs colAbs ((absoluteMark colAbs).toList ++ letters ++
        (absoluteMark rowAbs).toList ++ digits)

/-- The address of a cell, or of a range between two cells whose coordinates are absolute. -/
inductive Refers (sheet : Option String) : Expr → List Char → Prop
  | cell {row col : Nat} {rowAbs colAbs : Bool} {cs : List Char}
      (h : Place row col rowAbs colAbs cs) :
      Refers sheet (.cell ⟨sheet, row, col, rowAbs, colAbs⟩) cs
  | range {row col lastRow lastCol : Nat} {first last : List Char}
      (hfirst : Place row col true true first) (hlast : Place lastRow lastCol true true last) :
      Refers sheet (.range ⟨sheet, row, col, lastRow, lastCol⟩) (first ++ ':' :: last)

/-! ## Formulas -/

/-- The texts that stand for an expression where operators bind at least as tightly as a level. -/
inductive Written : Nat → Expr → List Char → Prop
  | text (p : Nat) (cs : List Char) :
      Written p (.text (String.ofList cs)) ('"' :: (doubled '"' cs ++ ['"']))
  | number (p : Nat) {x : Float} {cs : List Char} (h : IsNumberText cs)
      (hx : Number.read? (String.ofList cs) = some x) : Written p (.number x) cs
  | bool (p : Nat) (b : Bool) : Written p (.bool b) (boolText b).toList
  | reference (p : Nat) {sheet : Option String} {e : Expr} {front cs : List Char}
      (hsheet : SheetPart sheet front) (h : Refers sheet e cs) : Written p e (front ++ cs)
  | call (p : Nat) (f : Function) (args : List (Expr × List Char))
      (h : ∀ a ∈ args, Written 0 a.1 a.2) :
      Written p (.call f (args.map (·.1)))
        (f.name.toList ++ '(' :: ([','].intercalate (args.map (·.2)) ++ [')']))
  | conditional (p : Nat) {test yes no : Expr} {cs ds es : List Char} (htest : Written 0 test cs)
      (hyes : Written 0 yes ds) (hno : Written 0 no es) :
      Written p (.conditional test yes no)
        ("IF".toList ++ '(' :: ([','].intercalate [cs, ds, es] ++ [')']))
  | parens (p : Nat) {e : Expr} {cs : List Char} (h : Written 0 e cs) :
      Written p e ('(' :: (cs ++ [')']))
  | binary {p : Nat} {op : Operator} {lhs rhs : Expr} {cs ds : List Char}
      (hp : p ≤ op.precedence) (hl : Written op.precedence lhs cs)
      (hr : Written (op.precedence + 1) rhs ds) :
      Written p (.binary op lhs rhs) (cs ++ (op.symbol.toList ++ ds))

/-- The constant with an unsigned zero for every zero. -/
def Literal.unsigned : Literal → Literal
  | .number x => .number (Number.unsignedZero x)
  | l => l

namespace Expr

mutual

/-- The numbers that occur in an expression, from left to right. -/
def numbers : Expr → List Float
  | .literal (.number x) => [x]
  | .literal _ | .cell _ | .range _ => []
  | .call _ args => numbersOfAll args
  | .conditional test yes no => test.numbers ++ yes.numbers ++ no.numbers
  | .binary _ lhs rhs => lhs.numbers ++ rhs.numbers

/-- The numbers that occur in a list of expressions. -/
def numbersOfAll : List Expr → List Float
  | [] => []
  | e :: es => e.numbers ++ numbersOfAll es

end

/-- All numbers in an expression are finite. -/
def Finite (e : Expr) : Prop :=
  ∀ x ∈ e.numbers, x.isFinite

mutual

/-- The expression whose zeros have no sign. -/
def unsigned : Expr → Expr
  | .literal l => .literal l.unsigned
  | .cell ref => .cell ref
  | .range ref => .range ref
  | .call f args => .call f (unsignedAll args)
  | .conditional test yes no => .conditional test.unsigned yes.unsigned no.unsigned
  | .binary op lhs rhs => .binary op lhs.unsigned rhs.unsigned

/-- The expressions whose zeros have no signs. -/
def unsignedAll : List Expr → List Expr
  | [] => []
  | e :: es => e.unsigned :: unsignedAll es

end

end Expr

namespace Expr

/-- The numbers of a list are those of its expressions. -/
lemma forall_numbersOfAll {P : Float → Prop} {es : List Expr} :
    (∀ x ∈ numbersOfAll es, P x) ↔ ∀ e ∈ es, ∀ x ∈ e.numbers, P x := by
  induction es with
  | nil => simp [numbersOfAll]
  | cons e es ih => simp only [numbersOfAll, List.forall_mem_append, List.forall_mem_cons, ih]

/-- A call is finite if its arguments are. -/
lemma finite_call {f : Function} {args : List Expr} :
    (Expr.call f args).Finite ↔ ∀ e ∈ args, e.Finite :=
  forall_numbersOfAll

/-- A case distinction is finite if its parts are. -/
lemma finite_conditional {test yes no : Expr} :
    (Expr.conditional test yes no).Finite ↔ (test.Finite ∧ yes.Finite) ∧ no.Finite := by
  simp only [Finite, numbers, List.forall_mem_append]

/-- A binary expression is finite if its sides are. -/
lemma finite_binary {op : Operator} {lhs rhs : Expr} :
    (Expr.binary op lhs rhs).Finite ↔ lhs.Finite ∧ rhs.Finite :=
  List.forall_mem_append

end Expr

/-! ## Texts of expressions -/

/-- The texts of a list are those of its expressions. -/
lemma renderAll_eq (es : List Expr) : renderAll es = es.map Expr.render := by
  induction es with
  | nil => rfl
  | cons e es ih => rw [renderAll, ih, List.map_cons]

/-- A list without signs of zeros has expressions without them. -/
lemma unsignedAll_eq (es : List Expr) : Expr.unsignedAll es = es.map Expr.unsigned := by
  induction es with
  | nil => rfl
  | cons e es ih => rw [Expr.unsignedAll, ih, List.map_cons]

/-- The text that cells show for a finite number is the text of a number. -/
lemma isNumberText_cellText {x : Float} (h : x.isFinite) :
    IsNumberText (Number.cellText x).toList := by
  have natural : ∀ n : Nat, Number.Positional (toString n).toList := fun n => by
    rw [Number.toString_eq_positional]
    exact Number.positional_spec n 0
  have signed : ∀ (s : Float.Model.UnpackedFloat.Sign) {t : String}, Number.Positional t.toList →
      IsNumberText (Number.signText s ++ t).toList := fun s t ht => by
    rw [String.toList_append]
    cases s
    · exact .negative ht
    · exact .positive ht
  have integer : ∀ n : Int, IsNumberText (toString n).toList := fun n =>
    match n with
    | .ofNat m => .positive (natural m)
    | .negSucc m => signed .negative (natural (m + 1))
  have all : IsNumberText (Number.text x).toList := by
    change x.toModel.unpack.isFinite = true at h
    unfold Number.text
    cases hx : x.toModel.unpack with
    | notANumber => rw [hx] at h; cases h
    | infinity s => rw [hx] at h; cases h
    | zero s => exact signed s (natural 0)
    | finite s m e hm =>
      exact signed s (Number.magnitudeText_spec (Number.canonical_of_unpack hx)
        (Number.unpack_abs hx)).1
  unfold Number.cellText
  split
  · split
    · exact integer _
    · exact all
  · exact all

/-- The sheet part of an address stands for its sheet. -/
lemma sheetPart_sheetPrefix (sheet : Option String) :
    SheetPart sheet (sheetPrefix sheet).toList := by
  cases sheet with
  | none => exact .none
  | some name =>
    obtain ⟨name, rfl⟩ : ∃ cs, name = String.ofList cs := ⟨_, String.ofList_toList.symm⟩
    rw [sheetPrefix, String.toList_append, quoteSheet, String.toList_ofList]
    split
    · next plain =>
      rw [String.toList_ofList]
      exact .plain plain
    · have quotes := SheetPart.quoted name
      rw [String.toList_ofList]
      simpa using quotes

/-- The letters from A on are capitals. -/
lemma isUpper_letter : ∀ d < 26, (Char.ofNat ('A'.toNat + d)).isUpper := by
  decide

/-- The coordinates of a cell are its address. -/
lemma place_coordinates (row col : Nat) (rowAbs colAbs : Bool) :
    Place row col rowAbs colAbs (coordinates row col rowAbs colAbs).toList := by
  have letters : (columnLetters col).toList = (lettersReversed (col + 1)).reverse :=
    String.toList_ofList
  have digits : (toString (row + 1)).toList = Number.digits (row + 1) := Text.toList_toString _
  rw [coordinates]
  simp only [String.toList_append]
  refine .mk (fun c hc => ?_) (fun c hc => (toString_spec hc).1) ?_ ?_
  · rw [letters, List.mem_reverse] at hc
    obtain ⟨d, hd, rfl⟩ := mem_lettersReversed hc
    exact isUpper_letter d hd
  · rw [letters, columnNumber, List.foldl_reverse, foldr_lettersReversed]
  · rw [digits, Number.ofDigits_digits]

/-- Decides whether an expression can stand where operators bind at least as tightly as a level. -/
def Expr.BindsAt (p : Nat) : Expr → Prop
  | .binary op _ _ => p ≤ op.precedence
  | _ => True

/-- Every expression binds at the lowest rank. -/
lemma Expr.bindsAt_zero (e : Expr) : e.BindsAt 0 := by
  unfold Expr.BindsAt
  split
  · exact Nat.zero_le _
  · trivial

/-- How tightly operators have to bind on a side of an operator. -/
def Side.level (op : Operator) : Side → Nat
  | .left => op.precedence
  | .right => op.precedence + 1

/-- An operand is put in parentheses unless it binds tightly enough. -/
lemma written_operand (op : Operator) (side : Side) {e r : Expr}
    (h : ∀ p, e.BindsAt p → Written p r e.render.toList) :
    Written (side.level op) r (parenthesized (e.needsParens op side) e.render).toList := by
  unfold parenthesized
  split
  · have inner := Written.parens (side.level op) (h 0 e.bindsAt_zero)
    simpa using inner
  · next tight =>
    refine h _ ?_
    cases e with
    | binary inner lhs rhs =>
      cases side <;> simp [Expr.needsParens, Expr.BindsAt, Side.level] at tight ⊢ <;> omega
    | _ => trivial

mutual

/-- The text of an expression without numbers that are not finite stands for the expression. -/
theorem Expr.written_render : ∀ e : Expr, e.Finite → ∀ p, e.BindsAt p →
    Written p e.unsigned e.render.toList
  | .literal (.text s), _, p, _ => by
    have written := Written.text p s.toList
    rw [String.ofList_toList] at written
    rw [Expr.render, Literal.render, quoteText, String.toList_ofList]
    exact written
  | .literal (.number x), h, p, _ => by
    have finite : x.isFinite := h x (by simp [Expr.numbers])
    refine .number p (isNumberText_cellText finite) ?_
    rw [String.ofList_toList]
    exact Number.read_cellText x
  | .literal (.bool b), _, p, _ => .bool p b
  | .cell ref, _, p, _ => by
    rw [Expr.render, CellRef.text, CellRef.localText, String.toList_append]
    exact .reference p (sheetPart_sheetPrefix _) (.cell (place_coordinates _ _ _ _))
  | .range ref, _, p, _ => by
    have written := Written.reference p (sheetPart_sheetPrefix ref.sheet) (.range
      (place_coordinates ref.firstRow ref.firstCol true true)
      (place_coordinates ref.lastRow ref.lastCol true true))
    rw [Expr.render, RangeRef.text, Expr.unsigned]
    simpa using written
  | .call f args, h, p, _ => by
    have written := Written.call p f (args.map fun e => (e.unsigned, e.render.toList)) (by
      intro a ha
      obtain ⟨e, he, rfl⟩ := List.mem_map.mp ha
      exact written_renderAll args (Expr.finite_call.mp h) e he)
    rw [Expr.render, Expr.unsigned, unsignedAll_eq, renderAll_eq]
    simpa [String.toList_intercalate, Function.comp_def] using written
  | .conditional test yes no, h, p, _ => by
    obtain ⟨⟨htest, hyes⟩, hno⟩ := Expr.finite_conditional.mp h
    have written := Written.conditional p (test.written_render htest 0 test.bindsAt_zero)
      (yes.written_render hyes 0 yes.bindsAt_zero) (no.written_render hno 0 no.bindsAt_zero)
    rw [Expr.render, Expr.unsigned]
    simpa using written
  | .binary op lhs rhs, h, p, hp => by
    obtain ⟨hl, hr⟩ := Expr.finite_binary.mp h
    -- a side that binds less stands in brackets, within which it binds at the lowest rank
    have left := written_operand op .left (lhs.written_render hl)
    have right := written_operand op .right (rhs.written_render hr)
    rw [Expr.render, String.toList_append, String.toList_append, List.append_assoc]
    exact .binary hp left right

/-- The texts of several expressions stand for them. -/
theorem written_renderAll : ∀ es : List Expr, (∀ e ∈ es, e.Finite) →
    ∀ e ∈ es, Written 0 e.unsigned e.render.toList
  | [], _ => List.forall_mem_nil _
  | e :: es, h => by
    obtain ⟨he, hes⟩ := List.forall_mem_cons.mp h
    exact List.forall_mem_cons.mpr
      ⟨e.written_render he 0 e.bindsAt_zero, written_renderAll es hes⟩

end

end ShipReport.Formula
