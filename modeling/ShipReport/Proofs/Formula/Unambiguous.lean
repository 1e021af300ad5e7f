import ShipReport.Proofs.Formula.ReadBack

/-!
# Formulas are unambiguous

The reader finds for a text of the grammar the expression that it stands for, so a text stands for
one expression only. The text of an expression therefore stands for that expression alone, and two
expressions with the same text are the same.
-/

namespace ShipReport.Formula

/-! ## Texts of the grammar -/

variable {p : Nat} {e : Expr} {cs : List Char}

/-- A number begins an operand. -/
lemma IsNumberText.starts (h : IsNumberText cs) : Starts cs := by
  cases h with
  | positive h =>
    obtain ⟨c, hc, digit⟩ := h.head
    refine ⟨c, hc, ?_, ?_⟩ <;> rintro rfl <;> cases digit
  | negative h => exact ⟨'-', rfl, by decide⟩

/-- A reference begins an operand, also with its sheet. -/
lemma SheetPart.starts {sheet : Option String} {front : List Char} (hsheet : SheetPart sheet front)
    (h : Refers sheet e cs) : Starts (front ++ cs) := by
  cases hsheet with
  | none => exact (startsWord_refers h).starts
  | plain plain => exact (((startsWord_plain plain).append _).append _).starts
  | quoted name => exact ⟨'\'', rfl, by decide⟩

/-- A text that stands for an expression is read as the expression. -/
theorem Written.reads (h : Written p e cs) : Reads p e cs := by
  induction h with
  | text p cs =>
    exact reads_of_operand ⟨'"', rfl, by decide⟩ fun rest hrest => readOperand_text cs hrest
  | number p h hx =>
    exact reads_of_operand h.starts fun rest hrest => readOperand_number h hx hrest
  | bool p b =>
    exact reads_of_operand (startsWord_boolText b).starts fun rest hrest =>
      readOperand_bool b hrest
  | reference p hsheet h =>
    exact reads_of_operand (hsheet.starts h) fun rest hrest => readOperand_reference hsheet h hrest
  | call p f args h ih => exact reads_call (name_spec f) ih (callOf_name f _)
  | @conditional p test yes no cs ds es htest hyes hno ihtest ihyes ihno =>
    have word : StartsWord "IF".toList ∧ ∀ c ∈ "IF".toList, isWordChar c :=
      ⟨⟨'I', rfl, by decide⟩, List.all_eq_true.mp rfl⟩
    have args : ∀ a ∈ [(test, cs), (yes, ds), (no, es)], Reads 0 a.1 a.2 := by
      simp only [List.forall_mem_cons]
      exact ⟨ihtest, ihyes, ihno, List.forall_mem_nil _⟩
    exact reads_call word args rfl
  | parens p h ih =>
    exact reads_of_operand ⟨'(', rfl, by decide⟩ fun rest _ => readOperand_parens ih rest
  | binary hp hl hr ihl ihr => exact reads_binary hp ihl ihr

/-- The reader finds the expression that a text stands for. -/
lemma Written.readFormula? {s : String} (h : Written 0 e s.toList) : readFormula? s = some e := by
  have read := h.reads.read 0 [] (Nat.le_refl 0) stops_nil
  rw [List.append_nil, readOperators_none rfl] at read
  rw [Formula.readFormula?, read]
  rfl

/-- A text stands for one expression only. -/
theorem Written.unique {r : Expr} (h : Written 0 e cs) (hr : Written 0 r cs) : r = e := by
  have read : ∀ {e : Expr}, Written 0 e cs → Formula.readFormula? (String.ofList cs) = some e :=
    fun h => Written.readFormula? (by rwa [String.toList_ofList])
  exact Option.some.inj ((read hr).symm.trans (read h))

/-! ## Equal expressions -/

namespace Literal

/-- Constants are the same if they are equal, where numbers are compared as numbers. -/
def same : Literal → Literal → Bool
  | .number x, .number y => x == y
  | l, m => l == m

/-- The sign of a zero is dropped once. -/
lemma unsigned_unsigned (l : Literal) : l.unsigned.unsigned = l.unsigned := by
  cases l with
  | number x => exact congrArg Literal.number (Number.unsignedZero_unsignedZero x)
  | _ => rfl

/-- Finite constants that differ at most in the sign of a zero are the same. -/
lemma same_of_unsigned {l m : Literal} (finite : (Expr.literal l).Finite)
    (h : l.unsigned = m.unsigned) : l.same m := by
  cases l with
  | number x =>
    cases m with
    | number y =>
      exact Number.beq_of_unsignedZero (finite x (by simp [Expr.numbers])) (Literal.number.inj h)
    | _ => cases h
  | text s =>
    cases m with
    | text t => exact beq_iff_eq.mpr h
    | _ => cases h
  | bool b =>
    cases m with
    | bool c => exact beq_iff_eq.mpr h
    | _ => cases h

end Literal

namespace Expr

mutual

/-- Expressions are the same if they have the same form and the same constants. -/
def same : Expr → Expr → Bool
  | .literal l, .literal m => l.same m
  | .cell ref, .cell ref' => ref == ref'
  | .range ref, .range ref' => ref == ref'
  | .call f args, .call f' args' => f == f' && sameAll args args'
  | .conditional test yes no, .conditional test' yes' no' =>
    test.same test' && yes.same yes' && no.same no'
  | .binary op lhs rhs, .binary op' lhs' rhs' => op == op' && lhs.same lhs' && rhs.same rhs'
  | _, _ => false

/-- Lists of expressions are the same if they have the same expressions in the same order. -/
def sameAll : List Expr → List Expr → Bool
  | [], [] => true
  | e :: es, e' :: es' => e.same e' && sameAll es es'
  | _, _ => false

end

mutual

/-- The signs of zeros are dropped once. -/
lemma unsigned_unsigned : ∀ e : Expr, e.unsigned.unsigned = e.unsigned
  | .cell _ | .range _ => rfl
  | .literal l => congrArg Expr.literal l.unsigned_unsigned
  | .call f args => congrArg (Expr.call f) (unsignedAll_unsignedAll args)
  | .conditional test yes no => by
    simp only [unsigned, unsigned_unsigned test, unsigned_unsigned yes, unsigned_unsigned no]
  | .binary op lhs rhs => by
    simp only [unsigned, unsigned_unsigned lhs, unsigned_unsigned rhs]

/-- The signs of zeros in a list are dropped once. -/
lemma unsignedAll_unsignedAll : ∀ es : List Expr, unsignedAll (unsignedAll es) = unsignedAll es
  | [] => rfl
  | e :: es => by
    simp only [unsignedAll, unsigned_unsigned e, unsignedAll_unsignedAll es]

end

mutual

/-- Expressions that differ in the signs of zeros only are the same. -/
lemma same_of_unsigned : ∀ e e' : Expr, e.Finite → e.unsigned = e'.unsigned → e.same e'
  | .literal l, .literal m, finite, h => Literal.same_of_unsigned finite (Expr.literal.inj h)
  | .cell ref, .cell ref', _, h => beq_iff_eq.mpr (Expr.cell.inj h)
  | .range ref, .range ref', _, h => beq_iff_eq.mpr (Expr.range.inj h)
  | .call f args, .call f' args', finite, h => by
    obtain ⟨rfl, hargs⟩ := Expr.call.inj h
    have args := sameAll_of_unsignedAll args args' (finite_call.mp finite) hargs
    rw [same, beq_self_eq_true, args, Bool.true_and]
  | .conditional test yes no, .conditional test' yes' no', finite, h => by
    obtain ⟨⟨finite_test, finite_yes⟩, finite_no⟩ := finite_conditional.mp finite
    obtain ⟨htest, hyes, hno⟩ := Expr.conditional.inj h
    rw [same, same_of_unsigned test test' finite_test htest,
      same_of_unsigned yes yes' finite_yes hyes, same_of_unsigned no no' finite_no hno]
    rfl
  | .binary op lhs rhs, .binary op' lhs' rhs', finite, h => by
    obtain ⟨finite_lhs, finite_rhs⟩ := finite_binary.mp finite
    obtain ⟨rfl, hlhs, hrhs⟩ := Expr.binary.inj h
    rw [same, beq_self_eq_true, same_of_unsigned lhs lhs' finite_lhs hlhs,
      same_of_unsigned rhs rhs' finite_rhs hrhs]
    rfl

/-- Lists of finite expressions that differ at most in the signs of zeros are the same. -/
lemma sameAll_of_unsignedAll : ∀ es es' : List Expr, (∀ e ∈ es, e.Finite) →
    unsignedAll es = unsignedAll es' → sameAll es es'
  | [], [], _, _ => rfl
  | e :: es, e' :: es', finite, h => by
    obtain ⟨finite_e, finite_es⟩ := List.forall_mem_cons.mp finite
    obtain ⟨he, hes⟩ := List.cons.inj h
    rw [sameAll, same_of_unsigned e e' finite_e he, sameAll_of_unsignedAll es es' finite_es hes]
    rfl

end

end Expr

/-! ## Texts of expressions -/

/-- The text of an expression with finite numbers is read as the same expression, which is the only
one that it stands for by the grammar; and expressions with one text are the same. -/
theorem render_unambiguous (e : Expr) (h : e.Finite) :
    (∃ r, readFormula? e.render = some r ∧ e.same r ∧
      ∀ r', Written 0 r' e.render.toList ↔ r' = r) ∧
    ∀ e' : Expr, e'.Finite → e'.render = e.render → e.same e' := by
  have written := e.written_render h 0 e.bindsAt_zero
  refine ⟨⟨e.unsigned, written.readFormula?, ?_, fun r' => ⟨written.unique, ?_⟩⟩, ?_⟩
  · exact Expr.same_of_unsigned e e.unsigned h e.unsigned_unsigned.symm
  · rintro rfl
    exact written
  · intro e' h' text
    have other := e'.written_render h' 0 e'.bindsAt_zero
    rw [text] at other
    exact Expr.same_of_unsigned e e' h (other.unique written)

/-- A difference within a difference, beside quotes in a text and in the name of a sheet. -/
def Sample.nested : Expr :=
  .conditional (.call .or [.binary .eq (.cell (.onSheet "Lube Oil's" 1 1)) (.text "a\"b")])
    (.binary .sub (.number 1) (.binary .sub (.cell (.here 0 0)) (.number (-2)))) (.bool true)

/-- The text of the sample says how its differences are nested, and where its quotes end. -/
theorem render_unambiguous_nested :
    let text := "IF(OR('Lube Oil''s'!$B2=\"a\"\"b\"),1-(A1--2),TRUE)"
    Sample.nested.render = text ∧ (∃ r, readFormula? text = some r ∧ Sample.nested.same r ∧
      ∀ r', Written 0 r' text.toList ↔ r' = r) ∧
    ∀ e' : Expr, e'.Finite → e'.render = text → Sample.nested.same e' := by
  have finite : Sample.nested.Finite :=
    List.all_eq_true.mp (by decide +kernel : Sample.nested.numbers.all Float.isFinite)
  have text : Sample.nested.render = "IF(OR('Lube Oil''s'!$B2=\"a\"\"b\"),1-(A1--2),TRUE)" := by
    decide +kernel
  obtain ⟨read, other⟩ := render_unambiguous Sample.nested finite
  rw [text] at read other
  exact ⟨text, read, other⟩

end ShipReport.Formula
