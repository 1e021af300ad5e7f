import ShipReport.Proofs.Formula.FormulaReader

/-!
# Operands and expressions read back

An operand of each kind is read up to what follows it. So are operands with operators between them
and the arguments of a call, if the parts are read back as what they stand for.
-/

namespace ShipReport.Formula

variable {p : Nat} {e : Expr} {cs rest : List Char}

/-! ## Operands -/

/-- A text begins with a dollar sign or with the first character of a name. -/
def StartsWord (cs : List Char) : Prop :=
  ∃ c, cs.head? = some c ∧ (c = '$' ∨ isWordChar c ∧ c.isDigit = false)

/-- What begins like a word does so before any rest. -/
lemma StartsWord.append (h : StartsWord cs) (rest : List Char) : StartsWord (cs ++ rest) := by
  obtain ⟨c, hc, first⟩ := h
  exact ⟨c, by rw [List.head?_append, hc]; rfl, first⟩

/-- What begins like a word begins an operand. -/
lemma StartsWord.starts (h : StartsWord cs) : Starts cs := by
  obtain ⟨c, hc, first⟩ := h
  refine ⟨c, hc, ?_, ?_⟩ <;> rintro rfl <;> revert first <;> decide

/-- An operand without quotes and parentheses is a number or begins with a word. -/
lemma readOperand_bare {c : Char} (hc : cs.head? = some c) (h : c ∉ ['"', '\'', '(']) :
    readOperand cs = if c.isDigit || c == '-' then readNumber cs else readWord cs := by
  obtain ⟨tail, rfl⟩ := List.head?_eq_some_iff.mp hc
  rw [readOperand]
  · rfl
  all_goals
    rintro cs ⟨⟩
    exact h (by decide)

/-- What begins like a word is read as one. -/
lemma readOperand_word (h : StartsWord cs) : readOperand cs = readWord cs := by
  obtain ⟨c, hc, first⟩ := h
  have bare : c ∉ ['"', '\'', '('] := by
    intro hc
    fin_cases hc <;> revert first <;> decide
  have no_number : ¬(c.isDigit || c == '-') := by
    rcases first with rfl | ⟨word, no_digit⟩
    · decide
    · rw [no_digit, Bool.false_or, beq_iff_eq]
      rintro rfl
      cases word
  rw [readOperand_bare hc bare, if_neg no_number]

/-- References begin like words. -/
lemma startsWord_refers {sheet : Option String} (h : Refers sheet e cs) : StartsWord cs := by
  have place : ∀ {row col : Nat} {rowAbs colAbs : Bool} {cs : List Char},
      Place row col rowAbs colAbs cs → StartsWord cs := by
    intro row col rowAbs colAbs cs h
    obtain @⟨letters, digits, hletters, -, hcol, -⟩ := h
    obtain ⟨a, as, rfl, upper⟩ := letters_cons hcol hletters
    cases colAbs with
    | true => exact ⟨'$', rfl, .inl rfl⟩
    | false => exact ⟨a, rfl, .inr ⟨(isUpper_spec upper).1, (isUpper_spec upper).2.1⟩⟩
  cases h with
  | cell h => exact place h
  | range first last => exact (place first).append _

/-- Plain names of sheets begin like words. -/
lemma startsWord_plain {name : List Char} (h : isPlainName name) : StartsWord name := by
  cases name with
  | nil => cases h
  | cons c cs =>
    rw [isPlainName, Bool.and_eq_true, List.all_cons, Bool.and_eq_true] at h
    exact ⟨c, rfl, .inr ⟨h.2.1, by simpa using h.1⟩⟩

/-- The names of functions are words. -/
lemma name_spec (f : Function) :
    StartsWord f.name.toList ∧ ∀ c ∈ f.name.toList, isWordChar c := by
  have first : StartsWord f.name.toList := by cases f <;> exact ⟨_, rfl, by decide⟩
  exact ⟨first, List.all_eq_true.mp (by cases f <;> rfl)⟩

/-- Truth values begin like words. -/
lemma startsWord_boolText (b : Bool) : StartsWord (boolText b).toList := by
  cases b <;> exact ⟨_, rfl, by decide⟩

/-- A quoted text is read as the text. -/
lemma readOperand_text (cs : List Char) (hrest : Ends rest) :
    readOperand ('"' :: (doubled '"' cs ++ ['"']) ++ rest) =
      some (.text (String.ofList cs), rest) := by
  have quote : rest.head? ≠ some '"' := fun h => (separates_of_mem (hrest _ h)).ne (by decide) rfl
  rw [List.cons_append, readOperand, List.append_assoc, List.singleton_append,
    readQuoted_doubled quote]
  rfl

/-- The digits of a number are read up to an ending. -/
lemma span_positional (h : Number.Positional cs) (hrest : Ends rest) :
    (cs ++ rest).span (fun c => c.isDigit || c == '.') = (cs, rest) := by
  refine Number.span_append (fun c hc => by simpa using h.chars c hc) fun c hc => ?_
  have separates := separates_of_mem (hrest c hc)
  simp [separates.digit, separates.ne (d := '.') (by decide)]

/-- A number is read up to an ending. -/
lemma readOperand_number {x : Float} (h : IsNumberText cs)
    (hx : Number.read? (String.ofList cs) = some x) (hrest : Ends rest) :
    readOperand (cs ++ rest) = some (.number x, rest) := by
  cases h with
  | positive positional =>
    obtain ⟨c, hc, digit⟩ := positional.head
    obtain ⟨tail, rfl⟩ := List.head?_eq_some_iff.mp hc
    have bare : c ∉ ['"', '\'', '('] := by
      intro hc
      fin_cases hc <;> cases digit
    have unsigned : splitMinus (c :: tail ++ rest) = ([], c :: tail ++ rest) := by
      unfold splitMinus
      split
      · next heq => cases heq; cases digit
      · rfl
    rw [readOperand_bare rfl bare, digit, Bool.true_or, if_pos rfl, readNumber]
    simp only [unsigned, span_positional positional hrest, List.nil_append, hx, Option.map_some]
  | negative positional =>
    rw [List.cons_append, readOperand_bare rfl (by decide), if_pos (by decide), readNumber]
    simp only [splitMinus, span_positional positional hrest, List.singleton_append, hx,
      Option.map_some]

/-- An ending does not tell a word to be more than itself. -/
lemma ends_word (hrest : Ends rest) :
    ∀ c, rest.head? = some c → isWordChar c = false ∧ c ≠ '!' ∧ c ≠ '(' := fun c hc =>
  have separates := separates_of_mem (hrest c hc)
  ⟨separates.word, separates.ne (by decide), separates.ne (by decide)⟩

/-- What ends an operand is no mark of an absolute coordinate. -/
lemma ends_mark (hrest : Ends rest) : rest.head? ≠ some '$' := fun h =>
  (separates_of_mem (hrest _ h)).ne (by decide) rfl

/-- A truth value is read up to an ending. -/
lemma readOperand_bool (b : Bool) (hrest : Ends rest) :
    readOperand ((boolText b).toList ++ rest) = some (.bool b, rest) := by
  have word : ∀ c ∈ (boolText b).toList, isWordChar c :=
    List.all_eq_true.mp (by cases b <;> rfl)
  rw [readOperand_word ((startsWord_boolText b).append rest),
    readWord_plain word (ends_word hrest), readPlainWord, if_neg (ends_mark hrest)]
  cases b <;> rfl

/-- A cell or a range, perhaps on a named sheet, is read up to an ending. -/
lemma readOperand_reference {sheet : Option String} {front : List Char}
    (hsheet : SheetPart sheet front) (h : Refers sheet e cs) (hrest : Ends rest) :
    readOperand (front ++ cs ++ rest) = some (e, rest) := by
  have reference := readReference_refers h hrest
  rw [List.append_assoc]
  cases hsheet with
  | none =>
    rw [List.nil_append, readOperand_word ((startsWord_refers h).append rest)]
    obtain ⟨word, tail, rfl, hword, hmark⟩ := refers_word h
    rw [List.append_assoc] at reference ⊢
    rcases hmark with mark | ⟨rfl, not_true, not_false⟩
    · have mark : (tail ++ rest).head? = some '$' := by rw [List.head?_append, mark]; rfl
      rw [readWord_plain hword fun c hc => by rw [mark] at hc; cases hc; decide, readPlainWord,
        if_pos mark, reference]
    · rw [List.nil_append] at reference ⊢
      rw [readWord_plain hword (ends_word hrest), readPlainWord, if_neg (ends_mark hrest),
        if_neg not_true, if_neg not_false, reference]
  | plain plain =>
    rw [List.append_assoc, readOperand_word ((startsWord_plain plain).append _),
      List.singleton_append, readWord_sheet plain, reference]
  | quoted name =>
    rw [List.cons_append, readOperand, List.append_assoc, List.cons_append,
      readQuoted_doubled (by simp)]
    exact reference

/-! ## Expressions -/

/-- A text is read as an expression where operators bind at least as tightly as a level: what
follows it is read as operators behind the expression. -/
structure Reads (p : Nat) (e : Expr) (cs : List Char) : Prop where
  starts : Starts cs
  read : ∀ m rest, m ≤ p → Stops p rest → readExpr m (cs ++ rest) = readOperators m e rest

/-- What is read as an operand is read as an expression. -/
lemma reads_of_operand (hs : Starts cs)
    (h : ∀ rest, Ends rest → readOperand (cs ++ rest) = some (e, rest)) : Reads p e cs := by
  refine ⟨hs, fun m rest _ hrest => ?_⟩
  rw [readExpr, h rest hrest.ends, shortened_append hs.ne_nil]
  rfl

/-- An expression is read up to a comma. -/
lemma Reads.before_comma (h : Reads 0 e cs) :
    readExpr 0 (cs ++ ',' :: rest) = some (e, ',' :: rest) := by
  rw [h.read 0 _ (Nat.le_refl 0) stops_comma, readOperators_none rfl]

/-- An expression is read up to a closing bracket. -/
lemma Reads.before_paren (h : Reads 0 e cs) :
    readExpr 0 (cs ++ ')' :: rest) = some (e, ')' :: rest) := by
  rw [h.read 0 _ (Nat.le_refl 0) stops_paren, readOperators_none rfl]

/-- The operands of an operator are read before and behind its symbol. -/
lemma reads_binary {op : Operator} {lhs rhs : Expr} {ds : List Char} (hp : p ≤ op.precedence)
    (hl : Reads op.precedence lhs cs) (hr : Reads (op.precedence + 1) rhs ds) :
    Reads p (.binary op lhs rhs) (cs ++ (op.symbol.toList ++ ds)) := by
  refine ⟨hl.starts.append _, fun m rest hm hrest => ?_⟩
  have behind : Starts (ds ++ rest) := hr.starts.append rest
  have symbol : op.symbol.toList ≠ [] := by cases op <;> decide
  have right : readExpr (op.precedence + 1) (ds ++ rest) = some (rhs, rest) := by
    have tight := hrest.mono (hp.trans (Nat.le_succ op.precedence))
    rw [hr.read _ _ (Nat.le_refl _) tight,
      readOperators_of_stops (hrest.mono hp) (Nat.lt_succ_self _)]
  rw [List.append_assoc, List.append_assoc, hl.read m _ (hm.trans hp) (stops_symbol op behind),
    readOperators, readOperator_symbol op behind, shortened_append symbol]
  dsimp only
  rw [if_pos (hm.trans hp), right, shortened_append hr.starts.ne_nil]
  rfl

/-- Expressions in parentheses are operands. -/
lemma readOperand_parens (h : Reads 0 e cs) (rest : List Char) :
    readOperand ('(' :: (cs ++ [')']) ++ rest) = some (e, rest) := by
  rw [List.cons_append, readOperand, List.append_assoc, List.singleton_append, h.before_paren]
  rfl

/-! ## Calls -/

/-- The last argument is read up to the closing bracket. -/
lemma readList_last (h : Reads 0 e cs) : readList (cs ++ ')' :: rest) = some ([e], rest) := by
  rw [readList, h.before_paren, shortened_append h.starts.ne_nil]
  rfl

/-- An argument before others is read up to the comma after it. -/
lemma readList_more (h : Reads 0 e cs) {es : List Expr} {tail : List Char}
    (hmore : readList rest = some (es, tail)) :
    readList (cs ++ ',' :: rest) = some (e :: es, tail) := by
  rw [readList, h.before_comma, shortened_append h.starts.ne_nil]
  change (readList rest).bind _ = _
  rw [hmore]
  rfl

/-- One or more expressions between commas are read up to the parenthesis behind them. -/
lemma readList_intercalate (args : List (Expr × List Char)) (first : Expr × List Char)
    (h : ∀ a ∈ first :: args, Reads 0 a.1 a.2) :
    readList ([','].intercalate ((first :: args).map (·.2)) ++ ')' :: rest) =
      some ((first :: args).map (·.1), rest) := by
  induction args generalizing first with
  | nil => simpa using readList_last (h first List.mem_cons_self)
  | cons second args ih =>
    obtain ⟨hfirst, hargs⟩ := List.forall_mem_cons.mp h
    have more := readList_more hfirst (ih second hargs)
    simpa using more

/-- Arguments are read as a list if there is one. -/
lemma readArguments_of_starts (h : Starts cs) : readArguments cs = readList cs := by
  obtain ⟨c, hc, -, other⟩ := h
  obtain ⟨tail, rfl⟩ := List.head?_eq_some_iff.mp hc
  rw [readArguments]
  rintro cs ⟨⟩
  exact other rfl

/-- The arguments of a call are read up to the parenthesis behind them. -/
lemma readArguments_intercalate {args : List (Expr × List Char)}
    (h : ∀ a ∈ args, Reads 0 a.1 a.2) :
    readArguments ([','].intercalate (args.map (·.2)) ++ ')' :: rest) =
      some (args.map (·.1), rest) := by
  cases args with
  | nil =>
    change readArguments (')' :: rest) = _
    rw [readArguments]
    rfl
  | cons first args =>
    have starts : Starts ([','].intercalate ((first :: args).map (·.2)) ++ ')' :: rest) := by
      have own := (h first List.mem_cons_self).starts
      refine Starts.append ?_ _
      cases args with
      | nil => simpa using own
      | cons second args => simpa using own.append _
    rw [readArguments_of_starts starts, readList_intercalate args first h]

/-- A call is read with its arguments. -/
lemma reads_call {name : List Char} (hname : StartsWord name ∧ ∀ c ∈ name, isWordChar c)
    {args : List (Expr × List Char)} (h : ∀ a ∈ args, Reads 0 a.1 a.2)
    (he : callOf name (args.map (·.1)) = some e) :
    Reads p e (name ++ '(' :: ([','].intercalate (args.map (·.2)) ++ [')'])) := by
  refine reads_of_operand (hname.1.append _).starts fun rest _ => ?_
  rw [List.append_assoc, readOperand_word (hname.1.append _), List.cons_append, List.append_assoc,
    List.singleton_append, readWord_call hname.2 (readArguments_intercalate h) he]

end ShipReport.Formula
