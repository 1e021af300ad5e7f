import ShipReport.Proofs.Formula.Grammar

/-!
# Reading formulas

A reader for the grammar of formulas: operands are read one after the other, and an operator takes
what follows it as its right operand as long as that binds more tightly. What follows an operand
tells where it ends, and quotes, addresses and words are read up to there.
-/

namespace ShipReport.Formula

/-! ## The reader -/

/-- A text up to the quote that ends it, with doubled quotes taken as one, and the rest. -/
def readQuoted (q : Char) : List Char → Option (List Char × List Char)
  | [] => none
  | c :: cs =>
    if c ≠ q then (readQuoted q cs).map fun (inner, rest) => (c :: inner, rest)
    else
      match cs with
      | [] => some ([], [])
      | d :: cs' =>
        if d = q then (readQuoted q cs').map fun (inner, rest) => (q :: inner, rest)
        else some ([], d :: cs')

/-- Splits off the marker of an absolute coordinate. -/
def splitMark : List Char → Bool × List Char
  | '$' :: cs => (true, cs)
  | cs => (false, cs)

/-- The address of a cell on the sheet of the formula, and the rest. -/
def readPlace (cs : List Char) : Option (CellRef × List Char) :=
  let (colAbs, cs) := splitMark cs
  let (letters, cs) := cs.span Char.isUpper
  let (rowAbs, cs) := splitMark cs
  let (digits, cs) := Number.spanDigits cs
  match columnNumber letters, Number.ofDigits digits with
  | col + 1, row + 1 => some (⟨none, row, col, rowAbs, colAbs⟩, cs)
  | _, _ => none

/-- A cell or a range of a sheet. -/
def readReference (sheet : Option String) (cs : List Char) : Option (Expr × List Char) := do
  let (first, cs) ← readPlace cs
  match cs with
  | ':' :: cs =>
    let (last, cs) ← readPlace cs
    if first.rowAbs && first.colAbs && last.rowAbs && last.colAbs then
      return (.range ⟨sheet, first.row, first.col, last.row, last.col⟩, cs)
    else none
  | cs => return (.cell ⟨sheet, first.row, first.col, first.rowAbs, first.colAbs⟩, cs)

/-- Splits off a minus. -/
def splitMinus : List Char → List Char × List Char
  | '-' :: cs => (['-'], cs)
  | cs => ([], cs)

/-- A number, perhaps after a minus, and the rest. -/
def readNumber (cs : List Char) : Option (Expr × List Char) :=
  let (sign, cs) := splitMinus cs
  let (digits, rest) := cs.span fun c => c.isDigit || c == '.'
  (Number.read? (String.ofList (sign ++ digits))).map fun x => (.number x, rest)

/-- The operator that a text begins with, and the rest. -/
def readOperator : List Char → Option (Operator × List Char)
  | '<' :: '>' :: cs => some (.ne, cs)
  | '<' :: cs => some (.lt, cs)
  | '>' :: cs => some (.gt, cs)
  | '=' :: cs => some (.eq, cs)
  | '&' :: cs => some (.concat, cs)
  | '+' :: cs => some (.add, cs)
  | '-' :: cs => some (.sub, cs)
  | '*' :: cs => some (.mul, cs)
  | '/' :: cs => some (.div, cs)
  | _ => none

/-- The call of a function by its name. -/
def callOf (name : List Char) (args : List Expr) : Option Expr :=
  if name = "IF".toList then
    match args with
    | [test, yes, no] => some (.conditional test yes no)
    | _ => none
  else (Function.all.find? (·.name.toList == name)).map (.call · args)

/-- A word that names neither a sheet nor a function: a truth value, unless a dollar sign follows,
or the address of a cell. -/
def readPlainWord (cs word rest : List Char) : Option (Expr × List Char) :=
  if rest.head? = some '$' then readReference none cs
  else if word = "TRUE".toList then some (.bool true, rest)
  else if word = "FALSE".toList then some (.bool false, rest)
  else readReference none cs

/-- What is read from a text, if the rest is shorter than the text. So readers come to an end. -/
def shortened {α : Type} (cs : List Char) :
    Option (α × List Char) → Option (α × { rest : List Char // rest.length < cs.length })
  | some (a, rest) => if h : rest.length < cs.length then some (a, ⟨rest, h⟩) else none
  | none => none

mutual

/-- An operand, and the rest. -/
def readOperand : List Char → Option (Expr × List Char)
  | '"' :: cs => do
    let (s, cs) ← readQuoted '"' cs
    return (.text (String.ofList s), cs)
  | '\'' :: cs => do
    let (name, cs) ← readQuoted '\'' cs
    match cs with
    | '!' :: cs => readReference (some (String.ofList name)) cs
    | _ => none
  | '(' :: cs => do
    let (e, cs) ← readExpr 0 cs
    match cs with
    | ')' :: cs => return (e, cs)
    | _ => none
  | cs => if cs.head?.any fun c => c.isDigit || c == '-' then readNumber cs else readWord cs
termination_by cs => (cs.length, 1)

/-- An operand that begins with a word: what follows the word tells what it is. -/
def readWord (cs : List Char) : Option (Expr × List Char) :=
  let (word, rest) := cs.span isWordChar
  match rest with
  | '!' :: tail => if isPlainName word then readReference (some (String.ofList word)) tail else none
  | '(' :: tail => do
    let ((), ⟨tail, _⟩) ← shortened cs (some ((), tail))
    let (args, tail) ← readArguments tail
    return (← callOf word args, tail)
  | rest => readPlainWord cs word rest
termination_by (cs.length, 0)

/-- The arguments of a call up to the parenthesis that ends it. -/
def readArguments : List Char → Option (List Expr × List Char)
  | ')' :: cs => some ([], cs)
  | cs => readList cs
termination_by cs => (cs.length, 4)

/-- One or more expressions between commas up to a parenthesis. -/
def readList (cs : List Char) : Option (List Expr × List Char) := do
  match ← shortened cs (readExpr 0 cs) with
  | (e, ⟨',' :: tail, h⟩) =>
    have : tail.length < cs.length := Nat.lt_of_succ_lt h
    let (es, tail) ← readList tail
    return (e :: es, tail)
  | (e, ⟨')' :: tail, _⟩) => return ([e], tail)
  | _ => none
termination_by (cs.length, 3)

/-- An expression whose operators bind at least as tightly as a level, and the rest. -/
def readExpr (level : Nat) (cs : List Char) : Option (Expr × List Char) := do
  let (e, ⟨rest, _⟩) ← shortened cs (readOperand cs)
  readOperators level e rest
termination_by (cs.length, 2)

/-- What the operators that follow make of an operand. -/
def readOperators (level : Nat) (lhs : Expr) (cs : List Char) : Option (Expr × List Char) :=
  match shortened cs (readOperator cs) with
  | some (op, ⟨rest, _⟩) =>
    if level ≤ op.precedence then do
      -- an operator that binds equally is left to the call below, which takes it from the left
      let (rhs, ⟨rest, _⟩) ← shortened rest (readExpr (op.precedence + 1) rest)
      readOperators level (.binary op lhs rhs) rest
    else some (lhs, cs)
  | none => some (lhs, cs)
termination_by (cs.length, 0)

end

/-- The expression that a text stands for. -/
def readFormula? (s : String) : Option Expr := do
  let (e, rest) ← readExpr 0 s.toList
  if rest = [] then some e else none

section

variable {α : Type} {a : α} {cs rest : List Char}

/-- A rest that is shorter is taken as such. -/
lemma shortened_of_lt (h : rest.length < cs.length) :
    shortened cs (some (a, rest)) = some (a, ⟨rest, h⟩) :=
  dif_pos h

/-- Behind something that was read the rest is shorter. -/
lemma length_lt_append (h : cs ≠ []) : rest.length < (cs ++ rest).length := by
  have positive := List.length_pos_of_ne_nil h
  rw [List.length_append]
  omega

/-- What was read off the front of a text leaves a shorter rest. -/
lemma shortened_append (h : cs ≠ []) :
    shortened (cs ++ rest) (some (a, rest)) = some (a, ⟨rest, length_lt_append h⟩) :=
  shortened_of_lt _

/-- What was taken as shorter is what was read. -/
lemma of_shortened {result : Option (α × List Char)} {hrest : rest.length < cs.length}
    (h : shortened cs result = some (a, ⟨rest, hrest⟩)) : result = some (a, rest) := by
  unfold shortened at h
  split at h
  · split at h
    · cases h
      rfl
    · cases h
  · cases h

end

/-! ## Where an operand ends -/

/-- The characters that can follow an operand. -/
def endings : List Char :=
  [')', ',', '=', '<', '>', '&', '+', '-', '*', '/']

/-- The rest of a text begins with a character that can follow an operand, if it is not empty. -/
def Ends (rest : List Char) : Prop :=
  ∀ c, rest.head? = some c → c ∈ endings

/-- The marks in operands: the point, quotes, and what stands between the parts of a reference or a
call. -/
def operandMarks : List Char :=
  ['.', '"', '!', '(', '$', ':']

/-- A character is no part of an operand. -/
structure Separates (c : Char) : Prop where
  word : isWordChar c = false
  digit : c.isDigit = false
  mark : c ∉ operandMarks

/-- A character that separates is no mark of an operand. -/
lemma Separates.ne {c d : Char} (h : Separates c) (hd : d ∈ operandMarks) : c ≠ d :=
  fun same => h.mark (same ▸ hd)

/-- None of the characters that can follow an operand is part of one. -/
lemma separates_of_mem {c : Char} (h : c ∈ endings) : Separates c := by
  -- a decision of the quantifier itself would run over all characters
  have each : endings.all fun c =>
      !isWordChar c && !c.isDigit && !operandMarks.contains c := by decide
  have own := List.all_eq_true.mp each c h
  simp only [Bool.and_eq_true, Bool.not_eq_true', List.contains_eq_mem,
    decide_eq_false_iff_not] at own
  exact ⟨own.1.1, own.1.2, own.2⟩

/-- The rest of a text cannot be taken for part of an expression before it whose operators bind at
least as tightly as a level. -/
structure Stops (p : Nat) (rest : List Char) : Prop where
  ends : Ends rest
  operator : ∀ op tail, readOperator rest = some (op, tail) → op.precedence ≤ p

variable {p m : Nat} {e : Expr} {cs rest : List Char}

/-- What stops operators of a rank stops those of higher ranks. -/
lemma Stops.mono {q : Nat} (h : Stops p rest) (hq : p ≤ q) : Stops q rest :=
  ⟨h.ends, fun op tail hop => (h.operator op tail hop).trans hq⟩

/-- The end of a text stops every operator. -/
lemma stops_nil : Stops p [] :=
  ⟨nofun, nofun⟩

/-- A comma stops every operator. -/
lemma stops_comma : Stops p (',' :: rest) :=
  ⟨fun c hc => by cases hc; decide, nofun⟩

/-- A closing bracket stops every operator. -/
lemma stops_paren : Stops p (')' :: rest) :=
  ⟨fun c hc => by cases hc; decide, nofun⟩

/-- Operators that bind less tightly are left alone. -/
lemma readOperators_of_stops (h : Stops p rest) (hm : p < m) :
    readOperators m e rest = some (e, rest) := by
  rw [readOperators]
  split
  · next op tail _ hop =>
    have := h.operator op tail (of_shortened hop)
    rw [if_neg (by omega)]
  · rfl

/-- Nothing is made of an operand without an operator behind it. -/
lemma readOperators_none (h : readOperator rest = none) :
    readOperators m e rest = some (e, rest) := by
  rw [readOperators, h]
  rfl

/-- A text that stands for an expression begins neither with the second half of an operator nor with
the end of a call. -/
def Starts (cs : List Char) : Prop :=
  ∃ c, cs.head? = some c ∧ c ≠ '>' ∧ c ≠ ')'

/-- What a text starts with it starts with before any rest. -/
lemma Starts.append (h : Starts cs) (rest : List Char) : Starts (cs ++ rest) := by
  obtain ⟨c, hc, other⟩ := h
  exact ⟨c, by rw [List.head?_append, hc]; rfl, other⟩

/-- A text that starts an operand is not empty. -/
lemma Starts.ne_nil (h : Starts cs) : cs ≠ [] := by
  rintro rfl
  obtain ⟨c, hc, -⟩ := h
  cases hc

/-- An operator before an operand is read. -/
lemma readOperator_symbol (op : Operator) (h : Starts rest) :
    readOperator (op.symbol.toList ++ rest) = some (op, rest) := by
  obtain ⟨c, hc, other, -⟩ := h
  obtain ⟨tail, rfl⟩ := List.head?_eq_some_iff.mp hc
  cases op with
  | lt =>
    change readOperator ('<' :: c :: tail) = _
    rw [readOperator]
    intro cs heq
    cases heq
    exact other rfl
  | _ => rfl

/-- So an operator ends the operand before it. -/
lemma stops_symbol (op : Operator) (h : Starts rest) :
    Stops op.precedence (op.symbol.toList ++ rest) := by
  refine ⟨fun c hc => ?_, fun op' tail hop => ?_⟩
  · cases op <;> cases hc <;> decide
  · rw [readOperator_symbol op h] at hop
    cases hop
    exact Nat.le_refl _

/-! ## Quotes -/

/-- A quote that is not doubled ends what is quoted. -/
lemma readQuoted_end {q : Char} (h : rest.head? ≠ some q) :
    readQuoted q (q :: rest) = some ([], rest) := by
  unfold readQuoted
  rw [if_neg (not_not_intro rfl)]
  cases rest with
  | nil => rfl
  | cons d rest => exact if_neg fun hd => h (congrArg some hd)

/-- A text with doubled quotes is read up to the quote behind it. -/
lemma readQuoted_doubled {q : Char} (h : rest.head? ≠ some q) (cs : List Char) :
    readQuoted q (doubled q cs ++ q :: rest) = some (cs, rest) := by
  induction cs with
  | nil => exact readQuoted_end h
  | cons c cs ih =>
    rw [doubled_cons]
    split
    · next hc =>
      rw [List.cons_append, List.cons_append]
      unfold readQuoted
      simp [ih, hc]
    · next hc =>
      rw [List.cons_append]
      unfold readQuoted
      rw [if_pos hc, ih]
      rfl

/-! ## References -/

/-- A marker before anything but a dollar sign is split off. -/
lemma splitMark_absoluteMark (absolute : Bool) (h : cs.head? ≠ some '$') :
    splitMark ((absoluteMark absolute).toList ++ cs) = (absolute, cs) := by
  cases absolute with
  | true => rfl
  | false =>
    change splitMark cs = _
    unfold splitMark
    split
    · exact absurd rfl h
    · rfl

/-- Digits belong to words and are no capitals or signs. -/
lemma isDigit_spec {c : Char} (h : c.isDigit) :
    isWordChar c ∧ c.isUpper = false ∧ c ≠ '$' ∧ c ≠ '-' := by
  refine ⟨by simp [isWordChar, Char.isAlphanum, h], ?_, ?_, ?_⟩
  · cases upper : c.isUpper with
    | false => rfl
    | true =>
      have low : 'A'.toNat ≤ c.toNat := by
        simp only [Char.isUpper, decide_eq_true_eq] at upper
        exact upper.1
      have high : c.toNat ≤ '9'.toNat := by
        simp only [Char.isDigit, Bool.and_eq_true, decide_eq_true_eq] at h
        exact h.2
      exact absurd (low.trans high) (by decide)
  · rintro rfl
    cases h
  · rintro rfl
    cases h

/-- Capitals belong to words and are no digits or signs. -/
lemma isUpper_spec {c : Char} (h : c.isUpper) : isWordChar c ∧ c.isDigit = false ∧ c ≠ '$' := by
  refine ⟨by simp [isWordChar, Char.isAlphanum, Char.isAlpha, h], ?_, ?_⟩
  · cases digit : c.isDigit with
    | false => rfl
    | true => rw [(isDigit_spec digit).2.1] at h; cases h
  · rintro rfl
    cases h

/-- The letters of an address are at least one. -/
lemma letters_cons {letters : List Char} {col : Nat} (h : columnNumber letters = col + 1)
    (hletters : ∀ c ∈ letters, c.isUpper) : ∃ d ds, letters = d :: ds ∧ d.isUpper := by
  cases letters with
  | nil => exact absurd h (Nat.succ_ne_zero col).symm
  | cons d ds => exact ⟨d, ds, rfl, hletters d List.mem_cons_self⟩

/-- The digits of an address are at least one. -/
lemma digits_cons {digits : List Char} {row : Nat} (h : Number.ofDigits digits = row + 1)
    (hdigits : ∀ c ∈ digits, c.isDigit) : ∃ d ds, digits = d :: ds ∧ d.isDigit := by
  cases digits with
  | nil => exact absurd h (Nat.succ_ne_zero row).symm
  | cons d ds => exact ⟨d, ds, rfl, hdigits d List.mem_cons_self⟩

/-- An address is read up to what follows it, if that is no digit. -/
lemma readPlace_place {row col : Nat} {rowAbs colAbs : Bool}
    (h : Place row col rowAbs colAbs cs) (hrest : ∀ c, rest.head? = some c → c.isDigit = false) :
    readPlace (cs ++ rest) = some (⟨none, row, col, rowAbs, colAbs⟩, rest) := by
  obtain @⟨letters, digits, hletters, hdigits, hcol, hrow⟩ := h
  obtain ⟨a, as, hfirst, upper⟩ := letters_cons hcol hletters
  obtain ⟨d, ds, hdigit, digit⟩ := digits_cons hrow hdigits
  have row_part : Number.spanDigits (digits ++ rest) = (digits, rest) :=
    Number.spanDigits_append hdigits hrest
  have row_mark : splitMark ((absoluteMark rowAbs).toList ++ (digits ++ rest)) =
      (rowAbs, digits ++ rest) :=
    splitMark_absoluteMark rowAbs (by
      rw [hdigit]
      exact fun h => (isDigit_spec digit).2.2.1 (Option.some.inj h))
  have col_part : (letters ++ ((absoluteMark rowAbs).toList ++ (digits ++ rest))).span
      Char.isUpper = (letters, (absoluteMark rowAbs).toList ++ (digits ++ rest)) :=
    Number.span_append hletters (by
      rw [hdigit]
      intro c hc
      cases rowAbs with
      | true => cases hc; rfl
      | false => cases hc; exact (isDigit_spec digit).2.1)
  have col_mark : splitMark ((absoluteMark colAbs).toList ++
      (letters ++ ((absoluteMark rowAbs).toList ++ (digits ++ rest)))) =
      (colAbs, letters ++ ((absoluteMark rowAbs).toList ++ (digits ++ rest))) :=
    splitMark_absoluteMark colAbs (by
      rw [hfirst]
      exact fun h => (isUpper_spec upper).2.2 (Option.some.inj h))
  rw [readPlace]
  simp only [List.append_assoc, col_mark, col_part, row_mark, row_part, hcol, hrow]

/-- A cell or a range is read up to an ending. -/
lemma readReference_refers {sheet : Option String} (h : Refers sheet e cs) (hrest : Ends rest) :
    readReference sheet (cs ++ rest) = some (e, rest) := by
  have no_digit : ∀ c, rest.head? = some c → c.isDigit = false := fun c hc =>
    (separates_of_mem (hrest c hc)).digit
  cases h with
  | cell place =>
    rw [readReference, readPlace_place place no_digit]
    cases rest with
    | nil => rfl
    | cons c rest =>
      dsimp only [bind, Option.bind]
      split
      · next heq =>
        cases heq
        exact absurd rfl ((separates_of_mem (hrest _ rfl)).ne (by decide))
      · rfl
  | range first last =>
    rw [List.append_assoc, readReference, readPlace_place first fun c hc => by cases hc; rfl]
    change (readPlace (_ ++ rest)).bind _ = _
    rw [readPlace_place last no_digit]
    rfl

/-! ## Words -/

/-- What follows a word is read with it, unless the word names a sheet or a function. -/
lemma readWord_plain {word : List Char} (hword : ∀ c ∈ word, isWordChar c)
    (hrest : ∀ c, rest.head? = some c → isWordChar c = false ∧ c ≠ '!' ∧ c ≠ '(') :
    readWord (word ++ rest) = readPlainWord (word ++ rest) word rest := by
  rw [readWord, Number.span_append hword fun c hc => (hrest c hc).1]
  dsimp only
  split
  · exact absurd rfl (hrest _ rfl).2.1
  · exact absurd rfl (hrest _ rfl).2.2
  · rfl

/-- The name of a sheet is read with the address behind it. -/
lemma readWord_sheet {name : List Char} (h : isPlainName name) :
    readWord (name ++ '!' :: rest) = readReference (some (String.ofList name)) rest := by
  have word : ∀ c ∈ name, isWordChar c := by
    cases name with
    | nil => cases h
    | cons c cs =>
      rw [isPlainName, Bool.and_eq_true, List.all_eq_true] at h
      exact h.2
  rw [readWord, Number.span_append word fun c hc => by cases hc; rfl]
  exact if_pos h

/-- The name of a function is read with its arguments. -/
lemma readWord_call {name tail : List Char} (hname : ∀ c ∈ name, isWordChar c)
    {args : List Expr} (h : readArguments rest = some (args, tail))
    (he : callOf name args = some e) : readWord (name ++ '(' :: rest) = some (e, tail) := by
  rw [readWord, Number.span_append hname fun c hc => by cases hc; rfl]
  have shorter : rest.length < (name ++ '(' :: rest).length := by
    rw [List.length_append, List.length_cons]
    omega
  change (shortened (name ++ '(' :: rest) (some ((), rest))).bind _ = _
  rw [shortened_of_lt shorter]
  change (readArguments rest).bind _ = _
  rw [h]
  change (callOf name args).bind _ = _
  rw [he]
  rfl

/-- The name of a function is read as a call of it. -/
lemma callOf_name (f : Function) (args : List Expr) :
    callOf f.name.toList args = some (.call f args) := by
  cases f <;> rfl

/-- The address of a cell or a range is a word that is none of the truth values, or a word with a
dollar sign behind it. -/
lemma refers_word {sheet : Option String} (h : Refers sheet e cs) :
    ∃ word tail, cs = word ++ tail ∧ (∀ c ∈ word, isWordChar c) ∧
      (tail.head? = some '$' ∨ tail = [] ∧ word ≠ "TRUE".toList ∧ word ≠ "FALSE".toList) := by
  cases h with
  | range first last =>
    cases first with
    | mk => exact ⟨[], _, rfl, List.forall_mem_nil _, .inl rfl⟩
  | @cell _ _ rowAbs colAbs _ place =>
    obtain @⟨letters, digits, hletters, hdigits, -, hrow⟩ := place
    have letter : ∀ c ∈ letters, isWordChar c := fun c hc => (isUpper_spec (hletters c hc)).1
    cases colAbs with
    | true => exact ⟨[], _, rfl, List.forall_mem_nil _, .inl rfl⟩
    | false =>
      cases rowAbs with
      | true => exact ⟨letters, '$' :: digits, List.append_assoc _ _ _, letter, .inl rfl⟩
      | false =>
        obtain ⟨d, ds, hfirst, digit⟩ := digits_cons hrow hdigits
        -- a truth value has no digit
        have other : ∀ word : List Char, word.all (!·.isDigit) → letters ++ digits ≠ word := by
          rintro _ none rfl
          have := List.all_eq_true.mp none d (by simp [hfirst])
          rw [digit] at this
          cases this
        refine ⟨letters ++ digits, [], by simp [absoluteMark], fun c hc => ?_,
          .inr ⟨rfl, other _ rfl, other _ rfl⟩⟩
        rcases List.mem_append.mp hc with hc | hc
        · exact letter c hc
        · exact (isDigit_spec (hdigits c hc)).1

end ShipReport.Formula
