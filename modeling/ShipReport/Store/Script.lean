import ShipReport.Number.Reader
import ShipReport.Store.Datum
import ShipReport.Store.Fault
import ShipReport.Text.Case

/-!
# Scripts

A procedure is a text of statements that end with semicolons: rows that are added, removed or
changed, tables and indexes that are made, tables that are removed, and queries. Comments run from
two hyphens to the end of a line, or from a slash and a star to a star and a slash. A word that does
not fit is reported with the part of the text that was still to be read and the place in it.

Other statements are not read here, nor are other values than numbers and the id of the batch, or
columns with constraints: an engine that runs them makes changes of its own.
-/

namespace ShipReport.Store

/-! ## Words of a script -/

/-- The kinds of words. -/
inductive TokenKind where
  | word
  | number
  | quotedName
  | parameter
  | mark
  /-- A name in quotes that does not end, or a number that goes on like a word. -/
  | broken
deriving Repr, DecidableEq

/-- A word of a script, the byte at which it stands, and what follows it. -/
structure Token where
  kind : TokenKind
  text : String
  offset : Nat
  rest : List Char

def isScriptBlank (c : Char) : Bool :=
  c == ' ' || c == '\t' || c == '\n' || c == '\x0c' || c == '\r'

/-- How many characters a name in quotes has after its first quote, if it ends. -/
def quotedLength? : List Char → Option Nat
  | '"' :: '"' :: cs => (quotedLength? cs).map (2 + ·)
  | '"' :: _ => some 1
  | _ :: cs => (quotedLength? cs).map (1 + ·)
  | [] => none

/-- How many characters a comment has after the slash and the star that it starts with. One that
does not end goes on to the end of the text. -/
def commentLength : List Char → Nat
  | '*' :: '/' :: _ => 2
  | _ :: cs => 1 + commentLength cs
  | [] => 0

/-- The kind and the length of the word that a text starts with; no kind for what is skipped. -/
def tokenAt : List Char → Option TokenKind × Nat
  | [] => (none, 0)
  | '-' :: '-' :: cs => (none, 2 + (cs.takeWhile (· != '\n')).length)
  | '/' :: '*' :: c :: cs => (none, 2 + commentLength (c :: cs))
  | '"' :: cs =>
    match quotedLength? cs with
    | some n => (some .quotedName, 1 + n)
    | none => (some .broken, 1 + cs.length)
  | ':' :: cs => (some .parameter, 1 + (cs.takeWhile isWordChar).length)
  | c :: cs =>
    if isScriptBlank c then (none, 1)
    else if c.isDigit then
      let digits := cs.takeWhile isWordChar
      (some (if digits.all Char.isDigit then .number else .broken), 1 + digits.length)
    else if isWordChar c then (some .word, 1 + (cs.takeWhile isWordChar).length)
    else (some .mark, 1)

/-- The words of a text, of which at most `fuel` are read, with the byte at which the text
stands. -/
def tokensFrom (fuel offset : Nat) (cs : List Char) : List Token :=
  match fuel, cs with
  | 0, _ | _, [] => []
  | fuel + 1, cs =>
    let (kind, length) := tokenAt cs
    let text := String.ofList (cs.take length)
    let rest := cs.drop length
    let tokens := tokensFrom fuel (offset + text.utf8ByteSize) rest
    match kind with
    | none => tokens
    | some kind => ⟨kind, text, offset, rest⟩ :: tokens

/-- The words of a text. -/
def tokens (cs : List Char) : List Token :=
  tokensFrom cs.length 0 cs

/-! ## Names -/

/-- The words that are no names, as they have a meaning of their own in some places. -/
def reservedWords : List String :=
  ["ADD", "ALL", "ALTER", "AND", "AS", "AUTOINCREMENT", "BETWEEN", "CASE", "CAST", "CHECK",
    "COLLATE", "COMMIT", "CONSTRAINT", "CREATE", "CURRENT_DATE", "CURRENT_TIME",
    "CURRENT_TIMESTAMP", "DEFAULT", "DEFERRABLE", "DELETE", "DISTINCT", "DROP", "ELSE", "ESCAPE",
    "EXCEPT", "EXISTS", "FOREIGN", "FROM", "GROUP", "HAVING", "IF", "IN", "INDEX", "INSERT",
    "INTERSECT", "INTO", "IS", "ISNULL", "JOIN", "LIMIT", "NOT", "NOTHING", "NOTNULL", "NULL", "ON",
    "OR", "ORDER", "PRIMARY", "RAISE", "REFERENCES", "RETURNING", "SELECT", "SET", "TABLE", "THEN",
    "TO", "TRANSACTION", "UNION", "UNIQUE", "UPDATE", "USING", "VALUES", "WHEN", "WHERE"]

/-- A name as a script has it, and the byte at which it stands. -/
structure Name where
  written : String
  offset : Nat := 0
deriving Repr, DecidableEq

/-- Characters with each pair of quotes as one. -/
def singleQuotes : List Char → List Char
  | '"' :: '"' :: cs => '"' :: singleQuotes cs
  | c :: cs => c :: singleQuotes cs
  | [] => []

/-- The name without the quotes around it. -/
def Name.value (n : Name) : String :=
  match n.written.toList with
  | '"' :: cs => String.ofList (singleQuotes cs.dropLast)
  | _ => n.written

/-! ## Statements -/

/-- A value that a statement gives: the id of the batch that is imported, or a number. -/
inductive Argument where
  | batchId
  | integer (n : Int)
deriving Repr, DecidableEq

inductive Statement where
  /-- A new row. -/
  | insert (table : Name) (values : List Argument)
  /-- The rows with a value in a column are removed. -/
  | delete (table column : Name) (value : Int)
  /-- The column has another value in the rows with a value in the second column. -/
  | update (table column : Name) (value : Int) (key : Name) (old : Int)
  /-- A new table. That there is one of the name may be no fault. -/
  | createTable (unlessThere : Bool) (table : Name) (columns : List (Name × Affinity))
  /-- A new index. That there is one of the name may be no fault. -/
  | createIndex (unlessThere : Bool) (index table : Name) (columns : List Name)
  /-- A table is removed. That there is none of the name may be no fault. -/
  | dropTable (ifThere : Bool) (table : Name)
  /-- A query. -/
  | select
deriving Repr, DecidableEq

/-- The name of the parameter for the id of the batch. -/
def batchIdParameter : String := ":batch_id"

def Argument.text : Argument → String
  | .batchId => batchIdParameter
  | .integer n => toString n

/-- Texts with commas between them. -/
def listed (texts : List String) : String :=
  ", ".intercalate texts

def Statement.text : Statement → String
  | .insert table values =>
    "INSERT INTO " ++ table.written ++ " VALUES (" ++ listed (values.map Argument.text) ++ ");"
  | .delete table column value =>
    "DELETE FROM " ++ table.written ++ " WHERE " ++ column.written ++ " = " ++ toString value ++ ";"
  | .update table column value key old =>
    "UPDATE " ++ table.written ++ " SET " ++ column.written ++ " = " ++ toString value ++
      " WHERE " ++ key.written ++ " = " ++ toString old ++ ";"
  | .createTable unlessThere table columns =>
    "CREATE TABLE " ++ (if unlessThere then "IF NOT EXISTS " else "") ++ table.written ++ " (" ++
      listed (columns.map fun c => c.1.written ++ " " ++ c.2.word) ++ ");"
  | .createIndex unlessThere index table columns =>
    "CREATE INDEX " ++ (if unlessThere then "IF NOT EXISTS " else "") ++ index.written ++ " ON " ++
      table.written ++ " (" ++ listed (columns.map Name.written) ++ ");"
  | .dropTable ifThere table =>
    "DROP TABLE " ++ (if ifThere then "IF EXISTS " else "") ++ table.written ++ ";"
  | .select => "SELECT 1;"

/-- Reading takes words from the front; it fails at the first that does not fit, if there is one. -/
abbrev Parsing := StateT (List Token) (Except (Option Token))

namespace Parsing

/-- The next word, taken as something. -/
def take {α : Type} (read : Token → Option α) : Parsing α := fun
  | [] => .error none
  | t :: ts =>
    match read t with
    | some a => .ok (a, ts)
    | none => .error (some t)

/-- Decides whether a word is a certain one, whatever the case of its letters. -/
def isKeyword (word : String) (t : Token) : Bool :=
  t.kind == .word && Text.eqIgnoringAsciiCase t.text word

/-- A certain word. -/
def keyword (word : String) : Parsing Unit :=
  take fun t => if isKeyword word t then some () else none

/-- Decides whether the next word is a certain one. -/
def atKeyword (word : String) : Parsing Bool := do
  return ((← get).head?.map (isKeyword word)).getD false

/-- A certain mark. -/
def mark (c : Char) : Parsing Unit :=
  take fun t => if t.kind = .mark ∧ t.text = c.toString then some () else none

def isName (t : Token) : Bool :=
  t.kind == .word && !reservedWords.any fun word => isKeyword word t

/-- A name without quotes. -/
def bareName : Parsing Name :=
  take fun t => if isName t then some ⟨t.text, t.offset⟩ else none

/-- A name, in quotes or without. -/
def name : Parsing Name :=
  take fun t => if isName t || t.kind == .quotedName then some ⟨t.text, t.offset⟩ else none

/-- A number without a sign. -/
def natural : Parsing Nat :=
  take fun t => if t.kind = .number then Number.readDigits? t.text.toList else none

/-- Decides whether the next word is a certain mark. -/
def atMark (c : Char) : Parsing Bool := do
  return ((← get).head?.map fun t => t.text == c.toString).getD false

/-- A number. -/
def integer : Parsing Int := do
  if ← atMark '-' then do
    mark '-'
    return -(← natural : Nat)
  else return (← natural : Nat)

/-- The id of the batch or a number. -/
def argument : Parsing Argument := do
  match ← get with
  | t :: ts =>
    if t.kind = .parameter ∧ t.text = batchIdParameter then do
      set ts
      return .batchId
    else return .integer (← integer)
  | [] => throw none

/-- What follows the first part of a list in brackets: further parts, of which there are at most
`fuel`, and the closing bracket. -/
def moreOf {α : Type} (part : Parsing α) : Nat → Parsing (List α)
  | 0 => do mark ')'; return []
  | fuel + 1 => do
    if ← atMark ',' then do
      mark ','
      let a ← part
      return a :: (← moreOf part fuel)
    else do
      mark ')'
      return []

/-- A list in brackets. -/
def listOf {α : Type} (part : Parsing α) : Parsing (List α) := do
  mark '('
  let first ← part
  return first :: (← moreOf part (← get).length)

/-- A condition that a column has a value. -/
def condition : Parsing (Name × Int) := do
  let column ← bareName
  mark '='
  return (column, ← integer)

/-- A column of a new table. -/
def column : Parsing (Name × Affinity) := do
  let column ← name
  return (column, ← take fun t => Affinity.all.find? fun a => isKeyword a.word t)

/-- Certain words, or none of them; the first decides. -/
def optional : List String → Parsing Bool
  | [] => return false
  | word :: words => do
    if ← atKeyword word then do
      (word :: words).forM keyword
      return true
    else return false

def insertion : Parsing Statement := do
  keyword "INTO"
  let table ← name
  keyword "VALUES"
  return .insert table (← listOf argument)

def deletion : Parsing Statement := do
  keyword "FROM"
  let table ← name
  keyword "WHERE"
  let (column, value) ← condition
  return .delete table column value

def change : Parsing Statement := do
  let table ← name
  keyword "SET"
  let (column, value) ← condition
  keyword "WHERE"
  let (key, old) ← condition
  return .update table column value key old

def newTable : Parsing Statement := do
  keyword "TABLE"
  let unlessThere ← optional ["IF", "NOT", "EXISTS"]
  let table ← name
  return .createTable unlessThere table (← listOf column)

def newIndex : Parsing Statement := do
  keyword "INDEX"
  let unlessThere ← optional ["IF", "NOT", "EXISTS"]
  let index ← name
  keyword "ON"
  let table ← name
  return .createIndex unlessThere index table (← listOf bareName)

def removal : Parsing Statement := do
  keyword "TABLE"
  let ifThere ← optional ["IF", "EXISTS"]
  return .dropTable ifThere (← name)

def query : Parsing Statement := do
  discard natural
  return .select

/-- A statement that makes something. -/
def creation : Parsing Statement := do
  if ← atKeyword "INDEX" then newIndex else newTable

/-- The words that statements start with, and what follows them. -/
def starts : List (String × Parsing Statement) :=
  [("INSERT", insertion), ("DELETE", deletion), ("UPDATE", change), ("CREATE", creation),
    ("DROP", removal), ("SELECT", query)]

def statement : Parsing Statement := do
  let (_, following) ← take fun t => starts.find? fun start => isKeyword start.1 t
  let s ← following
  match ← get with
  | [] => return s
  | t :: _ => throw (some t)

end Parsing

/-- Decides whether a word ends a statement. -/
def Token.isEnd (t : Token) : Bool :=
  t.kind == .mark && t.text == ";"

/-- What is wrong with a word that does not fit. -/
def Token.fault (t : Token) : Fault :=
  if t.kind = .broken then .unrecognized t.text else .unexpected t.text

/-- The statement that a text starts with and the text after it, or the failure to read it. There is
none when only blanks, comments and semicolons are left. -/
def nextStatement (script : List Char) : Except Failure (Option (Statement × List Char)) :=
  match (tokens script).dropWhile Token.isEnd with
  | [] => .ok none
  | ts =>
    let (words, after) := ts.span fun t => !t.isEnd
    match Parsing.statement.run words with
    | .ok (s, _) => .ok (some (s, (after.head?.map (·.rest)).getD []))
    | .error misfit =>
      -- a statement that is cut off is noticed at the semicolon after it
      match misfit <|> after.head? with
      | some t => .error (t.fault.failureAt (String.ofList script) t.offset)
      | none => .error (.engine "incomplete input")

end ShipReport.Store
