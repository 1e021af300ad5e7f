import ShipReport.Text.Utf8

/-!
# Reading CSV

A reader with one state per place in a record. A record ends at a carriage return or a line feed;
line ends before a record are skipped, so empty lines are. A field that starts with a quote is
quoted: two quotes stand for one, and a single quote ends the quoted part, after which the field
goes on literally. Elsewhere quotes are literal. The end of the input closes what is open. A byte
order mark at the beginning is dropped.

The reader works on any symbols for which the special ones are known: on characters for a text, and
on bytes to say where bytes stop being a text.
-/

namespace ShipReport.Csv

/-- The special symbols among the symbols of an input. -/
structure Alphabet (α : Type) where
  isComma : α → Bool
  isQuote : α → Bool
  isLineEnd : α → Bool

def characters : Alphabet Char where
  isComma := (· == ',')
  isQuote := (· == '"')
  isLineEnd c := c == '\r' || c == '\n'

def bytes : Alphabet UInt8 where
  isComma := (· == 0x2C)
  isQuote := (· == 0x22)
  isLineEnd b := b == 0x0D || b == 0x0A

/-- The place of the reader in a record. -/
inductive Place where
  | recordStart
  | fieldStart
  | plain
  | quoted
  | quoteSeen
deriving Repr, DecidableEq

/-- A record: its fields, and how many symbols had been read when it ended. -/
structure Record (α : Type) where
  fields : List (List α)
  stop : Nat
deriving Repr, DecidableEq

/-- The reader: its place, the symbols of the current field, the fields of the current record and
the records before it, all last to first, and the number of symbols read. -/
structure Reader (α : Type) where
  place : Place
  field : List α
  fields : List (List α)
  records : List (Record α)
  count : Nat

namespace Reader

variable {α : Type}

/-- The reader at the start of an input. -/
def start : Reader α :=
  ⟨.recordStart, [], [], [], 0⟩

/-- Goes on at another place. -/
def goto (r : Reader α) (place : Place) : Reader α :=
  { r with place }

/-- Adds a symbol to the field and goes on at a place. -/
def copy (r : Reader α) (a : α) (place : Place) : Reader α :=
  { r with place, field := a :: r.field }

/-- Ends the field; another one follows. -/
def endField (r : Reader α) : Reader α :=
  { r with place := .fieldStart, field := [], fields := r.field.reverse :: r.fields }

/-- Ends the field and the record. -/
def endRecord (r : Reader α) : Reader α :=
  let record := ⟨(r.field.reverse :: r.fields).reverse, r.count⟩
  { r with place := .recordStart, field := [], fields := [], records := record :: r.records }

/-- Reads a symbol outside quotes: separators separate, anything else belongs to the field. -/
def literal (k : Alphabet α) (r : Reader α) (a : α) : Reader α :=
  if k.isComma a then r.endField
  else if k.isLineEnd a then r.endRecord
  else r.copy a .plain

/-- Reads the first symbol of a field. -/
def fieldFirst (k : Alphabet α) (r : Reader α) (a : α) : Reader α :=
  if k.isQuote a then r.goto .quoted else r.literal k a

/-- Reads a symbol that has been counted. -/
def advance (k : Alphabet α) (r : Reader α) (a : α) : Reader α :=
  match r.place with
  | .recordStart => if k.isLineEnd a then r else r.fieldFirst k a
  | .fieldStart => r.fieldFirst k a
  | .plain => r.literal k a
  | .quoted => if k.isQuote a then r.goto .quoteSeen else r.copy a .quoted
  | .quoteSeen => if k.isQuote a then r.copy a .quoted else r.literal k a

/-- Reads one symbol. -/
def step (k : Alphabet α) (r : Reader α) (a : α) : Reader α :=
  { r with count := r.count + 1 }.advance k a

/-- Closes what is open at the end of the input. -/
def finish (r : Reader α) : Reader α :=
  match r.place with
  | .recordStart => r
  | _ => r.endRecord

end Reader

def records {α : Type} (k : Alphabet α) (input : List α) : List (Record α) :=
  (input.foldl (Reader.step k) Reader.start).finish.records.reverse

/-- Headers and rows; the rows may have any number of fields. -/
structure Table where
  headers : List String
  rows : List (List String)
deriving Repr, DecidableEq

/-- The first record as headers and the others as rows. -/
def Table.ofRecords : List (List String) → Table
  | [] => ⟨[], []⟩
  | headers :: rows => ⟨headers, rows⟩

/-- The text without a byte order mark at its beginning. -/
def dropMark : List Char → List Char
  | c :: cs => if c.toNat = 0xFEFF then cs else c :: cs
  | [] => []

def read (text : String) : Table :=
  .ofRecords ((records characters (dropMark text.toList)).map fun r => r.fields.map String.ofList)

/-- A field that is not a text: its record and the line and byte where that starts, its place in the
record, and how many of its bytes are valid. -/
structure InvalidField where
  record : Nat
  line : Nat
  field : Nat
  byte : Nat
  valid : Nat
deriving Repr, DecidableEq

/-- The message for a field that is not a text. -/
def InvalidField.message (e : InvalidField) : String :=
  "CSV parse error: record " ++ toString e.record ++ " (line " ++ toString e.line ++
    ", field: " ++ toString e.field ++ ", byte: " ++ toString e.byte ++
    "): invalid utf-8: invalid UTF-8 in field " ++ toString e.field ++ " near byte index " ++
    toString e.valid

/-- The first field of a record that is not a text, with the length of its valid beginning. -/
def invalidField? (fields : List (List UInt8)) : Option (Nat × Nat) :=
  fields.zipIdx.findSome? fun (bs, i) =>
    let valid := Text.validLength bs
    if valid < bs.length then some (i, valid) else none

/-- The first field that is not a text, in records that are numbered from `number` and the first of
which starts at byte `start` of the input. -/
def findInvalid (input : List UInt8) (mark : Nat) :
    Nat → Nat → List (Record UInt8) → Option InvalidField
  | _, _, [] => none
  | number, start, r :: rs =>
    match invalidField? r.fields with
    | some (i, valid) => some ⟨number, 1 + (input.take start).count 0x0A, i, start, valid⟩
    | none => findInvalid input mark (number + 1) (mark + r.stop) rs

/-- The bytes of a byte order mark. -/
def markBytes : List UInt8 := [0xEF, 0xBB, 0xBF]

def readBytes (input : List UInt8) : Except InvalidField Table :=
  match Text.ofUtf8? input with
  | some text => .ok (read text)
  | none =>
    let mark := if markBytes.isPrefixOf input then 3 else 0
    match findInvalid input mark 0 0 (records bytes (input.drop mark)) with
    | some e => .error e
    | none => .ok ⟨[], []⟩

end ShipReport.Csv
