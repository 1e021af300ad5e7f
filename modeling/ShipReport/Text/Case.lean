import ShipReport.Text.CaseTable

/-!
# Letter case

Full Unicode case conversion of texts, which may change their length (`ß` becomes `SS`), and the
ASCII comparison that ignores case. A capital sigma becomes `ς` at the end of a word and `σ`
elsewhere.
-/

namespace ShipReport.Text

/-- The single character that a list of runs maps a character to, or the character itself. -/
def mapByRuns (runs : List CaseRun) (c : Char) : Char :=
  match runs.find? (·.has c.toNat) with
  | some r => Char.ofNat (Int.toNat (c.toNat + r.shift))
  | none => c

/-- The case of one character by its expansion if it has one, and by the runs otherwise. -/
def mapCase (expansions : List (Nat × List Nat)) (runs : List CaseRun) (c : Char) : List Char :=
  match expansions.lookup c.toNat with
  | some ns => ns.map Char.ofNat
  | none => [mapByRuns runs c]

/-- The upper case of one character. -/
def upperChar (c : Char) : List Char :=
  if c.toNat < 128 then [c.toUpper] else mapCase upperExpansions upperRuns c

/-- The lower case of one character, wherever it stands. -/
def lowerChar (c : Char) : List Char :=
  if c.toNat < 128 then [c.toLower] else mapCase lowerExpansions lowerRuns c

/-- Decides whether the first character that is not skipped is a letter with a case. -/
def startsCased (cs : List Char) : Bool :=
  match cs.dropWhile (inRanges caseIgnorableRanges ·.toNat) with
  | c :: _ => inRanges casedRanges c.toNat
  | [] => false

/-- Lower case of the rest of a text, given what stands before it, nearest character first. -/
def lowerAfter (before : List Char) : List Char → List Char
  | [] => []
  | c :: rest =>
    (if c = 'Σ' then
      if startsCased before && !startsCased rest then ['ς'] else ['σ']
    else lowerChar c) ++ lowerAfter (c :: before) rest

/-- The text in lower case. -/
def lowercase (s : String) : String :=
  String.ofList (lowerAfter [] s.toList)

/-- The text in upper case. -/
def uppercase (s : String) : String :=
  String.ofList (s.toList.flatMap upperChar)

/-- The text with its ASCII letters in lower case and all else kept. -/
def asciiLowercase (s : String) : String :=
  String.ofList (s.toList.map Char.toLower)

/-- Equality of texts up to the case of ASCII letters. -/
def eqIgnoringAsciiCase (s t : String) : Bool :=
  asciiLowercase s == asciiLowercase t

end ShipReport.Text
