import ShipReport.Json.Workbook
import ShipReport.Xlsx.Reading

/-!
# Workbook files as documents

A written workbook is kept as the names of its sheets and the documents of the sheets. Read back, it
is a returned file with what a reader finds in the cells.
-/

namespace ShipReport.Json

open Document (string)
open Formula (Position)
open Submission (FileSheet ReturnedFile)
open Xlsx (Look Written WrittenCell WrittenSheet)

/-- The document of a workbook file. -/
def ofBook (sheets : List WrittenSheet) : Document :=
  .object [("sheets", .ofList (fun s => .list [.text s.name, ofWrittenSheet s]) sheets)]

def address (d : Document) : Decoded Position := do
  match Formula.reference? (← d.string) with
  | some r => return ⟨r.firstRow, r.firstCol⟩
  | none => throw "address"

/-- What is written into a cell: the formula, the type and the value. -/
def written : List Document → Decoded Written
  | [.null, .text _, s] => do return .text (← s.string)
  | [.null, .null, .null] => .ok .blank
  | [.null, .null, n] => do return .number (← Document.floatOf (← n.string))
  | [body, _, result] => do return .formula (← body.string) (← result.string)
  | _ => .error "cell"

def writtenCell (d : Document) : Decoded WrittenCell := do
  match ← d.items with
  | place :: look :: content =>
    return ⟨← address place,
      ← named [Look.header, .lockedHidden, .locked, .unlocked] lookLetters look,
      ← written content⟩
  | _ => throw "cell"

/-- A sheet of a workbook file, as a reader finds it. -/
def fileSheet (d : Document) : Decoded FileSheet := do
  match ← d.items with
  | [name, s] =>
    return ⟨← name.string, .ok (Xlsx.readRange (← s.get "cells" (·.listOf writtenCell)))⟩
  | _ => throw "sheet"

/-- A workbook file, as a reader finds it. -/
def book (d : Document) : Decoded ReturnedFile := do
  return .workbook (← d.get "sheets" (·.listOf fileSheet))

end ShipReport.Json
