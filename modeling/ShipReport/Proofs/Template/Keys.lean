import ShipReport.Proofs.Formula.SlotAddress
import ShipReport.Proofs.Template.Gate

/-!
# Keys on the lookup sheet

What a row finds on the lookup sheet by a text that was entered: the first entry of a list of texts
that is the same in lower case, and with it the entry beside it in another list. A text that is not
in the list finds nothing.
-/

namespace ShipReport.Template

open Formula (CellRef Expr Grid Position RangeRef Value)
open Formula.Pattern (keyedLookup)
open Report
open Workbook (Cell columnNumber)

/-- The value of an entry of a list; a missing entry has no value. -/
def entryValue : Option Cell → Value
  | some (.text s) => .text s
  | some (.number x) => .number x
  | _ => .empty

/-- The values of a list of texts on the lookup sheet; an empty list takes one empty cell. -/
def textValues (texts : List String) : List Value :=
  if texts = [] then [.empty] else texts.map .text

/-- The values of the cells of a list of texts. -/
lemma map_entryValue_texts (header : String) (texts : List String) :
    (List.range (max (LookupList.ofTexts header texts).entries.length 1)).map
      (fun t => entryValue (LookupList.ofTexts header texts).entries[t]?.join) =
        textValues texts := by
  unfold textValues
  split
  · next h => subst h; rfl
  · next h =>
    have length : max (LookupList.ofTexts header texts).entries.length 1 = texts.length := by
      have := List.length_pos_of_ne_nil h
      simp only [LookupList.ofTexts, List.length_map]
      omega
    rw [length]
    apply List.ext_getElem (by simp)
    intro t ht _
    have ht' : t < texts.length := by simpa using ht
    simp [LookupList.ofTexts, ht', entryValue]

/-- The place of a text among others, letter case aside. -/
lemma placeOf_textValues {t : String} (ht : t ≠ "") (texts : List String) :
    Formula.Meaning.placeOf (.text t) (textValues texts) =
      match texts.findIdx? (Text.lowercase · = Text.lowercase t) with
      | some i => .number (Float.ofNat (i + 1))
      | none => .fault .notAvailable := by
  -- texts are equal to a search if their lower case is
  have same : ∀ s, ((Value.text t).order (.text s) == some .eq) =
      decide (Text.lowercase s = Text.lowercase t) := fun s => by
    rw [Bool.eq_iff_iff, beq_iff_eq, decide_eq_true_iff]
    change some (compare (Text.lowercase t) (Text.lowercase s)) = some .eq ↔ _
    rw [Option.some.injEq, Std.compare_eq_iff_eq]
    exact eq_comm
  have absent : ((Value.text t).order .empty == some .eq) = false := by
    change ((Value.text t).order (.text "") == some .eq) = false
    rw [same, Text.lowercase_eq_empty.mpr rfl, decide_eq_false_iff_not, eq_comm,
      Text.lowercase_eq_empty]
    exact ht
  unfold textValues
  split
  · next h =>
    subst h
    simp only [Formula.Meaning.placeOf, List.findIdx?_cons, absent]
    rfl
  · have found : (texts.map Value.text).findIdx? (fun v => (Value.text t).order v == some .eq) =
        texts.findIdx? (Text.lowercase · = Text.lowercase t) := by
      simp only [List.findIdx?_map, Function.comp_def, same]
    cases hi : texts.findIdx? (Text.lowercase · = Text.lowercase t) with
    | none => simp only [Formula.Meaning.placeOf, found, hi]
    | some i => simp only [Formula.Meaning.placeOf, found, hi]

section

variable {catalog : Catalog} {kind : TemplateKind} {rules : Rules} {layout : Layout}
  {token : UploadToken} {w : Workbook}
  (hw : (build catalog kind rules layout token).workbook.EditOf w)
  (hname : ∀ k : ReportSheet, layout.lookupSheet ≠ k.title)
  (hlookup : w.sheets[lookupPlace]? = some (lookupSheet catalog layout))

include hw hname hlookup

/-- The cells of a list that is shown have the values of its entries. -/
lemma lookup_value {col : Nat} {l : LookupList} (hl : Shown catalog layout col l) {t : Nat}
    (ht : t < max l.entries.length 1) :
    Grid.Layered.values w.grid lookupPlace ⟨t + 1, columnNumber col⟩ =
      entryValue l.entries[t]?.join := by
  have plain := edited_lookup hw ⟨t + 1, columnNumber col⟩
  rw [edited_solves hw hname, Grid.valueFrom]
  rw [Workbook.grid_content, hlookup, Option.bind_some, hl.cells t ht] at plain ⊢
  generalize l.entries[t]?.join = entry at plain ⊢
  cases entry with
  | none => rfl
  | some c =>
    cases c with
    | formula e => exact absurd rfl (plain e)
    | _ => rfl

/-- The range of a list that is shown has the values of its entries. -/
lemma lookup_values {col : Nat} {l : LookupList} (hl : Shown catalog layout col l) :
    (l.range layout.lookupSheet (columnNumber col)).positions.map
        (Grid.Layered.values w.grid lookupPlace) =
      (List.range (max l.entries.length 1)).map fun t => entryValue l.entries[t]?.join := by
  rw [LookupList.range_positions, List.map_map]
  exact List.map_congr_left fun t ht =>
    lookup_value hw hname hlookup hl (List.mem_range.mp ht)

section

variable {listCol : Nat} {header : String} {texts : List String}
  (hl : Shown catalog layout listCol (.ofTexts header texts))

include hl

/-- The place of a cell of a row in a list of texts. -/
lemma key_place (k : ReportSheet) (row col : Nat) :
    (Expr.exactMatch (valueAt row col)
        (Lookup.rangeOf catalog layout.lookupSheet listCol)).valueUnder w.grid.sheetIndex
          (Grid.Layered.values w.grid) (place k) =
      let v := Grid.Layered.values w.grid (place k) ⟨row, col⟩
      if v.isFault then v
      else if v.isBlank then .fault .notAvailable
      else Formula.Meaning.placeOf v (textValues texts) := by
  have index : w.grid.sheetIndex layout.lookupSheet = some lookupPlace :=
    edited_lookupIndex hw hname
  rw [rangeOf_eq hl.listed, Expr.valueUnder_exactMatch LookupList.range_sheet index LookupList.range_cols,
    lookup_values hw hname hlookup hl, map_entryValue_texts, valueAt, cellAt, CellRef.inColumn,
    Expr.valueUnder_cell]

variable {k : ReportSheet} {row col : Nat} (hcol : col ∉ formulaColumns k)

include hcol

/-- A blank cell has no place in a list. -/
lemma key_place_none (ht : w.entry? k.title ⟨row, col⟩ = none) :
    (Expr.exactMatch (valueAt row col)
        (Lookup.rangeOf catalog layout.lookupSheet listCol)).valueUnder w.grid.sheetIndex
          (Grid.Layered.values w.grid) (place k) = .fault .notAvailable := by
  rw [key_place hw hname hlookup hl]
  rcases input_value hw hname row hcol with ⟨-, hblank⟩ | ⟨hsome, -⟩
  · simp only [hblank, Value.isFault_of_isBlank hblank]
    rfl
  · exact absurd (ht.symm.trans hsome) nofun

variable {t : String} (ht : w.entry? k.title ⟨row, col⟩ = some (.text t))

include ht

/-- A text that was entered is found in a list, letter case aside. -/
lemma key_place_text :
    (Expr.exactMatch (valueAt row col)
        (Lookup.rangeOf catalog layout.lookupSheet listCol)).valueUnder w.grid.sheetIndex
          (Grid.Layered.values w.grid) (place k) =
      match texts.findIdx? (Text.lowercase · = Text.lowercase t) with
      | some i => .number (Float.ofNat (i + 1))
      | none => .fault .notAvailable := by
  have filled := Workbook.isBlank_of_entry? ht
  rw [key_place hw hname hlookup hl, entered_value hw hname hcol ht]
  dsimp only
  rw [if_neg (by simp [Value.isFault]), if_neg (by simp [filled]), placeOf_textValues]
  simpa [Value.isBlank] using filled

/-- A text that was entered looks up the entry beside the first text of a list that is the same in
lower case. -/
lemma keyedLookup_text {valueCol : Nat} {l : LookupList}
    (hvalues : Shown catalog layout valueCol l) {i : Nat}
    (hi : texts.findIdx? (Text.lowercase · = Text.lowercase t) = some i)
    (hlength : i < l.entries.length) (hlt : i + 1 < 2 ^ 53) :
    (keyedLookup (valueAt row col) (Lookup.rangeOf catalog layout.lookupSheet listCol)
        (Lookup.rangeOf catalog layout.lookupSheet valueCol)).valueUnder w.grid.sheetIndex
          (Grid.Layered.values w.grid) (place k) = entryValue l.entries[i]?.join := by
  have index : w.grid.sheetIndex layout.lookupSheet = some lookupPlace :=
    edited_lookupIndex hw hname
  have key := key_place_text hw hname hlookup hl hcol ht
  rw [hi] at key
  have beside := Expr.valueUnder_index (r := l.range layout.lookupSheet (columnNumber valueCol))
    LookupList.range_sheet index key (Nat.succ_pos i)
    (by rw [LookupList.range_rows]; omega) hlt LookupList.range_cols
  have position : (l.range layout.lookupSheet (columnNumber valueCol)).cellAt (i + 1 - 1) 0 =
      ⟨i + 1, columnNumber valueCol⟩ := by
    change (⟨1 + i, columnNumber valueCol⟩ : Position) = _
    rw [Nat.add_comm]
  rw [position, lookup_value hw hname hlookup hvalues (by omega)] at beside
  have sound : (entryValue l.entries[i]?.join).isFault = false := by
    unfold entryValue
    split <;> rfl
  rw [keyedLookup, Expr.valueUnder_orElse, rangeOf_eq hvalues.listed, beside, if_neg (by simp [sound])]

end

end

end ShipReport.Template
