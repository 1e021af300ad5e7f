import ShipReport.Proofs.Workbook.Cells
import ShipReport.Template.Lookup

/-!
# Contents of the lookup sheet

What stands on the lookup sheet: below the header of a column the entries of its list, and no
formula anywhere. Column numbers have 16 bits, so that a list is written over by one that comes
65536 places after it. The last lists are never written over, and with at most 65536 lists none is.
-/

namespace ShipReport.Template

open Formula (Expr Position RangeRef)
open Workbook (Cell Sheet columnNumber)

namespace LookupList

/-- A list of texts has the texts as entries. -/
@[simp]
lemma entries_ofTexts (header : String) (texts : List String) :
    (ofTexts header texts).entries = texts.map fun s => some (.text s) := rfl

/-- A list of numbers has the numbers as entries. -/
@[simp]
lemma entries_ofNumbers (header : String) (numbers : List Float) :
    (ofNumbers header numbers).entries = numbers.map fun x => some (.number x) := rfl

/-- A list of integers has them as entries, as numbers. -/
@[simp]
lemma entries_ofInts (header : String) (numbers : List Int) :
    (ofInts header numbers).entries = numbers.map fun n => some (.number (Float.ofInt n)) :=
  List.map_map

/-- The entries of a list are no formulas. -/
def Plain (l : LookupList) : Prop :=
  ∀ c, some c ∈ l.entries → ∀ e, c ≠ .formula e

/-- A list of texts has no formulas. -/
@[simp]
lemma ofTexts_plain (header : String) (texts : List String) : (ofTexts header texts).Plain := by
  rintro _ h e rfl
  simp [ofTexts] at h

/-- A list of numbers has no formulas. -/
@[simp]
lemma ofNumbers_plain (header : String) (numbers : List Float) :
    (ofNumbers header numbers).Plain := by
  rintro _ h e rfl
  simp [ofNumbers] at h

end LookupList

/-- A list of slots has no formulas. -/
@[simp]
lemma slotList_plain (groups : List Catalog.NoteGroup) (slot : Nat) :
    (slotList groups slot).Plain := by
  rintro _ h e rfl
  simp [slotList] at h

/-- No list of the lookup sheet holds formulas. -/
lemma lookupLists_plain (c : Catalog) : ∀ l ∈ lookupLists c, l.Plain := by
  simp [lookupLists, machineryLists, itemLists, noteLists, placeLists, LookupList.ofInts, or_imp,
    forall_and]

/-- A cell is among those of a list in a column if it stands there below the header. -/
lemma LookupList.mem_cells {l : LookupList} {col : Nat} {p : Position} {c : Cell} :
    (p, c) ∈ l.cells col ↔
      p.col = col ∧ 0 < p.row ∧ l.entries[p.row - 1]? = some (some c) := by
  unfold LookupList.cells
  simp only [List.mem_filterMap, Prod.exists, List.mk_mem_zipIdx_iff_getElem?,
    Option.map_eq_some_iff, Prod.mk.injEq]
  constructor
  · rintro ⟨entry, i, hi, d, rfl, rfl, rfl⟩
    exact ⟨rfl, Nat.succ_pos i, hi⟩
  · rintro ⟨rfl, hrow, hentry⟩
    refine ⟨some c, p.row - 1, hentry, c, rfl, ?_, rfl⟩
    rw [Nat.sub_add_cancel hrow]

/-- The cells of lists that stand side by side after a number of others. -/
def cellsAfter (before : Nat) (lists : List LookupList) : List (Position × Cell) :=
  (lists.zipIdx before).flatMap fun (l, before) => l.cells (columnNumber before)

/-- A cell is among those of lists that stand side by side if it is in a list with the number of its
column. -/
lemma mem_cellsAfter {before : Nat} {lists : List LookupList} {p : Position} {c : Cell} :
    (p, c) ∈ cellsAfter before lists ↔
      ∃ i l, lists[i]? = some l ∧ p.col = columnNumber (before + i) ∧ 0 < p.row ∧
        l.entries[p.row - 1]? = some (some c) := by
  unfold cellsAfter
  simp only [List.mem_flatMap, Prod.exists, LookupList.mem_cells,
    List.mk_mem_zipIdx_iff_le_and_getElem?_sub]
  constructor
  · rintro ⟨l, j, ⟨hj, hl⟩, h⟩
    refine ⟨j - before, l, hl, ?_⟩
    rwa [Nat.add_sub_cancel' hj]
  · rintro ⟨i, l, hl, h⟩
    refine ⟨l, before + i, ⟨Nat.le_add_right _ _, ?_⟩, h⟩
    rwa [Nat.add_sub_cancel_left]

/-- Lists may be laid out in two parts. -/
lemma cellsAfter_append (before : Nat) (lists lists' : List LookupList) :
    cellsAfter before (lists ++ lists') =
      cellsAfter before lists ++ cellsAfter (before + lists.length) lists' := by
  unfold cellsAfter
  rw [List.zipIdx_append, List.flatMap_append]

/-- The lookup sheet holds no formulas. -/
lemma lookupSheet_plain {c : Catalog} {layout : Report.Layout} {p : Position} (e : Expr) :
    (lookupSheet c layout).get? p ≠ some (.formula e) := by
  intro h
  rcases Sheet.mem_of_get?_setAll h with h | ⟨-, h⟩
  · obtain ⟨_, l, hl, -, -, hentry⟩ := mem_cellsAfter.mp h
    exact lookupLists_plain c l (List.mem_of_getElem? hl) _ (List.mem_of_getElem? hentry) e rfl
  · obtain ⟨-, _, heq⟩ := Sheet.get?_new h
    cases heq

/-- The lookup sheet has a column for each of its lists. -/
lemma length_columns_lookupSheet (c : Catalog) (layout : Report.Layout) :
    (lookupSheet c layout).columns.length = (lookupLists c).length :=
  List.length_map _

section

variable {c : Catalog} (layout : Report.Layout) {i row : Nat} {l : LookupList}

/-- An entry of a list after which fewer than 65536 others come is not written over. -/
lemma lookupSheet_get?_of_last (hl : (lookupLists c)[i]? = some l)
    (last : (lookupLists c).length ≤ i + 0x10000) {x : Cell}
    (entry : l.entries[row]? = some (some x)) :
    (lookupSheet c layout).get? ⟨row + 1, columnNumber i⟩ = some x := by
  obtain ⟨hi, rfl⟩ := List.getElem?_eq_some_iff.mp hl
  -- the cells of the lists before, of the list itself, and of those after it
  have parts : cellsAfter 0 (lookupLists c) =
      cellsAfter 0 ((lookupLists c).take i) ++
        ((lookupLists c)[i].cells (columnNumber i) ++
          cellsAfter (i + 1) ((lookupLists c).drop (i + 1))) := by
    have split : (lookupLists c).take i ++ (lookupLists c)[i] :: (lookupLists c).drop (i + 1) =
        lookupLists c := by
      rw [List.getElem_cons_drop, List.take_append_drop]
    have joined := cellsAfter_append 0 ((lookupLists c).take i)
      ((lookupLists c)[i] :: (lookupLists c).drop (i + 1))
    rw [split, List.length_take_of_le (Nat.le_of_lt hi), Nat.zero_add] at joined
    exact joined
  have own : ∀ {row x}, ((⟨row + 1, columnNumber i⟩ : Position), x) ∈
      (lookupLists c)[i].cells (columnNumber i) ↔
        (lookupLists c)[i].entries[row]? = some (some x) := by
    intro row x
    rw [LookupList.mem_cells]
    exact ⟨fun h => h.2.2, fun h => ⟨rfl, Nat.succ_pos row, h⟩⟩
  have cells : (lookupSheet c layout).get? ⟨row + 1, columnNumber i⟩ =
      (Sheet.setAll _ (cellsAfter 0 (lookupLists c))).get? ⟨row + 1, columnNumber i⟩ := rfl
  rw [cells, parts, Sheet.get?_setAll_append, Sheet.get?_setAll_append,
    Sheet.get?_setAll_of_not_mem, Sheet.get?_setAll_of_mem (own.mpr entry)]
  · intro d hd
    exact Option.some.inj (Option.some.inj ((own.mp hd).symm.trans entry))
  · intro d hd
    obtain ⟨j, _, hj, same, -⟩ := mem_cellsAfter.mp hd
    have inside := (List.getElem?_eq_some_iff.mp hj).1
    rw [List.length_drop] at inside
    -- no later list is as far away as the numbers reach
    dsimp only [columnNumber] at same
    omega

/-- With at most 65536 lists, below the header of a column stand the entries of its list. -/
theorem lookupSheet_get? (few : (lookupLists c).length ≤ 0x10000)
    (hl : (lookupLists c)[i]? = some l) :
    (lookupSheet c layout).get? ⟨row + 1, columnNumber i⟩ = l.entries[row]?.join := by
  have hi := (List.getElem?_eq_some_iff.mp hl).1
  cases h : l.entries[row]?.join with
  | some x =>
    exact lookupSheet_get?_of_last layout hl (by omega) (Option.join_eq_some_iff.mp h)
  | none =>
    refine Option.eq_none_iff_forall_ne_some.mpr fun x hx => ?_
    rcases Sheet.mem_of_get?_setAll hx with hx | ⟨-, hx⟩
    · obtain ⟨j, l', hl', same, -, hentry⟩ := mem_cellsAfter.mp hx
      have hj := (List.getElem?_eq_some_iff.mp hl').1
      -- only one list stands in a column
      obtain rfl : i = j := by
        dsimp only [columnNumber] at same
        omega
      obtain rfl := Option.some.inj (hl.symm.trans hl')
      have hentry : l.entries[row]? = some (some x) := hentry
      simp [hentry] at h
    · exact absurd (Sheet.get?_new hx).1 (Nat.succ_ne_zero row)

/-- The range of a list shows the list: its entries stand there, and nothing else. -/
structure Shown (c : Catalog) (layout : Report.Layout) (i : Nat) (l : LookupList) : Prop where
  listed : (lookupLists c)[i]? = some l
  cells : ∀ row < max l.entries.length 1,
    (lookupSheet c layout).get? ⟨row + 1, columnNumber i⟩ = l.entries[row]?.join

/-- On a sheet with at most 65536 columns each list is shown by its range. -/
lemma Shown.of_few {layout : Report.Layout}
    (few : (lookupSheet c layout).columns.length ≤ 0x10000)
    (hl : (lookupLists c)[i]? = some l) : Shown c layout i l := by
  rw [length_columns_lookupSheet] at few
  exact ⟨hl, fun _ _ => lookupSheet_get? layout few hl⟩

/-- A list after which fewer than 65536 others come is shown by its range, if it has entries and
none of them is missing. -/
lemma Shown.of_last (hl : (lookupLists c)[i]? = some l)
    (last : (lookupLists c).length ≤ i + 0x10000) (filled : l.entries ≠ [])
    (whole : ∀ entry ∈ l.entries, entry ≠ none) : Shown c layout i l := by
  refine ⟨hl, fun row hrow => ?_⟩
  have length : max l.entries.length 1 = l.entries.length :=
    Nat.max_eq_left (List.length_pos_iff.mpr filled)
  rw [length] at hrow
  obtain ⟨x, hx⟩ := Option.ne_none_iff_exists'.mp (whole _ (List.getElem_mem hrow))
  have entry : l.entries[row]? = some (some x) := by
    rw [List.getElem?_eq_getElem hrow, hx]
  rw [entry]
  exact lookupSheet_get?_of_last layout hl last entry

end

/-- The lists after the first eleven are the slots and the lists of places. -/
lemma lookupLists_from (c : Catalog) (i : Nat) :
    (lookupLists c)[Lookup.firstSlotCol + i]? =
      ((List.range c.noteSlotLimit).map (slotList c.offeredNotes) ++ placeLists c)[i]? := by
  have parts : lookupLists c = (machineryLists c ++ itemLists c ++ (noteLists c).take 2) ++
      ((List.range c.noteSlotLimit).map (slotList c.offeredNotes) ++ placeLists c) := by
    simp [lookupLists, noteLists]
  have first : (machineryLists c ++ itemLists c ++ (noteLists c).take 2).length =
      Lookup.firstSlotCol := rfl
  rw [parts, List.getElem?_append_right (by rw [first]; exact Nat.le_add_right _ _), first,
    Nat.add_sub_cancel_left]

/-- A slot stands in a column of its own. -/
lemma lookupLists_slot {c : Catalog} {slot : Nat} (h : slot < c.noteSlotLimit) :
    (lookupLists c)[Lookup.firstSlotCol + slot]? = some (slotList c.offeredNotes slot) := by
  rw [lookupLists_from, List.getElem?_append_left (by simpa using h)]
  simp [h]

/-- The lists of places come after the slots. -/
lemma lookupLists_place (c : Catalog) (i : Nat) :
    (lookupLists c)[Lookup.firstSlotCol + c.noteSlotLimit + i]? = (placeLists c)[i]? := by
  rw [Nat.add_assoc, lookupLists_from, List.getElem?_append_right (by simp)]
  simp

/-- The range of a list is in the column of its place. -/
lemma rangeOf_eq {c : Catalog} {sheet : String} {col : Nat} {l : LookupList}
    (h : (lookupLists c)[col]? = some l) :
    Lookup.rangeOf c sheet col = l.range sheet (columnNumber col) := by
  rw [Lookup.rangeOf, h, Option.getD_some]

namespace LookupList

variable {l : LookupList} {sheet : String} {col : Nat}

/-- The range of a list is on its sheet. -/
@[simp]
lemma range_sheet : (l.range sheet col).sheet = some sheet := rfl

/-- A list takes at least one row. -/
@[simp]
lemma range_rows : (l.range sheet col).rows = max l.entries.length 1 := by
  simp only [range, RangeRef.column, RangeRef.span, RangeRef.rows]
  omega

/-- The range of a list has one column. -/
@[simp]
lemma range_cols : (l.range sheet col).cols = 1 := by
  simp only [range, RangeRef.column, RangeRef.span, RangeRef.cols]
  omega

/-- A list stands below the header of its column. -/
lemma range_positions : (l.range sheet col).positions =
    (List.range (max l.entries.length 1)).map fun t => ⟨t + 1, col⟩ := by
  rw [RangeRef.positions, range_rows, range_cols]
  simp only [List.range_one, List.map_cons, List.map_nil]
  rw [← List.map_eq_flatMap]
  apply List.map_congr_left
  intro t _
  change (⟨1 + t, col⟩ : Position) = ⟨t + 1, col⟩
  rw [Nat.add_comm]

end LookupList

/-- The lookup sheet has room for each of its lists below the header. -/
lemma length_lt_maxRow {c : Catalog} (layout : Report.Layout) {l : LookupList}
    (h : l ∈ lookupLists c) : l.entries.length < (lookupSheet c layout).maxRow := by
  have height : (lookupSheet c layout).maxRow =
      max (((lookupLists c).map (·.entries.length)).foldl max 1 + 1) 1 := rfl
  have listed : l.entries.length ∈ (lookupLists c).map (·.entries.length) :=
    List.mem_map_of_mem h
  have := List.le_max_of_mem listed
  rw [height, List.foldl_max_eq_max (List.ne_nil_of_mem listed)]
  omega

/-- There are eleven lists before the slots and five after them. -/
lemma length_lookupLists (c : Catalog) : (lookupLists c).length = 11 + (c.noteSlotLimit + 5) := by
  simp [lookupLists, machineryLists, itemLists, noteLists, placeLists]
  omega

/-- A sheet fits into a workbook: it has at most 16384 columns, and its rows are counted with 32
bits. -/
structure Fits (s : Sheet) : Prop where
  columns : s.columns.length ≤ 16384
  rows : s.maxRow < 0x100000000

/-- On a sheet that fits each list is shown by its range. -/
lemma Fits.shown {c : Catalog} {layout : Report.Layout} (h : Fits (lookupSheet c layout)) {i : Nat}
    {l : LookupList} (hl : (lookupLists c)[i]? = some l) : Shown c layout i l :=
  .of_few (Nat.le_trans h.columns (by decide)) hl

/-- On a sheet that fits, the slots have columns of at most three letters. -/
lemma Fits.slots {c : Catalog} {layout : Report.Layout} (h : Fits (lookupSheet c layout)) :
    Lookup.firstSlotCol + c.noteSlotLimit ≤ 16384 := by
  have columns := h.columns
  rw [length_columns_lookupSheet, length_lookupLists] at columns
  change 11 + c.noteSlotLimit ≤ 16384
  omega

/-- On a sheet that fits, the rows of the notes have numbers of 32 bits. -/
lemma Fits.groups {c : Catalog} {layout : Report.Layout} (h : Fits (lookupSheet c layout)) :
    c.offeredNotes.length + 1 < 0x100000000 := by
  -- the types of notes are one of the lists that the sheet has room for
  have listed : LookupList.ofTexts "Note Type" (c.offeredNotes.map (·.typeKey)) ∈
      lookupLists c := by
    simp [lookupLists, noteLists]
  have room := length_lt_maxRow layout listed
  rw [LookupList.ofTexts, List.length_map, List.length_map] at room
  exact Nat.lt_of_le_of_lt room h.rows

/-- The ranges of a lookup sheet that formulas refer to. -/
def Lookup.formulaRanges (lk : Lookup) : List RangeRef :=
  [lk.machineryNames, lk.machineryIds, lk.machineryPower, lk.machineryConsumption, lk.itemKeys,
    lk.itemIds, lk.itemRemaining, lk.notes.keys, lk.notes.counts, lk.voyageNos, lk.voyageIds,
    lk.portNames, lk.portIds]

/-- All ranges that formulas refer to are on the lookup sheet. -/
lemma formulaRanges_sheet (c : Catalog) (sheet : String) :
    ∀ r ∈ (Lookup.ofCatalog c sheet).formulaRanges, r.sheet = some sheet := by
  simp [Lookup.formulaRanges, Lookup.ofCatalog, Lookup.rangeOf, LookupList.range, RangeRef.column,
    RangeRef.span]

end ShipReport.Template
