import ShipReport.Proofs.Catalog.Lists
import ShipReport.Proofs.Template.Gate
import ShipReport.Proofs.Xlsx.Written

/-!
# Layout of the lookup sheet

The ranges of a lookup sheet show the lists of its catalogue, and ranges that belong together go
through the same entries row by row. The notes of a type stand beside its key, one in each slot. No
two lists or slots share a column, and all of the sheet is written.
-/

namespace ShipReport.Template

open Formula (Position RangeRef)
open Workbook (Cell Sheet columnNumber columnNumber_le columnNumber_of_lt)
open Catalog (Vessel Machine ItemType BunkerNote NoteGroup Voyage Port Timezone)

/-! ## Ranges -/

/-- A range shows entries below the header of one column. Without entries it is one empty cell. -/
structure ShowsList (s : Sheet) (r : RangeRef) (entries : List (Option Cell)) : Prop where
  sheet : r.sheet = some s.name
  top : r.firstRow = 1
  cols : r.cols = 1
  rows : r.rows = max entries.length 1
  cells : r.positions.map s.get? = if entries = [] then [none] else entries

/-- On a sheet with at most 65536 columns the range of a list shows its entries. -/
lemma showsList_rangeOf {c : Catalog} {layout : Report.Layout}
    (few : (lookupSheet c layout).columns.length ≤ 0x10000) {col : Nat} {l : LookupList}
    (h : (lookupLists c)[col]? = some l) :
    ShowsList (lookupSheet c layout) (Lookup.rangeOf c layout.lookupSheet col) l.entries := by
  rw [rangeOf_eq h]
  refine ⟨rfl, rfl, LookupList.range_cols, LookupList.range_rows, ?_⟩
  have shown : ∀ row, (lookupSheet c layout).get? ⟨row + 1, columnNumber col⟩ =
      l.entries[row]?.join := by
    intro row
    rw [length_columns_lookupSheet] at few
    exact lookupSheet_get? layout few h
  rw [LookupList.range_positions, List.map_map]
  split
  · next empty =>
    rw [empty]
    exact congrArg (· :: []) ((shown 0).trans (by rw [empty]; rfl))
  · next filled =>
    have length : max l.entries.length 1 = l.entries.length :=
      Nat.max_eq_left (List.length_pos_iff.mpr filled)
    refine List.ext_getElem (by simp [length]) fun row _ h => ?_
    rw [List.getElem_map, List.getElem_range, Function.comp_apply, shown,
      List.getElem?_eq_getElem h]
    rfl

/-! ## Blocks -/

/-- Ranges that belong together, and their rows: the cells of one entry in each. -/
structure Block where
  ranges : List RangeRef
  rows : List (List Cell)

/-- The cells of a block in one of its ranges. -/
def Block.column (b : Block) (j : Nat) : List (Option Cell) :=
  b.rows.map (·[j]?)

/-- A block stands on a sheet if each of its ranges shows its cells. -/
def Block.StandsOn (b : Block) (s : Sheet) : Prop :=
  ∀ p ∈ b.ranges.zipIdx, ShowsList s p.1 (b.column p.2)

/-- All ranges of a lookup sheet, and the lists of the catalogue in them. -/
def Lookup.blocks (lk : Lookup) (c : Catalog) : List Block := [
  ⟨[lk.machineryNames, lk.machineryIds, lk.machineryPower, lk.machineryConsumption],
    c.machineryByName.map fun m => [.text m.name, .number (Float.ofInt m.id),
      .number m.ratedPower, .number m.specificConsumption]⟩,
  ⟨[lk.fuelKeys], c.fuelKeys.map fun key => [.text key]⟩,
  ⟨[lk.lubeKeys], c.lubeKeys.map fun key => [.text key]⟩,
  ⟨[lk.itemKeys, lk.itemIds, lk.itemRemaining],
    c.items.map fun t => [.text t.key, .number (Float.ofInt t.id), .number t.remainingOnBoard]⟩,
  ⟨[lk.notes.keys, lk.notes.counts],
    c.offeredNotes.map fun g => [.text g.typeKey, .number (Float.ofNat g.numbers.length)]⟩,
  ⟨[lk.voyageNos, lk.voyageIds],
    c.voyages.map fun v => [.text v.number, .number (Float.ofInt v.id)]⟩,
  ⟨[lk.portNames, lk.portIds], c.ports.map fun p => [.text p.name, .number (Float.ofInt p.id)]⟩,
  ⟨[lk.timezones], c.timezones.map fun t => [.text t.label]⟩]

/-- The columns of all ranges and slots. -/
def Lookup.usedColumns (lk : Lookup) (c : Catalog) : List Nat :=
  ((lk.blocks c).flatMap (·.ranges)).map (·.firstCol) ++
    (List.range c.noteSlotLimit).map (lk.notes.firstSlotCol + ·)

section

variable {c : Catalog} {layout : Report.Layout}
  (few : (lookupSheet c layout).columns.length < 0x10000)

include few

/-- A range shows entries if they are those of the list in its column. -/
lemma showsList_of_list {col : Nat} {l : LookupList} {entries : List (Option Cell)}
    (h : (lookupLists c)[col]? = some l) (same : l.entries = entries) :
    ShowsList (lookupSheet c layout) (Lookup.rangeOf c layout.lookupSheet col) entries :=
  same ▸ showsList_rangeOf (Nat.le_of_lt few) h

/-- All ranges show the lists of the catalogue. -/
lemma blocks_stand : ∀ b ∈ (Lookup.ofCatalog c layout.lookupSheet).blocks c,
    b.StandsOn (lookupSheet c layout) := by
  have list {col : Nat} {l : LookupList} {entries : List (Option Cell)} :=
    @showsList_of_list c layout few col l entries
  have place (i : Nat) {l : LookupList} {entries : List (Option Cell)}
      (h : (placeLists c)[i]? = some l) :=
    @showsList_of_list c layout few _ l entries ((lookupLists_place c i).trans h)
  simp only [Lookup.blocks, Block.StandsOn, Block.column, List.forall_mem_cons, List.zipIdx_cons,
    List.zipIdx_nil, List.map_map, Function.comp_def, Lookup.ofCatalog]
  -- block by block; the columns of the places are counted from the end of the slots
  refine ⟨⟨list rfl ?_, list rfl ?_, list rfl ?_, list rfl ?_, nofun⟩, ⟨list rfl ?_, nofun⟩,
    ⟨list rfl ?_, nofun⟩, ⟨list rfl ?_, list rfl ?_, list rfl ?_, nofun⟩,
    ⟨list rfl ?_, list rfl ?_, nofun⟩, ⟨place 0 rfl ?_, place 1 rfl ?_, nofun⟩,
    ⟨place 2 rfl ?_, place 3 rfl ?_, nofun⟩, ⟨place 4 rfl ?_, nofun⟩, nofun⟩
  all_goals simp

/-- The slots in the row of a group hold its notes in order. -/
lemma slot_get? {i slot : Nat} {g : NoteGroup} (hg : c.offeredNotes[i]? = some g)
    (hslot : slot < c.noteSlotLimit) :
    (lookupSheet c layout).get? ⟨i + 1, Lookup.firstSlotCol + slot⟩ =
      g.numbers[slot]?.map .text := by
  rw [length_columns_lookupSheet, length_lookupLists] at few
  have column : columnNumber (Lookup.firstSlotCol + slot) = Lookup.firstSlotCol + slot :=
    columnNumber_of_lt (by change 11 + slot < _; omega)
  have few' : (lookupLists c).length ≤ 0x10000 := by
    rw [length_lookupLists]
    omega
  have entry : (lookupSheet c layout).get? ⟨i + 1, columnNumber (Lookup.firstSlotCol + slot)⟩ =
      ((slotList c.offeredNotes slot).entries[i]?).join :=
    lookupSheet_get? layout few' (lookupLists_slot hslot)
  rw [column] at entry
  rw [entry]
  simp [slotList, hg]

/-! ## Rows and columns -/

/-- The columns of the sheet have numbers of their own. -/
lemma columnCount_lookupSheet : (lookupSheet c layout).columnCount = 11 + (c.noteSlotLimit + 5) := by
  rw [Sheet.columnCount, columnNumber_of_lt few, length_columns_lookupSheet, length_lookupLists]

/-- The columns of the ranges and slots are those of the sheet. The slots come before the last five
lists. -/
lemma usedColumns_perm : ((Lookup.ofCatalog c layout.lookupSheet).usedColumns c).Perm
    (List.range (lookupSheet c layout).columnCount) := by
  have places : (List.range' (11 + c.noteSlotLimit) 5).map columnNumber =
      List.range' (11 + c.noteSlotLimit) 5 := by
    rw [length_columns_lookupSheet, length_lookupLists] at few
    refine (List.map_congr_left fun col hcol => ?_).trans (List.map_id _)
    have := List.mem_range'_1.mp hcol
    exact columnNumber_of_lt (by omega)
  have used : (Lookup.ofCatalog c layout.lookupSheet).usedColumns c =
      List.range 11 ++
        ((List.range' (11 + c.noteSlotLimit) 5).map columnNumber ++
          List.range' 11 c.noteSlotLimit) := by
    rw [List.range'_eq_map_range, List.range'_eq_map_range]
    rfl
  rw [used, places, columnCount_lookupSheet few, List.range_eq_range', List.range_eq_range',
    ← List.range'_append_1, ← List.range'_append_1, Nat.zero_add]
  exact .append_left _ List.perm_append_comm

/-- All cells of the sheet are inside its rows and columns. -/
lemma lookupSheet_inside {p : Position} {cell : Cell}
    (h : (lookupSheet c layout).get? p = some cell) :
    p.row < (lookupSheet c layout).maxRow ∧ p.col < (lookupSheet c layout).columnCount := by
  rw [Sheet.columnCount, columnNumber_of_lt few]
  rcases Sheet.mem_of_get?_setAll h with listed | ⟨-, header⟩
  · obtain ⟨i, l, hl, hcol, hrow, hentry⟩ := mem_cellsAfter.mp listed
    have room := length_lt_maxRow layout (List.mem_of_getElem? hl)
    have entry := (List.getElem?_eq_some_iff.mp hentry).1
    have list := (List.getElem?_eq_some_iff.mp hl).1
    have number := columnNumber_le (0 + i)
    rw [length_columns_lookupSheet]
    exact ⟨by omega, by omega⟩
  · rw [(Sheet.get?_new header).1]
    exact ⟨Nat.lt_of_lt_of_le Nat.one_pos (Nat.le_max_right _ _), Sheet.col_lt_of_get?_new header⟩

/-- A reader finds everywhere on the written sheet what stands there. There are no formulas, so that
no values are needed. -/
lemma lookupSheet_written (w : Workbook) (i : Nat) :
    ∃ written, Xlsx.writtenSheet w i (lookupSheet c layout) = pure written ∧
      ∀ p, written.range.cell p = Xlsx.seen .empty ((lookupSheet c layout).get? p) := by
  refine ⟨_, Xlsx.writtenSheet_of_plain (fun _ => lookupSheet_plain) w i fun _ _ => .empty,
    fun p => ?_⟩
  by_cases inside : p ∈ (lookupSheet c layout).grid
  · exact Xlsx.range_cell _ i (Sheet.mem_grid.mp inside).1 (Sheet.mem_grid.mp inside).2
  · have absent : (lookupSheet c layout).get? p = none := by
      refine Option.eq_none_iff_forall_ne_some.mpr fun cell hcell => inside ?_
      exact Sheet.mem_grid.mpr (lookupSheet_inside few hcell)
    rw [Xlsx.range_cell_outside _ i inside, absent]
    rfl

end

/-! ## The layout -/

/-- The lists of a catalogue stand on a lookup sheet where its ranges say. -/
structure LaidOut (c : Catalog) (s : Sheet) (lk : Lookup) : Prop where
  blocks : ∀ b ∈ lk.blocks c, b.StandsOn s
  /-- In the row of a group the first slots hold its notes, and the others nothing. -/
  slots : ∀ i g, c.offeredNotes[i]? = some g → g.numbers ≠ [] ∧ ∀ slot < c.noteSlotLimit,
    s.get? ⟨i + 1, lk.notes.firstSlotCol + slot⟩ = g.numbers[slot]?.map .text
  /-- No two ranges or slots share a column. -/
  apart : (lk.usedColumns c).Nodup
  columns : ∀ col, col ∈ lk.usedColumns c ↔ col < s.columnCount
  inside : ∀ p cell, s.get? p = some cell → p.row < s.maxRow ∧ p.col < s.columnCount
  /-- Nothing is lost when the sheet is written. -/
  written : ∀ w i, ∃ written, Xlsx.writtenSheet w i s = pure written ∧
    ∀ p, written.range.cell p = Xlsx.seen .empty (s.get? p)

/-- Whatever a catalogue holds, its lists are laid out on the lookup sheet, if this has fewer than
65536 columns. A catalogue of entries offers no more notes of a type than there are slots, so that
none is without a slot. -/
theorem lookupSheet_laidOut (layout : Report.Layout) :
    (∀ c : Catalog, (lookupSheet c layout).columns.length < 0x10000 →
      LaidOut c (lookupSheet c layout) (Lookup.ofCatalog c layout.lookupSheet)) ∧
    ∀ (vessel : Vessel) (machinery : List Machine) (itemTypes : List ItemType)
      (notes : List BunkerNote) (voyages : List Voyage) (ports : List Port)
      (timezones : List Timezone) (limit : Nat),
      let c := Catalog.ofEntries vessel machinery itemTypes notes voyages ports timezones limit
      ∀ g ∈ c.offeredNotes, g.numbers.length ≤ c.noteSlotLimit := by
  constructor
  · intro c few
    have used := usedColumns_perm few
    refine ⟨blocks_stand few, fun i g hg => ⟨?_, fun slot => slot_get? few hg⟩,
      used.nodup_iff.mpr List.nodup_range, fun col => ?_,
      fun p cell => lookupSheet_inside few, lookupSheet_written few⟩
    · have offered := (List.mem_filter.mp (List.mem_of_getElem? hg)).2
      simpa using offered
    · rw [used.mem_iff, List.mem_range]
  · intro vessel machinery itemTypes notes voyages ports timezones limit c g hg
    rw [(Catalog.numbers_of_offered hg).2, List.length_map, List.length_take]
    exact Nat.min_le_left _ _

/-- The sample vessel has a lookup sheet of eighteen columns, on which its lists are laid out. -/
theorem sample_lists_laidOut :
    (lookupSheet Sample.catalog Sample.layout).columns.length = 18 ∧
      LaidOut Sample.catalog (lookupSheet Sample.catalog Sample.layout)
        (Lookup.ofCatalog Sample.catalog Sample.layout.lookupSheet) := by
  have width : (lookupSheet Sample.catalog Sample.layout).columns.length = 18 := by
    decide +kernel
  exact ⟨width, (lookupSheet_laidOut Sample.layout).1 Sample.catalog (by rw [width]; decide)⟩

end ShipReport.Template
