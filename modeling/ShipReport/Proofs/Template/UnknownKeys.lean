import ShipReport.Proofs.Number.CellText
import ShipReport.Proofs.Template.Choices
import ShipReport.Proofs.Template.KeyedColumns

/-!
# Keys that the catalogue does not have

What stands in the columns that are looked up when no entry bears the key of the row. They are
blank, but for one case: a list without entries takes one absent cell, a zero as a key finds it, and
what stands beside it is shown as the number zero. Notes are not offered even then.
-/

namespace ShipReport.Formula

/-- A number that equals an absent cell. -/
def Value.isZero : Value → Bool
  | .number x => x == 0
  | _ => false

namespace Value

/-- Of numbers only the zeros compare equal to an absent cell. -/
lemma order_number_empty (x : Float) :
    ((Value.number x).order .empty == some .eq) = (Value.number x).isZero := by
  change (compareNumbers x 0 == some .eq) = (x == 0)
  unfold compareNumbers
  cases hzero : x == 0 with
  | true =>
    obtain ⟨below, above⟩ := Number.not_lt_of_beq_zero hzero
    rw [if_neg below, if_neg above]
    rfl
  | false =>
    split
    · rfl
    · split <;> rfl

/-- An absent cell counts as zero beside one. -/
lemma empty_lt_one : Value.empty.apply .lt (.number 1) = .bool true := by
  decide +kernel

end Value

/-- A key whose count is absent has no slots. -/
lemma Pattern.slotAddress_uncounted {index : String → Option Nat} {σ : Nat → Position → Value}
    {i j : Nat} {key : Expr} {table : SlotTable} {name : String} {m : Nat}
    (hcounts : table.counts.sheet = some name) (hj : index name = some j)
    (hcols : table.counts.cols = 1)
    (hplace : (Expr.exactMatch key table.keys).valueUnder index σ i = .number (Float.ofNat m))
    (hm : 0 < m) (hrows : m ≤ table.counts.rows) (hlt : m < 2 ^ 53)
    (hcount : σ j (table.counts.cellAt (m - 1) 0) = .empty) :
    (slotAddress key table).valueUnder index σ i = .text "" := by
  have count := Expr.valueUnder_index hcounts hj hplace hm hrows hlt hcols
  rw [hcount] at count
  have test : (Expr.binary .lt (Expr.index table.counts (Expr.exactMatch key table.keys))
      (.number 1)).valueUnder index σ i = .bool true := by
    rw [Expr.valueUnder_binary, count, Expr.number, Expr.valueUnder_literal]
    exact Value.empty_lt_one
  unfold slotAddress
  dsimp only
  rw [Expr.valueUnder_orElse, Expr.valueUnder_conditional, test]
  simp only [Value.asBool, Expr.valueUnder_blank]
  exact if_neg (by simp [Value.isFault])

end ShipReport.Formula

namespace ShipReport.Template

open Formula (Expr Grid Position RangeRef Value)
open Formula.Pattern (gated keyedLookup slotAddress)
open Report
open Workbook (Edit columnNumber)

/-- What has been entered is none of several names: it is a number, or a text that is the same as
none of them, letter case aside. -/
def Unlisted (v : Value) (names : List String) : Prop :=
  ∀ t, v = .text t → ∀ name ∈ names, Text.lowercase name ≠ Text.lowercase t

/-- A key that is not listed is not among fewer names either. -/
lemma Unlisted.subset {v : Value} {names names' : List String} (h : Unlisted v names)
    (sub : names' ⊆ names) : Unlisted v names' :=
  fun t ht name hname => h t ht name (sub hname)

/-- The place of a number among texts: only a zero has one, in the absent cell of no texts. -/
lemma placeOf_number (x : Float) (texts : List String) :
    Formula.Meaning.placeOf (.number x) (textValues texts) =
      if texts = [] ∧ (Value.number x).isZero then .number (Float.ofNat 1)
      else .fault .notAvailable := by
  unfold textValues
  by_cases htexts : texts = []
  · rw [if_pos htexts, Formula.Meaning.placeOf, List.findIdx?_cons, Value.order_number_empty]
    cases (Value.number x).isZero <;> simp [htexts]
  · -- numbers come before texts
    have other : (texts.map Value.text).findIdx?
        (fun v => (Value.number x).order v == some .eq) = none := by
      rw [List.findIdx?_eq_none_iff, List.forall_mem_map]
      exact fun _ _ => rfl
    rw [if_neg htexts, Formula.Meaning.placeOf, other, if_neg fun h => htexts h.1]

section

variable {catalog : Catalog} {kind : TemplateKind} {rules : Rules} {layout : Layout}
  {token : UploadToken} {w : Workbook}
  (hw : (build catalog kind rules layout token).workbook.EditOf w)
  (hname : ∀ k : ReportSheet, layout.lookupSheet ≠ k.title)
  (hlookup : w.sheets[lookupPlace]? = some (lookupSheet catalog layout))

include hw hname hlookup

section

variable {listCol : Nat} {header : String} {texts : List String}
  (hl : Shown catalog layout listCol (.ofTexts header texts))
  {k : ReportSheet} {row col : Nat} (hcol : col ∉ formulaColumns k) {v : Value}
  (hv : w.entry? k.title ⟨row, col⟩ = some v) (hunlisted : Unlisted v texts)

include hl hcol hv hunlisted

/-- The place of a key that is none of the texts of a list. -/
lemma key_place_unlisted :
    (Expr.exactMatch (valueAt row col)
        (Lookup.rangeOf catalog layout.lookupSheet listCol)).valueUnder w.grid.sheetIndex
          (Grid.Layered.values w.grid) (place k) =
      if texts = [] ∧ v.isZero then .number (Float.ofNat 1) else .fault .notAvailable := by
  rcases Workbook.entry?_cases hv with ⟨t, -, rfl⟩ | ⟨x, rfl⟩
  · rw [key_place_text hw hname hlookup hl hcol hv,
      List.findIdx?_eq_none_iff.mpr (by simpa using hunlisted t rfl), if_neg]
    exact fun h => Bool.noConfusion h.2
  · rw [key_place hw hname hlookup hl, entered_value hw hname hcol hv]
    exact placeOf_number x texts

end

/-- The first cell of an empty list is absent. -/
lemma empty_list_value {col : Nat} {l : LookupList} (hl : Shown catalog layout col l)
    (hempty : l.entries = []) :
    Grid.Layered.values w.grid lookupPlace
      ((l.range layout.lookupSheet (columnNumber col)).cellAt (1 - 1) 0) = .empty := by
  have value := lookup_value hw hname hlookup hl
    (Nat.lt_of_lt_of_le Nat.one_pos (Nat.le_max_right _ _))
  rw [hempty] at value
  exact value

variable (few : (lookupSheet catalog layout).columns.length ≤ 0x10000)

include few

variable {k : ReportSheet} {row : Nat} {v : Value}

/-- What a key finds that none of the entries bears. -/
lemma keyedLookup_unlisted {entries rows : List (String × Attribute)} {nameCol valueCol col : Nat}
    (hlisted : Listed catalog entries nameCol valueCol rows) (hcol : col ∉ formulaColumns k)
    (hv : w.entry? k.title ⟨row, col⟩ = some v) (hunlisted : Unlisted v (entries.map (·.1))) :
    (keyedLookup (valueAt row col) (Lookup.rangeOf catalog layout.lookupSheet nameCol)
        (Lookup.rangeOf catalog layout.lookupSheet valueCol)).valueUnder w.grid.sheetIndex
          (Grid.Layered.values w.grid) (place k) =
      if entries = [] ∧ v.isZero then .empty else .text "" := by
  have index : w.grid.sheetIndex layout.lookupSheet = some lookupPlace :=
    edited_lookupIndex hw hname
  obtain ⟨_, names⟩ := hlisted.names
  obtain ⟨header, numbers⟩ := hlisted.numbers
  have place := key_place_unlisted hw hname hlookup (.of_few few names) hcol hv
    (hunlisted.subset (hlisted.perm.map _).subset)
  have empty : rows.map (·.1) = [] ↔ entries = [] := by
    rw [List.map_eq_nil_iff, ← List.length_eq_zero_iff, hlisted.perm.length_eq,
      List.length_eq_zero_iff]
  simp only [empty] at place
  rw [keyedLookup, Expr.valueUnder_orElse, Expr.valueUnder_blank, rangeOf_eq numbers]
  split at place
  · next hzero =>
    -- zero is found in the absent cell of an empty list, and the cell beside it is absent as well
    have absent := empty_list_value hw hname hlookup (.of_few few numbers) (by
      rw [LookupList.ofNumbers, List.map_map, List.map_eq_nil_iff]
      exact List.map_eq_nil_iff.mp (empty.mpr hzero.1))
    have beside := Expr.valueUnder_index
      (r := (LookupList.ofNumbers header (rows.map (·.2.number))).range layout.lookupSheet
        (columnNumber valueCol)) LookupList.range_sheet index place Nat.one_pos
      (by rw [LookupList.range_rows]; exact le_max_right _ _) (by decide) LookupList.range_cols
    rw [beside, absent, if_pos hzero]
    rfl
  · next hother =>
    have none := Expr.valueUnder_index_fault
      (r := (LookupList.ofNumbers header (rows.map (·.2.number))).range layout.lookupSheet
        (columnNumber valueCol)) LookupList.range_sheet index place
    rw [none, if_neg hother]
    rfl

variable (hrow : 0 < row) (hmax : row < layout.maxRow kind)
  (hdriver : w.entry? k.title ⟨row, k.driver⟩ ≠ none)

include hrow hmax hdriver

/-- A keyed column of a row whose key is in no entry. -/
lemma keyed_column_unlisted {d : KeyedColumn} (hd : d ∈ keyedColumns catalog k)
    (hv : w.entry? k.title ⟨row, d.key⟩ = some v) (hunlisted : Unlisted v (d.entries.map (·.1))) :
    w.value k.title ⟨row, d.column⟩ =
      if d.entries = [] ∧ v.isZero then .number 0 else .text "" := by
  obtain ⟨nameCol, valueCol, ⟨rows, listed⟩, formula⟩ := keyedColumns_listed hd
  have found := keyedLookup_unlisted hw hname hlookup few listed (keyedColumns_key hd) hv hunlisted
  rw [edited_value hw hname, gated_filled hw hname hrow hmax (formula _ row) hdriver, found]
  split <;> rfl

/-- A supply that is none of the types with notes has no address of notes. -/
lemma address_of_unlisted {n : NoteColumns} (hn : noteColumns k = some n)
    (hv : w.entry? k.title ⟨row, n.supply⟩ = some v)
    (hunlisted : Unlisted v (catalog.offeredNotes.map (·.typeKey))) :
    Grid.Layered.values w.grid (place k) ⟨row, n.address⟩ = .text "" := by
  have index : w.grid.sheetIndex layout.lookupSheet = some lookupPlace :=
    edited_lookupIndex hw hname
  have keys : (lookupLists catalog)[Lookup.noteKeyCol]? = some (.ofTexts "Note Type"
      (catalog.offeredNotes.map (·.typeKey))) := rfl
  have hl : (lookupLists catalog)[Lookup.noteCountCol]? = some (.ofNumbers "Note Count"
      (catalog.offeredNotes.map fun g => Float.ofNat g.numbers.length)) := rfl
  have counts : (Lookup.ofCatalog catalog layout.lookupSheet).notes.counts = _ := rangeOf_eq hl
  have place := key_place_unlisted hw hname hlookup (.of_few few keys) (supply_column hn) hv
    hunlisted
  refine address_of_filled hw hname hn hrow hmax hdriver ?_
  split at place
  · next hzero =>
    have absent := empty_list_value hw hname hlookup (.of_few few hl) (by
      rw [LookupList.ofNumbers, List.map_map, List.map_eq_nil_iff]
      exact List.map_eq_nil_iff.mp hzero.1)
    exact Formula.Pattern.slotAddress_uncounted (by rw [counts]; exact LookupList.range_sheet) index
      (by rw [counts]; exact LookupList.range_cols) place Nat.one_pos
      (by rw [counts, LookupList.range_rows]; exact le_max_right _ _) (by decide)
      (by rw [counts]; exact absent)
  · exact Formula.Pattern.slotAddress_unknown (by rw [counts]; exact LookupList.range_sheet) index
      place

end

/-- When the lookup sheet has fewer than 65536 columns, then whatever the crew has entered, a row
with a driver whose key is a text or a number that no entry of the list bears, letter case aside, is
blank in the keyed column, unless the list has no entries and the key is zero: then it shows the
number zero. And a supply that is none of the types with notes never has an address of notes. -/
theorem unknown_key_value {catalog : Catalog} {kind : TemplateKind} {rules : Rules}
    {layout : Layout} {token : UploadToken}
    (hname : ∀ k : ReportSheet, layout.lookupSheet ≠ k.title)
    (hcolumns : (lookupSheet catalog layout).columns.length < 0x10000) {es : List Edit}
    (hes : ∀ e ∈ es, (build catalog kind rules layout token).workbook.Admits e ∧
      e.sheet ≠ layout.lookupSheet)
    {k : ReportSheet} {row : Nat} (hrow : 0 < row) (hmax : row < layout.maxRow kind)
    (hdriver : Workbook.entry? ((build catalog kind rules layout token).workbook.editAll es)
      k.title ⟨row, k.driver⟩ ≠ none) :
    let w := (build catalog kind rules layout token).workbook.editAll es
    (∀ d ∈ keyedColumns catalog k, ∀ v, w.entry? k.title ⟨row, d.key⟩ = some v →
      Unlisted v (d.entries.map (·.1)) →
        w.value k.title ⟨row, d.column⟩ =
          if d.entries = [] ∧ v.isZero then .number 0 else .text "") ∧
    ∀ n, noteColumns k = some n → ∀ v, w.entry? k.title ⟨row, n.supply⟩ = some v →
      Unlisted v (catalog.offeredNotes.map (·.typeKey)) →
        w.value k.title ⟨row, n.address⟩ = .text "" := by
  have hw := Workbook.EditOf.editAll fun e he => (hes e he).1
  have hlookup := editAll_lookupSheet hes
  have few := Nat.le_of_lt hcolumns
  intro w
  refine ⟨fun d hd v hv => keyed_column_unlisted hw hname hlookup few hrow hmax hdriver hd hv,
    fun n hn v hv hunlisted => ?_⟩
  rw [edited_value hw hname]
  exact address_of_unlisted hw hname hlookup few hrow hmax hdriver hn hv hunlisted

namespace Sample

/-- The catalogue of the sample without machinery. -/
def noMachinery : Catalog :=
  { Sample.catalog with machinery := ∅ }

/-- A number is entered as the name of an engine. -/
def numberedEngine (x : Float) : List Edit :=
  [⟨"Machinery", ⟨1, MachineryColumn.machineryName⟩, some (.number x)⟩]

/-- A number can be entered for the name of an engine. -/
lemma numberedEngine_admitted (x : Float) : ∀ e ∈ numberedEngine x,
    (build noMachinery .standard .default layout token).workbook.Admits e ∧
      e.sheet ≠ layout.lookupSheet := by
  intro e he
  obtain rfl := List.mem_singleton.mp he
  exact ⟨(build_admits (k := .machinery)).mpr ⟨Nat.one_pos, by decide, _, rfl, rfl⟩,
    (lookupSheet_ne .machinery).symm⟩

/-- The number is what stands in the cell. -/
lemma numberedEngine_entered (x : Float) :
    Workbook.entry? ((build noMachinery .standard .default layout token).workbook.editAll
      (numberedEngine x)) "Machinery" ⟨1, MachineryColumn.machineryName⟩ = some (.number x) := by
  rfl

/-- The row of the engine is not empty. -/
lemma numberedEngine_driver (x : Float) :
    Workbook.entry? ((build noMachinery .standard .default layout token).workbook.editAll
      (numberedEngine x)) "Machinery" ⟨1, ReportSheet.machinery.driver⟩ ≠ none :=
  fun h => Option.some_ne_none _ ((numberedEngine_entered x).symm.trans h)

end Sample

/-- A number other than zero names no engine, though the vessel has none. -/
theorem number_names_no_engine :
    ((build Sample.noMachinery .standard .default Sample.layout Sample.token).workbook.editAll
      (Sample.numberedEngine 3)).value "Machinery" ⟨1, MachineryColumn.machineryId⟩ = .text "" :=
  ((unknown_key_value Sample.lookupSheet_ne (by decide +kernel) (Sample.numberedEngine_admitted 3)
    (k := .machinery) (by decide : 0 < 1) (by decide) (Sample.numberedEngine_driver 3)).1 _
      List.mem_cons_self _ (Sample.numberedEngine_entered 3) nofun).trans
        (if_neg fun h => absurd h.2 (by decide +kernel))

/-- A zero is entered as the name of an engine of a vessel without engines: it is no name of the
list, and yet the row does not stay blank but shows the id zero. -/
theorem zero_names_absent_engine :
    let w := (build Sample.noMachinery .standard .default Sample.layout
      Sample.token).workbook.editAll (Sample.numberedEngine 0)
    let d : KeyedColumn := ⟨MachineryColumn.machineryName, MachineryColumn.machineryId,
      machineIds Sample.noMachinery⟩
    (lookupSheet Sample.noMachinery Sample.layout).columns.length < 65536 ∧
      (∀ k : ReportSheet, Sample.layout.lookupSheet ≠ k.title) ∧
      d ∈ keyedColumns Sample.noMachinery .machinery ∧
      w.entry? "Machinery" ⟨1, ReportSheet.machinery.driver⟩ ≠ none ∧
      w.entry? "Machinery" ⟨1, d.key⟩ = some (.number 0) ∧
      Unlisted (.number 0) (d.entries.map (·.1)) ∧
      w.value "Machinery" ⟨1, d.column⟩ = .number 0 := by
  have admitted := Sample.numberedEngine_admitted 0
  have lookup := editAll_lookupSheet admitted
  have value := keyed_column_unlisted (k := .machinery)
    (Workbook.EditOf.editAll fun e he => (admitted e he).1) Sample.lookupSheet_ne lookup
    (by decide +kernel) Nat.one_pos (by decide) (Sample.numberedEngine_driver 0) List.mem_cons_self
    (Sample.numberedEngine_entered 0) nofun
  exact ⟨by decide +kernel, Sample.lookupSheet_ne, List.mem_cons_self,
    Sample.numberedEngine_driver 0, Sample.numberedEngine_entered 0, nofun,
    value.trans (if_pos ⟨rfl, by decide +kernel⟩)⟩

end ShipReport.Template
