import ShipReport.Proofs.Catalog.Lists
import ShipReport.Proofs.Template.Keys

/-!
# Choices

What the cells of a data row offer to choose from: the lists of the catalogue, the configured
operations, and in the note columns the notes of the type that was chosen in the row.
-/

namespace ShipReport.Template

open Formula (CellRef Expr Grid Position RangeRef Surroundings Value)
open Formula.Pattern (gated listAt slotAddress)
open Report
open Workbook (Cell ChoiceSource Edit Sheet columnNumber columnNumber_of_lt offered)

/-- The texts of a list that are not blank. -/
def filled (texts : List String) : List String :=
  texts.filter (· ≠ "")

/-- A list of texts offers the texts that are not blank. -/
lemma offered_map_text (texts : List String) : offered (texts.map .text) = filled texts := by
  unfold offered filled
  induction texts with
  | nil => rfl
  | cons s texts ih =>
    by_cases hs : s = "" <;> simp_all [Value.isBlank, Value.isFault, Value.asText]

/-- Of a list of texts those that are filled are offered. -/
lemma offered_textValues (texts : List String) : offered (textValues texts) = filled texts := by
  unfold textValues
  split
  · next h => subst h; rfl
  · exact offered_map_text texts

/-- What a source offers in a row. -/
def sourceChoices (w : Workbook) (k : ReportSheet) (row : Nat) : ChoiceSource → List String
  | .words items => items
  | .range r => w.offeredBy (place k) (.range r)
  | .helper col => w.offeredBy (place k) (listAt (.here row col))

/-- The columns of a report sheet that offer a list of the catalogue, each with the list. -/
def listedChoices (c : Catalog) : ReportSheet → List (Nat × List String)
  | .voyage =>
    [(VoyageColumn.voyageNo, c.voyages.map (·.number)),
      (VoyageColumn.departurePort, c.ports.map (·.name)),
      (VoyageColumn.arrivalPort, c.ports.map (·.name)),
      (VoyageColumn.timezone, c.timezones.map (·.label))]
  | .machinery =>
    [(MachineryColumn.machineryName, c.machineryByName.map (·.name)),
      (MachineryColumn.fuelType, c.fuelKeys)]
  | .lubeOil =>
    [(LubeOilColumn.machineryName, c.machineryByName.map (·.name)),
      (LubeOilColumn.lubeType, c.lubeKeys)]
  | .bunkering =>
    [(BunkeringColumn.itemType, c.items.map (·.key)),
      (BunkeringColumn.port, c.ports.map (·.name))]

/-- The columns of a sheet that bring a note into a row: the type of the supply, the note itself,
and the address of the notes that are offered. -/
structure NoteColumns where
  supply : Nat
  note : Nat
  address : Nat

/-- The columns for notes; only two sheets have them. -/
def noteColumns : ReportSheet → Option NoteColumns
  | .machinery =>
    some ⟨MachineryColumn.fuelType, MachineryColumn.bunkerNote, MachineryColumn.noteRange⟩
  | .lubeOil => some ⟨LubeOilColumn.lubeType, LubeOilColumn.lubeNote, LubeOilColumn.noteRange⟩
  | _ => none

section

variable {lk : Lookup} {rules : Rules} {k : ReportSheet}

/-- A column has at most one source of choices. -/
lemma find?_sheetChoices {col : Nat} {source : ChoiceSource}
    (h : (col, source) ∈ sheetChoices lk rules k) :
    (sheetChoices lk rules k).find? (·.1 == col) = some (col, source) := by
  have distinct : ((sheetChoices lk rules k).map (·.1)).Nodup := by
    cases k <;> simp [sheetChoices]
  cases hfound : (sheetChoices lk rules k).find? (·.1 == col) with
  | none => exact absurd (List.find?_eq_none.mp hfound _ h) (by simp)
  | some found =>
    have column : found.1 = col := by simpa using List.find?_some hfound
    rw [List.inj_on_of_nodup_map distinct (List.mem_of_find?_eq_some hfound) h column]

/-- A column that offers a list of the catalogue takes it from the lookup sheet. -/
lemma listedChoices_spec {c : Catalog} {sheet : String} {col : Nat} {texts : List String}
    (h : (col, texts) ∈ listedChoices c k) :
    ∃ listCol header, (lookupLists c)[listCol]? = some (.ofTexts header texts) ∧
      (col, .range (Lookup.rangeOf c sheet listCol)) ∈
        sheetChoices (Lookup.ofCatalog c sheet) rules k := by
  have voyages : (lookupLists c)[Lookup.firstSlotCol + c.noteSlotLimit]? = _ :=
    lookupLists_place c 0
  have ports := lookupLists_place c 2
  have timezones := lookupLists_place c 4
  cases k with
  | voyage =>
    simp only [listedChoices, List.mem_cons, Prod.mk.injEq, List.not_mem_nil, or_false] at h
    rcases h with ⟨rfl, rfl⟩ | ⟨rfl, rfl⟩ | ⟨rfl, rfl⟩ | ⟨rfl, rfl⟩
    · exact ⟨_, _, voyages, by simp [sheetChoices, Lookup.ofCatalog]⟩
    · exact ⟨_, _, ports, by simp [sheetChoices, Lookup.ofCatalog]⟩
    · exact ⟨_, _, ports, by simp [sheetChoices, Lookup.ofCatalog]⟩
    · exact ⟨_, _, timezones, by simp [sheetChoices, Lookup.ofCatalog]⟩
  | machinery =>
    simp only [listedChoices, List.mem_cons, Prod.mk.injEq, List.not_mem_nil, or_false] at h
    rcases h with ⟨rfl, rfl⟩ | ⟨rfl, rfl⟩
    · exact ⟨Lookup.machineryNameCol, _, rfl, by simp [sheetChoices, Lookup.ofCatalog]⟩
    · exact ⟨Lookup.fuelKeyCol, _, rfl, by simp [sheetChoices, Lookup.ofCatalog]⟩
  | lubeOil =>
    simp only [listedChoices, List.mem_cons, Prod.mk.injEq, List.not_mem_nil, or_false] at h
    rcases h with ⟨rfl, rfl⟩ | ⟨rfl, rfl⟩
    · exact ⟨Lookup.machineryNameCol, _, rfl, by simp [sheetChoices, Lookup.ofCatalog]⟩
    · exact ⟨Lookup.lubeKeyCol, _, rfl, by simp [sheetChoices, Lookup.ofCatalog]⟩
  | bunkering =>
    simp only [listedChoices, List.mem_cons, Prod.mk.injEq, List.not_mem_nil, or_false] at h
    rcases h with ⟨rfl, rfl⟩ | ⟨rfl, rfl⟩
    · exact ⟨Lookup.itemKeyCol, _, rfl, by simp [sheetChoices, Lookup.ofCatalog]⟩
    · exact ⟨_, _, ports, by simp [sheetChoices, Lookup.ofCatalog]⟩

/-- Notes are offered by the address in the row. -/
lemma note_choice {n : NoteColumns} (hn : noteColumns k = some n) :
    (n.note, .helper n.address) ∈ sheetChoices lk rules k := by
  cases k <;> cases hn <;> simp [sheetChoices]

/-- The address in a row belongs to the supply of the row. -/
lemma note_formula (lk : Lookup) {n : NoteColumns} (hn : noteColumns k = some n) (row : Nat) :
    (n.address, gated (cellAt row k.driver) (slotAddress (valueAt row n.supply) lk.notes)) ∈
      rowFormulas lk k row := by
  cases k <;> cases hn <;> simp [rowFormulas, machineryRow, lubeOilRow, ReportSheet.driver]

/-- The column of supplies is none of formulas. -/
lemma supply_column {n : NoteColumns} (hn : noteColumns k = some n) :
    n.supply ∉ formulaColumns k := by
  cases k <;> cases hn <;> decide

end

section

variable {catalog : Catalog} {kind : TemplateKind} {rules : Rules} {layout : Layout}
  {token : UploadToken} {w : Workbook}
  (hw : (build catalog kind rules layout token).workbook.EditOf w)

include hw

/-- What a cell of a data row offers comes from the source of its column. -/
lemma edited_choices {k : ReportSheet} {row col : Nat} {source : ChoiceSource} (hrow : 0 < row)
    (hmax : row < layout.maxRow kind)
    (h : (col, source) ∈ sheetChoices (Lookup.ofCatalog catalog layout.lookupSheet) rules k) :
    w.choices k.title ⟨row, col⟩ = sourceChoices w k row source := by
  -- the rules of a sheet are not changed by protection and edits
  have covered : w.sheets[place k]?.bind (·.validation? ⟨row, col⟩) =
      some ⟨col, 1, max (layout.maxRow kind) 1 - 1, source⟩ := by
    obtain ⟨plan, hplan⟩ := protect_eq rules (builtSheet catalog kind rules layout k)
    have hi := hw (place k)
    rw [build_sheet] at hi
    generalize w.sheets[place k]? = x at hi ⊢
    cases hi with
    | some hs =>
      rw [Option.bind_some, hs.frame, hplan, builtSheet, dataSheet_eq]
      change List.find? _ (List.map _ _) = _
      rw [List.find?_map]
      have same : (fun v : Workbook.Validation => v.covers ⟨row, col⟩) ∘
          (fun c : Nat × ChoiceSource => ⟨c.1, 1, max (layout.maxRow kind) 1 - 1, c.2⟩) =
            fun c => c.1 == col := by
        funext c
        simp [Workbook.Validation.covers]
        omega
      rw [same, find?_sheetChoices h]
      rfl
  unfold Workbook.choices
  rw [edited_index hw k]
  dsimp only
  rw [covered]
  cases source <;> rfl

variable (hname : ∀ k : ReportSheet, layout.lookupSheet ≠ k.title)

include hname

/-- A range of the lookup sheet whose address stands in a row offers the texts of its cells. -/
lemma offeredBy_listAt {k : ReportSheet} {row col : Nat} {r : RangeRef}
    (ht : (listAt (.here row col)).targetUnder w.grid.sheetIndex (Grid.Layered.values w.grid)
      (place k) = .ok ⟨lookupPlace, r⟩) :
    w.offeredBy (place k) (listAt (.here row col)) =
      offered (r.positions.map (Grid.Layered.values w.grid lookupPlace)) := by
  have values := Grid.rangeValues_listAt (edited_layered hw hname) (edited_solves hw hname)
    (place k) (rfl : (CellRef.here row col).sheet = none) fun t h p _ => by
      obtain rfl := Except.ok.inj (ht.symm.trans h)
      exact edited_lookup hw p
  unfold Workbook.offeredBy Workbook.evaluate
  rw [values, ht]
  rfl

/-- A text in a row that is no address offers nothing. -/
lemma offeredBy_listAt_fault {k : ReportSheet} {row col : Nat} {f : Formula.Fault}
    (ht : (listAt (.here row col)).targetUnder w.grid.sheetIndex (Grid.Layered.values w.grid)
      (place k) = .error f) :
    w.offeredBy (place k) (listAt (.here row col)) = [] := by
  have values := Grid.rangeValues_listAt (edited_layered hw hname) (edited_solves hw hname)
    (place k) (rfl : (CellRef.here row col).sheet = none) fun t h => nomatch ht.symm.trans h
  unfold Workbook.offeredBy Workbook.evaluate
  rw [values, ht]
  rfl

section

variable {k : ReportSheet} {n : NoteColumns} (hn : noteColumns k = some n) {row : Nat}
  (hrow : 0 < row) (hmax : row < layout.maxRow kind)

include hn hrow hmax

/-- A row without an address offers no notes. -/
lemma notes_of_blank_address
    (h : Grid.Layered.values w.grid (place k) ⟨row, n.address⟩ = .text "") :
    w.choices k.title ⟨row, n.note⟩ = [] := by
  rw [edited_choices hw hrow hmax (note_choice hn)]
  exact offeredBy_listAt_fault hw hname (Formula.Pattern.target_listAt_blank h)

/-- A row without a driver offers no notes. -/
lemma notes_of_no_driver (hdriver : w.entry? k.title ⟨row, k.driver⟩ = none) :
    w.choices k.title ⟨row, n.note⟩ = [] := by
  have formula := note_formula (.ofCatalog catalog layout.lookupSheet) hn row
  rcases input_value hw hname row (driver_column k) with ⟨-, hblank⟩ | ⟨hsome, -⟩
  · exact notes_of_blank_address hw hname hn hrow hmax
      (gated_blank hw hname hrow hmax formula hblank)
  · exact absurd (hdriver.symm.trans hsome) nofun

/-- When the driver of a row is filled, the row has the address of the notes of its supply. -/
lemma address_of_filled (hdriver : w.entry? k.title ⟨row, k.driver⟩ ≠ none) {s : String}
    (hs : (slotAddress (valueAt row n.supply)
      (Lookup.ofCatalog catalog layout.lookupSheet).notes).valueUnder w.grid.sheetIndex
        (Grid.Layered.values w.grid) (place k) = .text s) :
    Grid.Layered.values w.grid (place k) ⟨row, n.address⟩ = .text s := by
  have formula := note_formula (.ofCatalog catalog layout.lookupSheet) hn row
  rw [gated_filled hw hname hrow hmax formula hdriver, hs]
  rfl

/-- A row whose supply has no place among the types that have notes offers none. -/
lemma notes_of_no_place {f : Formula.Fault}
    (hplace : (Expr.exactMatch (valueAt row n.supply)
      (Lookup.ofCatalog catalog layout.lookupSheet).notes.keys).valueUnder w.grid.sheetIndex
        (Grid.Layered.values w.grid) (place k) = .fault f) :
    w.choices k.title ⟨row, n.note⟩ = [] := by
  by_cases hdriver : w.entry? k.title ⟨row, k.driver⟩ = none
  · exact notes_of_no_driver hw hname hn hrow hmax hdriver
  · have counts : (Lookup.ofCatalog catalog layout.lookupSheet).notes.counts.sheet =
        some layout.lookupSheet := rfl
    have blank := Formula.Pattern.slotAddress_unknown counts (edited_lookupIndex hw hname) hplace
    exact notes_of_blank_address hw hname hn hrow hmax
      (address_of_filled hw hname hn hrow hmax hdriver blank)

end

variable (hlookup : w.sheets[lookupPlace]? = some (lookupSheet catalog layout))

include hlookup

/-- A range of the lookup sheet that holds a list of texts offers these. -/
lemma offeredBy_texts {k : ReportSheet} {col : Nat} {header : String} {texts : List String}
    (hl : Shown catalog layout col (.ofTexts header texts)) :
    w.offeredBy (place k) (.range (Lookup.rangeOf catalog layout.lookupSheet col)) =
      filled texts := by
  have target : w.grid.surroundings.targetOf (place k)
      (Lookup.rangeOf catalog layout.lookupSheet col) =
        .ok ⟨lookupPlace, Lookup.rangeOf catalog layout.lookupSheet col⟩ := by
    have index : w.grid.surroundings.sheetIndex layout.lookupSheet = some lookupPlace :=
      edited_lookupIndex hw hname
    rw [rangeOf_eq hl.listed, Surroundings.targetOf, LookupList.range_sheet, Surroundings.resolve]
    simp only [index]
    rfl
  have values := Grid.rangeValues_range (edited_layered hw hname) (edited_solves hw hname) (place k)
    target fun p _ => edited_lookup hw p
  dsimp only at values
  rw [rangeOf_eq hl.listed, lookup_values hw hname hlookup hl, map_entryValue_texts] at values
  unfold Workbook.offeredBy Workbook.evaluate
  rw [rangeOf_eq hl.listed, values]
  exact offered_textValues texts

variable (hfits : Fits (lookupSheet catalog layout))

include hfits

/-- A row without a supply has no place among the types that have notes. -/
lemma supply_place_none {k : ReportSheet} {row supply : Nat} (hcol : supply ∉ formulaColumns k)
    (ht : w.entry? k.title ⟨row, supply⟩ = none) :
    (Expr.exactMatch (valueAt row supply)
        (Lookup.ofCatalog catalog layout.lookupSheet).notes.keys).valueUnder w.grid.sheetIndex
          (Grid.Layered.values w.grid) (place k) = .fault .notAvailable :=
  key_place_none hw hname hlookup
    (hfits.shown (rfl : (lookupLists catalog)[Lookup.noteKeyCol]? = _)) hcol ht

/-- A supply is found by its name, letter case aside. -/
lemma supply_place_text {k : ReportSheet} {row supply : Nat} (hcol : supply ∉ formulaColumns k)
    {t : String} (ht : w.entry? k.title ⟨row, supply⟩ = some (.text t)) :
    (Expr.exactMatch (valueAt row supply)
        (Lookup.ofCatalog catalog layout.lookupSheet).notes.keys).valueUnder w.grid.sheetIndex
          (Grid.Layered.values w.grid) (place k) =
      match (catalog.offeredNotes.map (·.typeKey)).findIdx?
        (Text.lowercase · = Text.lowercase t) with
      | some i => .number (Float.ofNat (i + 1))
      | none => .fault .notAvailable :=
  key_place_text hw hname hlookup
    (hfits.shown (rfl : (lookupLists catalog)[Lookup.noteKeyCol]? = _)) hcol ht

/-- The cells of the slots of a group hold its notes. -/
lemma slot_values {g : Catalog.NoteGroup} {m : Nat} (hg : catalog.offeredNotes[m]? = some g)
    (hlimit : g.numbers.length ≤ catalog.noteSlotLimit) :
    (List.range g.numbers.length).map (fun t =>
        Grid.Layered.values w.grid lookupPlace ⟨m + 1, Lookup.firstSlotCol + t⟩) =
      g.numbers.map .text := by
  have hm : m < catalog.offeredNotes.length := (List.getElem?_eq_some_iff.mp hg).1
  have slots : 11 + catalog.noteSlotLimit ≤ 16384 := hfits.slots
  apply List.ext_getElem (by simp)
  intro t ht _
  have ht' : t < g.numbers.length := by simpa using ht
  have column : columnNumber (Lookup.firstSlotCol + t) = Lookup.firstSlotCol + t :=
    columnNumber_of_lt (by change 11 + t < _; omega)
  have value := lookup_value hw hname hlookup
    (hfits.shown (lookupLists_slot (Nat.lt_of_lt_of_le ht' hlimit))) (t := m)
    (by simp only [slotList, List.length_map]; omega)
  rw [column] at value
  rw [List.getElem_map, List.getElem_map, List.getElem_range, value]
  simp [slotList, hg, ht', entryValue]

/-- The address of the notes of a group. -/
lemma group_address {k : ReportSheet} {row supply : Nat} {g : Catalog.NoteGroup} {m : Nat}
    (hplace : (Expr.exactMatch (valueAt row supply)
        (Lookup.ofCatalog catalog layout.lookupSheet).notes.keys).valueUnder w.grid.sheetIndex
          (Grid.Layered.values w.grid) (place k) = .number (Float.ofNat (m + 1)))
    (hg : catalog.offeredNotes[m]? = some g) (hpos : 0 < g.numbers.length)
    (hlimit : g.numbers.length ≤ catalog.noteSlotLimit) :
    (slotAddress (valueAt row supply)
      (Lookup.ofCatalog catalog layout.lookupSheet).notes).valueUnder w.grid.sheetIndex
        (Grid.Layered.values w.grid) (place k) =
      .text (Formula.quoteSheet layout.lookupSheet ++ "!" ++
        Formula.coordinates (m + 1) Lookup.firstSlotCol true true ++ ":" ++
        Formula.coordinates (m + 1) (Lookup.firstSlotCol + g.numbers.length - 1) true true) := by
  have hl : (lookupLists catalog)[Lookup.noteCountCol]? = some (.ofNumbers "Note Count"
      (catalog.offeredNotes.map fun g => Float.ofNat g.numbers.length)) := rfl
  have counts : (Lookup.ofCatalog catalog layout.lookupSheet).notes.counts = _ := rangeOf_eq hl
  have index : w.grid.sheetIndex layout.lookupSheet = some lookupPlace :=
    edited_lookupIndex hw hname
  have hm : m < catalog.offeredNotes.length := (List.getElem?_eq_some_iff.mp hg).1
  have groups := hfits.groups
  have slots : 11 + catalog.noteSlotLimit ≤ 16384 := hfits.slots
  have count : Grid.Layered.values w.grid lookupPlace
      ((Lookup.ofCatalog catalog layout.lookupSheet).notes.counts.cellAt (m + 1 - 1) 0) =
        .number (Float.ofNat g.numbers.length) := by
    -- the place of a group is counted from one, below the header
    have position : (Lookup.ofCatalog catalog layout.lookupSheet).notes.counts.cellAt
        (m + 1 - 1) 0 = ⟨m + 1, Lookup.noteCountCol⟩ := by
      rw [counts]
      change (⟨1 + m, Lookup.noteCountCol⟩ : Position) = _
      rw [Nat.add_comm]
    have value := lookup_value hw hname hlookup (hfits.shown hl) (t := m)
      (by simp only [LookupList.ofNumbers, List.length_map]; omega)
    exact (congrArg _ position).trans (value.trans (by simp [LookupList.ofNumbers, hg, entryValue]))
  have rows : m + 1 ≤ (Lookup.ofCatalog catalog layout.lookupSheet).notes.counts.rows := by
    rw [counts, LookupList.range_rows]
    simp only [LookupList.ofNumbers, List.length_map]
    omega
  have row : m + 1 + 1 < 2 ^ 32 := by omega
  have column : 11 + g.numbers.length ≤ 65536 := by omega
  exact Formula.Pattern.slotAddress_known (by rw [counts]; exact LookupList.range_sheet) index
    (by rw [counts]; exact LookupList.range_cols) hplace count (Nat.succ_pos m) rows Nat.one_pos row
    hpos (Nat.succ_pos 10) column

section

variable {k : ReportSheet} {n : NoteColumns} (hn : noteColumns k = some n) {row : Nat}
  (hrow : 0 < row) (hmax : row < layout.maxRow kind)

include hn hrow hmax

/-- A row without a supply offers no notes. -/
lemma notes_of_no_supply (ht : w.entry? k.title ⟨row, n.supply⟩ = none) :
    w.choices k.title ⟨row, n.note⟩ = [] :=
  notes_of_no_place hw hname hn hrow hmax
    (supply_place_none hw hname hlookup hfits (supply_column hn) ht)

/-- A row whose supply has no notes offers none. -/
lemma notes_of_unknown {t : String} (ht : w.entry? k.title ⟨row, n.supply⟩ = some (.text t))
    (hnone : ∀ g ∈ catalog.offeredNotes, Text.lowercase g.typeKey ≠ Text.lowercase t) :
    w.choices k.title ⟨row, n.note⟩ = [] := by
  have place := supply_place_text hw hname hlookup hfits (supply_column hn) ht
  rw [List.findIdx?_eq_none_iff.mpr (by simpa using hnone)] at place
  exact notes_of_no_place hw hname hn hrow hmax place

/-- A row whose supply has notes offers them. -/
lemma notes_of_group (hdriver : w.entry? k.title ⟨row, k.driver⟩ ≠ none) {t : String}
    (ht : w.entry? k.title ⟨row, n.supply⟩ = some (.text t)) {g : Catalog.NoteGroup}
    (hg : g ∈ catalog.offeredNotes) (hkey : Text.lowercase g.typeKey = Text.lowercase t)
    (hkeys : ∀ g' ∈ catalog.offeredNotes,
      Text.lowercase g'.typeKey = Text.lowercase g.typeKey → g' = g)
    (hnotes : g.numbers ≠ []) (hlimit : g.numbers.length ≤ catalog.noteSlotLimit) :
    w.choices k.title ⟨row, n.note⟩ = filled g.numbers := by
  have place := supply_place_text hw hname hlookup hfits (supply_column hn) ht
  have hpos := List.length_pos_of_ne_nil hnotes
  cases hm : (catalog.offeredNotes.map (·.typeKey)).findIdx?
      (Text.lowercase · = Text.lowercase t) with
  | none =>
    have other := List.findIdx?_eq_none_iff.mp hm _ (List.mem_map_of_mem hg)
    exact absurd hkey (by simpa using other)
  | some m =>
    rw [hm] at place
    -- the first type that fits is the one of the group, as no other group has it
    have hg : catalog.offeredNotes[m]? = some g := by
      obtain ⟨hlt, hsame, -⟩ := List.findIdx?_eq_some_iff_getElem.mp hm
      rw [List.length_map] at hlt
      rw [List.getElem_map, decide_eq_true_iff, ← hkey] at hsame
      rw [List.getElem?_eq_getElem hlt, hkeys _ (List.getElem_mem hlt) hsame]
    have address := address_of_filled hw hname hn hrow hmax hdriver
      (group_address hw hname hlookup hfits place hg hpos hlimit)
    have index : w.grid.sheetIndex layout.lookupSheet = some lookupPlace :=
      edited_lookupIndex hw hname
    have slots : 11 + catalog.noteSlotLimit ≤ 16384 := hfits.slots
    have row : m + 1 + 1 < 0x100000000 := by
      have := (List.getElem?_eq_some_iff.mp hg).1
      have := hfits.groups
      omega
    rw [edited_choices hw hrow hmax (note_choice hn), sourceChoices, offeredBy_listAt hw hname
      (Formula.Pattern.target_listAt_slots index row hpos (by change 11 + _ ≤ _; omega) address),
      RangeRef.positions_between hpos, List.map_map]
    exact (congrArg offered (slot_values hw hname hlookup hfits hg hlimit)).trans
      (offered_map_text _)

end

end

/-- What the cells of a data row offer, whatever the crew has entered into the report sheets. A
column of a list offers the list without blanks, and the Operation column the configured operations.
A note column offers nothing unless the driver and the supply of the row are filled; then it offers
the notes that are available for the supply, letter case aside. -/
theorem choices_offered {vessel : Catalog.Vessel} {machinery : List Catalog.Machine}
    {itemTypes : List Catalog.ItemType} {notes : List Catalog.BunkerNote}
    {voyages : List Catalog.Voyage} {ports : List Catalog.Port}
    {timezones : List Catalog.Timezone} {limit : Nat} {kind : TemplateKind} {rules : Rules}
    {layout : Layout} {token : UploadToken} {catalog : Catalog}
    (hcatalog : catalog =
      .ofEntries vessel machinery itemTypes notes voyages ports timezones limit)
    (hname : ∀ k : ReportSheet, layout.lookupSheet ≠ k.title)
    (hfits : Fits (lookupSheet catalog layout))
    (hkeys : ∀ g ∈ catalog.offeredNotes, ∀ g' ∈ catalog.offeredNotes,
      Text.lowercase g.typeKey = Text.lowercase g'.typeKey → g = g')
    {es : List Edit}
    (hes : ∀ e ∈ es, (build catalog kind rules layout token).workbook.Admits e ∧
      e.sheet ≠ layout.lookupSheet)
    {row : Nat} (hrow : 0 < row) (hmax : row < layout.maxRow kind) :
    let w := (build catalog kind rules layout token).workbook.editAll es
    (∀ k col texts, (col, texts) ∈ listedChoices catalog k →
        w.choices k.title ⟨row, col⟩ = filled texts) ∧
      (catalog.machineryByName.Perm catalog.machinery.values ∧
        catalog.machineryByName.Pairwise Catalog.Machine.Before) ∧
      w.choices ReportSheet.voyage.title ⟨row, VoyageColumn.operation⟩ = rules.operationTypes ∧
      ∀ k n, noteColumns k = some n →
        (w.entry? k.title ⟨row, k.driver⟩ = none → w.choices k.title ⟨row, n.note⟩ = []) ∧
        (w.entry? k.title ⟨row, n.supply⟩ = none → w.choices k.title ⟨row, n.note⟩ = []) ∧
        ∀ t, w.entry? k.title ⟨row, n.supply⟩ = some (.text t) →
          ((∀ g ∈ catalog.offeredNotes, Text.lowercase g.typeKey ≠ Text.lowercase t) →
            w.choices k.title ⟨row, n.note⟩ = []) ∧
          ∀ g ∈ catalog.offeredNotes, Text.lowercase g.typeKey = Text.lowercase t →
            w.entry? k.title ⟨row, k.driver⟩ ≠ none →
            w.choices k.title ⟨row, n.note⟩ = filled
              (((Catalog.notesOfType (Catalog.availableNotes notes) g.typeKey).take limit).map
                (·.number)) := by
  have hw := Workbook.EditOf.editAll fun e he => (hes e he).1
  have hlookup :
      ((build catalog kind rules layout token).workbook.editAll es).sheets[lookupPlace]? =
        some (lookupSheet catalog layout) :=
    Workbook.editAll_other build_lookupSheet fun e he => (hes e he).2
  intro w
  refine ⟨?_, ⟨Catalog.machineryByName_perm catalog, Catalog.machineryByName_ordered catalog⟩, ?_,
    ?_⟩
  · -- columns with a list on the lookup sheet
    intro k col texts h
    obtain ⟨listCol, header, hl, hchoice⟩ := listedChoices_spec h
    rw [edited_choices hw hrow hmax hchoice]
    exact offeredBy_texts hw hname hlookup (hfits.shown hl)
  · -- operations, which the rule lists by itself
    have hchoice : (VoyageColumn.operation, ChoiceSource.words rules.operationTypes) ∈
        sheetChoices (Lookup.ofCatalog catalog layout.lookupSheet) rules .voyage := by
      simp [sheetChoices]
    exact edited_choices hw hrow hmax hchoice
  · -- notes, whose list the helper cell of the row names
    intro k n hn
    refine ⟨notes_of_no_driver hw hname hn hrow hmax,
      notes_of_no_supply hw hname hlookup hfits hn hrow hmax, fun t ht => ⟨?_, ?_⟩⟩
    · exact notes_of_unknown hw hname hlookup hfits hn hrow hmax ht
    · intro g hg hkey hdriver
      subst hcatalog
      obtain ⟨hnotes, hnumbers⟩ := Catalog.numbers_of_offered hg
      have hlimit : g.numbers.length ≤ limit := by
        rw [hnumbers, List.length_map, List.length_take]
        exact Nat.min_le_left _ _
      rw [← hnumbers]
      exact notes_of_group hw hname hlookup hfits hn hrow hmax hdriver ht hg hkey
        (fun g' hg' h => hkeys g' hg' g hg h) hnotes hlimit

/-- The layout of the sample with a name of the lookup sheet that has to be quoted. -/
def Sample.quotedLayout : Layout :=
  { Sample.layout with lookupSheet := "Crew's list!" }

/-- The sample offers the note of its fuel on the second row, in spite of the quotes in the name of
the lookup sheet and of the letter case in which the fuel was entered. -/
theorem note_offered_for_fuel :
    let w := (build Sample.catalog .standard .default Sample.quotedLayout
        Sample.token).workbook.editAll
      [⟨"Machinery", ⟨2, 1⟩, some (.text "Main Engine")⟩, ⟨"Machinery", ⟨2, 8⟩, some (.text "hfo")⟩]
    w.choices "Machinery" ⟨2, 8⟩ = ["HFO"] ∧ w.choices "Machinery" ⟨2, 10⟩ = ["N-1"] := by
  have admitted : ∀ e ∈ [(⟨"Machinery", ⟨2, 1⟩, some (.text "Main Engine")⟩ : Edit),
      ⟨"Machinery", ⟨2, 8⟩, some (.text "hfo")⟩],
      (build Sample.catalog .standard .default Sample.quotedLayout Sample.token).workbook.Admits e ∧
        e.sheet ≠ Sample.quotedLayout.lookupSheet := by
    intro e he
    simp only [List.mem_cons, List.not_mem_nil, or_false] at he
    rcases he with rfl | rfl
    · exact ⟨⟨_, rfl, by decide, by decide, _, rfl, rfl⟩, by decide⟩
    · exact ⟨⟨_, rfl, by decide, by decide, _, rfl, rfl⟩, by decide⟩
  have groups : Sample.catalog.offeredNotes = [⟨"HFO", ["N-1"], 0⟩] := by decide +kernel
  have distinct : ∀ g ∈ Sample.catalog.offeredNotes, ∀ g' ∈ Sample.catalog.offeredNotes,
      Text.lowercase g.typeKey = Text.lowercase g'.typeKey → g = g' := by
    rw [groups]
    simp
  obtain ⟨lists, -, -, notes⟩ := choices_offered (rfl : Sample.catalog = _)
    (fun k => by cases k <;> decide) ⟨by decide +kernel, by decide +kernel⟩ distinct admitted
    (by decide : 0 < 2) (by decide)
  obtain ⟨-, -, supply⟩ := notes .machinery _ rfl
  constructor
  · have fuels : Sample.catalog.fuelKeys = ["HFO"] := by decide +kernel
    have offered := lists .machinery MachineryColumn.fuelType Sample.catalog.fuelKeys
      (by simp [listedChoices])
    rw [fuels] at offered
    exact offered
  · have offered := (supply "hfo" rfl).2 ⟨"HFO", ["N-1"], 0⟩ (by simp [groups]) rfl (by exact nofun)
    exact offered.trans (by decide +kernel)

end ShipReport.Template
