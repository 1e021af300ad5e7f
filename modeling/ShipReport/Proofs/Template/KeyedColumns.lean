import ShipReport.Proofs.Catalog.Lists
import ShipReport.Proofs.Number.Integers
import ShipReport.Proofs.Template.Keys

/-!
# Columns that are looked up by a key

Ids, powers and quantities come into a row by the name that was chosen there. Names and what they
stand for are columns of their own on the lookup sheet, and only their places keep them together: a
row still has what belongs to the entry of the catalogue that bears the name.
-/

namespace ShipReport.Template

open Formula (Expr Grid Position Value)
open Formula.Pattern (gated keyedLookup)
open Report
open Workbook (Edit)

/-- What an entry of a catalogue stands for in a column: its id, or an amount. -/
inductive Attribute where
  | id (n : Int)
  | amount (x : Float)
deriving Repr, DecidableEq

/-- The number that shows an attribute in a cell. -/
def Attribute.number : Attribute → Float
  | .id n => Float.ofInt n
  | .amount x => x

/-- A column whose formula finds the name in the key column of its row among the entries of a list:
names, each with what it stands for. -/
structure KeyedColumn where
  key : Nat
  column : Nat
  entries : List (String × Attribute)

section

variable (c : Catalog)

def machineIds : List (String × Attribute) :=
  c.machinery.values.map fun m => (m.name, .id m.id)

def machinePowers : List (String × Attribute) :=
  c.machinery.values.map fun m => (m.name, .amount m.ratedPower)

def itemIds : List (String × Attribute) :=
  c.items.map fun t => (t.key, .id t.id)

/-- The supplies with the quantities on board before a delivery. -/
def itemQuantities : List (String × Attribute) :=
  c.items.map fun t => (t.key, .amount t.remainingOnBoard)

def voyageIds : List (String × Attribute) :=
  c.voyages.map fun v => (v.number, .id v.id)

def portIds : List (String × Attribute) :=
  c.ports.map fun p => (p.name, .id p.id)

end

/-- The columns of a report sheet that are looked up in a list of the catalogue. -/
def keyedColumns (c : Catalog) : ReportSheet → List KeyedColumn
  | .voyage =>
    [⟨VoyageColumn.voyageNo, VoyageColumn.voyageId, voyageIds c⟩,
      ⟨VoyageColumn.departurePort, VoyageColumn.departurePortId, portIds c⟩,
      ⟨VoyageColumn.arrivalPort, VoyageColumn.arrivalPortId, portIds c⟩]
  | .machinery =>
    [⟨MachineryColumn.machineryName, MachineryColumn.machineryId, machineIds c⟩,
      ⟨MachineryColumn.machineryName, MachineryColumn.ratedPower, machinePowers c⟩,
      ⟨MachineryColumn.fuelType, MachineryColumn.fuelTypeId, itemIds c⟩]
  | .lubeOil =>
    [⟨LubeOilColumn.machineryName, LubeOilColumn.machineryId, machineIds c⟩,
      ⟨LubeOilColumn.lubeType, LubeOilColumn.lubeTypeId, itemIds c⟩]
  | .bunkering =>
    [⟨BunkeringColumn.itemType, BunkeringColumn.itemTypeId, itemIds c⟩,
      ⟨BunkeringColumn.itemType, BunkeringColumn.robBefore, itemQuantities c⟩,
      ⟨BunkeringColumn.port, BunkeringColumn.portId, portIds c⟩]

/-- Entries stand on the lookup sheet when one column holds their names and another, row by row,
what they stand for; the catalogue may list them in another order. -/
structure Listed (c : Catalog) (entries : List (String × Attribute)) (nameCol valueCol : Nat)
    (rows : List (String × Attribute)) : Prop where
  perm : rows.Perm entries
  names : ∃ header, (lookupLists c)[nameCol]? = some (.ofTexts header (rows.map (·.1)))
  numbers : ∃ header, (lookupLists c)[valueCol]? = some (.ofNumbers header (rows.map (·.2.number)))

section

variable {c : Catalog}

/-- Lists that are made of the same records are aligned. -/
lemma Listed.of_records {α : Type} {records sorted : List α} (perm : sorted.Perm records)
    {name : α → String} {value : α → Attribute} {nameCol valueCol : Nat}
    {nameHeader valueHeader : String}
    (names : (lookupLists c)[nameCol]? = some (.ofTexts nameHeader (sorted.map name)))
    (numbers : (lookupLists c)[valueCol]? =
      some (.ofNumbers valueHeader (sorted.map fun a => (value a).number))) :
    Listed c (records.map fun a => (name a, value a)) nameCol valueCol
      (sorted.map fun a => (name a, value a)) where
  perm := perm.map _
  names := ⟨_, by simpa only [List.map_map, Function.comp_def] using names⟩
  numbers := ⟨_, by simpa only [List.map_map, Function.comp_def] using numbers⟩

/-- The same for lists of names and ids. -/
lemma Listed.of_ids {α : Type} {records sorted : List α} (perm : sorted.Perm records)
    {name : α → String} {id : α → Int} {nameCol valueCol : Nat} {nameHeader valueHeader : String}
    (names : (lookupLists c)[nameCol]? = some (.ofTexts nameHeader (sorted.map name)))
    (ids : (lookupLists c)[valueCol]? = some (.ofInts valueHeader (sorted.map id))) :
    Listed c (records.map fun a => (name a, .id (id a))) nameCol valueCol
      (sorted.map fun a => (name a, .id (id a))) :=
  .of_records perm names <| by
    rw [ids, LookupList.ofInts, List.map_map]
    rfl

/-- The ids of engines stand beside their names. -/
lemma machineIds_listed : ∃ rows,
    Listed c (machineIds c) Lookup.machineryNameCol Lookup.machineryIdCol rows :=
  ⟨_, .of_ids (Catalog.machineryByName_perm c) rfl rfl⟩

/-- The powers of engines stand beside their names. -/
lemma machinePowers_listed : ∃ rows,
    Listed c (machinePowers c) Lookup.machineryNameCol Lookup.machineryPowerCol rows :=
  ⟨_, .of_records (Catalog.machineryByName_perm c) rfl rfl⟩

/-- The ids of item types stand beside their keys. -/
lemma itemIds_listed : ∃ rows,
    Listed c (itemIds c) Lookup.itemKeyCol Lookup.itemIdCol rows :=
  ⟨_, .of_ids (.refl _) rfl rfl⟩

/-- What remains of items stands beside their keys. -/
lemma itemQuantities_listed : ∃ rows,
    Listed c (itemQuantities c) Lookup.itemKeyCol Lookup.itemRemainingCol rows :=
  ⟨_, .of_records (.refl _) rfl rfl⟩

/-- The ids of voyages stand beside their numbers. -/
lemma voyageIds_listed : ∃ rows,
    Listed c (voyageIds c) (Lookup.firstSlotCol + c.noteSlotLimit)
      (Lookup.firstSlotCol + c.noteSlotLimit + 1) rows :=
  ⟨_, .of_ids (.refl _) (lookupLists_place c 0) (lookupLists_place c 1)⟩

/-- The ids of ports stand beside their names. -/
lemma portIds_listed : ∃ rows,
    Listed c (portIds c) (Lookup.firstSlotCol + c.noteSlotLimit + 2)
      (Lookup.firstSlotCol + c.noteSlotLimit + 3) rows :=
  ⟨_, .of_ids (.refl _) (lookupLists_place c 2) (lookupLists_place c 3)⟩

variable {k : ReportSheet} {d : KeyedColumn}

/-- Keys are entered. -/
lemma keyedColumns_key (h : d ∈ keyedColumns c k) : d.key ∉ formulaColumns k := by
  revert d
  cases k <;> simp [keyedColumns, formulaColumns]

/-- The formula of a keyed column looks the key of the row up in two aligned lists. -/
lemma keyedColumns_listed (h : d ∈ keyedColumns c k) :
    ∃ nameCol valueCol, (∃ rows, Listed c d.entries nameCol valueCol rows) ∧
      ∀ sheet row, (d.column, gated (cellAt row k.driver) (keyedLookup (valueAt row d.key)
        (Lookup.rangeOf c sheet nameCol) (Lookup.rangeOf c sheet valueCol))) ∈
          rowFormulas (.ofCatalog c sheet) k row := by
  cases k with
  | voyage =>
    simp only [keyedColumns, List.mem_cons, List.not_mem_nil, or_false] at h
    rcases h with rfl | rfl | rfl
    · exact ⟨_, _, voyageIds_listed,
        by simp [rowFormulas, voyageRow, Lookup.ofCatalog, ReportSheet.driver]⟩
    · exact ⟨_, _, portIds_listed,
        by simp [rowFormulas, voyageRow, Lookup.ofCatalog, ReportSheet.driver]⟩
    · exact ⟨_, _, portIds_listed,
        by simp [rowFormulas, voyageRow, Lookup.ofCatalog, ReportSheet.driver]⟩
  | machinery =>
    simp only [keyedColumns, List.mem_cons, List.not_mem_nil, or_false] at h
    rcases h with rfl | rfl | rfl
    · exact ⟨_, _, machineIds_listed,
        by simp [rowFormulas, machineryRow, Lookup.ofCatalog, ReportSheet.driver]⟩
    · exact ⟨_, _, machinePowers_listed,
        by simp [rowFormulas, machineryRow, Lookup.ofCatalog, ReportSheet.driver]⟩
    · exact ⟨_, _, itemIds_listed,
        by simp [rowFormulas, machineryRow, Lookup.ofCatalog, ReportSheet.driver]⟩
  | lubeOil =>
    simp only [keyedColumns, List.mem_cons, List.not_mem_nil, or_false] at h
    rcases h with rfl | rfl
    · exact ⟨_, _, machineIds_listed,
        by simp [rowFormulas, lubeOilRow, Lookup.ofCatalog, ReportSheet.driver]⟩
    · exact ⟨_, _, itemIds_listed,
        by simp [rowFormulas, lubeOilRow, Lookup.ofCatalog, ReportSheet.driver]⟩
  | bunkering =>
    simp only [keyedColumns, List.mem_cons, List.not_mem_nil, or_false] at h
    rcases h with rfl | rfl | rfl
    · exact ⟨_, _, itemIds_listed,
        by simp [rowFormulas, bunkeringRow, Lookup.ofCatalog, ReportSheet.driver]⟩
    · exact ⟨_, _, itemQuantities_listed,
        by simp [rowFormulas, bunkeringRow, Lookup.ofCatalog, ReportSheet.driver]⟩
    · exact ⟨_, _, portIds_listed,
        by simp [rowFormulas, bunkeringRow, Lookup.ofCatalog, ReportSheet.driver]⟩

/-- Of names that differ in lower case, a search finds the one that is the same. -/
lemma findIdx?_of_distinct {rows : List (String × Attribute)}
    (distinct : (rows.map (Text.lowercase ·.1)).Nodup) {e : String × Attribute} (he : e ∈ rows)
    {t : String} (ht : Text.lowercase e.1 = Text.lowercase t) :
    ∃ i, (rows.map (·.1)).findIdx? (Text.lowercase · = Text.lowercase t) = some i ∧
      rows[i]? = some e := by
  cases hi : (rows.map (·.1)).findIdx? (Text.lowercase · = Text.lowercase t) with
  | none =>
    have other := List.findIdx?_eq_none_iff.mp hi _ (List.mem_map_of_mem he)
    exact absurd ht (by simpa using other)
  | some i =>
    obtain ⟨hlt, hsame, -⟩ := List.findIdx?_eq_some_iff_getElem.mp hi
    rw [List.length_map] at hlt
    rw [List.getElem_map, decide_eq_true_iff, ← ht] at hsame
    refine ⟨i, rfl, ?_⟩
    rw [List.getElem?_eq_getElem hlt,
      List.inj_on_of_nodup_map distinct (List.getElem_mem hlt) he hsame]

end

/-- When the lookup sheet has fewer than 65536 columns, then whatever the crew has entered, a row
with a driver and with the name of an entry as its key has in every keyed column the number of the
entry, letter case aside; and of a number that shows an id of at most 2^53 the whole part is the id.
-/
theorem keyed_column_value {catalog : Catalog} {kind : TemplateKind} {rules : Rules}
    {layout : Layout} {token : UploadToken}
    (hname : ∀ k : ReportSheet, layout.lookupSheet ≠ k.title)
    (hcolumns : (lookupSheet catalog layout).columns.length < 0x10000)
    (hrows : (lookupSheet catalog layout).maxRow < 0x100000000) {es : List Edit}
    (hes : ∀ e ∈ es, (build catalog kind rules layout token).workbook.Admits e ∧
      e.sheet ≠ layout.lookupSheet)
    {k : ReportSheet} {d : KeyedColumn} (hd : d ∈ keyedColumns catalog k)
    (hdistinct : (d.entries.map (Text.lowercase ·.1)).Nodup) {row : Nat} (hrow : 0 < row)
    (hmax : row < layout.maxRow kind)
    (hdriver : Workbook.entry? ((build catalog kind rules layout token).workbook.editAll es)
      k.title ⟨row, k.driver⟩ ≠ none)
    {name t : String} {a : Attribute} (he : (name, a) ∈ d.entries)
    (ht : Text.lowercase name = Text.lowercase t)
    (hkey : Workbook.entry? ((build catalog kind rules layout token).workbook.editAll es)
      k.title ⟨row, d.key⟩ = some (.text t)) :
    ((build catalog kind rules layout token).workbook.editAll es).value k.title ⟨row, d.column⟩ =
        .number a.number ∧
      ∀ n, a = .id n → n.natAbs ≤ 2 ^ 53 → Number.toInt64 a.number = n := by
  have hw := Workbook.EditOf.editAll fun e he => (hes e he).1
  have hlookup := editAll_lookupSheet hes
  obtain ⟨nameCol, valueCol, ⟨rows, listed⟩, formula⟩ := keyedColumns_listed hd
  obtain ⟨_, names⟩ := listed.names
  obtain ⟨_, numbers⟩ := listed.numbers
  obtain ⟨i, hi, entry⟩ := findIdx?_of_distinct ((listed.perm.map _).nodup_iff.mpr hdistinct)
    (listed.perm.mem_iff.mpr he) ht
  constructor
  · have hlt := (List.getElem?_eq_some_iff.mp entry).1
    have room := length_lt_maxRow layout (List.mem_of_getElem? names)
    rw [LookupList.ofTexts, List.length_map, List.length_map] at room
    have few := Nat.le_of_lt hcolumns
    have found := keyedLookup_text hw hname hlookup (.of_few few names) (keyedColumns_key hd) hkey
      (.of_few few numbers) hi (by simpa [LookupList.ofNumbers] using hlt) (by omega)
    rw [edited_value hw hname, gated_filled hw hname hrow hmax (formula _ row) hdriver, found]
    simp [LookupList.ofNumbers, entry, entryValue, Grid.settled]
  · rintro n rfl small
    exact Number.toInt64_ofInt (Number.held_of_le small) (by omega)

/-- The engine of the sample is found by its name in capitals: the row has its id. -/
theorem engine_id_of_row :
    (Sample.workbook.editAll [⟨"Machinery", ⟨2, 1⟩, some (.text "MAIN ENGINE")⟩]).value "Machinery"
        ⟨2, 2⟩ = .number (Float.ofInt 1) ∧
      Number.toInt64 (Float.ofInt 1) = 1 := by
  have admitted : ∀ e ∈ [(⟨"Machinery", ⟨2, 1⟩, some (.text "MAIN ENGINE")⟩ : Edit)],
      Sample.workbook.Admits e ∧ e.sheet ≠ Sample.layout.lookupSheet := by
    intro e he
    obtain rfl := List.mem_singleton.mp he
    exact ⟨⟨_, rfl, by decide, by decide, _, rfl, rfl⟩, by decide⟩
  have entered : Workbook.entry?
      (Sample.workbook.editAll [⟨"Machinery", ⟨2, 1⟩, some (.text "MAIN ENGINE")⟩])
        "Machinery" ⟨2, 1⟩ = some (.text "MAIN ENGINE") := rfl
  have engine : ("Main Engine", Attribute.id 1) ∈ machineIds Sample.catalog := by decide +kernel
  obtain ⟨value, whole⟩ := keyed_column_value (k := .machinery) Sample.lookupSheet_ne
    (by decide +kernel) (by decide +kernel) admitted List.mem_cons_self (by decide +kernel) (by decide : 0 < 2)
    (by decide) (fun h => Option.some_ne_none _ (entered.symm.trans h)) engine
    (by decide : _ = Text.lowercase "MAIN ENGINE") entered
  exact ⟨value, whole 1 rfl (by decide)⟩

end ShipReport.Template
