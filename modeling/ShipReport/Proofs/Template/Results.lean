import ShipReport.Proofs.Formula.Results
import ShipReport.Proofs.Template.Choices

/-!
# Results of computed columns

The columns that formulas fill show numbers: identifiers and amounts of the catalogue, which stand
on the lookup sheet, and what is computed from entries. Where there is nothing to show or a formula
fails they are blank. Only the first column of a sheet that carries the voyage number may show a
text, the number as it was entered.
-/

namespace ShipReport.Template

open Formula (CellRef Expr Grid Position RangeRef Value)
open Formula.Expr (numeric_binary numeric_blank numeric_orElse numeric_round)
open Formula.Pattern (keyedLookup numeric_gated numeric_keyedLookup numeric_requireAll)
open Report
open Workbook (Cell columnNumber)

/-! ## Lists of numbers -/

/-- The entries of a list are numbers. -/
def LookupList.Numbers (l : LookupList) : Prop :=
  ∀ entry ∈ l.entries, ∃ x, entry = some (.number x)

/-- A list of numbers holds only numbers. -/
lemma LookupList.ofNumbers_numbers (header : String) (numbers : List Float) :
    (ofNumbers header numbers).Numbers := by
  intro entry h
  obtain ⟨x, -, rfl⟩ := List.mem_map.mp h
  exact ⟨x, rfl⟩

/-- The ranges of a lookup sheet that formulas take numbers from. -/
def Lookup.numberRanges (lk : Lookup) : List RangeRef :=
  [lk.machineryIds, lk.machineryPower, lk.machineryConsumption, lk.itemIds, lk.itemRemaining,
    lk.voyageIds, lk.portIds]

/-- The range of a list of numbers on a lookup sheet. -/
def IsNumberRange (c : Catalog) (sheet : String) (r : RangeRef) : Prop :=
  ∃ (col : Nat) (l : LookupList), (lookupLists c)[col]? = some l ∧ l.Numbers ∧
    r = l.range sheet (columnNumber col)

/-- The range of a list of numbers is one of numbers. -/
lemma rangeOf_numbers {c : Catalog} (sheet : String) (col : Nat) {l : LookupList}
    (h : (lookupLists c)[col]? = some l) (numbers : l.Numbers) :
    IsNumberRange c sheet (Lookup.rangeOf c sheet col) :=
  ⟨col, l, h, numbers, rangeOf_eq h⟩

/-- The ranges that formulas take numbers from are such ranges. -/
lemma numberRanges_spec (c : Catalog) (sheet : String) :
    ∀ r ∈ (Lookup.ofCatalog c sheet).numberRanges, IsNumberRange c sheet r := by
  have numbers := LookupList.ofNumbers_numbers
  simp only [Lookup.numberRanges, List.forall_mem_cons]
  exact ⟨rangeOf_numbers sheet Lookup.machineryIdCol rfl (numbers _ _),
    rangeOf_numbers sheet Lookup.machineryPowerCol rfl (numbers _ _),
    rangeOf_numbers sheet Lookup.machineryConsumptionCol rfl (numbers _ _),
    rangeOf_numbers sheet Lookup.itemIdCol rfl (numbers _ _),
    rangeOf_numbers sheet Lookup.itemRemainingCol rfl (numbers _ _),
    rangeOf_numbers sheet _ (lookupLists_place c 1) (numbers _ _),
    rangeOf_numbers sheet _ (lookupLists_place c 3) (numbers _ _), List.forall_mem_nil _⟩

/-! ## Formulas of computed columns -/

/-- A computed column that shows a value of its own, not the carried voyage number. -/
def ShowsResult (c : ColumnSpec) : Prop :=
  c.role = .computed ∧ c.header ≠ "Voyage No"

section

variable {lk : Lookup} {index : String → Option Nat} {σ : Nat → Position → Value} {i : Nat}
  {row col : Nat} {e : Expr}

/-- Neither of the columns that bring the voyage number into a row shows a result. -/
lemma voyageFormulas_result {k : ReportSheet} {carry driver : Nat} {c : ColumnSpec}
    (hcarry : k.columns[carry]? = some (helperColumn "Voyage Carry"))
    (hshown : k.columns[shownColumn]? = some (computedColumn "Voyage No" .text))
    (hc : k.columns[col]? = some c) (hresult : ShowsResult c) :
    (col, e) ∉ voyageFormulas row shownColumn carry (cellAt row driver) := by
  intro he
  simp only [voyageFormulas, List.mem_cons, Prod.mk.injEq, List.not_mem_nil, or_false] at he
  rcases he with ⟨rfl, -⟩ | ⟨rfl, -⟩
  · obtain rfl := Option.some.inj (hc.symm.trans hcarry)
    cases hresult.1
  · obtain rfl := Option.some.inj (hc.symm.trans hshown)
    exact hresult.2 rfl

/-- The formulas of such columns are numeric if the lists of numbers are. -/
lemma rowFormulas_numeric {k : ReportSheet} {c : ColumnSpec}
    (lookup : ∀ r ∈ lk.numberRanges, ∀ key keys,
      ((keyedLookup key keys r).valueUnder index σ i).Numeric)
    (he : (col, e) ∈ rowFormulas lk k row) (hc : k.columns[col]? = some c)
    (hresult : ShowsResult c) : (e.valueUnder index σ i).Numeric := by
  simp only [Lookup.numberRanges, List.forall_mem_cons] at lookup
  obtain ⟨machineryIds, machineryPower, -, itemIds, itemRemaining, voyageIds, portIds, -⟩ := lookup
  -- sheet by sheet and formula by formula; those that show no result are left out by `hresult`
  cases k with
  | voyage =>
    simp only [rowFormulas, voyageRow, List.mem_cons, Prod.mk.injEq, List.not_mem_nil,
      or_false] at he
    rcases he with ⟨-, rfl⟩ | ⟨-, rfl⟩ | ⟨-, rfl⟩ | ⟨-, rfl⟩ | ⟨-, rfl⟩
    · exact numeric_gated (voyageIds _ _)
    · exact numeric_gated (portIds _ _)
    · exact numeric_gated (portIds _ _)
    · exact numeric_gated (numeric_requireAll (numeric_round _ _))
    · exact numeric_gated (numeric_requireAll (numeric_orElse (numeric_round _ _) numeric_blank))
  | machinery =>
    rcases List.mem_append.mp he with he | he
    · exact absurd he (voyageFormulas_result rfl rfl hc hresult)
    · simp only [List.mem_cons, Prod.mk.injEq, List.not_mem_nil, or_false] at he
      rcases he with ⟨-, rfl⟩ | ⟨-, rfl⟩ | ⟨-, rfl⟩ | ⟨-, rfl⟩ | ⟨rfl, -⟩ | ⟨-, rfl⟩
      · exact numeric_gated (machineryIds _ _)
      · exact numeric_gated (machineryPower _ _)
      · exact numeric_gated (numeric_requireAll (numeric_binary (by decide) _ _))
      · exact numeric_gated (itemIds _ _)
      · obtain rfl := Option.some.inj hc
        cases hresult.1
      · exact numeric_gated (numeric_requireAll (numeric_round _ _))
  | lubeOil =>
    rcases List.mem_append.mp he with he | he
    · exact absurd he (voyageFormulas_result rfl rfl hc hresult)
    · simp only [List.mem_cons, Prod.mk.injEq, List.not_mem_nil, or_false] at he
      rcases he with ⟨-, rfl⟩ | ⟨-, rfl⟩ | ⟨rfl, -⟩
      · exact numeric_gated (machineryIds _ _)
      · exact numeric_gated (itemIds _ _)
      · obtain rfl := Option.some.inj hc
        cases hresult.1
  | bunkering =>
    rcases List.mem_append.mp he with he | he
    · exact absurd he (voyageFormulas_result rfl rfl hc hresult)
    · simp only [List.mem_cons, Prod.mk.injEq, List.not_mem_nil, or_false] at he
      rcases he with ⟨-, rfl⟩ | ⟨-, rfl⟩ | ⟨-, rfl⟩ | ⟨-, rfl⟩
      · exact numeric_gated (itemIds _ _)
      · exact numeric_gated (portIds _ _)
      · exact numeric_gated (itemRemaining _ _)
      · exact numeric_gated (numeric_requireAll (numeric_binary (by decide) _ _))

end

section

variable {catalog : Catalog} {kind : TemplateKind} {rules : Rules} {layout : Layout}
  {token : UploadToken} {w : Workbook}
  (hw : (build catalog kind rules layout token).workbook.EditOf w)
  (hname : ∀ k : ReportSheet, layout.lookupSheet ≠ k.title)
  (hlookup : w.sheets[lookupPlace]? = some (lookupSheet catalog layout))
  (few : (lookupSheet catalog layout).columns.length ≤ 0x10000)

include hw hname hlookup few

/-- The cells of the lists of numbers are numeric. -/
lemma numberRange_value {r : RangeRef}
    (hr : r ∈ (Lookup.ofCatalog catalog layout.lookupSheet).numberRanges) {p : Position}
    (hp : p ∈ r.positions) : (Grid.Layered.values w.grid lookupPlace p).Numeric := by
  obtain ⟨col, l, hl, numbers, rfl⟩ := numberRanges_spec _ _ r hr
  rw [LookupList.range_positions] at hp
  obtain ⟨t, ht, rfl⟩ := List.mem_map.mp hp
  rw [lookup_value hw hname hlookup (.of_few few hl) (List.mem_range.mp ht)]
  cases hentry : l.entries[t]? with
  | none => trivial
  | some entry =>
    obtain ⟨x, rfl⟩ := numbers entry (List.mem_of_getElem? hentry)
    trivial

/-- In a data row a computed column shows a number, nothing or a fault, unless it shows the voyage
number. -/
theorem result_numeric {k : ReportSheet} {row col : Nat} {c : ColumnSpec} (hrow : 0 < row)
    (hmax : row < layout.maxRow kind) (hc : k.columns[col]? = some c) (hresult : ShowsResult c) :
    (w.value k.title ⟨row, col⟩).Numeric := by
  obtain ⟨e, he⟩ : ∃ e,
      (col, e) ∈ rowFormulas (Lookup.ofCatalog catalog layout.lookupSheet) k row :=
    exists_rowFormulas (mem_formulaColumns.mpr ⟨c, hc, by rw [hresult.1]; decide⟩) row
  have content : w.grid.content (place k) ⟨row, col⟩ = some (.formula e) :=
    (edited_formula hw).mpr ⟨k, rfl, hrow, hmax, he⟩
  rw [edited_value hw hname, (edited_solves hw hname).formula content]
  refine (rowFormulas_numeric (fun r hr key keys => ?_) he hc hresult).settled
  have named : r.sheet = some layout.lookupSheet := by
    obtain ⟨_, _, -, -, rfl⟩ := numberRanges_spec _ _ r hr
    rfl
  exact numeric_keyedLookup named (edited_lookupIndex hw hname) fun p hp =>
    numberRange_value hw hname hlookup few hr hp

end

end ShipReport.Template
