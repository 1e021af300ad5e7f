import ShipReport.Proofs.Number.Integers
import ShipReport.Proofs.Template.Keys

/-!
# The id of a voyage

The Voyage sheet finds the id of a voyage by its number alone, which all legs of a voyage share. So
the id in a row is that of the first leg in the list of the catalogue, whatever stands in the column
for the leg.
-/

namespace ShipReport.Template

open Formula (Expr Grid Position Value)
open Formula.Pattern (gated keyedLookup)
open Report
open Workbook (Edit)

/-- The first voyage of a catalogue with a number, letter case aside. -/
def firstLeg? (c : Catalog) (number : String) : Option Catalog.Voyage :=
  c.voyages.find? fun v => Text.lowercase v.number = Text.lowercase number

/-- Every entry of a catalogue has a first leg. -/
lemma exists_firstLeg {c : Catalog} {e : Catalog.Voyage} (he : e ∈ c.voyages) :
    ∃ first, firstLeg? c e.number = some first :=
  Option.isSome_iff_exists.mp (List.find?_isSome.mpr ⟨e, he, by simp⟩)

/-- The first leg is where the number is found. -/
lemma findIdx?_firstLeg {c : Catalog} {number : String} {first : Catalog.Voyage}
    (h : firstLeg? c number = some first) :
    ∃ i, (c.voyages.map (·.number)).findIdx? (Text.lowercase · = Text.lowercase number) = some i ∧
      c.voyages[i]? = some first := by
  obtain ⟨hsame, i, hi, rfl, before⟩ := List.find?_eq_some_iff_getElem.mp h
  refine ⟨i, List.findIdx?_eq_some_iff_getElem.mpr ⟨by simpa using hi, ?_, ?_⟩, by simp [hi]⟩
  · simpa using hsame
  · intro j hj
    simpa using before j hj

/-- Ids that a number can hold are told apart by it. -/
lemma ofInt_injective {a b : Int} (ha : a.natAbs ≤ 2 ^ 53) (hb : b.natAbs ≤ 2 ^ 53)
    (h : Float.ofInt a = Float.ofInt b) : a = b := by
  rw [← Number.toInt64_ofInt (Number.held_of_le ha) (by omega), h,
    Number.toInt64_ofInt (Number.held_of_le hb) (by omega)]

section

variable {catalog : Catalog} {kind : TemplateKind} {rules : Rules} {layout : Layout}
  {token : UploadToken} {w : Workbook}
  (hw : (build catalog kind rules layout token).workbook.EditOf w)
  (hname : ∀ k : ReportSheet, layout.lookupSheet ≠ k.title)
  (hlookup : w.sheets[lookupPlace]? = some (lookupSheet catalog layout))

include hw hname hlookup

/-- A row with a voyage number has the id of the first leg with this number. -/
lemma voyageId_value (hlength : catalog.voyages.length < 2 ^ 32) {row : Nat} (hrow : 0 < row)
    (hmax : row < layout.maxRow kind) {number : String}
    (hnumber : w.entry? ReportSheet.voyage.title ⟨row, VoyageColumn.voyageNo⟩ =
      some (.text number))
    {first : Catalog.Voyage} (hfirst : firstLeg? catalog number = some first) :
    w.value ReportSheet.voyage.title ⟨row, VoyageColumn.voyageId⟩ =
      .number (Float.ofInt first.id) := by
  obtain ⟨i, hi, hvoyage⟩ := findIdx?_firstLeg hfirst
  have hlt := (List.getElem?_eq_some_iff.mp hvoyage).1
  -- however many slots there are, the lists of places are the last ones
  have length := length_lookupLists catalog
  have filled : catalog.voyages ≠ [] := List.ne_nil_of_length_pos (Nat.lt_of_le_of_lt i.zero_le hlt)
  have numbers : Shown catalog layout (11 + catalog.noteSlotLimit) (.ofTexts "Voyage No" _) :=
    .of_last layout (lookupLists_place catalog 0) (by omega) (by simpa using filled) (by simp)
  have ids : Shown catalog layout (11 + catalog.noteSlotLimit + 1)
      (.ofInts "Voyage ID" (catalog.voyages.map (·.id))) :=
    .of_last layout (lookupLists_place catalog 1) (by omega) (by simpa using filled) (by simp)
  have formula : (VoyageColumn.voyageId, gated (cellAt row ReportSheet.voyage.driver)
      (keyedLookup (valueAt row VoyageColumn.voyageNo)
        (Lookup.ofCatalog catalog layout.lookupSheet).voyageNos
        (Lookup.ofCatalog catalog layout.lookupSheet).voyageIds)) ∈
          rowFormulas (Lookup.ofCatalog catalog layout.lookupSheet) .voyage row :=
    List.mem_cons_self
  have found := keyedLookup_text hw hname hlookup numbers (k := .voyage) (by decide) hnumber ids hi
    (by simpa [LookupList.ofInts, LookupList.ofNumbers] using hlt) (by omega)
  have filled : w.entry? ReportSheet.voyage.title ⟨row, ReportSheet.voyage.driver⟩ ≠ none :=
    hnumber.trans_ne (Option.some_ne_none _)
  rw [edited_value hw hname]
  refine (gated_filled hw hname hrow hmax formula filled).trans ?_
  rw [Lookup.ofCatalog, found]
  simp [LookupList.ofInts, LookupList.ofNumbers, hvoyage, entryValue, Grid.settled]

end

/-- Whatever the crew has entered, a row of the Voyage sheet with the number of a voyage has the id
of the first entry of the catalogue with this number, letter case aside. So it has the id of the
entry itself exactly if that one has the same id. -/
theorem voyage_id_of_first_leg {catalog : Catalog} {kind : TemplateKind} {rules : Rules}
    {layout : Layout} {token : UploadToken}
    (hname : ∀ k : ReportSheet, layout.lookupSheet ≠ k.title)
    (hlength : catalog.voyages.length < 2 ^ 32)
    (hids : ∀ v ∈ catalog.voyages, v.id.natAbs ≤ 2 ^ 53) {es : List Edit}
    (hes : ∀ e ∈ es, (build catalog kind rules layout token).workbook.Admits e ∧
      e.sheet ≠ layout.lookupSheet)
    {row : Nat} (hrow : 0 < row) (hmax : row < layout.maxRow kind) {e : Catalog.Voyage}
    (he : e ∈ catalog.voyages)
    (hnumber : Workbook.entry? ((build catalog kind rules layout token).workbook.editAll es)
      ReportSheet.voyage.title ⟨row, VoyageColumn.voyageNo⟩ = some (.text e.number)) :
    let value := ((build catalog kind rules layout token).workbook.editAll es).value
      ReportSheet.voyage.title ⟨row, VoyageColumn.voyageId⟩
    ∃ first, firstLeg? catalog e.number = some first ∧
      value = .number (Float.ofInt first.id) ∧
      Number.toInt64 (Float.ofInt first.id) = first.id ∧
      (value = .number (Float.ofInt e.id) ↔ first.id = e.id) := by
  have hw := Workbook.EditOf.editAll fun e he => (hes e he).1
  have hlookup :
      ((build catalog kind rules layout token).workbook.editAll es).sheets[lookupPlace]? =
        some (lookupSheet catalog layout) :=
    Workbook.editAll_other build_lookupSheet fun e he => (hes e he).2
  obtain ⟨first, hfirst⟩ := exists_firstLeg he
  have value := voyageId_value hw hname hlookup hlength hrow hmax hnumber hfirst
  have small := hids first (List.mem_of_find?_eq_some hfirst)
  refine ⟨first, hfirst, value, Number.toInt64_ofInt (Number.held_of_le small) (by omega), ?_⟩
  rw [value, Value.number.injEq]
  exact ⟨ofInt_injective small (hids e he), fun h => by rw [h]⟩

namespace Sample

/-- The catalogue of the sample with two legs of one voyage. -/
def twoLegs : Catalog :=
  { Sample.catalog with voyages := [⟨1, "V001", some 1⟩, ⟨2, "V001", some 2⟩] }

/-- The second leg is entered in the first row. -/
def secondLeg : List Edit :=
  [⟨"Voyage", ⟨1, VoyageColumn.voyageNo⟩, some (.text "V001")⟩,
    ⟨"Voyage", ⟨1, VoyageColumn.legNo⟩, some (.number (Float.ofInt 2))⟩]

/-- The second leg can be entered. -/
lemma secondLeg_admitted : ∀ e ∈ secondLeg,
    (build twoLegs .standard .default layout token).workbook.Admits e ∧
      e.sheet ≠ layout.lookupSheet := by
  intro e he
  simp only [secondLeg, List.mem_cons, List.not_mem_nil, or_false] at he
  rcases he with rfl | rfl
  · exact ⟨⟨_, rfl, by decide, by decide, _, rfl, rfl⟩, by decide⟩
  · exact ⟨⟨_, rfl, by decide, by decide, _, rfl, rfl⟩, by decide⟩

end Sample

/-- The row of the second leg has the id of the first, which is not its own. -/
theorem voyage_id_of_second_leg :
    let value := ((build Sample.twoLegs .standard .default Sample.layout
      Sample.token).workbook.editAll Sample.secondLeg).value "Voyage" ⟨1, VoyageColumn.voyageId⟩
    value = .number (Float.ofInt 1) ∧ value ≠ .number (Float.ofInt 2) := by
  have second : (⟨2, "V001", some 2⟩ : Catalog.Voyage) ∈ Sample.twoLegs.voyages := by
    simp [Sample.twoLegs]
  obtain ⟨first, hfirst, value, -, own⟩ := voyage_id_of_first_leg Sample.lookupSheet_ne (by decide)
    (by decide) Sample.secondLeg_admitted (by decide : 0 < 1) (by decide) second rfl
  obtain rfl : (⟨1, "V001", some 1⟩ : Catalog.Voyage) = first := Option.some.inj hfirst
  exact ⟨value, fun h => absurd (own.mp h) (by decide)⟩

/-- Voyages whose pairs of number and leg are all different do not keep their ids apart: the row in
which the second leg was entered shows another id than that of the second leg. -/
theorem second_leg_not_resolved :
    let w := (build Sample.twoLegs .standard .default Sample.layout Sample.token).workbook.editAll
      Sample.secondLeg
    (Sample.twoLegs.voyages.map fun v => (v.number, v.leg)).Nodup ∧
      (∀ v ∈ Sample.twoLegs.voyages,
        v.number ≠ "" ∧ v.leg.isSome ∧ v.id.natAbs ≤ 2 ^ 53) ∧
      ∃ e ∈ Sample.twoLegs.voyages, ∃ leg, e.leg = some leg ∧
        w.entry? "Voyage" ⟨1, VoyageColumn.voyageNo⟩ = some (.text e.number) ∧
        w.entry? "Voyage" ⟨1, VoyageColumn.legNo⟩ = some (.number (Float.ofInt leg)) ∧
        w.value "Voyage" ⟨1, VoyageColumn.voyageId⟩ ≠ .number (Float.ofInt e.id) := by
  refine ⟨by decide, by decide, ⟨2, "V001", some 2⟩, by simp [Sample.twoLegs], 2, rfl, rfl, rfl, ?_⟩
  have hw := Workbook.EditOf.editAll fun e he => (Sample.secondLeg_admitted e he).1
  have first : firstLeg? Sample.twoLegs "V001" = some ⟨1, "V001", some 1⟩ := rfl
  have value := voyageId_value hw Sample.lookupSheet_ne
    (Workbook.editAll_other build_lookupSheet fun e he => (Sample.secondLeg_admitted e he).2)
    (by decide) (by decide : 0 < 1) (by decide) (by rfl) first
  intro own
  have same := value.symm.trans own
  exact absurd (ofInt_injective (by decide) (by decide) (Value.number.inj same)) (by decide)

end ShipReport.Template
