import ShipReport.Proofs.Formula.Layers
import ShipReport.Proofs.Template.Carry

/-!
# How far an entry reaches

When the crew changes one input cell, the values of other cells may change. They do so in the row of
the cell only, with one exception: a voyage number that is entered on the Voyage sheet is carried
down the other sheets, from its row to the row before the next one with a number.

The cells that keep their values are found in two steps. A carried number depends on the entries of
the Voyage sheet alone, and these are the same above the change and from the next number on. Every
other formula looks at cells of its own row and at the lists, so it keeps its value if the entries
and the carried number of the row do.
-/

namespace ShipReport.Template

open Formula (Expr Grid Position RangeRef Value)
open Report
open Workbook (Edit Entry)

/-- The column of a row that cells of other rows or sheets look at: the voyage number, which is
entered on the Voyage sheet and carried on the others. -/
def numberColumn (k : ReportSheet) : Nat :=
  (carryColumn k).getD VoyageColumn.voyageNo

/-- The cells that carry or show the voyage number in the rows from a given one up to the next row
of the Voyage sheet that has a number of its own. -/
def CarriedFrom (w : Workbook) (row : Nat) (i : Nat) (p : Position) : Prop :=
  ∃ k carry, carryColumn k = some carry ∧ w.sheetIndex? k.title = some i ∧
    (p.col = carry ∨ p.col = shownColumn) ∧ row ≤ p.row ∧
      ∀ m, row < m → m ≤ p.row →
        w.entry? ReportSheet.voyage.title ⟨m, VoyageColumn.voyageNo⟩ = none

section

variable {catalog : Catalog} {kind : TemplateKind} {rules : Rules} {layout : Layout}
  {token : UploadToken} {w w' : Workbook}
  (hw : (build catalog kind rules layout token).workbook.EditOf w)
  (hw' : (build catalog kind rules layout token).workbook.EditOf w')
  (hname : ∀ k : ReportSheet, layout.lookupSheet ≠ k.title)

include hw hw' hname

/-- The carried number of a row is the same in two fillings of a template if the numbers entered up
to that row are, but for those that a later common one hides. -/
lemma carry_agree {k : ReportSheet} {carry : Nat} (hk : carryColumn k = some carry) {n : Nat}
    (hn : 0 < n) (hmax : n < layout.maxRow kind)
    (same : ∀ j, 0 < j → j ≤ n →
      w.entry? ReportSheet.voyage.title ⟨j, VoyageColumn.voyageNo⟩ =
          w'.entry? ReportSheet.voyage.title ⟨j, VoyageColumn.voyageNo⟩ ∨
        ∃ m, j < m ∧ m ≤ n ∧
          w.entry? ReportSheet.voyage.title ⟨m, VoyageColumn.voyageNo⟩ ≠ none) :
    Grid.Layered.values w.grid (place k) ⟨n, carry⟩ =
      Grid.Layered.values w'.grid (place k) ⟨n, carry⟩ := by
  induction n, hn using Nat.le_induction with
  | base =>
    have here := (same 1 Nat.one_pos (Nat.le_refl 1)).resolve_right fun ⟨m, h1, hm, _⟩ => by omega
    rw [carry_step hw hname hk Nat.one_pos hmax, carry_step hw' hname hk Nat.one_pos hmax, here]
    rfl
  | succ n hn ih =>
    have here := (same (n + 1) (Nat.succ_pos n) (Nat.le_refl _)).resolve_right
      fun ⟨m, h1, hm, _⟩ => by omega
    rw [carry_step hw hname hk (Nat.succ_pos n) hmax, carry_step hw' hname hk (Nat.succ_pos n) hmax,
      ← here]
    cases hv : w.entry? ReportSheet.voyage.title ⟨n + 1, VoyageColumn.voyageNo⟩ with
    | some v => rfl
    | none =>
      simp only [show 1 < n + 1 by omega, if_true]
      refine ih (by omega) fun j hj hjn => ?_
      rcases same j hj (by omega) with h | ⟨m, hjm, hmn, hm⟩
      · exact .inl h
      · have hne : m ≠ n + 1 := fun h => hm (h ▸ hv)
        exact .inr ⟨m, hjm, by omega, hm⟩

end

/-- The formulas of a row that other rows look at are those that carry the voyage number. -/
lemma numberColumn_cases (k : ReportSheet) :
    carryColumn k = some (numberColumn k) ∨ numberColumn k ∉ formulaColumns k := by
  cases k <;> decide

/-- The voyage number of a row is carried and shown by formulas. -/
lemma carry_formula {k : ReportSheet} {carry : Nat} (h : carryColumn k = some carry) :
    carry ∈ formulaColumns k ∧ shownColumn ∈ formulaColumns k := by
  cases k <;> cases h <;> decide

/-- No report sheet is in the place of the lookup sheet. -/
lemma place_ne_lookup (k : ReportSheet) : place k ≠ lookupPlace := by
  cases k <;> decide

/-- The cells that are certain to keep their values when an input cell of a row changes. In the row
itself this is the cell that others look at, unless it is the one that changes. -/
structure Kept (w : Workbook) (k : ReportSheet) (row col : Nat) (i : Nat) (p : Position) : Prop where
  beside : i = place k → p.row = row → p.col = numberColumn k ∧ p.col ≠ col
  carried : k = .voyage → col = VoyageColumn.voyageNo → ¬ CarriedFrom w row i p

section

variable {catalog : Catalog} {kind : TemplateKind} {rules : Rules} {layout : Layout}
  {token : UploadToken} {w : Workbook}
  (hw : (build catalog kind rules layout token).workbook.EditOf w)
  {k : ReportSheet} {row col : Nat}

include hw

/-- The sheet of a cell that carries a voyage number is known by its place. -/
lemma carriedFrom_place {k' : ReportSheet} {p : Position} (h : CarriedFrom w row (place k') p) :
    ∃ carry, carryColumn k' = some carry ∧ (p.col = carry ∨ p.col = shownColumn) := by
  obtain ⟨k'', carry, hk, hi, hcol, -⟩ := h
  obtain rfl := place_injective (Option.some.inj ((edited_index hw k'').symm.trans hi))
  exact ⟨carry, hk, hcol⟩

/-- The cells of the lookup sheet keep their values. -/
lemma kept_lookup (p : Position) : Kept w k row col lookupPlace p := by
  refine ⟨fun h => absurd h.symm (place_ne_lookup k), fun _ _ h => ?_⟩
  obtain ⟨k', -, -, hi, -⟩ := h
  exact place_ne_lookup k' (Option.some.inj ((edited_index hw k').symm.trans hi))

/-- Where a formula keeps its value, so do the other cells of its row, except the carried number and
the one shown unless the formula is the one that shows it. -/
lemma Kept.in_row {k' : ReportSheet} {p : Position} (h : Kept w k row col (place k') p)
    (hp : p.col ∈ formulaColumns k') (hcarry : carryColumn k' ≠ some p.col) {c : Nat}
    (hc : ∀ carry, carryColumn k' = some carry → c = carry ∨ c = shownColumn →
      p.col = shownColumn) :
    Kept w k row col (place k') ⟨p.row, c⟩ := by
  constructor
  · intro hk hrow
    obtain rfl := place_injective hk
    have number := (h.beside rfl hrow).1
    rcases numberColumn_cases k' with hn | hn
    · exact absurd (number ▸ hn) hcarry
    · exact absurd (number ▸ hp) hn
  · intro hk hcol hfrom
    obtain ⟨carry, hcar, hcc⟩ := carriedFrom_place hw hfrom
    obtain ⟨k'', carry', hk'', hi, -, hrow, hlast⟩ := hfrom
    exact h.carried hk hcol ⟨k'', carry', hk'', hi, .inr (hc carry hcar hcc), hrow, hlast⟩

/-- A formula that does not carry the voyage number and keeps its value looks only at cells that
keep theirs. -/
lemma Kept.reads (hname : ∀ k : ReportSheet, layout.lookupSheet ≠ k.title) {k' : ReportSheet}
    {p : Position} (h : Kept w k row col (place k') p) {e : Expr}
    (he : (p.col, e) ∈ rowFormulas (Lookup.ofCatalog catalog layout.lookupSheet) k' p.row)
    (hcarry : carryColumn k' ≠ some p.col) :
    e.ReadsWithin w.grid.sheetIndex (place k') (Kept w k row col) := by
  have hp := column_of_rowFormulas he
  apply rowFormulas_reads he
  · -- ranges of the lookup sheet
    intro r hr
    unfold RangeRef.Within
    rw [formulaRanges_sheet catalog layout.lookupSheet r hr]
    intro j hj q _
    obtain rfl := Option.some.inj ((edited_lookupIndex hw hname).symm.trans hj)
    exact kept_lookup hw q
  · exact fun hcol => absurd hcol hcarry
  · exact fun hcol => absurd hcol hcarry
  · -- input cells neither carry nor show the voyage number
    intro c hc
    refine h.in_row hw hp hcarry fun carry hcar hcc => absurd ?_ hc
    rcases hcc with rfl | rfl
    · exact (carry_formula hcar).1
    · exact (carry_formula hcar).2
  · exact fun hcol c _ => h.in_row hw hp hcarry fun _ _ _ => hcol
  · -- formulas that look at no other one do not show the voyage number
    intro _ c hc hne
    refine h.in_row hw hp hcarry fun carry hcar hcc => ?_
    rcases hcc with rfl | rfl
    · exact absurd hcar hne
    · exact absurd (shown_composite hcar) hc

variable {entry : Option Entry}

/-- What stands in a cell that keeps its value is not changed. -/
lemma Kept.content {i : Nat} {p : Position} (h : Kept w k row col i p) :
    (w.edit ⟨k.title, ⟨row, col⟩, entry⟩).grid.content i p = w.grid.content i p := by
  rw [Workbook.grid_content, Workbook.grid_content, Workbook.edit_get? (edited_index hw k)]
  rintro ⟨rfl, rfl⟩
  exact (h.beside rfl rfl).2 rfl

variable (he : (build catalog kind rules layout token).workbook.Admits
  ⟨k.title, ⟨row, col⟩, entry⟩)

include he

/-- The numbers entered on the Voyage sheet are the same but for the one that changes. -/
lemma entered_eq {m : Nat} (h : k = .voyage → col = VoyageColumn.voyageNo → m ≠ row) :
    w.entry? ReportSheet.voyage.title ⟨m, VoyageColumn.voyageNo⟩ =
      Workbook.entry? (w.edit ⟨k.title, ⟨row, col⟩, entry⟩) ReportSheet.voyage.title
        ⟨m, VoyageColumn.voyageNo⟩ := by
  unfold Workbook.entry?
  rw [Workbook.cell?_eq (edited_index hw .voyage),
    Workbook.cell?_eq (edited_index (hw.edit he) .voyage),
    Workbook.edit_get? (edited_index hw k)]
  rintro ⟨hk, hp⟩
  obtain ⟨hrow, hcol⟩ := Position.mk.inj hp
  exact h (place_injective hk).symm hcol.symm hrow

/-- A carried number that keeps its value has the same value before and after the change. -/
lemma Kept.carry (hname : ∀ k : ReportSheet, layout.lookupSheet ≠ k.title) {k' : ReportSheet}
    {carry : Nat} (hk : carryColumn k' = some carry) {n : Nat}
    (h : Kept w k row col (place k') ⟨n, carry⟩) (hn : 0 < n) (hmax : n < layout.maxRow kind) :
    Grid.Layered.values w.grid (place k') ⟨n, carry⟩ =
      Grid.Layered.values (w.edit ⟨k.title, ⟨row, col⟩, entry⟩).grid (place k') ⟨n, carry⟩ := by
  refine carry_agree hw (hw.edit he) hname hk hn hmax fun j hj hjn => ?_
  by_cases changed : k = .voyage ∧ col = VoyageColumn.voyageNo ∧ j = row
  · obtain ⟨hvoyage, hcol, rfl⟩ := changed
    -- a later number hides the one that changes, or the row would carry it
    by_contra! hidden
    refine h.carried hvoyage hcol ⟨k', carry, hk, edited_index hw k', .inl rfl, hjn, ?_⟩
    exact hidden.2
  · exact .inl (entered_eq hw he fun hvoyage hcol hjr => changed ⟨hvoyage, hcol, hjr⟩)

end

/-- When the crew changes or clears an input cell of a filled template, a value changes only in the
row of the cell, or it is a voyage number, carried or shown on another sheet, that comes from the
changed entry of the Voyage sheet. -/
theorem changed_in_row_or_carried {catalog : Catalog} {kind : TemplateKind} {rules : Rules}
    {layout : Layout} {token : UploadToken}
    (hname : ∀ k : ReportSheet, layout.lookupSheet ≠ k.title) {es : List Edit}
    (hes : ∀ e ∈ es, (build catalog kind rules layout token).workbook.Admits e) {k : ReportSheet}
    {row col : Nat} {entry : Option Entry}
    (he : (build catalog kind rules layout token).workbook.Admits ⟨k.title, ⟨row, col⟩, entry⟩)
    (i : Nat) (p : Position) :
    let w := (build catalog kind rules layout token).workbook.editAll es
    let w' := w.edit ⟨k.title, ⟨row, col⟩, entry⟩
    Workbook.evaluate (w'.grid.valueAt i p) ≠ Workbook.evaluate (w.grid.valueAt i p) →
      w.sheetIndex? k.title = some i ∧ p.row = row ∨
        k = .voyage ∧ col = VoyageColumn.voyageNo ∧ CarriedFrom w row i p := by
  intro w w' changed
  have hw : (build catalog kind rules layout token).workbook.EditOf w := .editAll hes
  have hw' : (build catalog kind rules layout token).workbook.EditOf w' := hw.edit he
  by_contra! unreached
  apply changed
  -- the cells that are not reached read only one another and what is the same in both workbooks
  have kept : Kept w k row col i p :=
    ⟨fun hi hrow => absurd hrow (unreached.1 (hi ▸ edited_index hw k)), unreached.2⟩
  have sheets : w.grid.sheetIndex = w'.grid.sheetIndex := by
    funext name
    exact (hw.sheetIndex?_eq name).trans (hw'.sheetIndex?_eq name).symm
  have closed : ∀ j q, Kept w k row col j q →
      Grid.Layered.values w.grid j q = Grid.Layered.values w'.grid j q ∨
        ∀ e, w.grid.content j q = some (.formula e) →
          e.ReadsWithin w.grid.sheetIndex j (Kept w k row col) := by
    intro j q hq
    by_cases hf : ∃ e, w.grid.content j q = some (.formula e)
    · obtain ⟨e, hc⟩ := hf
      obtain ⟨k', rfl, hpos, hmax, hrow⟩ := (edited_formula hw).mp hc
      by_cases hcarry : carryColumn k' = some q.col
      · exact .inl (hq.carry hw he hname hcarry hpos hmax)
      · refine .inr fun e' hc' => ?_
        obtain rfl := Formula.Content.formula.inj (Option.some.inj (hc.symm.trans hc'))
        exact hq.reads hw hname hrow hcarry
    · exact .inr fun e hc => absurd ⟨e, hc⟩ hf
  rw [edited_valueAt hw hname, edited_valueAt hw' hname]
  exact ((edited_layered hw hname).values_agree (edited_solves hw hname)
    (edited_solves hw' hname) sheets (fun _ _ hq => (hq.content hw).symm) closed i p kept).symm

/-- A voyage number in the first row is cleared: the number that the Machinery sheet carries in its
third row changes, as no number stands in between. -/
theorem changed_by_cleared_number :
    let w := Sample.workbook.editAll [⟨"Voyage", ⟨1, 0⟩, some (.text "V001")⟩]
    let w' := w.edit ⟨"Voyage", ⟨1, 0⟩, none⟩
    Workbook.evaluate (w'.grid.valueAt 1 ⟨3, 13⟩) ≠ Workbook.evaluate (w.grid.valueAt 1 ⟨3, 13⟩) ∧
      (w.sheetIndex? ReportSheet.voyage.title = some 1 ∧ 3 = 1 ∨
        ReportSheet.voyage = .voyage ∧ 0 = VoyageColumn.voyageNo ∧ CarriedFrom w 1 1 ⟨3, 13⟩) := by
  intro w w'
  have input : ∀ entry, Sample.workbook.Admits ⟨"Voyage", ⟨1, 0⟩, entry⟩ := fun entry =>
    (build_admits (k := .voyage)).mpr ⟨by decide, by decide, _, rfl, rfl⟩
  have admitted : ∀ e ∈ [(⟨"Voyage", ⟨1, 0⟩, some (.text "V001")⟩ : Edit)],
      Sample.workbook.Admits e := by
    intro e he
    obtain rfl := List.mem_singleton.mp he
    exact input _
  have hw : Sample.workbook.EditOf w := .editAll admitted
  have hw' : Sample.workbook.EditOf w' := hw.edit (input none)
  have before : Grid.Layered.values w.grid 1 ⟨3, 13⟩ = .text "V001" := by
    refine carry_of_entered hw Sample.lookupSheet_ne (k := .machinery) rfl (m := 1) (by decide)
      (by decide) (by decide) rfl fun j hj hjn => ?_
    obtain rfl | rfl : j = 2 ∨ j = 3 := by omega
    · rfl
    · rfl
  have after : Grid.Layered.values w'.grid 1 ⟨3, 13⟩ = .text "" := by
    refine carry_of_none hw' Sample.lookupSheet_ne (k := .machinery) rfl (by decide) (by decide)
      fun j hj hjn => ?_
    obtain rfl | rfl | rfl : j = 1 ∨ j = 2 ∨ j = 3 := by omega
    · rfl
    · rfl
    · rfl
  have changed : Workbook.evaluate (w'.grid.valueAt 1 ⟨3, 13⟩) ≠
      Workbook.evaluate (w.grid.valueAt 1 ⟨3, 13⟩) := by
    rw [edited_valueAt hw Sample.lookupSheet_ne, edited_valueAt hw' Sample.lookupSheet_ne, before,
      after]
    exact nofun
  exact ⟨changed, changed_in_row_or_carried (k := .voyage) Sample.lookupSheet_ne admitted
    (input none) 1 ⟨3, 13⟩ changed⟩

end ShipReport.Template
