import ShipReport.Proofs.Workbook.Cells
import ShipReport.Workbook.Protection

/-!
# Protected sheets

The plan of a sheet gives every cell inside its rows and columns the lock that the cell should have,
and a sheet whose cells with a list to choose from are all unlocked is protected by its plan. That
is the case exactly if each of these cells can be filled in: it stands below the headers, inside the
sheet, and holds no formula that is locked. Any other sheet is left without a plan, even if it had
one.
-/

namespace ShipReport.Workbook.Sheet

open Formula (CellRef Position)

variable {rules : Report.Rules} {s : Sheet} {plan : ProtectionPlan} {p : Position}

/-- The plan of a sheet gives the cells of the grid the locks that they should have. -/
lemma plan_lockOf (h : p ∈ s.grid) : (s.plan rules).lockOf p = lockFor rules s p := by
  have locks := Position.getElem?_ofList_filterMap s.grid (fun p => some (lockFor rules s p)) p
  rw [if_pos h] at locks
  simp only [Option.map_some, List.filterMap_eq_map'] at locks
  unfold ProtectionPlan.lockOf plan
  rw [Std.TreeMap.getD_eq_getD_getElem?, locks, Option.getD_some]

/-- The lock of a cell below the headers: formulas are hidden unless they may be edited. -/
lemma lockFor_unlocked (hrow : p.row ≠ 0) :
    lockFor rules s p = .unlocked ↔
      (∃ e, s.get? p = some (.formula e)) → rules.isEditableFormula (s.headerOf p.col) := by
  unfold lockFor
  rw [if_neg hrow]
  split
  · next e he => simp [he]
  · next plain =>
    have none : ¬ ∃ e, s.get? p = some (.formula e) := fun ⟨e, he⟩ => plain e he
    simp [none]

/-- The cells of a rule are those that it covers. -/
lemma mem_cellsOf {v : Validation} : p ∈ cellsOf v ↔ v.covers p := by
  unfold cellsOf Validation.covers
  simp only [List.mem_map, List.mem_range'_1, Bool.and_eq_true, beq_iff_eq, decide_eq_true_eq]
  constructor
  · rintro ⟨row, hrow, rfl⟩
    exact ⟨rfl, hrow.1, by dsimp only; omega⟩
  · rintro ⟨hcol, hfirst, hlast⟩
    exact ⟨p.row, ⟨hfirst, by omega⟩, by rw [hcol]⟩

/-- No cell with a list to choose from is locked if every one is unlocked. -/
lemma lockedChoice?_eq_none : s.lockedChoice? plan = none ↔
    ∀ v ∈ s.validations, ∀ p, v.covers p → plan.lockOf p = .unlocked := by
  unfold lockedChoice?
  simp only [List.findSome?_eq_none_iff, List.find?_eq_none, bne_iff_ne, Decidable.not_not,
    mem_cellsOf]

/-- A sheet whose cells with a list to choose from are unlocked is protected by its plan. -/
lemma protect_of_unlocked
    (h : ∀ v ∈ s.validations, ∀ p, v.covers p → (s.plan rules).lockOf p = .unlocked) :
    s.protect rules = ({ s with protection := some (s.plan rules) }, none) := by
  unfold protect
  dsimp only
  rw [lockedChoice?_eq_none.mpr h]

/-! ## Cells that can be filled in -/

/-- The cell holds a formula, and its column is not one whose formulas may be edited. -/
def LocksFormula (rules : Report.Rules) (s : Sheet) (p : Position) : Prop :=
  (∃ e, s.get? p = some (.formula e)) ∧ ¬ rules.isEditableFormula (s.headerOf p.col)

/-- The cell can be filled in: it stands inside the sheet below the headers, and holds no formula
that is locked. -/
structure Fillable (rules : Report.Rules) (s : Sheet) (p : Position) : Prop where
  row : p.row < s.maxRow
  col : p.col < s.columnCount
  data : p.row ≠ 0
  free : ¬ s.LocksFormula rules p

/-- A plan gives each cell, inside the sheet or not, the lock that it should have. -/
structure Classifies (rules : Report.Rules) (s : Sheet) (plan : ProtectionPlan) : Prop where
  password : plan.password = rules.password
  headers : ∀ p, p.row = 0 → plan.lockOf p = .locked
  outside : ∀ p, ¬ (p.row < s.maxRow ∧ p.col < s.columnCount) → plan.lockOf p = .locked
  formulas : ∀ p, p.row ≠ 0 → p.row < s.maxRow → p.col < s.columnCount →
    s.LocksFormula rules p → plan.lockOf p = .lockedHidden
  fillable : ∀ p, s.Fillable rules p → plan.lockOf p = .unlocked

/-- A cell that the plan does not name is locked. -/
lemma plan_lockOf_outside (h : p ∉ s.grid) : (s.plan rules).lockOf p = .locked := by
  have locks := Position.getElem?_ofList_filterMap s.grid (fun p => some (lockFor rules s p)) p
  rw [if_neg h] at locks
  simp only [Option.map_some, List.filterMap_eq_map'] at locks
  unfold ProtectionPlan.lockOf plan
  rw [Std.TreeMap.getD_eq_getD_getElem?, locks, Option.getD_none]

/-- The formulas that may not be edited are locked and hidden. -/
lemma lockFor_lockedHidden (hrow : p.row ≠ 0) :
    lockFor rules s p = .lockedHidden ↔ s.LocksFormula rules p := by
  unfold lockFor LocksFormula
  rw [if_neg hrow]
  split
  · next e he => simp [he]
  · next plain =>
    have none : ¬ ∃ e, s.get? p = some (.formula e) := fun ⟨e, he⟩ => plain e he
    simp [none]

/-- Below the headers a cell is unlocked or holds a formula that is locked. -/
lemma lockFor_free (hrow : p.row ≠ 0) :
    lockFor rules s p = .unlocked ↔ ¬ s.LocksFormula rules p := by
  rw [lockFor_unlocked hrow]
  unfold LocksFormula
  rw [not_and, Decidable.not_not]

/-- The plan of a sheet classifies its cells. -/
lemma plan_classifies (rules : Report.Rules) (s : Sheet) : s.Classifies rules (s.plan rules) := by
  have outside : ∀ p, ¬ (p.row < s.maxRow ∧ p.col < s.columnCount) →
      (s.plan rules).lockOf p = .locked := fun p hp => by
    rw [← mem_grid] at hp
    exact plan_lockOf_outside hp
  refine ⟨rfl, fun p hrow => ?_, outside, fun p hrow hmax hcol locks => ?_, fun p hp => ?_⟩
  · by_cases hp : p.row < s.maxRow ∧ p.col < s.columnCount
    · rw [plan_lockOf (mem_grid.mpr hp), lockFor, if_pos hrow]
    · exact outside p hp
  · rw [plan_lockOf (mem_grid.mpr ⟨hmax, hcol⟩)]
    exact (lockFor_lockedHidden hrow).mpr locks
  · rw [plan_lockOf (mem_grid.mpr ⟨hp.row, hp.col⟩)]
    exact (lockFor_free hp.data).mpr hp.free

/-- The plan of a sheet unlocks exactly the cells that can be filled in. -/
lemma plan_unlocked : (s.plan rules).lockOf p = .unlocked ↔ s.Fillable rules p := by
  have classifies := plan_classifies rules s
  refine ⟨fun unlocked => ?_, classifies.fillable p⟩
  have data : p.row ≠ 0 := fun hrow => by
    rw [classifies.headers p hrow] at unlocked
    cases unlocked
  have inside : p.row < s.maxRow ∧ p.col < s.columnCount :=
    Decidable.byContradiction fun outside => by
      rw [classifies.outside p outside] at unlocked
      cases unlocked
  refine ⟨inside.1, inside.2, data, fun locks => ?_⟩
  rw [classifies.formulas p data inside.1 inside.2 locks] at unlocked
  cases unlocked

/-- The cell that keeps a sheet from being protected has a list to choose from and is locked. -/
lemma locked_of_lockedChoice? (h : s.lockedChoice? plan = some p) :
    (∃ v ∈ s.validations, v.covers p) ∧ plan.lockOf p ≠ .unlocked := by
  unfold lockedChoice? at h
  obtain ⟨v, hv, found⟩ := List.exists_of_findSome?_eq_some h
  refine ⟨⟨v, hv, mem_cellsOf.mp (List.mem_of_find?_eq_some found)⟩, ?_⟩
  have locked := List.find?_some found
  rwa [bne_iff_ne] at locked

/-- A sheet can be protected exactly if all its cells with a list to choose from can be filled in.
Then it has a plan that classifies all cells. If not, it has no plan, and the error names one of the
cells that cannot be filled in. Nothing else of the sheet changes. -/
theorem protect_iff_fillable (rules : Report.Rules) (s : Sheet) :
    ((s.protect rules).2 = none ↔
      ∀ v ∈ s.validations, ∀ p, v.covers p → s.Fillable rules p) ∧
    ((s.protect rules).2 = none → ∃ plan, s.Classifies rules plan ∧
      (s.protect rules).1 = { s with protection := some plan }) ∧
    ∀ e, (s.protect rules).2 = some e →
      (s.protect rules).1 = { s with protection := none } ∧
        ∃ p, (∃ v ∈ s.validations, v.covers p) ∧ ¬ s.Fillable rules p ∧
          e = .lockedChoice s.name (CellRef.here p.row p.col).localText := by
  cases found : s.lockedChoice? (s.plan rules) with
  | none =>
    have unlocked := lockedChoice?_eq_none.mp found
    have fillable : ∀ v ∈ s.validations, ∀ p, v.covers p → s.Fillable rules p :=
      fun v hv p hp => plan_unlocked.mp (unlocked v hv p hp)
    rw [protect_of_unlocked unlocked]
    exact ⟨iff_of_true rfl fillable, fun _ => ⟨_, plan_classifies rules s, rfl⟩, nofun⟩
  | some p =>
    obtain ⟨⟨v, hv, covers⟩, locked⟩ := locked_of_lockedChoice? found
    have closed : ¬ s.Fillable rules p := fun fillable => locked (plan_unlocked.mpr fillable)
    have refused : s.protect rules = ({ s with protection := none },
        some (.lockedChoice s.name (CellRef.here p.row p.col).localText)) := by
      unfold protect
      dsimp only
      rw [found]
    rw [refused]
    refine ⟨iff_of_false nofun fun all => closed (all v hv p covers), nofun, fun e he => ?_⟩
    exact ⟨rfl, p, ⟨v, hv, covers⟩, closed, (Option.some.inj he).symm⟩

end ShipReport.Workbook.Sheet
