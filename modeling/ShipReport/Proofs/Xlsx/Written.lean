import Mathlib.Data.List.Fold
import Mathlib.Data.List.MinMax
import Mathlib.Order.Nat
import ShipReport.Proofs.Formula.Evaluation
import ShipReport.Proofs.Formula.Results
import ShipReport.Proofs.Number.Texts
import ShipReport.Proofs.Outcome
import ShipReport.Proofs.Workbook.Edit
import ShipReport.Xlsx.Book
import ShipReport.Xlsx.Reading

/-!
# What comes back from a written workbook

On a grid that is layered under a solution the cached results in a file are the values of the
solution, in whatever order the sheets are written. A reader finds in a cell the text or the number
that stands there, the cached result of a formula, and nothing where the cell is blank.
-/

namespace ShipReport.Xlsx

open Formula (Cache EvalM Grid Position Value)
open Submission (CellData CellRange FileSheet)
open Workbook (Cell Edit Sheet Validation)

/-! ## What can be written -/

/-- Names that are told apart in lower case are different. -/
lemma nodup_of_checkDistinct {seen names : List String} (h : checkDistinct seen names = .ok ()) :
    names.Nodup ∧ ∀ name ∈ names, Text.lowercase name ∉ seen := by
  induction names generalizing seen with
  | nil => exact ⟨List.nodup_nil, nofun⟩
  | cons name names ih =>
    unfold checkDistinct at h
    dsimp only at h
    split at h
    · cases h
    · next fresh =>
      obtain ⟨nodup, apart⟩ := ih h
      refine ⟨List.nodup_cons.mpr ⟨fun hmem => apart name hmem List.mem_cons_self, nodup⟩, ?_⟩
      refine List.forall_mem_cons.mpr ⟨fun hseen => fresh (List.contains_iff_mem.mpr hseen), ?_⟩
      exact fun other hother hseen => apart other hother (List.mem_cons_of_mem _ hseen)

/-- A workbook is written only if its sheets have different names and each can be written. -/
lemma render_ok {w : Workbook} {sheets : List WrittenSheet} (h : render w = .ok sheets) :
    sheets = writtenSheets w ∧ (w.sheets.map (·.name)).Nodup ∧
      ∀ s ∈ w.sheets, checkSheet s = .ok () := by
  unfold render at h
  obtain ⟨_, checked, h⟩ := bind_eq_ok.mp h
  obtain ⟨_, apart, h⟩ := bind_eq_ok.mp h
  cases h
  exact ⟨rfl, (nodup_of_checkDistinct apart).1, forM_eq_ok.mp checked⟩

/-- A workbook is written if each of its sheets can be and their names are told apart. -/
lemma render_of_checks {w : Workbook} (checked : ∀ s ∈ w.sheets, checkSheet s = .ok ())
    (apart : checkDistinct [] (w.sheets.map (·.name)) = .ok ()) :
    render w = .ok (writtenSheets w) := by
  unfold render
  rw [forM_eq_ok.mpr checked, apart]
  rfl

/-- A sheet that can be written does not have more columns than a sheet can have. -/
lemma columns_of_checkSheet {s : Sheet} (h : checkSheet s = .ok ()) :
    s.columns.length ≤ columnLimit := by
  unfold checkSheet at h
  obtain ⟨_, -, h⟩ := bind_eq_ok.mp h
  obtain ⟨few, -⟩ := guard_eq_ok.mp h
  exact Nat.le_of_not_lt few

/-- The rows of a rule that can be written are in order. -/
lemma rows_of_checkValidation {v : Validation} (h : checkValidation v = .ok ()) :
    v.firstRow ≤ v.lastRow := by
  by_contra hlt
  have reversed := Nat.lt_of_not_le hlt
  unfold checkValidation at h
  -- of the three checks the last one fails, whatever the others do
  simp only [reversed, if_true] at h
  repeat' split at h
  all_goals cases h

/-- The rows of the rules of a sheet that can be written are in order. -/
lemma rows_of_checkSheet {s : Sheet} (h : checkSheet s = .ok ()) {v : Validation}
    (hv : v ∈ s.validations) : v.firstRow ≤ v.lastRow := by
  unfold checkSheet at h
  obtain ⟨_, -, h⟩ := bind_eq_ok.mp h
  obtain ⟨-, h⟩ := guard_eq_ok.mp h
  obtain ⟨_, -, h⟩ := bind_eq_ok.mp h
  exact rows_of_checkValidation (forM_eq_ok.mp h v hv)

/-! ## Edits that can be written -/

section

variable {s s' : Sheet} {w : Workbook} {p : Position} {e : Edit} {es : List Edit}

/-- The texts of a sheet can be written exactly if none is overlong. -/
lemma checkTexts_eq_ok : checkTexts s = .ok () ↔
    ∀ p ∈ s.grid, ∀ t, s.get? p = some (.text t) → isOverlong t = false := by
  unfold checkTexts
  dsimp only
  split
  · next overlong =>
    refine iff_of_false nofun fun short => ?_
    obtain ⟨p, hp, long⟩ := List.any_eq_true.mp overlong
    split at long
    · next t ht => exact Bool.false_ne_true ((short p hp t ht).symm.trans long)
    · cases long
  · next short =>
    refine iff_of_true rfl fun p hp t ht => ?_
    have each := List.any_eq_false.mp (Bool.eq_false_iff.mpr short) p hp
    rw [ht] at each
    exact Bool.eq_false_iff.mpr each

/-- A sheet in which no cell has a new text that is too long can be written like the old one. -/
lemma checkSheet_of_cells (checked : checkSheet s = .ok ())
    (frame : s' = { s with cells := s'.cells })
    (short : ∀ p t, s'.get? p = some (.text t) → s.get? p = some (.text t) ∨ isOverlong t = false) :
    checkSheet s' = .ok () := by
  unfold checkSheet at checked ⊢
  obtain ⟨_, name, checked⟩ := bind_eq_ok.mp checked
  obtain ⟨columns, checked⟩ := guard_eq_ok.mp checked
  obtain ⟨_, texts, rules⟩ := bind_eq_ok.mp checked
  have grid : s'.grid = s.grid := by rw [frame]; rfl
  have texts' : checkTexts s' = .ok () := by
    refine checkTexts_eq_ok.mpr fun p hp t ht => ?_
    rw [grid] at hp
    exact (short p t ht).elim (checkTexts_eq_ok.mp texts p hp t) id
  rw [frame] at texts' ⊢
  exact bind_eq_ok.mpr
    ⟨(), name, guard_eq_ok.mpr ⟨columns, bind_eq_ok.mpr ⟨(), texts', rules⟩⟩⟩

/-- A change that leaves sheets that can be written leaves such a workbook. -/
lemma checkSheets_update {name : String} {f : Sheet → Sheet}
    (hf : ∀ s, checkSheet s = .ok () → checkSheet (f s) = .ok ())
    (checked : ∀ s ∈ w.sheets, checkSheet s = .ok ()) :
    ∀ s ∈ ((w.updateSheet? name f).getD w).sheets, checkSheet s = .ok () := by
  unfold Workbook.updateSheet?
  cases w.sheetIndex? name with
  | none => exact checked
  | some j =>
    intro s hs
    obtain ⟨i, hi⟩ := List.mem_iff_getElem?.mp hs
    rw [Option.map_some, Option.getD_some, List.getElem?_modify] at hi
    obtain ⟨b, hb, rfl⟩ := Option.map_eq_some_iff.mp hi
    have checked' := checked b (List.mem_of_getElem? hb)
    split
    · exact hf b checked'
    · exact checked'

/-- An edit leaves sheets that can be written, unless it enters a text that is too long. -/
lemma checkSheets_edit (checked : ∀ s ∈ w.sheets, checkSheet s = .ok ())
    (short : ∀ t, e.entry = some (.text t) → isOverlong t = false) :
    ∀ s ∈ (w.edit e).sheets, checkSheet s = .ok () := by
  unfold Workbook.edit
  cases hentry : e.entry with
  | none =>
    refine checkSheets_update (fun s checked => ?_) checked
    refine checkSheet_of_cells checked rfl fun p t ht => ?_
    rw [Sheet.get?_clear] at ht
    split at ht
    · cases ht
    · exact .inl ht
  | some entry =>
    refine checkSheets_update (fun s checked => ?_) checked
    refine checkSheet_of_cells checked rfl fun p t ht => ?_
    rw [Sheet.get?_set] at ht
    split at ht
    · cases entry with
      | text t' =>
        cases ht
        exact .inr (short t hentry)
      | number x => cases ht
    · exact .inl ht

/-- Sheets that can be written can be written after edits with short texts. -/
lemma checkSheets_editAll (checked : ∀ s ∈ w.sheets, checkSheet s = .ok ())
    (short : ∀ e ∈ es, ∀ t, e.entry = some (.text t) → isOverlong t = false) :
    ∀ s ∈ (w.editAll es).sheets, checkSheet s = .ok () := by
  induction es generalizing w with
  | nil => exact checked
  | cons e es ih =>
    obtain ⟨first, short⟩ := List.forall_mem_cons.mp short
    exact ih (checkSheets_edit checked first) short

/-- A workbook that can be written still can after edits that enter no text that is too long. -/
lemma render_editAll {sheets : List WrittenSheet} (hr : render w = .ok sheets)
    (edit : w.EditOf (w.editAll es))
    (short : ∀ e ∈ es, ∀ t, e.entry = some (.text t) → isOverlong t = false) :
    render (w.editAll es) = .ok (writtenSheets (w.editAll es)) := by
  unfold render at hr
  obtain ⟨_, checked, hr⟩ := bind_eq_ok.mp hr
  obtain ⟨_, apart, -⟩ := bind_eq_ok.mp hr
  refine render_of_checks (checkSheets_editAll (forM_eq_ok.mp checked) short) ?_
  rw [edit.names_eq]
  exact apart

end
/-! ## Writing without an evaluator -/

section

variable {g : Grid} {σ : Nat → Position → Value} {α β : Type}

/-- The evaluator gives a result, and its cache stays sound. -/
def Gives (g : Grid) (σ : Nat → Position → Value) (x : EvalM α) (a : α) : Prop :=
  ∀ c : Cache, g.Sound σ c → (x.run c).1 = a ∧ g.Sound σ (x.run c).2

namespace Gives

/-- A run that only gives a value gives it. -/
lemma pure (a : α) : Gives g σ (pure a) a :=
  fun _ hc => ⟨rfl, hc⟩

/-- Two runs give what the second gives for what the first gives. -/
lemma bind {x : EvalM α} {f : α → EvalM β} {a : α} {b : β} (hx : Gives g σ x a)
    (hf : Gives g σ (f a) b) : Gives g σ (x >>= f) b := by
  intro c hc
  obtain ⟨ha, hc'⟩ := hx c hc
  have hb := hf _ hc'
  rw [← ha] at hb
  exact hb

/-- A run for each of a list gives what each one does. -/
lemma mapM {f : α → EvalM β} {h : α → β} (as : List α) (hf : ∀ a, Gives g σ (f a) (h a)) :
    Gives g σ (as.mapM f) (as.map h) := by
  induction as with
  | nil => exact pure []
  | cons a as ih =>
    rw [List.mapM_cons]
    exact bind (hf a) (bind ih (pure _))

/-- What a run gives is the result of evaluating it. -/
lemma evaluate {x : EvalM α} {a : α} (h : Gives g σ x a) : Workbook.evaluate x = a :=
  (h _ .empty).1

end Gives

end

/-- What is written for a cell, given the values of the workbook. -/
def cellWith (σ : Nat → Position → Value) (i : Nat) (s : Sheet) (p : Position) :
    Option WrittenCell :=
  let look := lookOf s.protection p
  match s.get? p with
  | some (.text t) =>
    if t.isEmpty then writtenBlank p look
    else some ⟨p, look, .text (stored (String.ofList (escaped t.toList)))⟩
  | some (.number x) =>
    if x.isNaN then some ⟨p, .locked, .text "#NUM!"⟩ else some ⟨p, look, .number x⟩
  | some (.formula e) =>
    some ⟨p, look, .formula (stored e.render) (stored (cachedResult (σ i p)))⟩
  | none =>
    match s.protection with
    | some plan => if plan.lockOf p = .unlocked then some ⟨p, .unlocked, .blank⟩ else none
    | none => none

/-- What is written for a sheet, given the values of the workbook. -/
def sheetWith (σ : Nat → Position → Value) (i : Nat) (s : Sheet) : WrittenSheet where
  name := s.name
  visibility := visibilityOf i s
  cells := (s.grid.map (cellWith σ i s)).filterMap id
  columns := writtenColumns s.columns
  choices := writtenChoices s.validations
  password := s.protection.map (·.password)
  frozenHeader := s.freezeHeader

section

variable {w : Workbook} {σ : Nat → Position → Value} (hg : w.grid.LayeredUnder σ)

include hg

/-- Writing a cell gives the cell with its value. -/
lemma writtenCell_gives (i : Nat) (s : Sheet) (p : Position) :
    Gives w.grid σ (writtenCell w i s p) (cellWith σ i s p) := by
  unfold writtenCell cellWith
  dsimp only
  generalize s.get? p = c
  cases c with
  | none => cases s.protection <;> exact .pure _
  | some c =>
    cases c with
    | text t => cases h : t.isEmpty <;> simp only [h] <;> exact .pure _
    | number x => cases h : x.isNaN <;> simp only [h] <;> exact .pure _
    | formula e =>
      exact .bind (fun c hc => Grid.valueAt_primed hg.solves (hg.primes i) p hc) (.pure _)

/-- Writing a sheet gives its cells with their values. -/
lemma writtenSheet_gives (i : Nat) (s : Sheet) :
    Gives w.grid σ (writtenSheet w i s) (sheetWith σ i s) :=
  .bind (.mapM _ (writtenCell_gives hg i s)) (.pure _)

/-- Each sheet of a workbook is written with the values of the workbook. -/
theorem writtenSheets_eq (hw : w.sheets ≠ []) :
    writtenSheets w = w.sheets.zipIdx.map fun (s, i) => sheetWith σ i s := by
  have written : Gives w.grid σ (w.sheets.zipIdx.mapM fun (s, i) => writtenSheet w i s)
      (w.sheets.zipIdx.map fun (s, i) => sheetWith σ i s) :=
    .mapM _ fun (s, i) => writtenSheet_gives hg i s
  have evaluated := written.evaluate
  unfold writtenSheets
  cases hs : w.sheets with
  | nil => exact absurd hs hw
  | cons s sheets =>
    rw [hs] at evaluated
    exact evaluated

end

/-- A sheet without formulas is written without evaluating anything. -/
lemma writtenSheet_of_plain {s : Sheet} (plain : ∀ p e, s.get? p ≠ some (.formula e)) (w : Workbook)
    (i : Nat) (σ : Nat → Position → Value) : writtenSheet w i s = pure (sheetWith σ i s) := by
  have cell : writtenCell w i s = fun p => pure (cellWith σ i s p) := by
    funext p
    have noFormula := plain p
    unfold writtenCell cellWith
    dsimp only
    generalize s.get? p = c at noFormula ⊢
    cases c with
    | none => cases s.protection <;> rfl
    | some c =>
      cases c with
      | text t => cases h : t.isEmpty <;> simp only [h] <;> rfl
      | number x => cases h : x.isNaN <;> simp only [h] <;> rfl
      | formula e => exact absurd rfl (noFormula e)
  unfold writtenSheet
  rw [cell, List.mapM_pure, pure_bind]
  rfl

/-! ## Reading back -/

/-- What a reader finds in a cell whose formula, if it holds one, has a value. -/
def seen (v : Value) : Option Cell → CellData
  | none => .empty
  | some (.text t) =>
    if t.isEmpty then .empty else .text (stored (String.ofList (escaped t.toList)))
  | some (.number x) => if x.isNaN then .text "#NUM!" else .number x
  | some (.formula _) => readResult (stored (cachedResult v))

/-- What a reader finds in a cell of a sheet. Outside its rows and columns there is nothing. -/
def found? (σ : Nat → Position → Value) (i : Nat) (s : Sheet) (p : Position) : Option CellData :=
  (cellWith σ i s p).bind (·.content.data?)

/-- In a cell a reader finds what stands there. -/
lemma found?_getD (σ : Nat → Position → Value) (i : Nat) (s : Sheet) (p : Position) :
    (found? σ i s p).getD .empty = seen (σ i p) (s.get? p) := by
  unfold found? cellWith seen
  dsimp only
  generalize s.get? p = c
  cases c with
  | none =>
    cases s.protection with
    | none => rfl
    | some plan =>
      dsimp only
      split <;> rfl
  | some c =>
    cases c with
    | text t =>
      cases h : t.isEmpty with
      | false =>
        simp only [h, Bool.false_eq_true, if_false]
        rfl
      | true =>
        simp only [h, if_true]
        unfold writtenBlank
        split <;> rfl
    | number x =>
      cases h : x.isNaN <;> simp only [h, Bool.false_eq_true, if_false, if_true] <;> rfl
    | formula e => simp only [Option.bind_some, Written.data?, Option.getD_some]

/-- What is written for a cell stands at its position. -/
lemma cellWith_position {σ : Nat → Position → Value} {i : Nat} {s : Sheet} {p : Position}
    {c : WrittenCell} (h : cellWith σ i s p = some c) : c.position = p := by
  unfold cellWith writtenBlank at h
  dsimp only at h
  repeat' split at h
  all_goals cases h
  all_goals rfl

/-- A reader finds the cells of a sheet at their positions. -/
lemma readCells_getElem? (σ : Nat → Position → Value) (i : Nat) (s : Sheet) (p : Position) :
    (readCells (sheetWith σ i s).cells)[p]? = if p ∈ s.grid then found? σ i s p else none := by
  have cells : (sheetWith σ i s).cells.filterMap
      (fun c => c.content.data?.map fun d => (c.position, d)) =
        s.grid.filterMap fun p => (found? σ i s p).map fun d => (p, d) := by
    unfold sheetWith
    dsimp only
    rw [List.filterMap_filterMap, List.filterMap_map]
    refine List.filterMap_congr fun p _ => ?_
    unfold found?
    cases hc : cellWith σ i s p with
    | none => simp [hc]
    | some c => simp [hc, cellWith_position hc]
  unfold readCells
  rw [cells, Position.getElem?_ofList_filterMap]

/-- A cell inside the rows and columns of a sheet comes back as what stands there. -/
theorem range_cell (σ : Nat → Position → Value) (i : Nat) {s : Sheet} {p : Position}
    (hrow : p.row < s.maxRow) (hcol : p.col < s.columnCount) :
    (sheetWith σ i s).range.cell p = seen (σ i p) (s.get? p) := by
  change (readCells (sheetWith σ i s).cells).getD p .empty = _
  rw [Std.TreeMap.getD_eq_getD_getElem?, readCells_getElem?,
    if_pos (Sheet.mem_grid.mpr ⟨hrow, hcol⟩), found?_getD]

/-- Outside the rows and columns of a sheet nothing comes back. -/
lemma range_cell_outside (σ : Nat → Position → Value) (i : Nat) {s : Sheet} {p : Position}
    (h : p ∉ s.grid) : (sheetWith σ i s).range.cell p = .empty := by
  change (readCells (sheetWith σ i s).cells).getD p .empty = _
  rw [Std.TreeMap.getD_eq_getD_getElem?, readCells_getElem?, if_neg h, Option.getD_none]

/-- The greatest of some numbers. -/
lemma foldl_max_eq {ns : List Nat} {n : Nat} (hn : n ∈ ns) (le : ∀ m ∈ ns, m ≤ n) :
    ns.foldl max 0 = n := by
  rw [List.foldl_eq_foldr]
  refine Nat.le_antisymm ?_ (List.le_max_of_le hn (Nat.le_refl n))
  exact List.max_le_of_forall_le ns n le

/-- The range of a sheet ends with its last row if a formula stands there. -/
theorem range_lastRow (σ : Nat → Position → Value) (i : Nat) {s : Sheet} {p : Position}
    {e : Formula.Expr} (he : s.get? p = some (.formula e)) (hrow : p.row + 1 = s.maxRow)
    (hcol : p.col < s.columnCount) :
    (sheetWith σ i s).range.lastRow = p.row := by
  change ((readCells (sheetWith σ i s).cells).keys.map (·.row)).foldl max 0 = p.row
  have keys : ∀ q, q ∈ (readCells (sheetWith σ i s).cells).keys ↔
      q ∈ s.grid ∧ (found? σ i s q).isSome := by
    intro q
    rw [Std.TreeMap.mem_keys, ← Std.TreeMap.isSome_getElem?_iff_mem, readCells_getElem?]
    split
    · next h => simp [h]
    · next h => simp [h]
  apply foldl_max_eq
  · refine List.mem_map_of_mem ((keys p).mpr ⟨Sheet.mem_grid.mpr ⟨by omega, hcol⟩, ?_⟩)
    unfold found? cellWith
    simp only [he]
    rfl
  · intro m hm
    obtain ⟨q, hq, rfl⟩ := List.mem_map.mp hm
    have := (Sheet.mem_grid.mp ((keys q).mp hq).1).1
    omega

/-! ## Results of formulas -/

/-- A text without unwritable characters is stored as it is. -/
lemma stored_eq {s : String} (h : ∀ c ∈ s.toList, isUnwritable c = false) : stored s = s := by
  have same : s.toList.flatMap (fun c => if isUnwritable c then characterCode c else [c]) =
      s.toList.flatMap fun c => [c] :=
    List.flatMap_congr fun c hc => by rw [h c hc, if_neg Bool.false_ne_true]
  rw [stored, same, List.flatMap_singleton', String.ofList_toList]

/-- The text of a number has no unwritable characters. -/
lemma stored_cellText (x : Float) : stored (Number.cellText x) = Number.cellText x := by
  refine stored_eq fun c hc => ?_
  have char := Number.isTextChar_cellText x c hc
  simp only [Number.isTextChar, Bool.or_eq_true, List.contains_iff_mem, List.mem_cons,
    List.not_mem_nil, or_false] at char
  rcases char with digit | rfl | rfl | rfl | rfl | rfl | rfl | rfl
  · have code : 48 ≤ c.toNat ∧ c.toNat ≤ 57 := by
      simpa [Char.isDigit, UInt32.le_iff_toNat_le] using digit
    have control : decide (c.toNat < 32) = false := decide_eq_false (by omega)
    have last : ∀ n, 57 < n → (c.toNat == n) = false := fun n hn => beq_false_of_ne (by omega)
    rw [isUnwritable, control, last _ (by decide), last _ (by decide)]
    rfl
  all_goals decide

/-- A numeric result is read as its own text, and a fault as nothing, in a column without dates. -/
theorem cellText_readResult {v : Value} (h : v.Numeric) {kind : Report.ValueKind}
    (hkind : kind ≠ .dateTime) :
    Submission.cellText kind (readResult (stored (cachedResult v))) = .ok (cachedResult v) := by
  have empty : Submission.cellText kind (readResult (stored "")) = .ok "" := by
    have blank : readResult (stored "") = .text "" := by decide
    rw [blank]
    rfl
  cases v with
  | bool b => exact h.elim
  | empty => exact empty
  | fault f => exact empty
  | text s =>
    obtain rfl : s = "" := h
    exact empty
  | number x =>
    change Submission.cellText kind (readResult (stored (Number.cellText x))) =
      .ok (Number.cellText x)
    rw [stored_cellText, readResult]
    cases hx : Number.read? (Number.cellText x) with
    | none => rfl
    | some y =>
      change (if kind = .dateTime then _ else Except.ok (Number.cellText y)) = _
      rw [if_neg hkind, Number.cellText_of_read hx]

end ShipReport.Xlsx
