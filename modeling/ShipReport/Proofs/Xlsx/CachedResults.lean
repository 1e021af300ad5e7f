import ShipReport.Proofs.Formula.Kept
import ShipReport.Proofs.Xlsx.Written

/-!
# Cached results

A workbook is written by one evaluator for all sheets, while a cell that is asked for is evaluated
afresh. On a grid that is layered under a solution both find the same. Without that they need not:
`chain` is a workbook without cycles in which a formula of the first sheet asks for the end of a
long chain on the second. The chain is then followed before its sheet is primed, and where it is cut
off the evaluator keeps a cycle, which is still kept when the second sheet is written.
-/

namespace ShipReport

namespace Formula

/-- No formula reads its own cell, not even through others: every formula has a rank above those of
the cells that it looks at. -/
def Grid.CycleFree (g : Grid) : Prop :=
  ∃ rank : Nat → Position → Nat, ∀ i p e, g.content i p = some (.formula e) →
    e.ReadsWithin g.sheetIndex i fun j q => rank j q < rank i p

end Formula

namespace Xlsx

open Formula (Cache EvalM Expr Grid Position Value)
open Workbook (Cell Column Sheet)

/-! ## A chain of formulas -/

/-- A cell of the chain: the first holds the number one, every other takes the value of the cell
above it. -/
def link : Nat → Cell
  | 0 => .number 1
  | k + 1 => .formula (.cell (.here (k + 1) 0))

/-- The cells of a chain with `n` cells, from the first data row on. -/
def links (n : Nat) : List (Position × Cell) :=
  (List.range n).map fun k => (⟨k + 1, 0⟩, link k)

/-- The column of the chain, and of the formula that asks for its end. -/
def chainColumns : List Column :=
  [⟨"Value", .computed, 10⟩]

/-- A sheet with a chain. -/
def chainSheet (n : Nat) : Sheet :=
  (Sheet.new "Chain" none chainColumns (n + 1)).setAll (links n)

/-- The formula that asks for the end of the chain. -/
def askForEnd (n : Nat) : Expr :=
  .cell (.onSheet "Chain" n 0)

/-- A sheet that asks for the end of the chain. -/
def endSheet (n : Nat) : Sheet :=
  (Sheet.new "End" none chainColumns 2).set ⟨1, 0⟩ (.formula (askForEnd n))

/-- A workbook with a chain of cells, which another sheet before it asks for the end of. -/
def chain (n : Nat) : Workbook :=
  ⟨[endSheet n, chainSheet n]⟩

/-- The values of the cells of the chain: all formulas have the value of the first cell. -/
def chainValues (n : Nat) (i : Nat) (p : Position) : Value :=
  match (chain n).grid.content i p with
  | none => .empty
  | some (.value v) => v
  | some (.formula _) => .number 1

section

variable {n k : Nat} {p : Position} {e : Expr} {c : Cache}

/-- The cells of the links. -/
lemma mem_links {c : Cell} : (p, c) ∈ links n ↔ ∃ k < n, p = ⟨k + 1, 0⟩ ∧ c = link k := by
  simp only [links, List.mem_map, List.mem_range, Prod.mk.injEq, eq_comm]

/-- The cells of the chain stand one below the other. -/
lemma get?_chainSheet (hk : k < n) : (chainSheet n).get? ⟨k + 1, 0⟩ = some (link k) := by
  refine Sheet.get?_setAll_of_mem (mem_links.mpr ⟨k, hk, rfl, rfl⟩) fun d hd => ?_
  obtain ⟨j, -, hj, rfl⟩ := mem_links.mp hd
  obtain rfl : j = k := (Nat.succ.inj (congrArg Position.row hj)).symm
  rfl

/-- A formula of the chain takes the value of the cell above it. -/
lemma chainSheet_formula (he : (chainSheet n).get? p = some (.formula e)) :
    ∃ k, k + 1 < n ∧ p = ⟨k + 2, 0⟩ ∧ e = .cell (.here (k + 1) 0) := by
  rcases Sheet.mem_of_get?_setAll he with hmem | ⟨-, hnew⟩
  · obtain ⟨k, hk, rfl, hlink⟩ := mem_links.mp hmem
    cases k with
    | zero => cases hlink
    | succ k => exact ⟨k, hk, rfl, Cell.formula.inj hlink⟩
  · obtain ⟨-, header, hheader⟩ := Sheet.get?_new hnew
    cases hheader

/-- The only formula beside the chain asks for its end. -/
lemma endSheet_formula (he : (endSheet n).get? p = some (.formula e)) :
    p = ⟨1, 0⟩ ∧ e = askForEnd n := by
  unfold endSheet at he
  rw [Sheet.get?_set] at he
  split at he
  · next same => exact ⟨same.symm, (Cell.formula.inj (Option.some.inj he)).symm⟩
  · obtain ⟨-, header, hheader⟩ := Sheet.get?_new he
    cases hheader

/-- The formulas of the workbook. -/
lemma chain_formula {i : Nat} (he : (chain n).grid.content i p = some (.formula e)) :
    i = 0 ∧ p = ⟨1, 0⟩ ∧ e = askForEnd n ∨
      i = 1 ∧ ∃ k, k + 1 < n ∧ p = ⟨k + 2, 0⟩ ∧ e = .cell (.here (k + 1) 0) := by
  obtain ⟨s, hs, he⟩ := Workbook.grid_formula.mp he
  match i with
  | 0 =>
    obtain rfl := Option.some.inj hs
    exact .inl ⟨rfl, endSheet_formula he⟩
  | 1 =>
    obtain rfl := Option.some.inj hs
    exact .inr ⟨rfl, chainSheet_formula he⟩
  | i + 2 => cases hs

/-- A link stands in each row. -/
lemma chain_link (hk : k < n) : (chain n).grid.content 1 ⟨k + 1, 0⟩ = some (link k).content := by
  rw [Workbook.grid_content]
  change ((chainSheet n).get? _).map _ = _
  rw [get?_chainSheet hk]
  rfl

/-- The end asks for the last link. -/
lemma chain_end : (chain n).grid.content 0 ⟨1, 0⟩ = some (.formula (askForEnd n)) := by
  refine Workbook.grid_formula.mpr ⟨endSheet n, rfl, ?_⟩
  unfold endSheet
  rw [Sheet.get?_set, if_pos rfl]

/-- The sheet of the chain is the second. -/
lemma sheetIndex_chain : (chain n).grid.sheetIndex "Chain" = some 1 := by
  rfl

/-- No formula of the workbook reads its own cell. -/
lemma cycleFree_chain : (chain n).grid.CycleFree := by
  refine ⟨fun i p => if i = 0 then n + 1 else p.row, fun i p e he => ?_⟩
  rcases chain_formula he with ⟨rfl, rfl, rfl⟩ | ⟨rfl, k, -, rfl, rfl⟩
  · exact (Expr.readsWithin_cell_of_sheet sheetIndex_chain).mpr (Nat.lt_succ_self n)
  · exact Expr.readsWithin_cell.mpr (Nat.lt_succ_self (k + 1))

/-- Each link shows one. -/
lemma chainValues_link (hk : k < n) : chainValues n 1 ⟨k + 1, 0⟩ = .number 1 := by
  unfold chainValues
  rw [chain_link hk]
  cases k <;> rfl

/-- The values of the chain solve its formulas. -/
lemma chainValues_solves (hn : 0 < n) : (chain n).grid.Solves (chainValues n) := by
  intro i p
  unfold Grid.valueFrom
  cases hc : (chain n).grid.content i p with
  | none => simp only [chainValues, hc]
  | some content =>
    cases content with
    | value v => simp only [chainValues, hc]
    | formula e =>
      -- every formula reads a cell of the chain, the value of which is one
      have value : e.valueUnder (chain n).grid.sheetIndex (chainValues n) i = .number 1 := by
        rcases chain_formula hc with ⟨rfl, rfl, rfl⟩ | ⟨rfl, k, hk, rfl, rfl⟩
        · obtain ⟨k, rfl⟩ := Nat.exists_eq_add_of_lt hn
          exact (Expr.valueUnder_cell_of_sheet sheetIndex_chain).trans
            (chainValues_link (by omega))
        · exact Expr.valueUnder_cell.trans (chainValues_link (by omega))
      simp only [value]
      simp only [chainValues, hc]
      rfl

/-- As many formulas are nested behind a cell of the chain as there are cells above it. -/
lemma nests_link (known : Nat → Position → Prop) (hk : k < n) :
    (chain n).grid.NestsWithin known k 1 ⟨k + 1, 0⟩ := by
  induction k with
  | zero =>
    refine .of_plain fun e he => ?_
    rw [chain_link hk] at he
    cases he
  | succ k ih =>
    refine .of_formula fun e he => ?_
    rw [chain_link hk] at he
    cases he
    exact Expr.readsWithin_cell.mpr (ih (by omega))

/-- A formula of the chain nests nothing when those above it are known. -/
lemma nests_chainSheet {before after : List Position}
    (h : (chain n).grid.formulas 1 = before ++ p :: after) :
    (chain n).grid.NestsWithin (Grid.among 1 before) 1 1 p := by
  refine .of_formula fun e he => ?_
  rcases chain_formula he with ⟨h0, -⟩ | ⟨-, k, hk, rfl, rfl⟩
  · cases h0
  · refine Expr.readsWithin_cell.mpr ?_
    cases k with
    | zero => exact nests_link _ (by omega)
    | succ k =>
      refine .of_known ⟨rfl, ?_⟩
      exact Workbook.mem_before_grid h (chain_link (k := k + 1) (by omega))
        (Position.compare_eq_lt.mpr (.inl (Nat.lt_succ_self _)))

/-- Priming the sheet of the chain gives its formulas their values, however long it is. -/
lemma primes_chain (hn : 0 < n) : (chain n).grid.Primes (chainValues n) 1 where
  listed p e he := Workbook.mem_grid_formulas.mpr ⟨e, he⟩
  reads before p after h := by
    have nests := (nests_chainSheet h).mono (fun _ _ => id) (by decide : 1 ≤ Formula.depthLimit)
    exact nests.under.readable (chainValues_solves hn)

/-- A cell of the chain has the value one when it is asked for alone, however long the chain is. -/
theorem value_chain (hk : k < n) : (chain n).value "Chain" ⟨k + 1, 0⟩ = .number 1 := by
  have solves := chainValues_solves (n := n) (by omega)
  have value := Grid.value_primed solves sheetIndex_chain (primes_chain (by omega)) ⟨k + 1, 0⟩
  exact value.trans (chainValues_link hk)

/-- The formulas nest within the limit if the chain is not longer than that. -/
lemma layered_chain (hn : 0 < n) (hle : n ≤ Formula.depthLimit) : (chain n).grid.Layered where
  listed i p e he := Workbook.mem_grid_formulas.mpr ⟨e, he⟩
  nests i before p after h := by
    have listed : p ∈ (chain n).grid.formulas i := h ▸ List.mem_append_right _ List.mem_cons_self
    obtain ⟨e, he⟩ := Workbook.mem_grid_formulas.mp listed
    rcases chain_formula he with ⟨rfl, rfl, -⟩ | ⟨rfl, -⟩
    · obtain ⟨k, rfl⟩ : ∃ k, n = k + 1 := ⟨n - 1, by omega⟩
      refine Grid.NestsWithin.mono (fun _ _ => id) hle (.of_formula fun e he => ?_)
      rw [chain_end] at he
      cases he
      have inside := nests_link (Grid.among 0 before) (Nat.lt_succ_self k)
      exact (Expr.readsWithin_cell_of_sheet sheetIndex_chain).mpr inside
    · exact (nests_chainSheet h).mono (fun _ _ => id) (by decide : 1 ≤ Formula.depthLimit)

/-- A sheet that has only its header can be written. -/
lemma checkSheet_new {name : String} (maxRow : Nat) (h : checkName name = .ok ()) :
    checkSheet (Sheet.new name none chainColumns maxRow) = .ok () := by
  have texts : checkTexts (Sheet.new name none chainColumns maxRow) = .ok () := by
    refine checkTexts_eq_ok.mpr fun p hp t ht => ?_
    obtain ⟨hrow, -⟩ := Sheet.get?_new ht
    have hcol : p.col = 0 := Nat.lt_one_iff.mp (Sheet.mem_grid.mp hp).2
    obtain rfl : p = ⟨0, 0⟩ := by
      cases p
      simp_all
    rw [Sheet.get?_new_header (c := ⟨"Value", .computed, 10⟩) (by decide) rfl] at ht
    cases ht
    decide
  have columns : ¬ columnLimit < (Sheet.new name none chainColumns maxRow).columns.length :=
    Nat.not_lt_of_le (by decide : chainColumns.length ≤ columnLimit)
  exact bind_eq_ok.mpr ⟨(), h, guard_eq_ok.mpr ⟨columns, bind_eq_ok.mpr ⟨(), texts, rfl⟩⟩⟩

/-- The workbook with the chain can be written. -/
lemma render_chain (n : Nat) : render (chain n) = .ok (writtenSheets (chain n)) := by
  have names : (chain n).sheets.map (·.name) = ["End", "Chain"] := rfl
  refine render_of_checks (fun s hs => ?_) (by rw [names]; decide)
  rcases List.mem_pair.mp hs with rfl | rfl
  · refine checkSheet_of_cells (checkSheet_new 2 (by decide : checkName "End" = .ok ())) rfl ?_
    intro p t ht
    unfold endSheet at ht
    rw [Sheet.get?_set] at ht
    split at ht
    · cases ht
    · exact .inl ht
  · refine checkSheet_of_cells
      (checkSheet_new (n + 1) (by decide : checkName "Chain" = .ok ())) rfl ?_
    intro p t ht
    rcases Sheet.mem_of_get?_setAll ht with hmem | ⟨-, hnew⟩
    · obtain ⟨k, -, -, hlink⟩ := mem_links.mp hmem
      cases k <;> cases hlink
    · exact .inl hnew

end

/-! ## Results within the limit -/

/-- A sheet is found by its name if no other has it. -/
lemma sheetIndex?_of_nodup {w : Workbook} (nodup : (w.sheets.map (·.name)).Nodup) {i : Nat}
    {s : Sheet} (hs : w.sheets[i]? = some s) : w.sheetIndex? s.name = some i := by
  obtain ⟨hi, rfl⟩ := List.getElem?_eq_some_iff.mp hs
  refine List.findIdx?_eq_some_iff_getElem.mpr ⟨hi, beq_self_eq_true _, fun j hj => ?_⟩
  rw [Bool.not_eq_true, beq_eq_false_iff_ne]
  have apart := List.pairwise_iff_getElem.mp nodup j i (by simp; omega) (by simpa using hi) hj
  simpa using apart

/-- If the formulas of a workbook nest within the limit once those listed before them on their own
sheet are known, then what is written for a formula is its text with the text of the value that the
cell has when it is asked for alone, and nothing for a fault. -/
theorem written_formula {w : Workbook} {sheets : List WrittenSheet} (hr : render w = .ok sheets)
    {σ : Nat → Position → Value} (hσ : w.grid.LayeredUnder σ) {i : Nat} {s : Sheet}
    (hs : w.sheets[i]? = some s) {p : Position} (hp : p ∈ s.grid) {e : Expr}
    (he : s.get? p = some (.formula e)) :
    ∃ sheet, sheets[i]? = some sheet ∧ ∀ c : WrittenCell, c ∈ sheet.cells ∧ c.position = p ↔
      c = ⟨p, lookOf s.protection p,
        .formula (stored e.render) (stored (cachedResult (w.value s.name p)))⟩ := by
  obtain ⟨rfl, nodup, -⟩ := render_ok hr
  have value : w.value s.name p = σ i p :=
    Grid.value_primed hσ.solves (sheetIndex?_of_nodup nodup hs) (hσ.primes i) p
  have cell : cellWith σ i s p = some ⟨p, lookOf s.protection p,
      .formula (stored e.render) (stored (cachedResult (w.value s.name p)))⟩ := by
    unfold cellWith
    simp only [he, value]
  have written : (writtenSheets w)[i]? = some (sheetWith σ i s) := by
    rw [writtenSheets_eq hσ (List.ne_nil_of_mem (List.mem_of_getElem? hs))]
    simp [List.getElem?_zipIdx, hs]
  refine ⟨_, written, fun c => ?_⟩
  simp only [sheetWith, List.filterMap_map, List.mem_filterMap]
  constructor
  · rintro ⟨⟨q, -, hc⟩, rfl⟩
    -- a cell that stands at the position is the one that was written for it
    obtain rfl := cellWith_position hc
    exact Option.some.inj (hc.symm.trans cell)
  · rintro rfl
    exact ⟨⟨p, hp, cell⟩, rfl⟩

/-- A chain just as long as the limit allows is written with the value of its first cell, also when
its end is asked for first. -/
theorem chain_end_written :
    render (chain 256) = .ok (writtenSheets (chain 256)) ∧
      (chain 256).grid.LayeredUnder (chainValues 256) ∧
      ∃ sheet, (writtenSheets (chain 256))[1]? = some sheet ∧
        ∀ c : WrittenCell, c ∈ sheet.cells ∧ c.position = ⟨256, 0⟩ ↔
          c = ⟨⟨256, 0⟩, .locked, .formula (stored (Expr.cell (.here 255 0)).render)
            (stored (cachedResult (.number 1)))⟩ := by
  have layered := (layered_chain (n := 256) (by decide) (by decide)).under
    (chainValues_solves (by decide))
  refine ⟨render_chain 256, layered, ?_⟩
  have written := written_formula (render_chain 256) layered (i := 1) (s := chainSheet 256) rfl
    (Sheet.mem_grid.mpr ⟨by decide, by decide⟩) (get?_chainSheet (k := 255) (by decide))
  have value : (chain 256).value (chainSheet 256).name ⟨255 + 1, 0⟩ = .number 1 :=
    value_chain (by decide)
  rw [value] at written
  exact written

/-! ## Results beyond the limit -/

section

variable {n k : Nat} {c : Cache}

/-- The end of a chain that is followed too far reads as a cycle. The chain is cut off deep down,
and the cells that come after the cut are kept. -/
lemma read_end {d : Nat} (hd : d < k) (hk : k < n) (hc : ∀ q : Position, c.values[(1, q)]? = none) :
    (((chain n).grid.read d 1 ⟨k + 1, 0⟩).run c).1 = .fault .cycle ∧
      (0 < d →
        (((chain n).grid.read d 1 ⟨k + 1, 0⟩).run c).2.values[(1, (⟨k + 1, 0⟩ : Position))]? =
          some (.fault .cycle)) := by
  induction d generalizing k with
  | zero =>
    obtain ⟨k, rfl⟩ : ∃ j, k = j + 1 := ⟨k - 1, by omega⟩
    rw [Grid.read_cut (hc _) (chain_link hk)]
    exact ⟨rfl, fun h => absurd h (Nat.lt_irrefl 0)⟩
  | succ d ih =>
    obtain ⟨k, rfl⟩ : ∃ j, k = j + 1 := ⟨k - 1, by omega⟩
    obtain ⟨above, -⟩ := ih (k := k) (by omega) (by omega)
    rw [Grid.read_formula (hc _) (chain_link hk), Formula.CellRef.here, Expr.meaning_cell]
    dsimp only
    rw [above]
    refine ⟨rfl, fun _ => ?_⟩
    change (Std.HashMap.insert _ _ _)[_]? = _
    rw [Std.HashMap.getElem?_insert_self]
    rfl

/-- The first sheet has one formula. -/
lemma formulas_end : (chain n).grid.formulas 0 = [⟨1, 0⟩] := by
  rfl

/-- After the sheet that asks for the end of a long chain is primed, a cycle is kept there. -/
lemma prime_end (hn : Formula.depthLimit < n) :
    (((chain n).grid.prime 0).run Cache.empty).2.values[(1, (⟨n, 0⟩ : Position))]? =
      some (.fault .cycle) := by
  obtain ⟨k, rfl⟩ : ∃ k, n = k + 1 := ⟨n - 1, by omega⟩
  obtain ⟨above, kept⟩ := read_end (n := k + 1) (c := { Cache.empty with primed := [0] })
    (Nat.lt_of_succ_lt_succ hn) (Nat.lt_succ_self k) fun q => by simp [Cache.empty]
  -- the only formula asks for the end of the chain, one level down
  rw [Grid.prime_fresh List.not_mem_nil, formulas_end]
  change (((chain (k + 1)).grid.read (255 + 1) 0 ⟨1, 0⟩).run
    { Cache.empty with primed := [0] }).2.values[_]? = _
  rw [Grid.read_formula (by simp [Cache.empty]) chain_end, askForEnd,
    Formula.CellRef.onSheet, Expr.meaning_cell_of_sheet (sheetIndex_chain (n := k + 1))]
  dsimp only
  rw [above]
  change (Std.HashMap.insert _ _ _)[_]? = _
  rw [Std.HashMap.getElem?_insert, if_neg (by simp)]
  exact kept (by decide)

end

/-- A cell for which a value is kept is written with that value. -/
lemma writtenSheet_keeping {w : Workbook} {i : Nat} {s : Sheet} {p : Position} {e : Expr}
    {v : Value} (hp : p ∈ s.grid) (he : s.get? p = some (.formula e)) :
    Formula.Keeping (i, p) v (fun sheet => ⟨p, lookOf s.protection p,
      .formula (stored e.render) (stored (cachedResult v))⟩ ∈ sheet.cells)
      (writtenSheet w i s) := by
  have each (q : Position) : Formula.Keeping (i, p) v (fun written => q = p → written =
      some ⟨p, lookOf s.protection p, .formula (stored e.render) (stored (cachedResult v))⟩)
      (writtenCell w i s q) := by
    unfold writtenCell
    dsimp only
    rcases eq_or_ne q p with rfl | other
    · rw [he]
      exact (Grid.valueAt_keeping i q).bind fun a ha => .pure fun _ => by rw [ha rfl]
    · have aside := Grid.valueAt_keeping (g := w.grid) (k := (i, p)) (v := v) i q
      generalize s.get? q = content
      cases content with
      | none => cases s.protection <;> exact .pure fun same => absurd same other
      | some c =>
        cases c with
        | text t =>
          cases h : t.isEmpty <;> simp only [h] <;> exact .pure fun same => absurd same other
        | number x =>
          cases h : x.isNaN <;> simp only [h] <;> exact .pure fun same => absurd same other
        | formula e => exact aside.bind fun a _ => .pure fun same => absurd same other
  refine (Formula.Keeping.mapM s.grid each).bind fun cells hcells => .pure ?_
  obtain ⟨written, hmem, h⟩ := hcells p hp
  exact List.mem_filterMap.mpr ⟨written, hmem, h rfl⟩

section

variable {n : Nat}

/-- After the sheet that asks for the end of a long chain is written, a cycle is kept there. -/
lemma kept_end (hn : Formula.depthLimit < n) :
    ((writtenSheet (chain n) 0 (endSheet n)).run Cache.empty).2.values[(1, (⟨n, 0⟩ : Position))]? =
      some (.fault .cycle) := by
  have header : (endSheet n).get? ⟨0, 0⟩ = some (.text "Value") := by
    rfl
  have asks : (endSheet n).get? ⟨1, 0⟩ = some (.formula (askForEnd n)) := by
    rfl
  have grid : (endSheet n).grid = [⟨0, 0⟩, ⟨1, 0⟩] := by
    rfl
  -- the header leaves the cache empty, and the formula primes the sheet
  unfold writtenSheet
  rw [grid]
  simp only [List.mapM_cons, List.mapM_nil]
  unfold writtenCell
  simp only [header, asks]
  have read := Grid.read_keeping (g := (chain n).grid) Formula.depthLimit 0 ⟨1, 0⟩ _ (prime_end hn)
  exact read.2

/-- In the file the end of a long chain is blank, though the first cell of the chain holds a
number. -/
theorem written_chain (hn : Formula.depthLimit < n) :
    ∃ sheet, (writtenSheets (chain n))[1]? = some sheet ∧
      ⟨⟨n, 0⟩, .locked, .formula (stored (Expr.cell (.here (n - 1) 0)).render) ""⟩ ∈
        sheet.cells := by
  obtain ⟨k, rfl⟩ := Nat.exists_eq_add_of_le' (Nat.le_trans (by decide) hn : 2 ≤ n)
  have inside : (⟨k + 2, 0⟩ : Position) ∈ (chainSheet (k + 2)).grid :=
    Sheet.mem_grid.mpr ⟨Nat.lt_succ_self (k + 2), Nat.one_pos⟩
  have kept := writtenSheet_keeping (w := chain (k + 2)) inside
    (get?_chainSheet (k := k + 1) (Nat.lt_succ_self _)) _ (kept_end hn)
  exact ⟨_, rfl, kept.1⟩

end

/-- With one formula more than the limit the end of the chain is blank in the file, although it has
the value one. -/
theorem chain_end_blank :
    (chain 257).grid.CycleFree ∧ (chain 257).value "Chain" ⟨257, 0⟩ = .number 1 ∧
      stored (cachedResult (.number 1)) = "1" ∧
      ∃ sheets sheet, render (chain 257) = .ok sheets ∧ sheets[1]? = some sheet ∧
        ⟨⟨257, 0⟩, .locked, .formula (stored (Expr.cell (.here 256 0)).render) ""⟩ ∈
          sheet.cells := by
  obtain ⟨sheet, hsheet, blank⟩ := written_chain (n := 257) (by decide)
  exact ⟨cycleFree_chain, value_chain (by decide), by decide, _, sheet, render_chain 257, hsheet,
    blank⟩

end Xlsx

end ShipReport
