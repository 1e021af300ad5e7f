import Mathlib.Tactic.Lemma
import ShipReport.Workbook.Basic

/-!
# Cells of a sheet

What a cell holds after others have been written, and the order in which the formulas of a sheet are
listed.
-/

namespace ShipReport

open Formula (Position Expr)

namespace Formula.Position

/-- Positions are compared by row, then by column. -/
lemma compare_eq (p q : Position) :
    compare p q = (compare p.row q.row).then (compare p.col q.col) := rfl

/-- A position comes before another in a lower row or further left in the same row. -/
lemma compare_eq_lt {p q : Position} :
    compare p q = .lt ↔ p.row < q.row ∨ p.row = q.row ∧ p.col < q.col := by
  rw [compare_eq, Ordering.then_eq_lt]
  simp only [Nat.compare_eq_lt, Nat.compare_eq_eq]

/-- Positions compare as equal only if they are. -/
lemma compare_eq_eq {p q : Position} : compare p q = .eq ↔ p = q := by
  rw [compare_eq, Ordering.then_eq_eq, Nat.compare_eq_eq, Nat.compare_eq_eq]
  cases p
  cases q
  simp

instance : Std.LawfulEqOrd Position where
  compare_self := compare_eq_eq.mpr rfl
  eq_of_compare := compare_eq_eq.mp

instance : Std.TransOrd Position where
  eq_swap {p q} := by
    rw [compare_eq, compare_eq, Ordering.swap_then, ← Std.OrientedOrd.eq_swap,
      ← Std.OrientedOrd.eq_swap]
  isLE_trans {p q r} := by
    simp only [compare_eq, Ordering.isLE_then_iff_and, Nat.isLE_compare, Nat.compare_eq_lt]
    omega

/-- A map made of what a function gives for some positions. -/
lemma getElem?_ofList_filterMap {β : Type} (ps : List Position) (f : Position → Option β)
    (q : Position) :
    (Std.TreeMap.ofList (ps.filterMap fun p => (f p).map fun d => (p, d)))[q]? =
      if q ∈ ps then f q else none := by
  have listed : ∀ d, (q, d) ∈ (ps.filterMap fun p => (f p).map fun d => (p, d)) ↔
      q ∈ ps ∧ f q = some d := by
    intro d
    simp only [List.mem_filterMap, Option.map_eq_some_iff, Prod.mk.injEq]
    constructor
    · rintro ⟨p, hp, _, hd, rfl, rfl⟩
      exact ⟨hp, hd⟩
    · rintro ⟨hq, hd⟩
      exact ⟨q, hq, d, hd, rfl, rfl⟩
  generalize ps.filterMap (fun p => (f p).map fun d => (p, d)) = l at listed
  rw [Std.TreeMap.ofList_eq_insertMany_empty, Std.TreeMap.getElem?_insertMany_list,
    List.findSomeRev?_eq_findSome?_reverse, Std.TreeMap.getElem?_emptyc, Option.or_none]
  -- of several entries for a position the last one counts, and all have the same value
  cases hfound : l.reverse.findSome? _ with
  | none =>
    have none : ∀ d, (q, d) ∉ l := fun d hd => by
      have := List.findSome?_eq_none_iff.mp hfound _ (List.mem_reverse.mpr hd)
      simp at this
    split
    · next hq =>
      cases hd : f q with
      | none => rfl
      | some d => exact absurd ((listed d).mpr ⟨hq, hd⟩) (none d)
    · rfl
  | some d =>
    obtain ⟨⟨p, d'⟩, hmem, hd⟩ := List.exists_of_findSome?_eq_some hfound
    simp only [Option.ite_none_right_eq_some, Position.compare_eq_eq, Option.some.injEq] at hd
    obtain ⟨rfl, rfl⟩ := hd
    obtain ⟨hq, hd⟩ := (listed d').mp (List.mem_reverse.mp hmem)
    rw [if_pos hq, hd]

end Formula.Position

namespace Workbook

/-- Columns after fewer than 65536 others are numbered by how many these are. -/
lemma columnNumber_of_lt {before : Nat} (h : before < 0x10000) : columnNumber before = before :=
  Nat.mod_eq_of_lt h

/-- A column number is at most the number of columns before it. -/
lemma columnNumber_le (before : Nat) : columnNumber before ≤ before :=
  Nat.mod_le before 0x10000

namespace Sheet

variable {s : Sheet} {p q : Position} {c : Cell}

/-- A cell that is written holds what was written, and every other one what it held. -/
lemma get?_set : (s.set p c).get? q = if p = q then some c else s.get? q := by
  simp only [get?, set, Std.TreeMap.getElem?_insert, Position.compare_eq_eq]

/-- A cell that is cleared is blank, and every other one holds what it held. -/
lemma get?_clear : (s.clear p).get? q = if p = q then none else s.get? q := by
  simp only [get?, clear, Std.TreeMap.getElem?_erase, Position.compare_eq_eq]

/-- What a cell holds after several writes was written there, or was there before and nothing was
written. -/
lemma mem_of_get?_setAll {cells : List (Position × Cell)} (h : (s.setAll cells).get? q = some c) :
    (q, c) ∈ cells ∨ (∀ d, (q, d) ∉ cells) ∧ s.get? q = some c := by
  unfold setAll get? at h
  -- of several writes to the cell the last one counts
  rw [Std.TreeMap.getElem?_insertMany_list, List.findSomeRev?_eq_findSome?_reverse,
    Option.or_eq_some_iff] at h
  rcases h with h | ⟨none, h⟩
  · obtain ⟨⟨p, d⟩, hmem, hd⟩ := List.exists_of_findSome?_eq_some h
    simp only [Option.ite_none_right_eq_some, Position.compare_eq_eq, Option.some.injEq] at hd
    obtain ⟨rfl, rfl⟩ := hd
    exact .inl (List.mem_reverse.mp hmem)
  · refine .inr ⟨fun d hd => ?_, h⟩
    have hq := List.findSome?_eq_none_iff.mp none _ (List.mem_reverse.mpr hd)
    simp at hq

/-- A cell holds what was written there, if nothing else was. -/
lemma get?_setAll_of_mem {cells : List (Position × Cell)} (h : (q, c) ∈ cells)
    (unique : ∀ d, (q, d) ∈ cells → d = c) : (s.setAll cells).get? q = some c := by
  have written : q ∈ s.cells.insertMany cells := by
    rw [Std.TreeMap.mem_insertMany_list]
    exact .inr (by simpa using ⟨c, h⟩)
  cases hd : (s.setAll cells).get? q with
  | none => simp [get?, setAll, written] at hd
  | some d =>
    rcases mem_of_get?_setAll hd with hmem | ⟨hnot, -⟩
    · rw [unique d hmem]
    · exact absurd h (hnot c)

/-- A cell to which nothing is written stays as it is. -/
lemma get?_setAll_of_not_mem {cells : List (Position × Cell)} (h : ∀ d, (q, d) ∉ cells) :
    (s.setAll cells).get? q = s.get? q := by
  unfold setAll get?
  rw [Std.TreeMap.getElem?_insertMany_list, List.findSomeRev?_eq_findSome?_reverse]
  rw [List.findSome?_eq_none_iff.mpr, Option.none_or]
  rintro ⟨p, d⟩ hmem
  rw [ite_eq_right_iff, Position.compare_eq_eq]
  rintro rfl
  exact absurd (List.mem_reverse.mp hmem) (h d)

/-- Cells may be written in two parts. -/
lemma get?_setAll_append (cells cells' : List (Position × Cell)) :
    (s.setAll (cells ++ cells')).get? q = ((s.setAll cells).setAll cells').get? q := by
  unfold setAll get?
  simp only [Std.TreeMap.getElem?_insertMany_list, List.findSomeRev?_eq_findSome?_reverse,
    List.reverse_append, List.findSome?_append, Option.or_assoc]

/-- An empty sheet holds its headers in the first row, if the columns have numbers of their own. -/
lemma get?_new_header {name : String} {kind : Option Report.ReportSheet} {columns : List Column}
    {maxRow col : Nat} {c : Column} (few : columns.length ≤ 0x10000) (hc : columns[col]? = some c) :
    (new name kind columns maxRow).get? ⟨0, col⟩ = some (.text c.header) := by
  have own : ∀ i c', columns[i]? = some c' → columnNumber i = i := fun i c' hi =>
    columnNumber_of_lt (Nat.lt_of_lt_of_le (List.getElem?_eq_some_iff.mp hi).1 few)
  have written : ((⟨0, col⟩ : Position), Cell.text c.header) ∈ headerCells columns := by
    refine List.mem_map.mpr ⟨(c, col), List.mk_mem_zipIdx_iff_getElem?.mpr hc, ?_⟩
    dsimp only
    rw [own col c hc]
  refine get?_setAll_of_mem (s := { new name kind columns maxRow with cells := ∅ }) written ?_
  intro d hd
  obtain ⟨⟨c', i⟩, hc', h⟩ := List.mem_map.mp hd
  have hi := List.mk_mem_zipIdx_iff_getElem?.mp hc'
  obtain ⟨hp, rfl⟩ := Prod.mk.inj h
  obtain rfl : i = col := (own i c' hi).symm.trans (congrArg Position.col hp)
  obtain rfl := Option.some.inj (hc.symm.trans hi)
  rfl

/-- An empty sheet holds nothing but its headers. -/
lemma mem_headerCells {name : String} {kind : Option Report.ReportSheet} {columns : List Column}
    {maxRow : Nat} (h : (new name kind columns maxRow).get? p = some c) :
    (p, c) ∈ headerCells columns := by
  have empty : (new name kind columns maxRow).get? p =
      ({ new name kind columns maxRow with cells := ∅ }.setAll (headerCells columns)).get? p := rfl
  rw [empty] at h
  rcases mem_of_get?_setAll h with h | ⟨-, h⟩
  · exact h
  · simp [get?] at h

/-- An empty sheet holds the texts of its headers. -/
lemma get?_new {name : String} {kind : Option Report.ReportSheet} {columns : List Column}
    {maxRow : Nat} (h : (new name kind columns maxRow).get? p = some c) :
    p.row = 0 ∧ ∃ header, c = .text header := by
  obtain ⟨⟨column, i⟩, -, hc⟩ := List.mem_map.mp (mem_headerCells h)
  obtain ⟨rfl, rfl⟩ := Prod.mk.inj hc
  exact ⟨rfl, column.header, rfl⟩

/-- The headers of an empty sheet stand in its columns. -/
lemma col_lt_of_get?_new {name : String} {kind : Option Report.ReportSheet} {columns : List Column}
    {maxRow : Nat} (h : (new name kind columns maxRow).get? p = some c) :
    p.col < columns.length := by
  obtain ⟨⟨column, i⟩, hi, hc⟩ := List.mem_map.mp (mem_headerCells h)
  obtain ⟨rfl, rfl⟩ := Prod.mk.inj hc
  exact Nat.lt_of_le_of_lt (columnNumber_le i) (List.snd_lt_of_mem_zipIdx hi)

/-- The grid of a sheet are the positions inside its rows and columns. -/
lemma mem_grid : p ∈ s.grid ↔ p.row < s.maxRow ∧ p.col < s.columnCount := by
  unfold grid
  simp only [List.mem_flatMap, List.mem_map, List.mem_range]
  constructor
  · rintro ⟨row, hrow, col, hcol, rfl⟩
    exact ⟨hrow, hcol⟩
  · exact fun ⟨hrow, hcol⟩ => ⟨p.row, hrow, p.col, hcol, rfl⟩

/-- A formula is listed exactly where it stands. -/
lemma mem_formulaPositions : p ∈ s.formulaPositions ↔ ∃ e, s.get? p = some (.formula e) := by
  unfold formulaPositions get?
  simp only [List.mem_map, List.mem_filter, Prod.exists,
    Std.TreeMap.mem_toList_iff_getElem?_eq_some]
  constructor
  · rintro ⟨_, c, ⟨hc, hf⟩, rfl⟩
    cases c with
    | formula e => exact ⟨e, hc⟩
    | _ => simp [Cell.isFormula] at hf
  · rintro ⟨e, he⟩
    exact ⟨p, .formula e, ⟨he, rfl⟩, rfl⟩

/-- Formulas are listed row by row. -/
lemma formulaPositions_ordered : s.formulaPositions.Pairwise fun p q => compare p q = .lt := by
  unfold formulaPositions
  exact List.pairwise_map.mpr (Std.TreeMap.ordered_keys_toList.filter _)

/-- The formulas before a formula are listed before it. -/
lemma mem_before {before after : List Position} (h : s.formulaPositions = before ++ p :: after)
    {e : Expr} (hq : s.get? q = some (.formula e)) (hlt : compare q p = .lt) : q ∈ before := by
  have hmem : q ∈ before ++ p :: after := h ▸ mem_formulaPositions.mpr ⟨e, hq⟩
  have ordered := h ▸ formulaPositions_ordered (s := s)
  rcases List.mem_append.mp hmem with hmem | hmem
  · exact hmem
  · exfalso
    -- what is listed from `p` on does not come before `p`
    have hpq := (List.pairwise_cons.mp (List.pairwise_append.mp ordered).2.1).1
    rcases List.mem_cons.mp hmem with rfl | hmem
    · simp at hlt
    · have hgt := hpq q hmem
      rw [Std.OrientedOrd.eq_swap, hlt] at hgt
      cases hgt

end Sheet

end Workbook

end ShipReport
