import ShipReport.Proofs.Formula.AddressText

/-!
# Which ranges addresses name

The ranges that the reader of addresses can return are the ones whose corners are in order, whose
rows fit in 32 bits and whose columns have at most three letters. These are also the ranges whose
own text is read back, so that every address that is read has a normal form with the same meaning.
-/

namespace ShipReport.Formula

/-- A rectangle whose corners are in order and whose rows, counted from one, fit in 32 bits. -/
structure RangeRef.Proper (r : RangeRef) : Prop where
  rows : r.firstRow ≤ r.lastRow
  cols : r.firstCol ≤ r.lastCol
  bound : r.lastRow + 1 < 0x100000000

/-- A letter is one of 26, whatever its case. -/
lemma letterValue_le {c : Char} (h : c.isAlpha) : letterValue c ≤ 26 := by
  have small : c.toNat < 123 := by
    simp only [Char.isAlpha, Char.isUpper, Char.isLower, Bool.or_eq_true, Bool.and_eq_true,
      decide_eq_true_eq, ge_iff_le, UInt32.le_iff_toNat_le] at h
    rcases h with ⟨-, high⟩ | ⟨-, high⟩
    · exact Nat.lt_of_le_of_lt high (by decide)
    · exact Nat.lt_of_le_of_lt high (by decide)
  have all : ∀ n < 123, letterValue (Char.ofNat n) ≤ 26 ∨ (Char.ofNat n).isAlpha = false := by
    decide
  rcases Char.ofNat_toNat c ▸ all c.toNat small with le | other
  · exact le
  · rw [h] at other
    cases other

/-- Up to three letters name one of 18278 columns. -/
lemma columnIndex?_lt {letters : List Char} {col : Nat} (h : columnIndex? letters = some col) :
    col < 18278 := by
  rw [columnIndex?] at h
  split at h
  · cases h
  · next fits =>
    simp only [Bool.or_eq_true, not_or, decide_eq_true_eq, Nat.not_lt, Bool.not_eq_true,
      Bool.not_eq_false', List.all_eq_true] at fits
    obtain ⟨⟨-, short⟩, alphabetic⟩ := fits
    have value : ∀ c ∈ letters, letterValue c ≤ 26 := fun c hc => letterValue_le (alphabetic c hc)
    cases h
    obtain _ | ⟨a, _ | ⟨b, _ | ⟨c, _ | ⟨d, rest⟩⟩⟩⟩ := letters
    · decide
    · have := value a (by simp)
      simp only [List.foldl_cons, List.foldl_nil]
      omega
    · have := value a (by simp)
      have := value b (by simp)
      simp only [List.foldl_cons, List.foldl_nil]
      omega
    · have := value a (by simp)
      have := value b (by simp)
      have := value c (by simp)
      simp only [List.foldl_cons, List.foldl_nil]
      omega
    · simp only [List.length_cons] at short
      omega

/-- A row that is read fits in 32 bits when it is counted from one. -/
lemma rowIndex?_lt {digits : List Char} {row : Nat} (h : rowIndex? digits = some row) :
    row + 1 < 0x100000000 := by
  rw [rowIndex?] at h
  split at h
  · cases h
  · dsimp only at h
    split at h
    · cases h
    · cases h
      omega

/-- What holds of every position that is read. -/
lemma position?_lt {cs : List Char} {p : Position} (h : position? cs = some p) :
    p.row + 1 < 0x100000000 ∧ p.col < 18278 := by
  rw [position?] at h
  simp only [Option.bind_eq_bind, Option.bind_eq_some_iff, Option.pure_def,
    Option.some.injEq] at h
  obtain ⟨col, hcol, row, hrow, rfl⟩ := h
  exact ⟨rowIndex?_lt hrow, columnIndex?_lt hcol⟩

/-- The corners of a range are positions that were read. -/
lemma corners?_lt {cs : List Char} {p q : Position} (h : corners? cs = some (p, q)) :
    (p.row + 1 < 0x100000000 ∧ p.col < 18278) ∧ q.row + 1 < 0x100000000 ∧ q.col < 18278 := by
  rw [corners?] at h
  split at h
  · simp only [Option.map_eq_some_iff, Prod.mk.injEq] at h
    obtain ⟨p', hp, rfl, rfl⟩ := h
    exact ⟨position?_lt hp, position?_lt hp⟩
  · simp only [Option.bind_eq_bind, Option.bind_eq_some_iff, Option.pure_def, Option.some.injEq,
      Prod.mk.injEq] at h
    obtain ⟨p', hp, q', hq, rfl, rfl⟩ := h
    exact ⟨position?_lt hp, position?_lt hq⟩
  · cases h

/-- A range that is read lies between two corners that were read. -/
lemma reference?_between {t : String} {r : RangeRef} (h : reference? t = some r) :
    ∃ sheet cs p q, corners? cs = some (p, q) ∧ r = .between sheet p q := by
  rw [reference?] at h
  dsimp only at h
  split at h <;>
    simp only [Option.bind_eq_bind, Option.bind_eq_some_iff, Option.pure_def, Option.some.injEq,
      Prod.exists] at h
  · obtain ⟨p, q, corners, rfl⟩ := h
    exact ⟨_, _, p, q, corners, rfl⟩
  · obtain ⟨p, q, corners, rfl⟩ := h
    exact ⟨_, _, p, q, corners, rfl⟩

/-- The range between two cells has its corners in order. -/
lemma RangeRef.between_proper {sheet : Option String} {p q : Position}
    (hp : p.row + 1 < 0x100000000) (hq : q.row + 1 < 0x100000000) :
    (RangeRef.between sheet p q).Proper where
  rows := min_le_max
  cols := min_le_max
  bound := by
    simp only [RangeRef.between]
    omega

/-- A range that is read has its corners in order and keeps the bounds. -/
lemma reference?_proper {t : String} {r : RangeRef} (h : reference? t = some r) :
    r.Proper ∧ r.lastCol ≤ 18277 := by
  obtain ⟨sheet, cs, p, q, corners, rfl⟩ := reference?_between h
  obtain ⟨⟨hp, hpc⟩, hq, hqc⟩ := corners?_lt corners
  refine ⟨RangeRef.between_proper hp hq, ?_⟩
  simp only [RangeRef.between]
  omega

/-- The text of a range is read back as the range, unless its last column has too many letters. -/
lemma reference?_rangeText {r : RangeRef} (h : r.Proper) :
    reference? r.text = if r.lastCol ≤ 18277 then some r else none := by
  obtain ⟨rows, cols, bound⟩ := h
  have read := reference?_range (p := ⟨r.firstRow, r.firstCol⟩) (q := ⟨r.lastRow, r.lastCol⟩)
    (Nat.lt_of_le_of_lt (Nat.succ_le_succ rows) bound) bound r.sheet
  have same : RangeRef.between r.sheet ⟨r.firstRow, r.firstCol⟩ ⟨r.lastRow, r.lastCol⟩ = r := by
    simp only [RangeRef.between, min_eq_left rows, min_eq_left cols, max_eq_right rows,
      max_eq_right cols]
  have fits : (r.firstCol < 18278 ∧ r.lastCol < 18278) ↔ r.lastCol ≤ 18277 := by
    omega
  rw [RangeRef.text, read, same]
  simp only [fits]

/-- The text of a reference to a cell is read back as the range of the cell. -/
lemma reference?_cellText {c : CellRef} (h : c.row + 1 < 0x100000000) :
    reference? c.text = if c.col ≤ 18277 then some (.cell c.sheet c.position) else none := by
  have fits : c.col < 18278 ↔ c.col ≤ 18277 := Nat.lt_succ_iff
  have read := reference?_cell (p := c.position) h c.sheet c.rowAbs c.colAbs
  simpa only [CellRef.text, CellRef.localText, CellRef.position, fits] using read

/-- Addresses and ranges: the text of a range is read back as the range exactly if its columns have
at most three letters, so is the text of a cell with any markers, and whatever text is read names a
range whose own text is read back. -/
theorem reference?_text :
    (∀ r : RangeRef, r.Proper →
      reference? r.text = if r.lastCol ≤ 18277 then some r else none) ∧
    (∀ c : CellRef, c.row + 1 < 0x100000000 →
      reference? c.text = if c.col ≤ 18277 then some (.cell c.sheet c.position) else none) ∧
    (∀ (t : String) (r : RangeRef), reference? t = some r →
      r.Proper ∧ r.lastCol ≤ 18277 ∧ reference? r.text = some r) := by
  refine ⟨fun r h => reference?_rangeText h, fun c h => reference?_cellText h, fun t r h => ?_⟩
  obtain ⟨proper, fits⟩ := reference?_proper h
  exact ⟨proper, fits, (reference?_rangeText proper).trans (if_pos fits)⟩

/-- A sheet name with quotes, separators, markers and blanks, the last column and the last row that
are read, and the first column that is not. -/
theorem reference?_text_quoted :
    reference? (RangeRef.text ⟨some " l'été!A$1:B2' ", 0, 3, 4294967294, 18277⟩) =
        some ⟨some " l'été!A$1:B2' ", 0, 3, 4294967294, 18277⟩ ∧
      reference? (RangeRef.text ⟨some "", 0, 18278, 1, 18278⟩) = none ∧
      reference? (CellRef.text ⟨none, 41, 18277, true, false⟩) =
        some ⟨none, 41, 18277, 41, 18277⟩ :=
  ⟨reference?_text.1 ⟨some " l'été!A$1:B2' ", 0, 3, 4294967294, 18277⟩
      ⟨by decide, by decide, by decide⟩,
    reference?_text.1 ⟨some "", 0, 18278, 1, 18278⟩ ⟨by decide, by decide, by decide⟩,
    reference?_text.2.1 ⟨none, 41, 18277, true, false⟩ (by decide)⟩

end ShipReport.Formula
