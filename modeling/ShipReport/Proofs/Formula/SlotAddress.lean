import ShipReport.Proofs.Formula.AddressText
import ShipReport.Proofs.Formula.Pattern
import ShipReport.Proofs.Number.Natural

/-!
# Addresses of slots

What the address of the slots of a key is worth when the values of all cells are given. A key that
is blank or unknown has the empty text, which names no range; a key with slots has the address of
the cells that hold them.
-/

namespace ShipReport.Formula

namespace Meaning

/-- What takes a number goes on with the number. -/
lemma withNumber_ok {a : Meaning Id} {x : Float} (h : a.value.run.asNumber = .ok x)
    (next : Float → Id Value) : a.withNumber next = next x := by
  change Value.asNumber a.value = .ok x at h
  unfold withNumber
  simp only [bind, h]

/-- What takes a number ends with the fault if there is none. -/
lemma withNumber_error {a : Meaning Id} {f : Fault} (h : a.value.run.asNumber = .error f)
    (next : Float → Id Value) : a.withNumber next = pure (.fault f) := by
  change Value.asNumber a.value = .error f at h
  unfold withNumber
  simp only [bind, h]

/-- A range goes on. -/
lemma withTarget_ok {a : Meaning Id} {t : Target} (h : a.target.run = .ok t)
    (next : Target → Id Value) : a.withTarget next = next t := by
  change a.target = .ok t at h
  unfold withTarget
  simp only [bind, h]

/-- A positive natural number goes on as a row or column number. -/
lemma withOrdinal_ofNat {a : Meaning Id} {n : Nat} (h : a.value.run = .number (Float.ofNat n))
    (hn : 0 < n) (hlt : n < 2 ^ 32) (next : Nat → Id Value) : a.withOrdinal next = next n := by
  have number : a.value.run.asNumber = .ok (Float.ofNat n) := by rw [h]; rfl
  have positive : (1 : Float) ≤ Float.ofNat n :=
    (Number.ofNat_le Nat.one_pos hn (by decide) (by omega)).mpr hn
  rw [withOrdinal, withNumber_ok number, if_pos positive, Number.toUInt32_ofNat hn hlt]

end Meaning

variable {index : String → Option Nat} {σ : Nat → Position → Value} {i : Nat}

namespace Expr

/-- An expression with a fallback has the value of the fallback if it has a fault. -/
lemma valueUnder_orElse (e fallback : Expr) :
    (e.orElse fallback).valueUnder index σ i =
      if (e.valueUnder index σ i).isFault then fallback.valueUnder index σ i
      else e.valueUnder index σ i := by
  unfold valueUnder orElse
  simp only [meaning, meanings, Meaning.call, Meaning.ofValue, Meaning.ifError]
  rw [Id.run_bind]
  split <;> rfl

/-- A range on a named sheet is its target. -/
lemma target_range {r : RangeRef} {name : String} {j : Nat} (hr : r.sheet = some name)
    (hj : index name = some j) :
    ((range r).meaning (.given index σ) i).target.run = .ok ⟨j, r⟩ := by
  simp [meaning, Meaning.ofTarget, Surroundings.targetOf, Surroundings.resolve, Surroundings.given,
    Except.map, hr, hj]

section

variable {r : RangeRef} {name : String} {j : Nat} (hr : r.sheet = some name)
  (hj : index name = some j)

include hr hj

/-- The place of a key in one column of another sheet. -/
lemma valueUnder_exactMatch {key : Expr} (hcols : r.cols = 1) :
    (exactMatch key r).valueUnder index σ i =
      let v := key.valueUnder index σ i
      if v.isFault then v
      else if v.isBlank then .fault .notAvailable
      else Meaning.placeOf v (r.positions.map (σ j)) := by
  unfold valueUnder exactMatch
  simp only [meaning, meanings, Meaning.call, Meaning.ofValue, Meaning.matchKey]
  rw [Id.run_bind]
  split
  · rfl
  · split
    · rfl
    · have one := target_range (σ := σ) (i := i) hr hj
      simp only [meaning] at one
      rw [Meaning.withTarget_ok one]
      simp [Surroundings.valuesAt, Surroundings.given, hcols]

/-- The entry of a range at a place that is a fault. -/
lemma valueUnder_index_fault {e : Expr} {f : Fault} (he : e.valueUnder index σ i = .fault f) :
    (Expr.index r e).valueUnder index σ i = .fault f := by
  have one := target_range (σ := σ) (i := i) hr hj
  have place : (e.meaning (.given index σ) i).value.run.asNumber = .error f := by
    rw [← valueUnder, he]
    rfl
  simp only [meaning] at one
  unfold valueUnder Expr.index
  simp only [meaning, meanings, Meaning.call, Meaning.ofValue, Meaning.index]
  rw [Meaning.withTarget_ok one, Meaning.withNumber_error place]
  rfl

/-- The entry of one column of another sheet at a place counted from one. -/
lemma valueUnder_index {e : Expr} {n : Nat} (he : e.valueUnder index σ i = .number (Float.ofNat n))
    (hn : 0 < n) (hrows : n ≤ r.rows) (hlt : n < 2 ^ 53) (hcols : r.cols = 1) :
    (Expr.index r e).valueUnder index σ i = σ j (r.cellAt (n - 1) 0) := by
  have one := target_range (σ := σ) (i := i) hr hj
  have place : (e.meaning (.given index σ) i).value.run.asNumber = .ok (Float.ofNat n) := by
    rw [← valueUnder, he]
    rfl
  -- a column of one cell is also a row, and then both readings agree
  have entry : Meaning.entryPlace r n none = ((n : Int), 1) := by
    unfold Meaning.entryPlace
    dsimp only
    split
    · next h =>
      obtain rfl : n = 1 := by
        have := beq_iff_eq.mp h
        omega
      rfl
    · rfl
  simp only [meaning] at one
  unfold valueUnder Expr.index
  simp only [meaning, meanings, Meaning.call, Meaning.ofValue, Meaning.index]
  rw [Meaning.withTarget_ok one, Meaning.withNumber_ok place, Number.toInt64_ofNat hn hlt, entry]
  dsimp only
  rw [Meaning.entryAt, if_neg (by dsimp only; omega)]
  simp [Surroundings.given]

end

/-- The text of an absolute address whose row and column are counted from one. -/
lemma valueUnder_address {row col : Expr} {m n : Nat} (sheet : Option String)
    (hrow : row.valueUnder index σ i = .number (Float.ofNat m))
    (hcol : col.valueUnder index σ i = .number (Float.ofNat n)) (hm : 0 < m) (hlt : m < 2 ^ 32)
    (hn : 0 < n) (hle : n ≤ 65536) :
    (call .address (row :: col :: number 1 :: bool true :: (sheet.map text).toList)).valueUnder
      index σ i = .text (sheetPrefix sheet ++ coordinates (m - 1) (n - 1) true true) := by
  have mode : (1 : Float).toUInt32.toNat = 1 := Number.toUInt32_ofNat Nat.one_pos (by decide)
  have one : ((number 1).meaning (.given index σ) i).value.run.asNumber = .ok 1 := by
    rw [← valueUnder, number, valueUnder_literal]
    rfl
  unfold valueUnder at *
  simp only [meaning, meanings, Meaning.call, Meaning.ofValue, Meaning.address]
  rw [Meaning.withOrdinal_ofNat hrow hm hlt, Meaning.withOrdinal_ofNat hcol hn (by omega)]
  simp only [List.getElem?_cons_zero]
  rw [Meaning.withNumber_ok one, mode, if_neg (by omega)]
  cases sheet with
  | none => simp [meanings, sheetPrefix, Meaning.absoluteMarks]
  | some name =>
    have named : ((text name).meaning (.given index σ) i).value.run = .text name :=
      valueUnder_literal _
    simp [meanings, sheetPrefix, Meaning.absoluteMarks, named, Value.isFault, Value.asText]

/-- The sum of natural numbers. -/
lemma valueUnder_add {a b : Expr} {m n : Nat}
    (ha : a.valueUnder index σ i = .number (Float.ofNat m))
    (hb : b.valueUnder index σ i = .number (Float.ofNat n)) (hm : 0 < m) (hn : 0 < n)
    (hlt : m + n < 2 ^ 53) :
    (binary .add a b).valueUnder index σ i = .number (Float.ofNat (m + n)) := by
  rw [valueUnder_binary, ha, hb, ← Number.ofNat_add hm hn hlt]
  rfl

/-- Two texts are joined. -/
lemma valueUnder_concat {a b : Expr} {s t : String} (ha : a.valueUnder index σ i = .text s)
    (hb : b.valueUnder index σ i = .text t) :
    (binary .concat a b).valueUnder index σ i = .text (s ++ t) := by
  rw [valueUnder_binary, ha, hb]
  rfl

end Expr

/-- A positive natural number is not below one. -/
lemma Value.apply_lt_one {n : Nat} (hn : 0 < n) (hlt : n < 2 ^ 53) :
    (Value.number (Float.ofNat n)).apply .lt (.number 1) = .bool false := by
  have above : ¬ Float.ofNat n < Float.ofNat 1 := by
    rw [Number.ofNat_lt hn Nat.one_pos hlt (by decide)]
    omega
  -- the other results of the comparison are not `lt`
  have order : compareNumbers (Float.ofNat n) (Float.ofNat 1) ≠ some .lt := by
    unfold compareNumbers
    rw [if_neg above]
    split
    · exact nofun
    · split <;> exact nofun
  exact congrArg Value.bool (beq_eq_false_iff_ne.mpr order)

namespace Pattern

section

variable {key : Expr} {table : SlotTable} {name : String} {j : Nat}
  (hcounts : table.counts.sheet = some name) (hj : index name = some j)

include hcounts hj

/-- A key without a place has no slots. -/
lemma slotAddress_unknown {f : Fault}
    (hplace : (Expr.exactMatch key table.keys).valueUnder index σ i = .fault f) :
    (slotAddress key table).valueUnder index σ i = .text "" := by
  have count := Expr.valueUnder_index_fault hcounts hj hplace
  unfold slotAddress
  dsimp only
  rw [Expr.valueUnder_orElse, Expr.valueUnder_conditional, Expr.valueUnder_binary, count]
  exact Expr.valueUnder_blank

/-- A key with slots has the address of the cells that hold them. -/
lemma slotAddress_known {m k : Nat} (hcols : table.counts.cols = 1)
    (hplace : (Expr.exactMatch key table.keys).valueUnder index σ i = .number (Float.ofNat m))
    (hcount : σ j (table.counts.cellAt (m - 1) 0) = .number (Float.ofNat k)) (hm : 0 < m)
    (hrows : m ≤ table.counts.rows) (hfirst : 0 < table.keys.firstRow)
    (hlt : m + table.keys.firstRow < 2 ^ 32) (hk : 0 < k) (hslot : 0 < table.firstSlotCol)
    (hle : table.firstSlotCol + k ≤ 65536) :
    (slotAddress key table).valueUnder index σ i =
      .text (quoteSheet table.sheet ++ "!" ++
        coordinates (m + table.keys.firstRow - 1) table.firstSlotCol true true ++ ":" ++
        coordinates (m + table.keys.firstRow - 1) (table.firstSlotCol + k - 1) true true) := by
  have constant : ∀ n : Nat, (Expr.number (Float.ofNat n)).valueUnder index σ i =
      .number (Float.ofNat n) := fun n => Expr.valueUnder_literal _
  have count := Expr.valueUnder_index hcounts hj hplace hm hrows (by omega) hcols
  rw [hcount] at count
  have row := Expr.valueUnder_add hplace (constant table.keys.firstRow) hm hfirst (by omega)
  have column : (Expr.number (Float.ofNat table.firstSlotCol + 1)).valueUnder index σ i =
      .number (Float.ofNat (table.firstSlotCol + 1)) := by
    rw [← Number.ofNat_add hslot Nat.one_pos (by omega)]
    exact Expr.valueUnder_literal _
  have first := Expr.valueUnder_address (some table.sheet) row column (by omega) hlt (by omega)
    (by omega)
  have last := Expr.valueUnder_address none row
    (Expr.valueUnder_add (constant table.firstSlotCol) count hslot hk (by omega)) (by omega) hlt
    (by omega) hle
  have test : (Expr.binary .lt (Expr.index table.counts (Expr.exactMatch key table.keys))
      (.number 1)).valueUnder index σ i = .bool false := by
    rw [Expr.valueUnder_binary, count, Expr.number, Expr.valueUnder_literal]
    exact Value.apply_lt_one hk (by omega)
  have body := Expr.valueUnder_concat
    (Expr.valueUnder_concat first (Expr.valueUnder_literal (.text ":"))) last
  unfold slotAddress
  dsimp only
  rw [Expr.valueUnder_orElse, Expr.valueUnder_conditional, test]
  simp only [Value.asBool]
  -- the address is no fault, so the fallback is not taken
  refine Eq.trans (if_neg ?_) (body.trans ?_)
  · exact fun h => absurd (body ▸ h) (by simp [Value.isFault])
  · simp [sheetPrefix]

end

/-- The range that a helper cell names is the one whose address it holds. -/
lemma target_listAt {row col : Nat} {s : String} (h : σ i ⟨row, col⟩ = .text s) :
    (listAt (.here row col)).targetUnder index σ i =
      (Surroundings.given index σ).targetOfText i s := by
  have cell : ((Expr.cell (.here row col)).meaning (.given index σ) i).value.run = .text s := by
    rw [← Expr.valueUnder, CellRef.here, Expr.valueUnder_cell, h]
  unfold Expr.targetUnder listAt
  simp only [Expr.meaning, meanings, Meaning.call, Meaning.ofTarget, Meaning.indirect] at cell ⊢
  rw [Id.run_bind, cell]
  rfl

/-- A cell without an address names no list. -/
lemma target_listAt_blank {row col : Nat} (h : σ i ⟨row, col⟩ = .text "") :
    (listAt (.here row col)).targetUnder index σ i = .error .reference := by
  rw [target_listAt h]
  rfl

/-- The address of cells side by side names these cells. -/
lemma target_listAt_slots {row col r c k j : Nat} {name : String} (hj : index name = some j)
    (hr : r + 1 < 0x100000000) (hk : 0 < k) (hc : c + k ≤ 18278)
    (h : σ i ⟨row, col⟩ = .text (quoteSheet name ++ "!" ++ coordinates r c true true ++ ":" ++
      coordinates r (c + k - 1) true true)) :
    (listAt (.here row col)).targetUnder index σ i =
      .ok ⟨j, .between (some name) ⟨r, c⟩ ⟨r, c + k - 1⟩⟩ := by
  have read := reference?_address name (p := ⟨r, c⟩) (q := ⟨r, c + k - 1⟩)
    ⟨hr, by dsimp only; omega⟩ ⟨hr, by dsimp only; omega⟩
  rw [target_listAt h, Surroundings.targetOfText, read]
  simp [Surroundings.targetOf, Surroundings.resolve, Surroundings.given, RangeRef.between,
    Except.map, hj]

end Pattern

/-- The cells between two cells of one row. -/
lemma RangeRef.positions_between {sheet : Option String} {r c k : Nat} (hk : 0 < k) :
    (RangeRef.between sheet ⟨r, c⟩ ⟨r, c + k - 1⟩).positions =
      (List.range k).map fun t => ⟨r, c + t⟩ := by
  have rows : (RangeRef.between sheet ⟨r, c⟩ ⟨r, c + k - 1⟩).rows = 1 := by
    simp [RangeRef.rows, RangeRef.between]
  have cols : (RangeRef.between sheet ⟨r, c⟩ ⟨r, c + k - 1⟩).cols = k := by
    simp only [RangeRef.cols, RangeRef.between]
    omega
  rw [RangeRef.positions, rows, cols]
  simp only [List.range_one, List.flatMap_singleton, RangeRef.cellAt, RangeRef.between, min_self]
  apply List.map_congr_left
  intro t _
  congr 1
  omega

end ShipReport.Formula
