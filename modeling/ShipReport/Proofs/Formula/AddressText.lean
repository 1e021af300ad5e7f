import Mathlib
import ShipReport.Formula.Reference
import ShipReport.Proofs.Text.Blank
import ShipReport.Proofs.Text.Numerals

/-!
# Addresses read back

What the reader of addresses makes of the texts of cells and ranges, with any markers and on any
sheet. The name of the sheet may hold any characters; columns have up to three letters, and rows 32
bits. The address of a column with more letters names nothing.
-/

namespace ShipReport.Formula

section Columns

/-- What the letters of columns are: upper case, each with its place in the alphabet. -/
lemma letter_spec : ∀ d < 26, let c := Char.ofNat ('A'.toNat + d)
    c.isAlpha ∧ !c.isDigit ∧ c ≠ '$' ∧ c ≠ ':' ∧ c ≠ '!' ∧ letterValue c = d + 1 := by
  decide

/-- The letters of a column come from the alphabet. -/
lemma mem_lettersReversed {n : Nat} {c : Char} (h : c ∈ lettersReversed n) :
    ∃ d < 26, c = Char.ofNat ('A'.toNat + d) := by
  induction n using lettersReversed.induct with
  | case1 => simp [lettersReversed] at h
  | case2 n hn ih =>
    rw [lettersReversed, if_neg hn, List.mem_cons] at h
    rcases h with rfl | h
    · exact ⟨(n - 1) % 26, Nat.mod_lt _ (by decide), rfl⟩
    · exact ih h

/-- The letters of a column give its number. -/
lemma foldr_lettersReversed (n : Nat) :
    (lettersReversed n).foldr (fun c n => 26 * n + letterValue c) 0 = n := by
  induction n using lettersReversed.induct with
  | case1 => simp [lettersReversed]
  | case2 n hn ih =>
    have value := (letter_spec ((n - 1) % 26) (Nat.mod_lt _ (by decide))).2.2.2.2.2
    rw [lettersReversed, if_neg hn, List.foldr_cons, ih, value]
    omega

/-- One more letter goes with the division by 26. -/
lemma length_lettersReversed_le_succ {n k : Nat} : (lettersReversed n).length ≤ k + 1 ↔
    (lettersReversed ((n - 1) / 26)).length ≤ k := by
  by_cases hn : n = 0
  · subst hn
    simp [lettersReversed]
  · rw [lettersReversed, if_neg hn, List.length_cons, Nat.add_le_add_iff_right]

/-- Only the number zero has no letters. -/
lemma length_lettersReversed_le_zero {n : Nat} : (lettersReversed n).length ≤ 0 ↔ n = 0 := by
  by_cases hn : n = 0
  · subst hn
    simp [lettersReversed]
  · rw [lettersReversed, if_neg hn, List.length_cons]
    omega

/-- Three letters are enough for 18278 columns, and for no more. -/
lemma length_lettersReversed_le_three {n : Nat} : (lettersReversed n).length ≤ 3 ↔ n ≤ 18278 := by
  rw [length_lettersReversed_le_succ, length_lettersReversed_le_succ,
    length_lettersReversed_le_succ, length_lettersReversed_le_zero]
  omega

/-- The letters of a column are read back as the column, unless they are too many. -/
lemma columnIndex?_columnLetters (col : Nat) :
    columnIndex? (columnLetters col).toList = if col < 18278 then some col else none := by
  have letters : (columnLetters col).toList = (lettersReversed (col + 1)).reverse :=
    String.toList_ofList
  have filled : lettersReversed (col + 1) ≠ [] := by
    rw [lettersReversed, if_neg (Nat.succ_ne_zero col)]
    exact List.cons_ne_nil _ _
  have alphabetic : (lettersReversed (col + 1)).all Char.isAlpha := by
    rw [List.all_eq_true]
    intro c hc
    obtain ⟨d, hd, rfl⟩ := mem_lettersReversed hc
    exact (letter_spec d hd).1
  -- the reader accepts up to three letters
  have short : col < 18278 ↔ ¬ 3 < (lettersReversed (col + 1)).length := by
    rw [Nat.not_lt, length_lettersReversed_le_three]
    omega
  rw [letters, columnIndex?, List.foldl_reverse, foldr_lettersReversed]
  by_cases h : col < 18278
  · simp [filled, alphabetic, short.mp h, h]
  · simp [Decidable.not_not.mp (mt short.mpr h), h]

end Columns

/-- A row number is read back as the row. -/
lemma rowIndex?_toString {row : Nat} (h : row + 1 < 0x100000000) :
    rowIndex? (toString (row + 1)).toList = some row := by
  have digits : (toString (row + 1)).toList = Nat.toDigits 10 (row + 1) :=
    Text.toList_toString _
  have decimal : (Nat.toDigits 10 (row + 1)).all Char.isDigit :=
    List.all_eq_true.mpr fun _ hc => Nat.isDigit_of_mem_toDigits (by decide) (by decide) hc
  have value := Nat.ofDigitChars_ten_toDigits (n := row + 1)
  rw [Nat.ofDigitChars_eq_foldl] at value
  rw [digits, rowIndex?, value]
  rw [if_neg (by simp [decimal, Nat.toDigits_ne_nil])]
  dsimp only
  rw [if_neg (by omega), Nat.add_sub_cancel]

/-- The characters of a position with its markers. -/
lemma toList_coordinates (row col : Nat) (rowAbs colAbs : Bool) :
    (coordinates row col rowAbs colAbs).toList =
      (absoluteMark colAbs).toList ++ (columnLetters col).toList ++
        (absoluteMark rowAbs).toList ++ (toString (row + 1)).toList := by
  simp only [coordinates, String.toList_append]

/-- A marker is nothing but a dollar sign. -/
lemma eq_of_mem_absoluteMark {absolute : Bool} {c : Char}
    (h : c ∈ (absoluteMark absolute).toList) : c = '$' := by
  cases absolute with
  | false => cases h
  | true => exact List.mem_singleton.mp h

/-- A mark is nothing but the sign for it. -/
lemma filter_absoluteMark (absolute : Bool) :
    (absoluteMark absolute).toList.filter (· != '$') = [] := by
  cases absolute <;> rfl

/-- The letters of a column are no digits, and none of the signs in an address. -/
lemma columnLetters_spec {col : Nat} {c : Char} (h : c ∈ (columnLetters col).toList) :
    !c.isDigit ∧ c ≠ '$' ∧ c ≠ ':' ∧ c ≠ '!' := by
  rw [columnLetters, String.toList_ofList, List.mem_reverse] at h
  obtain ⟨d, hd, rfl⟩ := mem_lettersReversed h
  have spec := letter_spec d hd
  exact ⟨spec.2.1, spec.2.2.1, spec.2.2.2.1, spec.2.2.2.2.1⟩

/-- The text of a number has digits and none of the signs in an address. -/
lemma toString_spec {n : Nat} {c : Char} (h : c ∈ (toString n).toList) :
    c.isDigit ∧ c ≠ '$' ∧ c ≠ ':' ∧ c ≠ '!' := by
  have digit := Text.isDigit_of_mem_toString h
  refine ⟨digit, ?_, ?_, ?_⟩ <;> rintro rfl <;> exact absurd digit (by decide)

/-- A position is read back, whatever its markers, unless its column has too many letters. -/
lemma position?_coordinates {row : Nat} (hr : row + 1 < 0x100000000) (col : Nat)
    (rowAbs colAbs : Bool) :
    position? (coordinates row col rowAbs colAbs).toList =
      if col < 18278 then some ⟨row, col⟩ else none := by
  have bare : (coordinates row col rowAbs colAbs).toList.filter (· != '$') =
      (columnLetters col).toList ++ (toString (row + 1)).toList := by
    rw [toList_coordinates, List.filter_append, List.filter_append, List.filter_append,
      filter_absoluteMark, filter_absoluteMark, List.nil_append, List.append_nil]
    rw [List.filter_eq_self.mpr fun c h => by simpa using (columnLetters_spec h).2.1,
      List.filter_eq_self.mpr fun c h => by simpa using (toString_spec h).2.1]
  have letters : ∀ c ∈ (columnLetters col).toList, (!c.isDigit) = true := fun c h =>
    (columnLetters_spec h).1
  have digits := fun c (h : c ∈ (toString (row + 1)).toList) => (toString_spec h).1
  have read := rowIndex?_toString hr
  rw [position?, bare, List.span_eq_takeWhile_dropWhile, List.takeWhile_append_of_pos letters,
    List.dropWhile_append_of_pos letters]
  generalize (toString (row + 1)).toList = ds at digits read
  cases ds with
  | nil => simp [rowIndex?] at read
  | cons d ds =>
    have first := digits d List.mem_cons_self
    simp only [List.takeWhile_cons, List.dropWhile_cons, first, Bool.not_true, Bool.false_eq_true,
      if_false, List.append_nil, columnIndex?_columnLetters, read]
    split <;> rfl

/-- The text of a cell is not empty. -/
lemma coordinates_ne_nil {row col : Nat} {rowAbs colAbs : Bool} :
    (coordinates row col rowAbs colAbs).toList ≠ [] := by
  rw [toList_coordinates]
  exact List.append_ne_nil_of_right_ne_nil _ (Text.toString_ne_nil _)

/-- Neither a colon nor an exclamation mark occurs in a position. -/
lemma coordinates_spec {row col : Nat} {rowAbs colAbs : Bool} {c : Char}
    (h : c ∈ (coordinates row col rowAbs colAbs).toList) : c ≠ ':' ∧ c ≠ '!' := by
  simp only [toList_coordinates, List.mem_append] at h
  rcases h with ((h | h) | h) | h
  · rw [eq_of_mem_absoluteMark h]
    decide
  · exact (columnLetters_spec h).2.2
  · rw [eq_of_mem_absoluteMark h]
    decide
  · exact (toString_spec h).2.2

/-- A text without the separator is one part. -/
lemma splitAll_of_not_mem {sep : Char} {cs : List Char} (h : sep ∉ cs) :
    splitAll sep cs = [cs] := by
  induction cs with
  | nil => rfl
  | cons c cs ih =>
    obtain ⟨hc, hcs⟩ := List.ne_and_not_mem_of_not_mem_cons h
    rw [splitAll, if_neg (Ne.symm hc), ih hcs]

/-- The first separator ends the first part. -/
lemma splitAll_append {sep : Char} {cs : List Char} (h : sep ∉ cs) (rest : List Char) :
    splitAll sep (cs ++ sep :: rest) = cs :: splitAll sep rest := by
  induction cs with
  | nil => rw [List.nil_append, splitAll, if_pos rfl]
  | cons c cs ih =>
    obtain ⟨hc, hcs⟩ := List.ne_and_not_mem_of_not_mem_cons h
    rw [List.cons_append, splitAll, if_neg (Ne.symm hc), ih hcs]

/-- The last separator comes before the part in which there is none. -/
lemma splitAtLast?_append {sep : Char} {rest : List Char} (h : sep ∉ rest) (cs : List Char) :
    splitAtLast? sep (cs ++ sep :: rest) = some (cs, rest) := by
  have other : ∀ c ∈ rest.reverse, (c != sep) = true := fun c hc => by
    simpa using ne_of_mem_of_not_mem (List.mem_reverse.mp hc) h
  rw [splitAtLast?, List.reverse_append, List.reverse_cons, List.append_assoc,
    List.span_eq_takeWhile_dropWhile, List.takeWhile_append_of_pos other,
    List.dropWhile_append_of_pos other]
  simp

section Quotes

/-- Other characters than quotes are kept. -/
lemma undoubled_cons_of_ne {q c : Char} (h : c ≠ q) (cs : List Char) :
    undoubled q (c :: cs) = c :: undoubled q cs := by
  cases cs with
  | nil => rfl
  | cons d cs => rw [undoubled, if_neg fun hc => h hc.1]

/-- A quote is written twice, any other character once. -/
lemma doubled_cons (q c : Char) (cs : List Char) :
    doubled q (c :: cs) = if c = q then q :: q :: doubled q cs else c :: doubled q cs := by
  rw [doubled, List.flatMap_cons]
  split <;> rfl

/-- Doubling is undone. -/
lemma undoubled_doubled (q : Char) (cs : List Char) : undoubled q (doubled q cs) = cs := by
  induction cs with
  | nil => rfl
  | cons c cs ih =>
    rw [doubled_cons]
    split
    · next h => rw [undoubled, if_pos ⟨rfl, rfl⟩, ih, h]
    · next h => rw [undoubled_cons_of_ne h, ih]

/-- The name of a sheet is read back, quoted or not. -/
lemma sheetOfPart_quoteSheet (name : String) :
    sheetOfPart (quoteSheet name).toList = name.toList := by
  rw [quoteSheet]
  split
  · next plain =>
    unfold sheetOfPart
    split
    · next rest heq =>
      rw [heq] at plain
      exact absurd plain (by simp [isPlainName, isWordChar])
    · rfl
  · rw [String.toList_ofList, sheetOfPart, if_pos (by simp), List.dropLast_concat,
      undoubled_doubled]

end Quotes

/-- A character of a word is no blank. -/
lemma isBlank_of_isWordChar {c : Char} (h : isWordChar c) : Text.isBlank c = false := by
  have bounds : 48 ≤ c.toNat ∧ c.toNat ≤ 122 := by
    simp only [isWordChar, Char.isAlphanum, Char.isAlpha, Char.isUpper, Char.isLower, Char.isDigit,
      Bool.or_eq_true, Bool.and_eq_true, decide_eq_true_eq, beq_iff_eq, ge_iff_le,
      UInt32.le_iff_toNat_le] at h
    rcases h with ((⟨low, high⟩ | ⟨low, high⟩) | ⟨low, high⟩) | rfl
    · exact ⟨Nat.le_trans (by decide) low, Nat.le_trans high (by decide)⟩
    · exact ⟨Nat.le_trans (by decide) low, high⟩
    · exact ⟨low, Nat.le_trans high (by decide)⟩
    · decide
  exact Text.isBlank_of_ascii (by omega) (by omega)

/-- No character of a position is blank. -/
lemma isBlank_of_mem_coordinates {row col : Nat} {rowAbs colAbs : Bool} {c : Char}
    (h : c ∈ (coordinates row col rowAbs colAbs).toList) : Text.isBlank c = false := by
  simp only [toList_coordinates, List.mem_append] at h
  rcases h with ((h | h) | h) | h
  · rw [eq_of_mem_absoluteMark h]
    decide
  · rw [columnLetters, String.toList_ofList, List.mem_reverse] at h
    obtain ⟨d, hd, rfl⟩ := mem_lettersReversed h
    refine isBlank_of_isWordChar ?_
    rw [isWordChar, Char.isAlphanum, (letter_spec d hd).1, Bool.true_or, Bool.true_or]
  · rw [eq_of_mem_absoluteMark h]
    decide
  · refine isBlank_of_isWordChar ?_
    rw [isWordChar, Char.isAlphanum, (toString_spec h).1, Bool.or_true, Bool.true_or]

/-- The sheet part of an address does not begin with a blank character. -/
lemma isBlank_head_quoteSheet {name : String} {a : Char}
    (h : a ∈ (quoteSheet name).toList.head?) : Text.isBlank a = false := by
  rw [quoteSheet] at h
  split at h
  · next plain =>
    cases hname : name.toList with
    | nil => simp [hname, isPlainName] at plain
    | cons b cs =>
      rw [hname, isPlainName, List.all_cons] at plain
      simp only [Bool.and_eq_true] at plain
      rw [hname, List.head?_cons, Option.mem_some_iff] at h
      exact h ▸ isBlank_of_isWordChar plain.2.1
  · rw [String.toList_ofList, List.head?_cons, Option.mem_some_iff] at h
    exact h ▸ by decide

/-- An address is read as its corners on its sheet, if in the part after the sheet there are neither
blank characters nor exclamation marks. -/
lemma reference?_sheetPrefix (sheet : Option String) {cs : String} (filled : cs.toList ≠ [])
    (plain : ∀ c ∈ cs.toList, Text.isBlank c = false ∧ c ≠ '!') :
    reference? (sheetPrefix sheet ++ cs) =
      (corners? cs.toList).map fun (p, q) => .between sheet p q := by
  have mark : '!' ∉ cs.toList := fun h => (plain _ h).2 rfl
  have last : ∀ z ∈ cs.toList.getLast?, Text.isBlank z = false := fun z hz =>
    (plain z (List.mem_of_mem_getLast? hz)).1
  cases sheet with
  | none =>
    have untrimmed := Text.trimList_of_ends (fun a ha => (plain a (List.mem_of_mem_head? ha)).1) last
    -- without an exclamation mark there is no sheet part
    have split : splitAtLast? '!' cs.toList = none := by
      have other : ∀ c ∈ cs.toList.reverse, (c != '!') = true := fun c hc => by
        simpa using (plain c (List.mem_reverse.mp hc)).2
      rw [splitAtLast?, List.span_eq_takeWhile_dropWhile, List.dropWhile_eq_nil_iff.mpr other]
    rw [sheetPrefix, String.empty_append, reference?, untrimmed]
    simp only [split]
    cases corners? cs.toList <;> rfl
  | some name =>
    have characters : (sheetPrefix (some name) ++ cs).toList =
        (quoteSheet name).toList ++ '!' :: cs.toList := by
      simp [sheetPrefix]
    have untrimmed : Text.trimList ((quoteSheet name).toList ++ '!' :: cs.toList) =
        (quoteSheet name).toList ++ '!' :: cs.toList := by
      apply Text.trimList_of_ends
      · intro a ha
        rw [List.head?_append] at ha
        cases hhead : (quoteSheet name).toList.head? with
        | none =>
          rw [hhead, Option.none_or, List.head?_cons, Option.mem_some_iff] at ha
          exact ha ▸ by decide
        | some b =>
          rw [hhead, Option.some_or, Option.mem_some_iff] at ha
          exact isBlank_head_quoteSheet (ha ▸ hhead)
      · intro z hz
        rw [List.getLast?_append, List.getLast?_cons, List.getLast?_eq_some_getLast filled] at hz
        simp only [Option.getD_some, Option.some_or, Option.mem_some_iff] at hz
        exact hz ▸ last _ (List.getLast?_eq_some_getLast filled)
    -- the name may hold exclamation marks, but the corners do not
    have split := splitAtLast?_append mark (quoteSheet name).toList
    rw [reference?, characters, untrimmed]
    simp only [split, sheetOfPart_quoteSheet, String.ofList_toList]
    cases corners? cs.toList <;> rfl

/-- A single position is both corners. -/
lemma corners?_of_not_mem {cs : List Char} (h : ':' ∉ cs) :
    corners? cs = (position? cs).map fun p => (p, p) := by
  rw [corners?, splitAll_of_not_mem h]

/-- Two positions with a colon are the corners. -/
lemma corners?_append {cs ds : List Char} (hc : ':' ∉ cs) (hd : ':' ∉ ds) :
    corners? (cs ++ ':' :: ds) = (position? cs).bind fun p => (position? ds).map (p, ·) := by
  rw [corners?, splitAll_append hc, splitAll_of_not_mem hd]
  dsimp only
  cases position? cs <;> cases position? ds <;> rfl

section

variable {p q : Position} (hp : p.row + 1 < 0x100000000) (hq : q.row + 1 < 0x100000000)

include hp

/-- The address of a cell is read back as the range of the cell, whatever its markers, unless its
column has too many letters. -/
lemma reference?_cell (sheet : Option String) (rowAbs colAbs : Bool) :
    reference? (sheetPrefix sheet ++ coordinates p.row p.col rowAbs colAbs) =
      if p.col < 18278 then some (.cell sheet p) else none := by
  rw [reference?_sheetPrefix sheet coordinates_ne_nil fun c h =>
      ⟨isBlank_of_mem_coordinates h, (coordinates_spec h).2⟩,
    corners?_of_not_mem fun h => (coordinates_spec h).1 rfl, position?_coordinates hp]
  split
  · simp [RangeRef.between, RangeRef.cell]
  · rfl

include hq

/-- The address of a range is read back as the rectangle between its corners, unless the column of
one of them has too many letters. -/
lemma reference?_range (sheet : Option String) :
    reference? (sheetPrefix sheet ++ coordinates p.row p.col true true ++ ":" ++
      coordinates q.row q.col true true) =
        if p.col < 18278 ∧ q.col < 18278 then some (.between sheet p q) else none := by
  have characters : (coordinates p.row p.col true true ++ ":" ++
      coordinates q.row q.col true true).toList = (coordinates p.row p.col true true).toList ++
        ':' :: (coordinates q.row q.col true true).toList := by
    simp
  have plain : ∀ c ∈ (coordinates p.row p.col true true ++ ":" ++
      coordinates q.row q.col true true).toList, Text.isBlank c = false ∧ c ≠ '!' := by
    intro c hc
    rw [characters, List.mem_append, List.mem_cons] at hc
    rcases hc with h | rfl | h
    · exact ⟨isBlank_of_mem_coordinates h, (coordinates_spec h).2⟩
    · decide
    · exact ⟨isBlank_of_mem_coordinates h, (coordinates_spec h).2⟩
  have first : ':' ∉ (coordinates p.row p.col true true).toList := fun h =>
    (coordinates_spec h).1 rfl
  have last : ':' ∉ (coordinates q.row q.col true true).toList := fun h =>
    (coordinates_spec h).1 rfl
  have text : sheetPrefix sheet ++ coordinates p.row p.col true true ++ ":" ++
      coordinates q.row q.col true true = sheetPrefix sheet ++
        (coordinates p.row p.col true true ++ ":" ++ coordinates q.row q.col true true) := by
    simp only [String.append_assoc]
  rw [text, reference?_sheetPrefix sheet (by simp [characters]) plain, characters,
    corners?_append first last, position?_coordinates hp, position?_coordinates hq]
  by_cases hpc : p.col < 18278 <;> by_cases hqc : q.col < 18278 <;> simp [hpc, hqc]

end

/-- The address of a range on a named sheet is read back as the range. -/
theorem reference?_address (name : String) {p q : Position}
    (hp : p.row + 1 < 0x100000000 ∧ p.col < 18278) (hq : q.row + 1 < 0x100000000 ∧ q.col < 18278) :
    reference? (quoteSheet name ++ "!" ++ coordinates p.row p.col true true ++ ":" ++
      coordinates q.row q.col true true) = some (.between (some name) p q) := by
  have read := reference?_range hp.1 hq.1 (some name)
  rwa [if_pos ⟨hp.2, hq.2⟩] at read

end ShipReport.Formula
