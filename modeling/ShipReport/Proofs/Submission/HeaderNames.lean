import Mathlib.Data.List.Chain
import ShipReport.Proofs.Submission.ColumnNames
import ShipReport.Proofs.Text.Blank

/-!
# Headers as names of columns

Whatever the headers are, each column gets a name that can stand for it, and a header that is such a
name and is free is kept. A free number is found after as many attempts as there are names before.
-/

namespace ShipReport.Submission

open Text (isDigit_of_mem_toString toString_ne_nil)

/-- No two neighbours are underscores. -/
def SingleUnderscores (cs : List Char) : Prop :=
  cs.IsChain fun c d => ¬ (c = '_' ∧ d = '_')

/-- A text that can name a column as it is: a name in which underscores stand alone and between
other characters. -/
structure IsColumnName (s : String) : Prop where
  nonempty : s ≠ ""
  isName : IsName s
  single : SingleUnderscores s.toList
  first : s.toList.head? ≠ some '_'
  last : s.toList.getLast? ≠ some '_'

instance (cs : List Char) : Decidable (SingleUnderscores cs) :=
  inferInstanceAs (Decidable (cs.IsChain _))

variable {s t base header raw : String} {cs : List Char} {taken headers names : List String}
  {number i n : Nat}

/-! ## Cleaning a text -/

/-- Collapsing leaves the first character. -/
lemma head?_collapsed (c : Char) (cs : List Char) : (collapsed (c :: cs)).head? = some c := by
  induction cs generalizing c with
  | nil => rfl
  | cons d cs ih =>
    unfold collapsed
    split
    · next both => rw [ih, both.1, both.2]
    · rfl

/-- Runs of underscores are written as one. -/
lemma singleUnderscores_collapsed : ∀ cs : List Char, SingleUnderscores (collapsed cs)
  | [] => .nil
  | [c] => .singleton c
  | c :: d :: cs => by
    unfold collapsed
    split
    · exact singleUnderscores_collapsed (d :: cs)
    · next other =>
      refine List.isChain_cons.mpr ⟨fun e he => ?_, singleUnderscores_collapsed (d :: cs)⟩
      rw [head?_collapsed, Option.mem_some_iff] at he
      exact he ▸ other

/-- A text without runs of underscores stays as it is. -/
lemma collapsed_eq_self : ∀ {cs : List Char}, SingleUnderscores cs → collapsed cs = cs
  | [], _ => rfl
  | [_], _ => rfl
  | c :: d :: cs, h => by
    obtain ⟨apart, rest⟩ := List.isChain_cons_cons.mp h
    rw [collapsed, if_neg apart, collapsed_eq_self rest]

/-- Stripping drops the underscores at both ends. -/
lemma stripped_eq (cs : List Char) :
    stripped cs = (cs.dropWhile (· == '_')).rdropWhile (· == '_') :=
  rfl

/-- What is left without the underscores at the ends stands between two parts of the text. -/
lemma stripped_part (cs : List Char) : ∃ before after, before ++ stripped cs ++ after = cs := by
  have front : stripped cs <+: cs.dropWhile (· == '_') := List.rdropWhile_prefix _ _
  exact front.isInfix.trans (List.dropWhile_suffix _).isInfix

/-- A stripped text does not begin with an underscore. -/
lemma head?_stripped (cs : List Char) : (stripped cs).head? ≠ some '_' := by
  intro first
  obtain ⟨rest, hrest⟩ := List.rdropWhile_prefix (· == '_') (cs.dropWhile (· == '_'))
  rw [← stripped_eq] at hrest
  have kept := List.head?_dropWhile_not (· == '_') cs
  rw [← hrest, List.head?_append, first] at kept
  simp at kept

/-- A stripped text does not end with an underscore. -/
lemma getLast?_stripped (cs : List Char) : (stripped cs).getLast? ≠ some '_' := by
  intro last
  have present : stripped cs ≠ [] := by
    rintro none
    rw [none] at last
    cases last
  have kept := List.rdropWhile_last_not (· == '_') (cs.dropWhile (· == '_')) present
  rw [List.getLast?_eq_getLast_of_ne_nil present, Option.some.injEq] at last
  exact kept (beq_iff_eq.mpr last)

/-- What a text gives is nothing or can name a column. -/
lemma isColumnName_sanitized (h : sanitized raw ≠ "") : IsColumnName (sanitized raw) where
  nonempty := h
  isName := isName_sanitized raw
  single := by
    rw [sanitized, String.toList_ofList]
    have whole := singleUnderscores_collapsed ((Text.trimList raw.toList).map nameChar)
    obtain ⟨before, after, parts⟩ := stripped_part (collapsed _)
    rw [← parts] at whole
    exact List.IsChain.right_of_append (List.IsChain.left_of_append whole)
  first := by
    rw [sanitized, String.toList_ofList]
    exact head?_stripped _
  last := by
    rw [sanitized, String.toList_ofList]
    exact getLast?_stripped _

/-- No character of a name is blank. -/
lemma isBlank_of_isNameChar {c : Char} (h : isNameChar c) : Text.isBlank c = false := by
  have each : ∀ n < 128, isNameChar (Char.ofNat n) → Text.isBlank (Char.ofNat n) = false := by
    decide
  have hc := each c.toNat (isNameChar_lt h)
  rw [Char.ofNat_toNat] at hc
  exact hc h

/-- A text that can name a column gives itself. -/
lemma IsColumnName.sanitized_eq (h : IsColumnName s) : sanitized s = s := by
  have trimmed : Text.trimList s.toList = s.toList :=
    Text.trimList_of_ends (fun c hc => isBlank_of_isNameChar (h.isName c (List.mem_of_mem_head? hc)))
      fun c hc => isBlank_of_isNameChar (h.isName c (List.mem_of_mem_getLast? hc))
  have kept : s.toList.map nameChar = s.toList := by
    conv => rhs; rw [← List.map_id s.toList]
    exact List.map_congr_left fun c hc => if_pos (h.isName c hc)
  have ends : stripped s.toList = s.toList :=
    Text.dropEnds_of_ends
      (fun c hc => beq_false_of_ne fun same => h.first (same ▸ hc))
      fun c hc => beq_false_of_ne fun same => h.last (same ▸ hc)
  rw [sanitized, trimmed, kept, collapsed_eq_self h.single, ends, String.ofList_toList]

/-! ## Names with numbers -/

/-- No digit is an underscore. -/
lemma ne_underscore_of_isDigit {c : Char} (h : c.isDigit) : c ≠ '_' := by
  rintro rfl
  exact absurd h (by decide)

/-- Numbers have no underscores. -/
lemma singleUnderscores_toString (n : Nat) : SingleUnderscores (toString n).toList := by
  have digits : (toString n).toList.IsChain fun _ d => d ≠ '_' :=
    List.Pairwise.isChain (List.pairwise_of_forall_mem_list fun _ _ d hd =>
      ne_underscore_of_isDigit (isDigit_of_mem_toString hd))
  exact digits.imp fun _ _ other both => other both.2

/-- A number after a name and an underscore makes another name. -/
lemma IsColumnName.numbered (h : IsColumnName base) (n : Nat) :
    IsColumnName (base ++ "_" ++ toString n) := by
  have digit : ∀ c ∈ (toString n).toList, c ≠ '_' := fun c hc =>
    ne_underscore_of_isDigit (isDigit_of_mem_toString hc)
  have present : (toString n).toList ≠ [] := toString_ne_nil n
  have underscore : IsName "_" := by decide
  have characters : (base ++ "_" ++ toString n).toList =
      base.toList ++ '_' :: (toString n).toList := by
    simp
  constructor
  case nonempty =>
    intro none
    rw [none] at characters
    exact List.append_ne_nil_of_right_ne_nil _ (List.cons_ne_nil _ _) characters.symm
  case isName => exact (h.isName.append underscore).append (isName_toString n)
  case single =>
    rw [characters]
    refine List.isChain_append.mpr ⟨h.single, List.isChain_cons.mpr
      ⟨fun d hd both => digit d (List.mem_of_mem_head? hd) both.2, singleUnderscores_toString n⟩,
      fun c hc d _ both => h.last (both.1 ▸ hc)⟩
  case first =>
    intro first
    cases hb : base.toList.head? with
    | none => exact h.nonempty (String.toList_eq_nil_iff.mp (List.head?_eq_none_iff.mp hb))
    | some c =>
      rw [characters, List.head?_append, hb, Option.some_or, Option.some.injEq] at first
      exact h.first (first ▸ hb)
  case last =>
    intro last
    rw [characters, List.getLast?_append_of_ne_nil _ (List.cons_ne_nil _ _),
      List.getLast?_cons_of_ne_nil present] at last
    exact digit _ (List.mem_of_getLast? last) rfl

/-- A name with a number is the name of a column as well. -/
lemma IsColumnName.candidate (h : IsColumnName base) (attempt : Nat) :
    IsColumnName (nameCandidate base attempt) := by
  unfold nameCandidate
  split
  · exact h
  · exact h.numbered _

/-- The name from which that of a column is made can name it. -/
lemma isColumnName_columnBase (number : Nat) (header : String) :
    IsColumnName (columnBase number header) := by
  have col : IsColumnName "col" := ⟨by decide, by decide, by decide, by decide, by decide⟩
  unfold columnBase
  split
  · exact col.numbered number
  · next present => exact isColumnName_sanitized (mt String.isEmpty_iff.mpr present)

/-- A header that can name a column is taken as it is. -/
lemma IsColumnName.columnBase_eq (h : IsColumnName header) (number : Nat) :
    columnBase number header = header := by
  rw [columnBase, h.sanitized_eq, if_neg (mt String.isEmpty_iff.mp h.nonempty)]

/-! ## The name that is chosen -/

/-- The first free candidate is chosen. It is found after as many attempts as there are taken names,
if not before. -/
lemma freeName_first (h : IsName base) (taken : List String) :
    ∃ attempt ≤ taken.length, freeName taken base = nameCandidate base attempt ∧
      ∀ k < attempt, Text.lowercase (nameCandidate base k) ∈ taken := by
  obtain ⟨free, few, hfree⟩ := exists_free_candidate h taken
  unfold freeName
  rw [List.find?_map]
  cases hfind : (List.range (taken.length + 1)).find?
      ((fun name => !taken.contains (Text.lowercase name)) ∘ nameCandidate base) with
  | none =>
    have takenAll := List.find?_range_eq_none.mp hfind free (Nat.lt_succ_of_le few)
    simp [hfree] at takenAll
  | some attempt =>
    obtain ⟨-, tried, earlier⟩ := List.find?_range_eq_some.mp hfind
    refine ⟨attempt, Nat.le_of_lt_succ (List.mem_range.mp tried), rfl, fun k hk => ?_⟩
    simpa using earlier k hk

/-- A name that is free is chosen. -/
lemma freeName_of_free (h : IsName base) (free : Text.lowercase base ∉ taken) :
    freeName taken base = base := by
  obtain ⟨attempt, -, chosen, earlier⟩ := freeName_first h taken
  rcases Nat.eq_zero_or_pos attempt with rfl | pos
  · exact chosen
  · exact absurd (earlier 0 pos) free

/-- A name is chosen when those before it are taken. -/
lemma columnNamesFrom_getElem? (h : headers[i]? = some header) (taken : List String)
    (number : Nat) :
    (columnNamesFrom taken number headers)[i]? = some (freeName
      ((((columnNamesFrom taken number headers).take i).map Text.lowercase).reverse ++ taken)
      (columnBase (number + i) header)) := by
  induction headers generalizing taken number i with
  | nil => cases h
  | cons first headers ih =>
    rw [columnNamesFrom_cons]
    cases i with
    | zero =>
      obtain rfl : first = header := Option.some.inj h
      rfl
    | succ i =>
      rw [List.getElem?_cons_succ] at h ⊢
      rw [ih h, List.take_succ_cons, List.map_cons, List.reverse_cons, List.append_assoc,
        List.singleton_append, Nat.add_right_comm, Nat.add_assoc]

/-- Names of columns that are free and differ from each other are kept. -/
lemma columnNamesFrom_eq_self (usable : ∀ name ∈ names, IsColumnName name)
    (apart : (names.map Text.lowercase).Nodup)
    (free : ∀ name ∈ names, Text.lowercase name ∉ taken) :
    columnNamesFrom taken number names = names := by
  induction names generalizing taken number with
  | nil => rfl
  | cons name names ih =>
    obtain ⟨first, usable⟩ := List.forall_mem_cons.mp usable
    obtain ⟨new, apart⟩ := List.nodup_cons.mp apart
    obtain ⟨firstFree, free⟩ := List.forall_mem_cons.mp free
    have chosen : freeName taken (columnBase number name) = name := by
      rw [first.columnBase_eq, freeName_of_free first.isName firstFree]
    rw [columnNamesFrom_cons, chosen, ih usable apart fun other hother => ?_]
    intro mem
    rcases List.mem_cons.mp mem with same | mem
    · exact new (List.mem_map.mpr ⟨other, hother, same⟩)
    · exact free other hother mem

/-- Names that are made for columns can name them. -/
lemma columnNamesFrom_usable (taken : List String) (number : Nat) (headers : List String) :
    ∀ name ∈ columnNamesFrom taken number headers, IsColumnName name := by
  induction headers generalizing taken number with
  | nil => exact nofun
  | cons header headers ih =>
    rw [columnNamesFrom_cons]
    have base := isColumnName_columnBase number header
    obtain ⟨attempt, -, chosen, -⟩ := freeName_first base.isName taken
    exact List.forall_mem_cons.mpr ⟨chosen ▸ base.candidate attempt, ih _ _⟩

/-- The names of columns differ in lower case. -/
lemma columnNames_nodup (headers : List String) :
    ((columnNames headers).map Text.lowercase).Nodup := by
  refine List.pairwise_map.mpr ((columnNames_apart headers).imp_of_mem fun {a b} ha hb other => ?_)
  rw [(columnNamesFrom_spec ha).1.lowercase, (columnNamesFrom_spec hb).1.lowercase]
  exact mt Store.sameName_iff.mpr other

/-- There is a name for each header, and each can name a column: it is not empty, it consists of
ASCII letters, digits, underscores and number signs, and its underscores stand alone and between
other characters. The names differ without regard to case. Each is the first of its candidates that
no name before it has taken, which takes no more attempts than there are names before it; a header
that can name a column and is not taken is kept. Names that were made are kept when they are made
again. -/
theorem columnNames_usable (headers : List String) :
    (columnNames headers).length = headers.length ∧
      (∀ name ∈ columnNames headers, IsColumnName name) ∧
      ((columnNames headers).map Text.lowercase).Nodup ∧
      (∀ i header, headers[i]? = some header → ∃ name, (columnNames headers)[i]? = some name ∧
        (∃ attempt ≤ i, name = nameCandidate (columnBase (i + 1) header) attempt ∧
          ∀ k < attempt, Text.lowercase (nameCandidate (columnBase (i + 1) header) k) ∈
            ((columnNames headers).take i).map Text.lowercase) ∧
        (IsColumnName header →
          Text.lowercase header ∉ ((columnNames headers).take i).map Text.lowercase →
            name = header)) ∧
      columnNames (columnNames headers) = columnNames headers := by
  have usable := columnNamesFrom_usable [] 1 headers
  refine ⟨length_columnNames headers, usable, columnNames_nodup headers, fun i header hi => ?_,
    columnNamesFrom_eq_self usable (columnNames_nodup headers) fun _ _ => List.not_mem_nil⟩
  have chosen := columnNamesFrom_getElem? hi [] 1
  rw [List.append_nil, Nat.add_comm 1 i] at chosen
  refine ⟨_, chosen, ?_, fun kept free => ?_⟩
  · obtain ⟨attempt, few, found, earlier⟩ :=
      freeName_first (isColumnName_columnBase (i + 1) header).isName
        (((columnNames headers).take i).map Text.lowercase).reverse
    refine ⟨attempt, ?_, found, fun k hk => List.mem_reverse.mp (earlier k hk)⟩
    rw [List.length_reverse, List.length_map, List.length_take] at few
    exact few.trans (Nat.min_le_left _ _)
  · rw [kept.columnBase_eq]
    exact freeName_of_free kept.isName (mt List.mem_reverse.mp free)

/-- A header that looks like a name that was made for another column gets a number of its own. -/
example : columnNames ["", "col_1", "Port", "PORT", "port_2"] =
    ["col_1", "col_1_2", "Port", "PORT_2", "port_2_2"] := by
  decide +kernel

end ShipReport.Submission
