import Mathlib.Data.List.Nodup
import Mathlib.Data.List.Perm.Subperm
import ShipReport.Proofs.Store.Rows
import ShipReport.Proofs.Submission.StagingNames
import ShipReport.Proofs.Text.Numerals

/-!
# Names of columns

There is one column for each header. A name that is taken is given a number, and among the numbers
one gives a name that is free, so that the names of columns differ without regard to case.
-/

namespace ShipReport.Submission

open Store (Apart sameName sameName_iff)
open Text (isDigit_of_mem_toString toString_inj)

/-! ## Characters of names -/

/-- The text holds only characters that names keep. -/
def IsName (s : String) : Prop :=
  ∀ c ∈ s.toList, isNameChar c

instance (s : String) : Decidable (IsName s) :=
  List.decidableBAll _ s.toList

variable {s t base : String} {taken : List String} {number n : Nat}

/-- A sanitized text holds only characters of names. -/
lemma isName_sanitized (raw : String) : IsName (sanitized raw) :=
  fun _ => isNameChar_of_mem_sanitized

/-- Two names together hold only characters of names. -/
lemma IsName.append (hs : IsName s) (ht : IsName t) : IsName (s ++ t) := by
  intro c hc
  rw [String.toList_append] at hc
  exact (List.mem_append.mp hc).elim (hs c) (ht c)

/-- Numbers hold only characters of names. -/
lemma isName_toString (n : Nat) : IsName (toString n) := by
  intro c hc
  simp [isNameChar, Char.isAlphanum, isDigit_of_mem_toString hc]

/-- Names are ASCII texts, so that their lower case is that of their letters. -/
lemma IsName.lowercase (h : IsName s) : Text.lowercase s = Text.asciiLowercase s := by
  unfold Text.lowercase Text.asciiLowercase
  rw [lowerAfter_ascii [] fun c hc => isNameChar_lt (h c hc)]

/-! ## Names with numbers -/

/-- Digits have no case. -/
lemma toLower_of_isDigit {c : Char} (h : c.isDigit) : c.toLower = c := by
  have below : ¬ (c.val ≥ 'A'.val ∧ c.val ≤ 'Z'.val) := by grind [Char.isDigit]
  exact dif_neg below

/-- Numbers have no case. -/
lemma asciiLowercase_toString (n : Nat) : Text.asciiLowercase (toString n) = toString n := by
  have each : ∀ c ∈ (toString n).toList, c.toLower = c := fun c hc =>
    toLower_of_isDigit (isDigit_of_mem_toString hc)
  unfold Text.asciiLowercase
  rw [List.map_congr_left each, List.map_id', String.ofList_toList]

/-- A name with a number holds only characters of names. -/
lemma IsName.candidate (h : IsName base) (attempt : Nat) :
    IsName (nameCandidate base attempt) := by
  have underscore : IsName "_" := by decide
  unfold nameCandidate
  split
  · exact h
  · exact (h.append underscore).append (isName_toString _)

/-- The case of a name with a number is that of the name. -/
lemma asciiLowercase_candidate (base : String) (attempt : Nat) :
    Text.asciiLowercase (nameCandidate base attempt) =
      nameCandidate (Text.asciiLowercase base) attempt := by
  have underscore : Text.asciiLowercase "_" = "_" := by decide
  unfold nameCandidate
  split
  · rfl
  · rw [asciiLowercase_append, asciiLowercase_append, asciiLowercase_toString, underscore]

/-- Candidates with different numbers differ. -/
lemma nameCandidate_injective (base : String) : Function.Injective (nameCandidate base) := by
  have longer : ∀ k : Nat, base ≠ base ++ "_" ++ toString k := fun k h => by
    have := congrArg (·.toList.length) h
    simp at this
  intro m n h
  unfold nameCandidate at h
  split at h <;> split at h
  · omega
  · exact absurd h (longer _)
  · exact absurd h.symm (longer _)
  · have numbers : toString (m + 1) = toString (n + 1) := by
      rw [← String.toList_inj] at h ⊢
      simp only [String.toList_append] at h
      exact List.append_cancel_left h
    have := toString_inj.mp numbers
    omega

/-! ## Free names -/

/-- Candidates differ also in lower case. -/
lemma lowercase_candidate_injective (h : IsName base) :
    Function.Injective fun attempt => Text.lowercase (nameCandidate base attempt) := by
  intro m n same
  dsimp only at same
  rw [(h.candidate m).lowercase, (h.candidate n).lowercase, asciiLowercase_candidate,
    asciiLowercase_candidate] at same
  exact nameCandidate_injective _ same

/-- Among more candidates than taken names one is free. -/
lemma exists_free_candidate (h : IsName base) (taken : List String) :
    ∃ attempt ≤ taken.length, Text.lowercase (nameCandidate base attempt) ∉ taken := by
  by_contra none
  push Not at none
  have all : (List.range (taken.length + 1)).map
      (fun attempt => Text.lowercase (nameCandidate base attempt)) ⊆ taken := by
    intro name hname
    obtain ⟨attempt, hattempt, rfl⟩ := List.mem_map.mp hname
    exact none attempt (Nat.lt_succ_iff.mp (List.mem_range.mp hattempt))
  have distinct := (List.nodup_range (n := taken.length + 1)).map (lowercase_candidate_injective h)
  have few := (List.subperm_of_subset distinct all).length_le
  rw [List.length_map, List.length_range] at few
  omega

/-- The name that is chosen is one of the candidates, and it is free. -/
lemma freeName_spec (h : IsName base) (taken : List String) :
    IsName (freeName taken base) ∧ Text.lowercase (freeName taken base) ∉ taken := by
  obtain ⟨attempt, few, free⟩ := exists_free_candidate h taken
  have found : (((List.range (taken.length + 1)).map (nameCandidate base)).find?
      fun name => !taken.contains (Text.lowercase name)).isSome := by
    rw [List.find?_isSome]
    exact ⟨nameCandidate base attempt,
      List.mem_map_of_mem (List.mem_range.mpr (by omega)), by simpa using free⟩
  obtain ⟨name, hname⟩ := Option.isSome_iff_exists.mp found
  unfold freeName
  rw [hname, Option.getD_some]
  obtain ⟨k, -, rfl⟩ := List.mem_map.mp (List.mem_of_find?_eq_some hname)
  exact ⟨h.candidate k, by simpa using List.find?_some hname⟩

/-! ## Names for headers -/

/-- The name from which that of a column is made. -/
def columnBase (number : Nat) (header : String) : String :=
  if (sanitized header).isEmpty then "col_" ++ toString number else sanitized header

/-- What the name of a column is made of holds only characters of names. -/
lemma isName_columnBase (number : Nat) (header : String) : IsName (columnBase number header) := by
  have col : IsName "col_" := by decide
  unfold columnBase
  split
  · exact col.append (isName_toString number)
  · exact isName_sanitized header

/-- The first header gets the first name, which is taken for the others. -/
lemma columnNamesFrom_cons (taken : List String) (number : Nat) (header : String)
    (headers : List String) :
    columnNamesFrom taken number (header :: headers) =
      freeName taken (columnBase number header) ::
        columnNamesFrom (Text.lowercase (freeName taken (columnBase number header)) :: taken)
          (number + 1) headers :=
  rfl

/-- The names of columns are names, and none of them is taken. -/
lemma columnNamesFrom_spec {headers : List String} {name : String}
    (h : name ∈ columnNamesFrom taken number headers) :
    IsName name ∧ Text.lowercase name ∉ taken := by
  induction headers generalizing taken number with
  | nil => cases h
  | cons header headers ih =>
    rw [columnNamesFrom_cons] at h
    rcases List.mem_cons.mp h with rfl | h
    · exact freeName_spec (isName_columnBase number header) taken
    · have later := ih h
      exact ⟨later.1, fun mem => later.2 (List.mem_cons_of_mem _ mem)⟩

/-- The names that headers get differ without regard to case. -/
lemma columnNamesFrom_apart (taken : List String) (number : Nat) (headers : List String) :
    Apart (columnNamesFrom taken number headers) := by
  induction headers generalizing taken number with
  | nil => exact .nil
  | cons header headers ih =>
    rw [columnNamesFrom_cons]
    refine .cons (fun name hname same => ?_) (ih _ _)
    have first := (freeName_spec (isName_columnBase number header) taken).1
    have later := columnNamesFrom_spec hname
    refine later.2 (List.mem_cons.mpr (.inl ?_))
    rw [later.1.lowercase, first.lowercase]
    exact (sameName_iff.mp same).symm

/-- The names of columns differ without regard to case. -/
theorem columnNames_apart (headers : List String) : Apart (columnNames headers) :=
  columnNamesFrom_apart [] 1 headers

/-- There is a column for each header. -/
@[simp] theorem length_columnNames (headers : List String) :
    (columnNames headers).length = headers.length := by
  have each : ∀ taken number, (columnNamesFrom taken number headers).length = headers.length := by
    induction headers with
    | nil => exact fun _ _ => rfl
    | cons header headers ih =>
      intro taken number
      rw [columnNamesFrom_cons, List.length_cons, ih, List.length_cons]
  exact each [] 1

end ShipReport.Submission
