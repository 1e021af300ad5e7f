import Mathlib.Data.List.Infix
import Mathlib.Tactic.Lemma
import ShipReport.Storage.Path

/-!
# Where paths lead

A path leads from the root or from the current directory through named directories. The exported
file of a sheet lies two steps below its root, in a place that tells the sheet and the batch. So
below directories that lie apart no exported file is in the way of another one.
-/

namespace ShipReport.Storage

open Report (ReportSheet)

variable {path root part id id' : String} {j k : ReportSheet}

/-- The named parts of a path, without those that lead nowhere. A step up counts as a name, since
files are known by the texts of their paths. -/
def names (path : String) : List String :=
  (parts path).filter fun p => p != "" && p != "."

/-- The way to a path: where it begins, and the names on it. -/
def way (path : String) : List String :=
  (if path.toList.head? = some '/' then "/" else ".") :: names path

/-- Neither of two directories lies in the other. -/
def Apart (a b : String) : Prop :=
  ¬ way a <+: way b ∧ ¬ way b <+: way a

instance (a b : String) : Decidable (Apart a b) :=
  inferInstanceAs (Decidable (¬ _ ∧ ¬ _))

/-! ## Parts -/

/-- The names before and after a slash. -/
lemma names_append {front rest : List Char} (h : path.toList = front ++ '/' :: rest) :
    names path = names (String.ofList front) ++ names (String.ofList rest) := by
  unfold names parts
  rw [h, List.splitOn_append_cons_self, List.map_append, List.filter_append,
    String.toList_ofList, String.toList_ofList]

/-- A name stands for itself. -/
lemma names_of_name (hslash : '/' ∉ part.toList) (hempty : part ≠ "") (hpoint : part ≠ ".") :
    names part = [part] := by
  unfold names parts
  rw [List.splitOn_eq_singleton hslash]
  simp [hempty, hpoint]

/-- A name that is joined to a path is one step further. -/
lemma way_join (hslash : '/' ∉ part.toList) (hempty : part ≠ "") (hpoint : part ≠ ".") :
    way (join root part) = way root ++ [part] := by
  have name := names_of_name hslash hempty hpoint
  have relative : part.toList.head? ≠ some '/' := fun h => hslash (List.mem_of_head? h)
  unfold join way
  split
  · next h =>
    obtain rfl : root = "" := by simpa [relative] using h
    rw [name]
    simp [names, parts]
  · next h =>
    have nonempty : root.toList ≠ [] := by
      intro hnil
      exact h (.inr (by simp [String.toList_eq_nil_iff.mp hnil]))
    -- a slash is added unless the root ends with one
    split
    · next last =>
      obtain ⟨front, hfront⟩ : ∃ front, root.toList = front ++ ['/'] :=
        ⟨_, (List.dropLast_append_getLast? _ last).symm⟩
      have whole : (root ++ part).toList = front ++ '/' :: part.toList := by
        rw [String.toList_append, hfront, List.append_assoc, List.singleton_append]
      rw [names_append whole, names_append hfront, String.ofList_toList, name,
        String.toList_append, List.head?_append_of_ne_nil _ nonempty]
      simp [names, parts]
    · have whole : (root ++ "/" ++ part).toList = root.toList ++ '/' :: part.toList := by
        simp
      rw [names_append whole, String.ofList_toList, String.ofList_toList, name, whole,
        List.head?_append_of_ne_nil _ nonempty]
      simp

/-! ## Ancestors -/

/-- Two lists of texts between separators. -/
lemma intercalate_append (sep : List Char) {xs ys : List (List Char)} (hx : xs ≠ [])
    (hy : ys ≠ []) :
    sep.intercalate (xs ++ ys) = sep.intercalate xs ++ sep ++ sep.intercalate ys := by
  induction xs with
  | nil => exact absurd rfl hx
  | cons x xs ih =>
    by_cases hnil : xs = []
    · subst hnil
      rw [List.singleton_append, List.intercalate_cons_of_ne_nil hy, List.intercalate_singleton]
    · rw [List.cons_append, List.intercalate_cons_of_ne_nil (by simp [hnil]),
        List.intercalate_cons_of_ne_nil hnil, ih hnil]
      simp

/-- A directory that a path goes through is the path up to a slash. -/
lemma exists_of_mem_ancestors {dir : String} (h : dir ∈ ancestors path) :
    ∃ rest, path.toList = dir.toList ++ '/' :: rest := by
  unfold ancestors at h
  obtain ⟨i, hi, rfl⟩ := List.mem_map.mp h
  rw [List.mem_range] at hi
  have length : (parts path).length = (path.toList.splitOn '/').length := List.length_map _
  refine ⟨['/'].intercalate ((path.toList.splitOn '/').drop (i + 1)), ?_⟩
  have chars : (("/" : String).intercalate ((parts path).take (i + 1))).toList =
      ['/'].intercalate ((path.toList.splitOn '/').take (i + 1)) := by
    rw [String.toList_intercalate, parts, List.map_take, List.map_map]
    simp [Function.comp_def]
  calc path.toList = ['/'].intercalate (path.toList.splitOn '/') :=
        (List.intercalate_splitOn '/').symm
    _ = ['/'].intercalate ((path.toList.splitOn '/').take (i + 1) ++
          (path.toList.splitOn '/').drop (i + 1)) := by rw [List.take_append_drop]
    _ = _ := by
      rw [intercalate_append _ (by simp [List.splitOn_ne_nil]) ?_, chars, List.append_assoc,
        List.singleton_append]
      intro none
      have := List.drop_eq_nil_iff.mp none
      omega

/-- The way to a path goes through the directories on it. -/
lemma way_of_mem_ancestors {dir : String} (h : dir ∈ ancestors path) (hempty : dir ≠ "") :
    way dir <+: way path := by
  obtain ⟨rest, hrest⟩ := exists_of_mem_ancestors h
  have nonempty : dir.toList ≠ [] := fun hnil => hempty (String.toList_eq_nil_iff.mp hnil)
  refine ⟨names (String.ofList rest), ?_⟩
  unfold way
  rw [names_append hrest, hrest, List.head?_append_of_ne_nil _ nonempty, String.ofList_toList]
  rfl

/-! ## Exported files -/

/-- The name of the exported file of a sheet. -/
def artifactName (k : ReportSheet) (id : String) : String :=
  id ++ "_" ++ k.fileStem ++ ".csv"

/-- The way to a file leads through the folder of its sheet. -/
lemma way_artifactPath (hid : '/' ∉ id.toList) :
    way (artifactPath root k id) = way root ++ [k.folder, artifactName k id] := by
  have hname : '/' ∉ (artifactName k id).toList := by
    have stem : '/' ∉ k.fileStem.toList := by cases k <;> decide
    simp [artifactName, hid, stem]
  have long : 5 ≤ (artifactName k id).toList.length := by
    simp [artifactName]
    omega
  have hempty : artifactName k id ≠ "" := by
    intro h
    rw [h] at long
    cases long
  have hpoint : artifactName k id ≠ "." := by
    intro h
    rw [h] at long
    exact absurd long (by decide)
  change way (join (join root k.folder) (artifactName k id)) = _
  rw [way_join hname hempty hpoint, way_join, List.append_assoc, List.singleton_append]
  all_goals cases k <;> decide

/-- An exported file tells the root, the sheet and the batch. -/
lemma artifactPath_inj {root' : String} (hid : '/' ∉ id.toList) (hid' : '/' ∉ id'.toList)
    (h : artifactPath root j id = artifactPath root' k id') :
    way root = way root' ∧ j = k ∧ id = id' := by
  have ways := congrArg way h
  rw [way_artifactPath hid, way_artifactPath hid'] at ways
  obtain ⟨roots, rest⟩ := List.append_inj' ways rfl
  simp only [List.cons.injEq, and_true] at rest
  obtain ⟨folders, files⟩ := rest
  obtain rfl : j = k := by
    revert folders
    cases j <;> cases k <;> decide
  refine ⟨roots, rfl, ?_⟩
  simpa [artifactName, ← String.toList_inj] using files

section

variable {root' : String} (hroots : Apart root root') (hid : '/' ∉ id.toList)
  (hid' : '/' ∉ id'.toList)

include hroots hid hid'

/-- Exported files below roots that lie apart have different paths. -/
lemma artifactPath_ne_of_apart : artifactPath root j id ≠ artifactPath root' k id' := by
  intro same
  have ways := (artifactPath_inj hid hid' same).1
  exact hroots.1 (ways ▸ List.prefix_refl _)

/-- An exported file is not in the way of those below a root that lies apart. -/
lemma artifactPath_not_mem_ancestors :
    artifactPath root' k id' ∉ ancestors (artifactPath root j id) := by
  intro through
  have way' : way (artifactPath root' k id') = way root' ++ [k.folder, artifactName k id'] :=
    way_artifactPath hid'
  have hempty : artifactPath root' k id' ≠ "" := by
    intro h
    have lengths := congrArg List.length (h ▸ way')
    simp [way, names, parts] at lengths
  have goes := way_of_mem_ancestors through hempty
  rw [way', way_artifactPath hid] at goes
  have below : way root' <+: way root ++ [j.folder, artifactName j id] :=
    (List.prefix_append _ _).trans goes
  rcases List.prefix_or_prefix_of_prefix below (List.prefix_append _ _) with inside | inside
  · exact hroots.2 inside
  · exact hroots.1 inside

end

end ShipReport.Storage
