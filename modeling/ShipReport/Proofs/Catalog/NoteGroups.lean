import ShipReport.Catalog.Notes
import ShipReport.Proofs.Calendar.Days

/-!
# Groups of notes

Which notes are offered for each type of supply, in which order, and how many are left out. Notes of
one day and one number cannot be told apart by what is offered, so that the order in which notes are
given does not matter.
-/

namespace ShipReport

namespace Catalog

open Calendar (Date)

/-! ## The order of notes -/

/-- A day comes before a later one and before a missing one. -/
def DayBefore : Option Date → Option Date → Prop
  | some d, some e => d.Before e
  | some _, none => True
  | none, _ => False

/-- What comes out smaller is before. -/
lemma compareDates_eq_lt {d e : Option Date} : compareDates d e = .lt ↔ DayBefore d e := by
  cases d <;> cases e <;> simp [compareDates, DayBefore, Date.compare_eq_lt]

/-- Dates compare as equal only if they are. -/
lemma compareDates_eq_eq {d e : Option Date} : compareDates d e = .eq ↔ d = e := by
  cases d <;> cases e <;> simp [compareDates, Date.compare_eq_eq]

/-- A day before another one is before what that is before. -/
lemma DayBefore.trans : ∀ {d e f : Option Date}, DayBefore d e → DayBefore e f → DayBefore d f
  | some _, some _, some _, h, h' => Date.Before.trans h h'
  | some _, some _, none, _, _ => trivial
  | some _, none, _, _, h' => h'.elim
  | none, _, _, h, _ => h.elim

/-- Of two days at most one is before the other. -/
lemma DayBefore.asymm : ∀ {d e : Option Date}, DayBefore d e → ¬ DayBefore e d
  | some _, some _, h => Date.Before.asymm h
  | some _, none, _ => not_false
  | none, _, h => h.elim

/-- No day is before itself. -/
lemma DayBefore.ne {d e : Option Date} (h : DayBefore d e) : d ≠ e := by
  rintro rfl
  exact h.asymm h

/-- Of two days one comes first, or they are the same. -/
lemma dayBefore_cases : ∀ d e : Option Date, DayBefore d e ∨ d = e ∨ DayBefore e d
  | some d, some e => (Date.before_cases d e).imp_right (Or.imp_left (congrArg some))
  | some _, none => .inl trivial
  | none, some _ => .inr (.inr trivial)
  | none, none => .inr (.inl rfl)

namespace BunkerNote

variable {a b c : BunkerNote}

/-- A note comes before those of later days, those of no day, and those of its own day whose number
is not smaller. -/
def Before (a b : BunkerNote) : Prop :=
  DayBefore a.date b.date ∨ a.date = b.date ∧ a.number ≤ b.number

/-- Numbers of notes compare as texts. -/
lemma isLE_compare_number : (compare a.number b.number).isLE ↔ a.number ≤ b.number :=
  isLE_compareOfLessAndEq String.le_antisymm String.not_le String.le_total

/-- Notes are sorted by what is before what. -/
lemma le_iff : a.le b ↔ a.Before b := by
  rw [le, Ordering.isLE_then_iff_or, compareDates_eq_lt, compareDates_eq_eq, isLE_compare_number]
  rfl

/-- A note before another one is before what that is before. -/
lemma Before.trans (h : a.Before b) (h' : b.Before c) : a.Before c := by
  rcases h with day | ⟨same, number⟩ <;> rcases h' with day' | ⟨same', number'⟩
  · exact .inl (day.trans day')
  · exact .inl (same' ▸ day)
  · exact .inl (same ▸ day')
  · exact .inr ⟨same.trans same', String.le_trans number number'⟩

/-- Of two notes one is before the other. -/
lemma before_total (a b : BunkerNote) : a.Before b ∨ b.Before a := by
  rcases dayBefore_cases a.date b.date with day | same | day
  · exact .inl (.inl day)
  · exact (String.le_total a.number b.number).imp (.inr ⟨same, ·⟩) (.inr ⟨same.symm, ·⟩)
  · exact .inr (.inl day)

/-- What decides the place of a note. -/
def rank (n : BunkerNote) : Option Date × String :=
  (n.date, n.number)

/-- Notes that come before each other have one day and one number. -/
lemma Before.rank_eq (h : a.Before b) (h' : b.Before a) : a.rank = b.rank := by
  rcases h with day | ⟨same, number⟩
  · rcases h' with day' | ⟨same', -⟩
    · exact absurd day' day.asymm
    · exact absurd same'.symm day.ne
  · rcases h' with day' | ⟨-, number'⟩
    · exact absurd same.symm day'.ne
    · exact Prod.ext same (String.le_antisymm number number')

end BunkerNote

variable {notes notes' ordered ordered' : List BunkerNote} {key : String} {limit : Nat}

/-- Notes in their order have the same days and numbers, whichever way they were put in order. -/
lemma ranks_of_ordered (perm : ordered.Perm ordered') (h : ordered.Pairwise BunkerNote.Before)
    (h' : ordered'.Pairwise BunkerNote.Before) :
    ordered.map BunkerNote.rank = ordered'.map BunkerNote.rank := by
  have ranked : ∀ {l : List BunkerNote}, l.Pairwise BunkerNote.Before →
      (l.map BunkerNote.rank).Pairwise fun x y => DayBefore x.1 y.1 ∨ x.1 = y.1 ∧ x.2 ≤ y.2 :=
    fun h => List.pairwise_map.mpr h
  refine List.Perm.eq_of_pairwise (fun x y hx hy hxy hyx => ?_) (ranked h) (ranked h')
    (perm.map _)
  obtain ⟨a, -, rfl⟩ := List.mem_map.mp hx
  obtain ⟨b, -, rfl⟩ := List.mem_map.mp hy
  exact BunkerNote.Before.rank_eq hxy hyx

/-- The notes of a type are those that have its key. -/
lemma notesOfType_perm (notes : List BunkerNote) (key : String) :
    (notesOfType notes key).Perm (notes.filter (·.typeKey == key)) :=
  List.mergeSort_perm _ _

/-- The notes of a type stand in their order. -/
lemma notesOfType_ordered (notes : List BunkerNote) (key : String) :
    (notesOfType notes key).Pairwise BunkerNote.Before := by
  refine (List.pairwise_mergeSort ?_ ?_ _).imp BunkerNote.le_iff.mp
  · intro a b c hab hbc
    exact BunkerNote.le_iff.mpr
      ((BunkerNote.le_iff.mp hab).trans (BunkerNote.le_iff.mp hbc))
  · intro a b
    rw [Bool.or_eq_true]
    exact (BunkerNote.before_total a b).imp BunkerNote.le_iff.mpr BunkerNote.le_iff.mpr

/-! ## The types of notes -/

/-- The types are those that some note has. -/
lemma mem_noteTypes : key ∈ noteTypes notes ↔ ∃ n ∈ notes, n.typeKey = key := by
  rw [noteTypes, Std.TreeSet.mem_toList, Std.TreeSet.mem_ofList, List.contains_iff_mem,
    List.mem_map]

/-- The types stand in alphabetical order, each once. -/
lemma noteTypes_ordered (notes : List BunkerNote) : (noteTypes notes).Pairwise (· < ·) :=
  (Std.TreeSet.ordered_toList (t := .ofList (notes.map (·.typeKey)))).imp fun h =>
    compareOfLessAndEq_eq_lt.mp h

/-- The types are the same in whatever order the notes are given. -/
lemma noteTypes_perm (perm : notes.Perm notes') : noteTypes notes = noteTypes notes' := by
  have distinct : ∀ notes : List BunkerNote, (noteTypes notes).Nodup := fun notes =>
    (noteTypes_ordered notes).imp fun h => by
      rintro rfl
      exact String.lt_irrefl _ h
  refine List.Perm.eq_of_pairwise (fun a b _ _ hab hba => absurd hba (String.lt_asymm hab))
    (noteTypes_ordered notes) (noteTypes_ordered notes')
    ((List.perm_ext_iff_of_nodup (distinct _) (distinct _)).mpr fun key => ?_)
  rw [mem_noteTypes, mem_noteTypes]
  exact exists_congr fun n => and_congr_left fun _ => perm.mem_iff

/-! ## Groups -/

/-- The notes of a type that still have something left. -/
def availableOfType (notes : List BunkerNote) (key : String) : List BunkerNote :=
  notes.filter fun n => n.typeKey = key ∧ 0 < n.remaining

/-- Of the available notes those of a type are the available notes of the type. -/
lemma filter_availableNotes (notes : List BunkerNote) (key : String) :
    (availableNotes notes).filter (·.typeKey == key) = availableOfType notes key := by
  rw [availableNotes, List.filter_filter, availableOfType]
  refine List.filter_congr fun n _ => ?_
  rw [Bool.decide_and]
  rfl

/-- The types of the available notes are those of which something remains. -/
lemma noteTypes_availableNotes : key ∈ noteTypes (availableNotes notes) ↔
    ∃ n ∈ notes, n.typeKey = key ∧ 0 < n.remaining := by
  simp only [mem_noteTypes, availableNotes, List.mem_filter, decide_eq_true_iff]
  exact exists_congr fun n => and_assoc.trans (and_congr_right fun _ => and_comm)

/-- The types of groups are those of the available notes. -/
lemma typeKeys_noteGroups (notes : List BunkerNote) (limit : Nat) :
    (noteGroups notes limit).map (·.typeKey) = noteTypes (availableNotes notes) := by
  rw [noteGroups, List.map_map]
  exact List.map_id _

/-- The group of a type has the first of its available notes, in their order, and the number of the
others. -/
lemma group_of_mem {g : NoteGroup} (hg : g ∈ noteGroups notes limit) :
    ∃ ordered : List BunkerNote, ordered.Perm (availableOfType notes g.typeKey) ∧
      ordered.Pairwise BunkerNote.Before ∧ g.numbers = (ordered.take limit).map (·.number) ∧
      g.dropped = (availableOfType notes g.typeKey).length - limit := by
  obtain ⟨key, -, rfl⟩ := List.mem_map.mp hg
  have perm := notesOfType_perm (availableNotes notes) key
  rw [filter_availableNotes] at perm
  exact ⟨_, perm, notesOfType_ordered _ key, rfl, congrArg (· - limit) perm.length_eq⟩

/-- The group of a type is the same in whatever order the notes are given. -/
lemma noteGroup_perm (perm : notes.Perm notes') (limit : Nat) (key : String) :
    noteGroup notes limit key = noteGroup notes' limit key := by
  have same : (notesOfType notes key).Perm (notesOfType notes' key) :=
    (notesOfType_perm notes key).trans ((perm.filter _).trans (notesOfType_perm notes' key).symm)
  have ranks := ranks_of_ordered same (notesOfType_ordered notes key)
    (notesOfType_ordered notes' key)
  have numbers := congrArg (List.map Prod.snd) ranks
  rw [List.map_map, List.map_map] at numbers
  have taken := congrArg (List.take limit) numbers
  rw [← List.map_take, ← List.map_take] at taken
  unfold noteGroup
  dsimp only
  rw [same.length_eq]
  exact congrArg (NoteGroup.mk key · _) taken

/-- The groups are the same in whatever order the notes are given. -/
lemma noteGroups_perm (perm : notes.Perm notes') (limit : Nat) :
    noteGroups notes limit = noteGroups notes' limit := by
  have available : (availableNotes notes).Perm (availableNotes notes') := perm.filter _
  unfold noteGroups
  dsimp only
  rw [noteTypes_perm available]
  exact List.map_congr_left fun key _ => noteGroup_perm available limit key

/-- The overflow lists the groups that dropped notes, with how many. -/
lemma mem_overflow {groups : List NoteGroup} {n : Nat} : (key, n) ∈ overflow groups ↔
    ∃ g ∈ groups, g.typeKey = key ∧ g.dropped = n ∧ 0 < n := by
  unfold overflow
  simp only [List.mem_map, List.mem_filter, decide_eq_true_iff, Prod.mk.injEq]
  constructor
  · rintro ⟨g, ⟨hg, some⟩, rfl, rfl⟩
    exact ⟨g, hg, rfl, rfl, some⟩
  · rintro ⟨g, hg, rfl, rfl, some⟩
    exact ⟨g, ⟨hg, some⟩, rfl, rfl⟩

/-- There is a group for each type of which something is left, in the order of the types. It offers
as many of the available notes of the type as the limit allows, those of earlier days first, those
of no day last, and those of one day by number. The notes beyond the limit are counted, if there are
any. The order in which the notes are given plays no part. -/
theorem notes_grouped (notes : List BunkerNote) (limit : Nat) :
    ((noteGroups notes limit).map (·.typeKey)).Pairwise (· < ·) ∧
      (∀ key, key ∈ (noteGroups notes limit).map (·.typeKey) ↔
        ∃ n ∈ notes, n.typeKey = key ∧ 0 < n.remaining) ∧
      (∀ g ∈ noteGroups notes limit, ∃ ordered : List BunkerNote,
        ordered.Perm (availableOfType notes g.typeKey) ∧ ordered.Pairwise BunkerNote.Before ∧
          g.numbers = (ordered.take limit).map (·.number)) ∧
      (∀ key n, (key, n) ∈ overflow (noteGroups notes limit) ↔
        0 < n ∧ (availableOfType notes key).length = limit + n) ∧
      ∀ notes' : List BunkerNote, notes'.Perm notes →
        noteGroups notes' limit = noteGroups notes limit := by
  refine ⟨?_, fun key => ?_, fun g hg => ?_, fun key n => ?_, fun notes' perm =>
    noteGroups_perm perm limit⟩
  · rw [typeKeys_noteGroups]
    exact noteTypes_ordered _
  · rw [typeKeys_noteGroups, noteTypes_availableNotes]
  · obtain ⟨ordered, perm, order, numbers, -⟩ := group_of_mem hg
    exact ⟨ordered, perm, order, numbers⟩
  · rw [mem_overflow]
    constructor
    · rintro ⟨g, hg, rfl, rfl, some⟩
      obtain ⟨-, -, -, -, dropped⟩ := group_of_mem hg
      omega
    · rintro ⟨some, many⟩
      -- a type with notes beyond the limit has an available note, and so a group
      obtain ⟨note, hnote⟩ : ∃ note, note ∈ availableOfType notes key :=
        List.exists_mem_of_length_pos (by omega)
      obtain ⟨given, available⟩ := List.mem_filter.mp hnote
      have listed : key ∈ (noteGroups notes limit).map (·.typeKey) := by
        rw [typeKeys_noteGroups, noteTypes_availableNotes]
        exact ⟨note, given, of_decide_eq_true available⟩
      obtain ⟨g, hg, rfl⟩ := List.mem_map.mp listed
      obtain ⟨-, -, -, -, dropped⟩ := group_of_mem hg
      exact ⟨g, hg, rfl, by omega, some⟩

/-- With a limit of zero there is still a group for the type, and its note is counted; a quantity
that is no number is not above zero. -/
example :
    let groups := noteGroups
      [⟨1, "MGO", "M-1", none, 1⟩, ⟨2, "HFO", "H-1", some ⟨2024, 1, 5⟩, 0 / 0⟩] 0
    groups = [⟨"MGO", [], 1⟩] ∧ overflow groups = [("MGO", 1)] := by
  decide +kernel

end Catalog

end ShipReport
