import Mathlib.Algebra.Group.Nat.Defs
import ShipReport.Proofs.Store.SettingHistory

/-!
# Settings resolved

After values were set one after the other, each setting for a vessel is what was set last for the
vessel, or else for everyone, or else the default; a value that cannot be read gives the default as
well, even if there is another one for everyone. The settings depend only on what was set for the
vessel and for everyone, and where files are kept only on what was set for everyone.
-/

namespace ShipReport.Store

open Report (Rules Layout Settings)

/-! ## What holds for a vessel -/

/-- What is set for a vessel, or for everyone: what was set last for the vessel, or else for
everyone. -/
def chosen (writes : List Write) (vessel : Option Int) (key : SettingKey) : Option String :=
  match vessel with
  | some id => (lastSet writes (.vessel id) key.word).or (lastSet writes .everyone key.word)
  | none => lastSet writes .everyone key.word

/-- The value of a setting that can be read in some way, or else its default. -/
def resolved {α : Type} (writes : List Write) (vessel : Option Int) (key : SettingKey)
    (read : String → Option α) (default : α) : α :=
  match chosen writes vessel key with
  | some value => (read value).getD default
  | none => default

/-- Where files are kept: what was set for everyone, of which a blank mirror is none. -/
def resolvedStorage (writes : List Write) (dataDirectory : String) : Report.Storage where
  uploadRoot := resolved writes none .uploadRoot some (Database.defaultUploadRoot dataDirectory)
  mirrorRoot :=
    match chosen writes none .mirrorRoot with
    | some value => if Text.isBlankText value then none else some value
    | none => none

/-- The settings for a vessel, or for everyone. -/
def resolvedSettings (writes : List Write) (dataDirectory : String) (vessel : Option Int) :
    Settings where
  rules := {
    operationTypes := resolved writes vessel .operationTypes listOf? Rules.default.operationTypes
    placeholders := resolved writes vessel .placeholders listOf? Rules.default.placeholders
    noteSlotLimit :=
      max (resolved writes vessel .noteSlotLimit (countOf? (2 ^ 64)) Rules.default.noteSlotLimit) 1
    password := resolved writes vessel .password some Rules.default.password
    editableFormulas :=
      resolved writes vessel .editableFormulas listOf? Rules.default.editableFormulas }
  layout := { Layout.default with
    standardMaxRow :=
      max (resolved writes vessel .standardMaxRow (countOf? (2 ^ 32)) Layout.default.standardMaxRow)
        2
    bulkMaxRow :=
      max (resolved writes vessel .bulkMaxRow (countOf? (2 ^ 32)) Layout.default.bulkMaxRow) 2 }
  storage := resolvedStorage writes dataDirectory

/-! ## What matters for a vessel -/

/-- A value for the scope matters for a vessel, or for everyone. -/
def Scope.concerns (vessel : Option Int) : Scope → Bool
  | .everyone => true
  | .vessel id => vessel == some id

/-- The values that matter for a vessel, or for everyone. -/
def concerning (vessel : Option Int) (writes : List Write) : List Write :=
  writes.filter fun w => w.scope.concerns vessel

variable {writes : List Write} {vessel : Option Int} {key : SettingKey}

/-- What was set last for a scope that matters is among what matters. -/
lemma lastSet_concerning {scope : Scope} (h : scope.concerns vessel) (key : String) :
    lastSet (concerning vessel writes) scope key = lastSet writes scope key := by
  unfold lastSet concerning
  rw [List.filter_filter]
  congr 3
  funext w
  rw [Bool.and_eq_left_iff_imp]
  intro own
  rw [Write.sets, decide_eq_true_eq] at own
  rw [own.1]
  exact h

/-- What is chosen for a vessel depends on what concerns it. -/
lemma chosen_concerning : chosen (concerning vessel writes) vessel key =
    chosen writes vessel key := by
  cases vessel with
  | none => exact lastSet_concerning rfl _
  | some id =>
    have own : (Scope.vessel id).concerns (some id) := beq_self_eq_true _
    rw [chosen, chosen, lastSet_concerning own, lastSet_concerning rfl]

/-- What matters for everyone matters for a vessel. -/
lemma chosen_none_concerning : chosen (concerning vessel writes) none key =
    chosen writes none key :=
  lastSet_concerning rfl _

/-- The settings are made of what matters. -/
lemma resolvedSettings_concerning (dataDirectory : String) :
    resolvedSettings (concerning vessel writes) dataDirectory vessel =
      resolvedSettings writes dataDirectory vessel := by
  simp only [resolvedSettings, resolvedStorage, resolved, chosen_concerning, chosen_none_concerning]

/-- Where files are kept depends on what concerns everyone. -/
lemma resolvedStorage_concerning (dataDirectory : String) :
    resolvedStorage (concerning none writes) dataDirectory =
      resolvedStorage writes dataDirectory := by
  simp only [resolvedStorage, resolved, chosen_none_concerning]

namespace Database.HoldsSettings

variable {db : Database}

/-! ## Settings read -/

/-- The setting for a vessel is what holds for it. -/
lemma setting (holds : db.HoldsSettings writes) (vessel : Option Int) (key : SettingKey) :
    db.setting vessel key.word = .ok (chosen writes vessel key) := by
  unfold Database.setting
  cases vessel with
  | none => exact holds.scopedSetting .everyone key.word
  | some id =>
    dsimp only
    rw [holds.scopedSetting (.vessel id), holds.scopedSetting .everyone, chosen]
    cases lastSet writes (.vessel id) key.word with
    | none => rfl
    | some value => rfl

/-- A setting is resolved as what was set last says. -/
lemma settingOr (holds : db.HoldsSettings writes) (vessel : Option Int) (key : SettingKey)
    {α : Type} (read : String → Option α) (default : α) :
    db.settingOr vessel key read default = .ok (resolved writes vessel key read default) := by
  unfold Database.settingOr resolved
  rw [holds.setting]
  cases chosen writes vessel key with
  | none => rfl
  | some value => rfl

/-- Where files are kept is resolved as what was set last says. -/
lemma storage (holds : db.HoldsSettings writes) (dataDirectory : String) :
    db.storage dataDirectory = .ok (resolvedStorage writes dataDirectory) := by
  unfold Database.storage resolvedStorage
  simp only [holds.settingOr, holds.setting, bind, Except.bind, pure, Except.pure]
  cases chosen writes none .mirrorRoot with
  | none => rfl
  | some value =>
    rw [Option.filter_some]
    dsimp only
    cases Text.isBlankText value with
    | true => rfl
    | false => rfl

/-- The settings for a vessel are those that hold for it. -/
lemma settings (holds : db.HoldsSettings writes) (dataDirectory : String) (vessel : Option Int) :
    db.settings dataDirectory vessel = .ok (resolvedSettings writes dataDirectory vessel) := by
  unfold Database.settings Database.rules Database.layout
  simp only [holds.settingOr, holds.storage, bind, Except.bind, pure, Except.pure]
  rfl

end Database.HoldsSettings

/-- The settings where nothing is set. -/
def Database.plainSettings (dataDirectory : String) : Settings where
  rules := .default
  layout := .default
  storage := ⟨defaultUploadRoot dataDirectory, none⟩

/-- Where nothing is set, settings have their defaults. -/
lemma Database.settings_of_none {db : Database}
    (ht : db.table? "config_kv" = some ⟨Schema.settings, []⟩) (dataDirectory : String)
    (vessel : Option Int) :
    db.settings dataDirectory vessel = .ok (plainSettings dataDirectory) := by
  have unset : resolvedSettings [] dataDirectory vessel = plainSettings dataDirectory := by
    cases vessel <;> rfl
  rw [(holdsSettings_nil ht).settings, unset]

/-! ## Settings after values were set -/

/-- What a database has for settings after values were set. -/
structure Resolves (db after : Database) (dataDirectory : String) (writes : List Write) : Prop where
  settings : ∀ vessel, after.settings dataDirectory vessel =
    .ok (resolvedSettings writes dataDirectory vessel)
  /-- At least one note is offered, and there is a row below the headers. -/
  bounds : ∀ vessel, 1 ≤ (resolvedSettings writes dataDirectory vessel).rules.noteSlotLimit ∧
    2 ≤ (resolvedSettings writes dataDirectory vessel).layout.standardMaxRow ∧
    2 ≤ (resolvedSettings writes dataDirectory vessel).layout.bulkMaxRow
  /-- What was set for other vessels does not matter. -/
  isolated : ∀ vessel others after', db.afterWrites others = .ok after' →
    concerning vessel others = concerning vessel writes →
      after'.settings dataDirectory vessel = after.settings dataDirectory vessel
  /-- What was set for any vessel does not matter for where files are kept. -/
  storage : ∀ others after', db.afterWrites others = .ok after' →
    concerning none others = concerning none writes →
      after'.storage dataDirectory = after.storage dataDirectory

/-- Any values can be set one after the other where none has been set; what was set last holds then,
and what is set for one vessel does not reach another. -/
theorem settings_afterWrites {db : Database}
    (ht : db.table? "config_kv" = some ⟨Schema.settings, []⟩) (dataDirectory : String)
    (writes : List Write) :
    ∃ after, db.afterWrites writes = .ok after ∧ Resolves db after dataDirectory writes := by
  have empty : db.HoldsSettings [] := Database.holdsSettings_nil ht
  obtain ⟨after, run, holds⟩ := empty.afterWrites writes
  refine ⟨after, run, holds.settings dataDirectory,
    fun _ => ⟨Nat.le_max_right _ _, Nat.le_max_right _ _, Nat.le_max_right _ _⟩,
    fun vessel others after' run' same => ?_, fun others after' run' same => ?_⟩
  · obtain ⟨_, again, holds'⟩ := empty.afterWrites others
    cases run'.symm.trans again
    rw [holds.settings, holds'.settings, List.nil_append, List.nil_append,
      ← resolvedSettings_concerning, same, resolvedSettings_concerning]
  · obtain ⟨_, again, holds'⟩ := empty.afterWrites others
    cases run'.symm.trans again
    rw [holds.storage, holds'.storage, List.nil_append, List.nil_append,
      ← resolvedStorage_concerning, same, resolvedStorage_concerning]

namespace Sample

/-- Limits of which one is too small and one cannot be read, a password of one vessel, a root for
one vessel only, and a blank mirror. -/
def scopedWrites : List Write :=
  [⟨.everyone, "note_slot_limit", "0"⟩, ⟨.vessel 7, "note_slot_limit", "many"⟩,
    ⟨.vessel 8, "protection_password", "first"⟩, ⟨.vessel 8, "protection_password", "second"⟩,
    ⟨.vessel 7, "upload_root", "/elsewhere"⟩, ⟨.everyone, "mirror_root", "  "⟩]

/-- Values for two vessels and for everyone are set in a new database. -/
theorem settings_scopedWrites :
    Database.new.table? "config_kv" = some ⟨Schema.settings, []⟩ ∧
      ∃ after, Database.new.afterWrites scopedWrites = .ok after ∧
        Resolves Database.new after "/data" scopedWrites := by
  have unset : Database.new.table? "config_kv" = some ⟨Schema.settings, []⟩ := by decide +kernel
  exact ⟨unset, settings_afterWrites unset "/data" scopedWrites⟩

/-- A limit that cannot be read gives the default, not the limit for everyone. -/
example : (resolvedSettings scopedWrites "/data" (some 7)).rules.noteSlotLimit = 10 ∧
    (resolvedSettings scopedWrites "/data" (some 8)).rules.noteSlotLimit = 1 := by
  decide +kernel

end Sample

end ShipReport.Store
