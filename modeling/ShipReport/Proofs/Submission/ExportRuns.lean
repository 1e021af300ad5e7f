import ShipReport.Proofs.Storage.Paths
import ShipReport.Proofs.Submission.Exported

/-!
# Runs of exports

Several workbooks are exported one after the other, each under the id of its batch. An export writes
to the files of its own batch only, so what was exported stays until the end of the run, and so do
the copies below the mirror root. Nothing below the upload root depends on the copies: two runs
whose mirrors behave differently have the same outcomes and leave the same files.
-/

namespace ShipReport.Submission

open Report (ReportSheet)
open Storage (Apart Files ancestors artifactPath)

/-- An export: a workbook and the id of its batch. -/
structure Export where
  batchId : String
  workbook : ParsedWorkbook

/-- Exports workbooks one after the other, each whatever came of those before. -/
def exportAll (files : Files) (storage : Report.Storage) :
    List Export → Files × List (Except SubmissionError (List Artifact))
  | [] => (files, [])
  | e :: rest =>
    let (files, result) := exportSheets files storage e.batchId e.workbook.sheets
    let (files, results) := exportAll files storage rest
    (files, result :: results)

/-- The file of a sheet below one of the roots. -/
def IsArtifact (storage : Report.Storage) (k : ReportSheet) (id path : String) : Prop :=
  path = artifactPath storage.uploadRoot k id ∨
    ∃ root, storage.mirrorRoot = some root ∧ path = artifactPath root k id

/-- The exported file of a sheet is in its place below the upload root, and so is its copy below the
mirror root if it is said to be there. -/
structure Delivered (files : Files) (storage : Report.Storage) (id : String) (s : ParsedSheet)
    (a : Artifact) : Prop extends Exported files s a where
  path : a.path = artifactPath storage.uploadRoot s.kind id
  copy : a.mirrored → ∃ root, storage.mirrorRoot = some root ∧
    files[artifactPath root s.kind id]? = files[a.path]?

/-! ## What an export leaves alone -/

section

variable {files after : Files} {storage : Report.Storage} {id id' p : String} {j k : ReportSheet}
  {s : ParsedSheet} {sheets : List ParsedSheet} {a : Artifact} {artifacts : List Artifact}
  {exports : List Export}

/-- A file belongs to one sheet of one batch. -/
lemma IsArtifact.unique (hid : '/' ∉ id.toList) (hid' : '/' ∉ id'.toList)
    (h : IsArtifact storage j id p) (h' : IsArtifact storage k id' p) : j = k ∧ id = id' := by
  obtain ⟨root, rfl⟩ : ∃ root, p = artifactPath root j id := by
    rcases h with h | ⟨root, -, h⟩
    · exact ⟨_, h⟩
    · exact ⟨root, h⟩
  rcases h' with h' | ⟨_, -, h'⟩
  · exact (Storage.artifactPath_inj hid hid' h').2
  · exact (Storage.artifactPath_inj hid hid' h').2

/-- The export of a sheet leaves all files but its own. -/
lemma exportSheet_frame (hp : ¬ IsArtifact storage s.kind id p) :
    (exportSheet files storage id s).1[p]? = files[p]? := by
  have primary := writeCsv_other files s.headers s.rows fun h => hp (.inl h)
  unfold exportSheet
  dsimp only
  split
  · next written _ hwritten =>
    rw [hwritten] at primary
    exact primary
  · next written _ hwritten =>
    rw [hwritten] at primary
    exact (mirrorSheet_other fun root hroot h => hp (.inr ⟨root, hroot, h⟩)).trans primary

/-- The export of some sheets leaves all files but theirs. -/
lemma exportSheets_frame (hp : ∀ s ∈ sheets, ¬ IsArtifact storage s.kind id p) :
    (exportSheets files storage id sheets).1[p]? = files[p]? := by
  induction sheets generalizing files with
  | nil => rfl
  | cons s sheets ih =>
    obtain ⟨own, rest⟩ := List.forall_mem_cons.mp hp
    have first : (exportSheet files storage id s).1[p]? = files[p]? := exportSheet_frame own
    unfold exportSheets
    split
    · next h =>
      rw [h] at first
      exact first
    · next h =>
      rw [h] at first
      exact (ih rest).trans first

/-- A run leaves all files but those of its batches. -/
lemma exportAll_frame (hp : ∀ e ∈ exports, ∀ k, ¬ IsArtifact storage k e.batchId p) :
    (exportAll files storage exports).1[p]? = files[p]? := by
  induction exports generalizing files with
  | nil => rfl
  | cons e exports ih =>
    obtain ⟨own, rest⟩ := List.forall_mem_cons.mp hp
    exact (ih rest).trans (exportSheets_frame fun s _ => own s.kind)

/-! ## What stays until the end -/

/-- What was delivered stays so as long as its files do. -/
lemma Delivered.keep (h : Delivered files storage id s a)
    (same : ∀ p, IsArtifact storage s.kind id p → after[p]? = files[p]?) :
    Delivered after storage id s a := by
  have own : after[a.path]? = files[a.path]? := same _ (.inl h.path)
  refine ⟨⟨h.title, h.count, own.trans h.text⟩, h.path, fun mirrored => ?_⟩
  obtain ⟨root, hroot, copy⟩ := h.copy mirrored
  exact ⟨root, hroot, by rw [same _ (.inr ⟨root, hroot, rfl⟩), copy, own]⟩

/-- A copy that is said to be there holds what is written for the sheet. -/
lemma mirrorSheet_eq_true {mirror : Option String}
    (h : mirrorSheet files mirror id s = (after, true)) :
    ∃ root, mirror = some root ∧
      after[artifactPath root s.kind id]? = some (Csv.write s.headers s.rows).text := by
  unfold mirrorSheet at h
  split at h
  · cases h
  · next root =>
    dsimp only at h
    cases hwritten : files.writeCsv (artifactPath root s.kind id) s.headers s.rows with
    | mk written result =>
      rw [hwritten] at h
      obtain ⟨rfl, h⟩ := Prod.mk.inj h
      cases result with
      | error e => cases h
      | ok _ =>
        rw [writeCsv_eq_ok hwritten]
        exact ⟨root, rfl, Std.TreeMap.getElem?_insert_self⟩

/-- A sheet that was exported is delivered. -/
lemma exportSheet_delivered (h : exportSheet files storage id s = (after, .ok a)) :
    Delivered after storage id s a := by
  obtain ⟨exported, path, -⟩ := exportSheet_eq_ok h
  refine ⟨exported, path, fun mirrored => ?_⟩
  unfold exportSheet at h
  dsimp only at h
  split at h
  · cases h
  · next written _ _ =>
    cases hcopy : mirrorSheet written storage.mirrorRoot id s with
    | mk last noted =>
      rw [hcopy] at h
      obtain ⟨rfl, ha⟩ := Prod.mk.inj h
      cases ha
      obtain rfl : noted = true := mirrored
      obtain ⟨root, hroot, copy⟩ := mirrorSheet_eq_true hcopy
      exact ⟨root, hroot, copy.trans exported.text.symm⟩

/-- Sheets of different kinds that were exported are all delivered. -/
lemma exportSheets_delivered (hid : '/' ∉ id.toList) (kinds : (sheets.map (·.kind)).Nodup)
    (h : exportSheets files storage id sheets = (after, .ok artifacts)) :
    List.Forall₂ (Delivered after storage id) sheets artifacts := by
  induction sheets generalizing files artifacts with
  | nil =>
    cases h
    exact .nil
  | cons s sheets ih =>
    rw [List.map_cons, List.nodup_cons] at kinds
    unfold exportSheets at h
    split at h
    · cases h
    · next between a first =>
      cases hrest : exportSheets between storage id sheets with
      | mk last result =>
        rw [hrest] at h
        obtain ⟨rfl, h⟩ := Prod.mk.inj h
        cases result with
        | error e => cases h
        | ok rest =>
          cases h
          refine .cons ((exportSheet_delivered first).keep fun p hp => ?_) (ih kinds.2 hrest)
          -- the sheets that follow have other kinds
          have apart : ∀ t ∈ sheets, ¬ IsArtifact storage t.kind id p := fun t ht own =>
            kinds.1 ((hp.unique hid hid own).1 ▸ List.mem_map_of_mem ht)
          have frame : (exportSheets between storage id sheets).1[p]? = between[p]? :=
            exportSheets_frame apart
          rwa [hrest] at frame

/-- What the exports of a run with different batches delivered is there at its end. -/
lemma exportAll_delivered (hslash : ∀ e ∈ exports, '/' ∉ e.batchId.toList)
    (hids : (exports.map (·.batchId)).Nodup)
    (hkinds : ∀ e ∈ exports, (e.workbook.sheets.map (·.kind)).Nodup) :
    List.Forall₂ (fun e result => ∀ artifacts, result = .ok artifacts →
        List.Forall₂ (Delivered (exportAll files storage exports).1 storage e.batchId)
          e.workbook.sheets artifacts)
      exports (exportAll files storage exports).2 := by
  induction exports generalizing files with
  | nil => exact .nil
  | cons e exports ih =>
    obtain ⟨own, slash⟩ := List.forall_mem_cons.mp hslash
    obtain ⟨kinds, rest⟩ := List.forall_mem_cons.mp hkinds
    rw [List.map_cons, List.nodup_cons] at hids
    refine .cons (fun artifacts h => ?_) (ih slash hids.2 rest)
    have delivered := exportSheets_delivered own kinds (Prod.ext rfl h)
    refine delivered.imp fun s a hs => hs.keep fun p hp => ?_
    -- the exports that follow have other batches
    have apart : ∀ e' ∈ exports, ∀ k, ¬ IsArtifact storage k e'.batchId p := fun e' he' k own' =>
      hids.1 ((hp.unique own (slash e' he') own').2 ▸ List.mem_map_of_mem he')
    exact exportAll_frame apart

end

/-! ## What does not depend on the mirror -/

/-- Two states of the files are the same where exports below a root look: at the exported files and
at the directories on the way to them. -/
def Agree (root : String) (f g : Files) : Prop :=
  ∀ k id, '/' ∉ id.toList → ∀ p,
    p = artifactPath root k id ∨ p ∈ ancestors (artifactPath root k id) → f[p]? = g[p]?

/-- An artifact without the note whether it was copied. -/
def Artifact.primary (a : Artifact) : Artifact :=
  { a with mirrored := false }

section

variable {root : String} {f g : Files} {mirror mirror' : Option String} {id : String}
  {k : ReportSheet} {s : ParsedSheet} {sheets : List ParsedSheet} {exports : List Export}

/-- Outcomes that are the same but for the notes on copies stay so behind the same artifact. -/
lemma map_primary_cons {a a' : Artifact} {r r' : Except SubmissionError (List Artifact)}
    (ha : a.primary = a'.primary)
    (h : r.map (·.map Artifact.primary) = r'.map (·.map Artifact.primary)) :
    (r.map (a :: ·)).map (·.map Artifact.primary) =
      (r'.map (a' :: ·)).map (·.map Artifact.primary) := by
  have behind : ∀ (b : Artifact) (x : Except SubmissionError (List Artifact)),
      (x.map (b :: ·)).map (·.map Artifact.primary) =
        (x.map (·.map Artifact.primary)).map (b.primary :: ·) := fun b x => by
    cases x <;> rfl
  rw [behind, behind, ha, h]

namespace Agree

/-- Files that agree do so both ways. -/
lemma symm (h : Agree root f g) : Agree root g f :=
  fun k id hid p hp => (h k id hid p hp).symm

/-- The same paths are blocked. -/
lemma isBlocked_eq (h : Agree root f g) (hid : '/' ∉ id.toList) :
    f.isBlocked (artifactPath root k id) = g.isBlocked (artifactPath root k id) := by
  unfold Files.isBlocked
  rw [Bool.eq_iff_iff, List.any_eq_true, List.any_eq_true]
  refine exists_congr fun p => and_congr_right fun hp => ?_
  rw [Std.TreeMap.contains_eq_isSome_getElem?, Std.TreeMap.contains_eq_isSome_getElem?,
    h k id hid p (.inr hp)]

/-- The same text is written to both. -/
lemma insert (h : Agree root f g) (path text : String) :
    Agree root (f.insert path text) (g.insert path text) := by
  intro k id hid p hp
  rw [Std.TreeMap.getElem?_insert, Std.TreeMap.getElem?_insert, h k id hid p hp]

/-- A file below the root can be written to both or to neither. -/
lemma writeCsv_same (h : Agree root f g) (hid : '/' ∉ id.toList) (headers : List String)
    (rows : List (List String)) :
    (f.writeCsv (artifactPath root k id) headers rows).2 =
        (g.writeCsv (artifactPath root k id) headers rows).2 ∧
      Agree root (f.writeCsv (artifactPath root k id) headers rows).1
        (g.writeCsv (artifactPath root k id) headers rows).1 := by
  unfold Files.writeCsv
  rw [h.isBlocked_eq hid]
  split
  · exact ⟨rfl, h⟩
  · exact ⟨rfl, h.insert _ _⟩

/-- Copies below a root that lies apart make no difference. -/
lemma mirrorSheet_left (hmirror : ∀ m, mirror = some m → Apart root m) (hid : '/' ∉ id.toList)
    (h : Agree root f g) : Agree root (mirrorSheet f mirror id s).1 g := by
  intro k id' hid' p hp
  rw [← h k id' hid' p hp]
  refine mirrorSheet_other fun m hm => ?_
  rcases hp with rfl | hp
  · exact Storage.artifactPath_ne_of_apart (hmirror m hm) hid' hid
  · rintro rfl
    exact Storage.artifactPath_not_mem_ancestors (hmirror m hm) hid' hid hp

variable (hmirror : ∀ m, mirror = some m → Apart root m)
  (hmirror' : ∀ m, mirror' = some m → Apart root m)

include hmirror hmirror'

/-- The export of a sheet has the same outcome and leaves the same files, whatever the mirror is. -/
lemma exportSheet_same (hid : '/' ∉ id.toList) (h : Agree root f g) :
    (exportSheet f ⟨root, mirror⟩ id s).2.map Artifact.primary =
        (exportSheet g ⟨root, mirror'⟩ id s).2.map Artifact.primary ∧
      Agree root (exportSheet f ⟨root, mirror⟩ id s).1 (exportSheet g ⟨root, mirror'⟩ id s).1 := by
  obtain ⟨same, written⟩ := h.writeCsv_same (k := s.kind) hid s.headers s.rows
  unfold exportSheet
  dsimp only
  cases hf : f.writeCsv (artifactPath root s.kind id) s.headers s.rows with
  | mk f' result =>
    cases hg : g.writeCsv (artifactPath root s.kind id) s.headers s.rows with
    | mk g' result' =>
      rw [hf, hg] at same written
      obtain rfl : result = result' := same
      cases result with
      | error e => exact ⟨rfl, written⟩
      | ok _ =>
        have left := written.mirrorSheet_left (s := s) hmirror hid
        exact ⟨rfl, (left.symm.mirrorSheet_left hmirror' hid).symm⟩

/-- So has the export of several sheets. -/
lemma exportSheets_same (sheets : List ParsedSheet) (hid : '/' ∉ id.toList)
    (h : Agree root f g) :
    (exportSheets f ⟨root, mirror⟩ id sheets).2.map (·.map Artifact.primary) =
        (exportSheets g ⟨root, mirror'⟩ id sheets).2.map (·.map Artifact.primary) ∧
      Agree root (exportSheets f ⟨root, mirror⟩ id sheets).1
        (exportSheets g ⟨root, mirror'⟩ id sheets).1 := by
  -- on the sheets: a sheet fails in both runs or in none, and files apart from the mirrors agree
  induction sheets generalizing f g with
  | nil => exact ⟨rfl, h⟩
  | cons s sheets ih =>
    obtain ⟨same, first⟩ := exportSheet_same (s := s) hmirror hmirror' hid h
    unfold exportSheets
    cases hf : exportSheet f ⟨root, mirror⟩ id s with
    | mk f' result =>
      cases hg : exportSheet g ⟨root, mirror'⟩ id s with
      | mk g' result' =>
        rw [hf, hg] at same first
        cases result with
        | error e =>
          cases result' with
          | error e' =>
            obtain rfl : e = e' := Except.error.inj same
            exact ⟨rfl, first⟩
          | ok a' => cases same
        | ok a =>
          cases result' with
          | error e' => cases same
          | ok a' =>
            obtain ⟨rest, last⟩ := ih first
            have own : a.primary = a'.primary := Except.ok.inj same
            exact ⟨map_primary_cons own rest, last⟩

/-- So has a run. -/
lemma exportAll_same (hslash : ∀ e ∈ exports, '/' ∉ e.batchId.toList) (h : Agree root f g) :
    (exportAll f ⟨root, mirror⟩ exports).2.map (·.map (·.map Artifact.primary)) =
        (exportAll g ⟨root, mirror'⟩ exports).2.map (·.map (·.map Artifact.primary)) ∧
      Agree root (exportAll f ⟨root, mirror⟩ exports).1
        (exportAll g ⟨root, mirror'⟩ exports).1 := by
  induction exports generalizing f g with
  | nil => exact ⟨rfl, h⟩
  | cons e exports ih =>
    obtain ⟨own, rest⟩ := List.forall_mem_cons.mp hslash
    obtain ⟨same, first⟩ := exportSheets_same hmirror hmirror' e.workbook.sheets own h
    obtain ⟨later, last⟩ := ih rest first
    exact ⟨congrArg₂ List.cons same later, last⟩

end Agree

end

/-- In a run of exports with different batches, each one leaves all files but those of its own
batch, in whatever state it finds them. At the end everything that was delivered is in its place
below the upload root, and so is each copy that is said to be below the mirror root. With another
mirror, none, or one that cannot be written to, the outcomes are the same but for the notes on the
copies, and so are the files below the upload root. -/
theorem batches_apart {root : String} {mirror : Option String} {exports : List Export}
    (hids : (exports.map (·.batchId)).Nodup) (hslash : ∀ e ∈ exports, '/' ∉ e.batchId.toList)
    (hkinds : ∀ e ∈ exports, (e.workbook.sheets.map (·.kind)).Nodup)
    (hmirror : ∀ m, mirror = some m → Apart root m) (files : Files) :
    let run := exportAll files ⟨root, mirror⟩ exports
    (∀ (e : Export) (before : Files) (p : String),
        (∀ k, ¬ IsArtifact ⟨root, mirror⟩ k e.batchId p) →
        (exportSheets before ⟨root, mirror⟩ e.batchId e.workbook.sheets).1[p]? = before[p]?) ∧
      List.Forall₂ (fun e result => ∀ artifacts, result = .ok artifacts →
        List.Forall₂ (Delivered run.1 ⟨root, mirror⟩ e.batchId) e.workbook.sheets artifacts)
        exports run.2 ∧
      ∀ (mirror' : Option String) (files' : Files), (∀ m, mirror' = some m → Apart root m) →
        Agree root files files' →
        let run' := exportAll files' ⟨root, mirror'⟩ exports
        run.2.map (·.map (·.map Artifact.primary)) = run'.2.map (·.map (·.map Artifact.primary)) ∧
          ∀ e ∈ exports, ∀ k,
            run.1[artifactPath root k e.batchId]? = run'.1[artifactPath root k e.batchId]? := by
  refine ⟨fun e before p hp => exportSheets_frame fun s _ => hp s.kind,
    exportAll_delivered hslash hids hkinds, fun mirror' files' hmirror' agree => ?_⟩
  obtain ⟨outcomes, last⟩ := agree.exportAll_same hmirror hmirror' hslash
  exact ⟨outcomes, fun e he k => last k e.batchId (hslash e he) _ (.inl rfl)⟩

namespace Sample

/-- Two workbooks whose batches have ids that begin alike. -/
def exports : List Export := [
  ⟨"b", [⟨.voyage, "Voyage", ["Voyage No"], [["V001"]], 0, none⟩,
    ⟨.lubeOil, "Lube Oil", ["Quantity"], [["7"], ["8"]], 0, none⟩], none, none⟩,
  ⟨"b_voyage", [⟨.voyage, "Voyage", ["Voyage No"], [["V002"]], 0, none⟩], none, none⟩]

/-- A file stands where the second of two mirrors should be. -/
def files : Files :=
  .ofList [("/blocker", "x")]

end Sample

/-- Two batches are exported with a mirror that works and with one that does not: the files of the
first stay, with the same texts in both runs, and its copy is the same. -/
theorem batches_apart_two :
    let run := exportAll Sample.files ⟨"/uploads", some "/mirror"⟩ Sample.exports
    let run' := exportAll Sample.files ⟨"/uploads", some "/blocker"⟩ Sample.exports
    run.1["/uploads/voyage/b_voyage.csv"]? = some "Voyage No\r\nV001\r\n" ∧
      run.1["/mirror/voyage/b_voyage.csv"]? = run.1["/uploads/voyage/b_voyage.csv"]? ∧
      run'.1["/uploads/voyage/b_voyage.csv"]? = run.1["/uploads/voyage/b_voyage.csv"]? ∧
      run.2.map (·.map (·.map Artifact.primary)) = run'.2.map (·.map (·.map Artifact.primary)) := by
  intro run run'
  have apart : Apart "/uploads" "/mirror" ∧ Apart "/uploads" "/blocker" := by decide
  have mirrored : ∀ m, some "/mirror" = some m → Apart "/uploads" m := fun m hm =>
    Option.some.inj hm ▸ apart.1
  have distinct : (Sample.exports.map (·.batchId)).Nodup := by decide
  obtain ⟨-, delivered, same⟩ :=
    batches_apart distinct (by decide) (by decide) mirrored Sample.files
  obtain ⟨outcomes, files⟩ := same (some "/blocker") Sample.files
    (fun m hm => Option.some.inj hm ▸ apart.2) fun _ _ _ _ _ => rfl
  cases delivered with
  | cons first _ =>
    cases first _ rfl with
    | cons voyage _ =>
      obtain ⟨root, hroot, copied⟩ := voyage.copy rfl
      cases hroot
      have text : run.1["/uploads/voyage/b_voyage.csv"]? = some "Voyage No\r\nV001\r\n" :=
        voyage.text
      have copy : run.1["/mirror/voyage/b_voyage.csv"]? =
          run.1["/uploads/voyage/b_voyage.csv"]? := copied
      refine ⟨text, copy, ?_, outcomes⟩
      exact (files _ List.mem_cons_self .voyage).symm

end ShipReport.Submission
