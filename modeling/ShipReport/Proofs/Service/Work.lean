import Mathlib.Order.Defs.Unbundled
import ShipReport.Proofs.Service.Dispatch
import ShipReport.Service.Requests

/-!
# Work step by step

What is known of work is put together from its steps: where it leads, with which errors it fails,
and what is left of it after steps that succeeded.
-/

namespace ShipReport.Service

open Store (Database)
open Submission (exportSheets)

/-! ## Where work leads -/

/-- The work leads from a state only to one that is related to it, also when it fails. -/
def Work.Leads {σ ε α : Type} (R : σ → σ → Prop) (work : Work σ ε α) (s : σ) : Prop :=
  R s (work.runOn s).2

namespace Work.Leads

variable {σ τ ε ε' α β : Type} {R : σ → σ → Prop} [IsPreorder σ R] {s : σ}

/-- Work that only gives an answer leaves the state. -/
lemma pure (a : α) : Work.Leads R (pure a : Work σ ε α) s :=
  refl_of R s

/-- Work that only fails leaves the state. -/
lemma throw (e : ε) : Work.Leads R (throw e : Work σ ε α) s :=
  refl_of R s

/-- Looking leaves the state. -/
lemma look (f : σ → Except ε α) : Work.Leads R (Work.look f) s :=
  refl_of R s

/-- A change leads where what it does leads. -/
lemma change {f : σ → Except ε (σ × α)} (h : ∀ t a, f s = .ok (t, a) → R s t) :
    Work.Leads R (Work.change f) s := by
  unfold Work.Leads Work.runOn Work.change
  cases hf : f s with
  | ok result => exact h result.1 result.2 hf
  | error e => exact refl_of R s

omit [IsPreorder σ R] in
/-- Other words for the error lead nowhere else. -/
lemma orError {work : Work σ ε α} (h : work.Leads R s) (f : ε → ε') :
    (work.orError f).Leads R s :=
  h

/-- The second part of work starts from where the first part led. -/
lemma bind {x : Work σ ε α} {f : α → Work σ ε β} (hx : x.Leads R s)
    (hf : ∀ a t, x.runOn s = (.ok a, t) → (f a).Leads R t) : (x >>= f).Leads R s := by
  unfold Work.Leads
  rw [Work.runOn_bind]
  cases hr : x.runOn s with
  | mk r t =>
    have first : R s t := by
      rw [Work.Leads, hr] at hx
      exact hx
    cases r with
    | error e => exact first
    | ok a => exact trans_of R first (hf a t hr)

/-- Work for each of a list leads where the work for each one does. -/
lemma mapM {f : α → Work σ ε β} (as : List α) (h : ∀ a ∈ as, ∀ t, (f a).Leads R t) :
    (as.mapM f).Leads R s := by
  induction as generalizing s with
  | nil => exact refl_of R s
  | cons a as ih =>
    rw [List.mapM_cons]
    refine bind (h a List.mem_cons_self s) fun b t _ => ?_
    exact bind (ih fun a ha => h a (List.mem_cons_of_mem _ ha)) fun bs t _ => pure _

/-- Work for each of a list leads there too where some give no answer. -/
lemma filterMapM {f : α → Work σ ε (Option β)} (as : List α)
    (h : ∀ a ∈ as, ∀ t, (f a).Leads R t) : (as.filterMapM f).Leads R s := by
  induction as generalizing s with
  | nil => exact refl_of R s
  | cons a as ih =>
    have rest : ∀ t, (as.filterMapM f).Leads R t := fun t =>
      ih fun a ha => h a (List.mem_cons_of_mem _ ha)
    rw [List.filterMapM_cons]
    refine bind (h a List.mem_cons_self s) fun b t _ => ?_
    cases b with
    | none => exact rest t
    | some b => exact bind (rest t) fun bs t _ => pure _

end Work.Leads

/-- Looking gives what is seen and leaves the state. -/
lemma Work.runOn_look {σ ε α : Type} {f : σ → Except ε α} {s t : σ} {a : α}
    (h : (Work.look f).runOn s = (.ok a, t)) : f s = .ok a ∧ t = s := by
  obtain ⟨hf, ht⟩ := Prod.mk.inj h
  exact ⟨hf, ht.symm⟩

/-- Looking answers what is seen. -/
lemma Work.runOn_look_ok {σ ε α : Type} {f : σ → Except ε α} {s : σ} {a : α} (h : f s = .ok a) :
    (Work.look f).runOn s = (.ok a, s) := by
  unfold Work.runOn Work.look
  rw [h]

/-- Work whose first part succeeded is the rest of it. -/
lemma Work.runOn_bind_ok {σ ε α β : Type} {x : Work σ ε α} {f : α → Work σ ε β} {s t : σ} {a : α}
    (h : x.runOn s = (.ok a, t)) : (x >>= f).runOn s = (f a).runOn t := by
  rw [Work.runOn_bind, h]

section

variable {σ ε α β : Type} {f : α → Work σ ε (Option β)} {a : α} {as : List α} {s t : σ}

/-- After a first element that succeeded come the others. -/
lemma Work.runOn_filterMapM_ok {b : Option β} (h : (f a).runOn s = (.ok b, t)) :
    ((a :: as).filterMapM f).runOn s =
      (((as.filterMapM f).runOn t).1.map (b.toList ++ ·), ((as.filterMapM f).runOn t).2) := by
  rw [List.filterMapM_cons, Work.runOn_bind_ok h]
  cases b with
  | none =>
    obtain ⟨result, last⟩ := (as.filterMapM f).runOn t
    cases result <;> rfl
  | some b =>
    dsimp only
    rw [Work.runOn_bind]
    obtain ⟨result, last⟩ := (as.filterMapM f).runOn t
    cases result <;> rfl

/-- Work for each of a list stops at the first that fails. -/
lemma Work.runOn_filterMapM_error {e : ε} (h : (f a).runOn s = (.error e, t)) :
    ((a :: as).filterMapM f).runOn s = (.error e, t) := by
  rw [List.filterMapM_cons, Work.runOn_bind, h]

end

section

variable {ε α : Type} {h : Holdings}

/-- Looking into the database answers what is seen. -/
lemma runOn_onDatabase_look_ok {f : Database → Except ε α} {a : α} (hf : f h.database = .ok a) :
    (onDatabase (Work.look f)).runOn h = (.ok a, h) := by
  unfold onDatabase Work.runOn Work.onPart Work.look
  rw [hf]

/-- Looking at the database gives what is seen and leaves all holdings. -/
lemma runOn_onDatabase_look {f : Database → Except ε α} {a : α} {t : Holdings}
    (hr : (onDatabase (Work.look f)).runOn h = (.ok a, t)) : f h.database = .ok a ∧ t = h := by
  obtain ⟨hf, ht⟩ := Prod.mk.inj hr
  exact ⟨hf, ht.symm⟩

end

/-! ## The steps of an upload -/

/-- Looking answers what is seen, or fails with its error. -/
lemma Work.runOn_lookAt {σ ε α : Type} (f : σ → Except ε α) (s : σ) :
    (Work.look f).runOn s = (f s, s) :=
  rfl

section

variable {ε α : Type} (h : Holdings)

/-- Looking into the database answers what is seen, or fails with its error. -/
lemma runOn_onDatabase_lookAt (f : Database → Except ε α) :
    (onDatabase (Work.look f)).runOn h = (f h.database, h) :=
  rfl

/-- A change of the database leaves the files. -/
lemma runOn_onDatabase_change (f : Database → Except ε (Database × α)) :
    (onDatabase (.change f)).runOn h =
      match f h.database with
      | .ok (db, a) => (.ok a, { h with database := db })
      | .error e => (.error e, h) := by
  unfold onDatabase Work.runOn Work.onPart Work.change
  cases f h.database <;> rfl

/-- An attempt on the files leaves the database. -/
lemma runOn_onFiles_attempt (f : Storage.Files → Storage.Files × Except ε α) :
    (onFiles (.attempt f)).runOn h = ((f h.files).2, { h with files := (f h.files).1 }) :=
  rfl

end

/-- An upload goes on step by step. The vessel, its settings, the workbook and its owner are only
looked at; then the files are written, the batch is noted, and the sheets are staged. -/
lemma upload_runOn (dataDirectory : String) (vesselId : Int) (file : Submission.ReturnedFile)
    (batchId : String) (now : Calendar.Instant) (h : Holdings) :
    (upload dataDirectory vesselId file batchId now).runOn h =
      match h.database.vessel vesselId with
      | .error e => (.error (.ofStore e), h)
      | .ok vessel =>
        match h.database.settings dataDirectory (some vesselId) with
        | .error f => (.error (.ofSettings f.message), h)
        | .ok settings =>
          match Submission.parse settings.rules settings.layout file with
          | .error e => (.error (.ofSubmission e), h)
          | .ok parsed =>
            match checkOwner vesselId parsed with
            | .error e => (.error e, h)
            | .ok _ =>
              match exportSheets h.files settings.storage batchId parsed.sheets with
              | (written, .error e) => (.error (.ofSubmission e), ⟨h.database, written⟩)
              | (written, .ok artifacts) =>
                match h.database.insertBatch (.new batchId vesselId artifacts now) with
                | .error e => (.error (.ofStore e), ⟨h.database, written⟩)
                | .ok after =>
                  match (parsed.sheets.filterMapM (stageSheet vessel.shortCode)).runOn
                      ⟨after, written⟩ with
                  | (.error e, staged) => (.error e, staged)
                  | (.ok tables, staged) =>
                    (.ok { batchId, vesselId, artifacts
                           totalRows := (Submission.Batch.new batchId vesselId artifacts now).totalRows
                           stagedTables := tables
                           uploadToken := parsed.uploadToken
                           warnings := parsed.warnings }, staged) := by
  unfold upload settingsFor
  -- request by request: with each result the next match is decided
  simp only [Work.runOn_bind, Work.runOn_lookAt, runOn_onDatabase_lookAt, runOn_onDatabase_change,
    runOn_onFiles_attempt]
  cases h.database.vessel vesselId with
  | error e => rfl
  | ok vessel =>
    cases hsettings : h.database.settings dataDirectory (some vesselId) with
    | error f => simp only [mapError_ok, hsettings]; rfl
    | ok settings =>
      cases hparsed : Submission.parse settings.rules settings.layout file with
      | error e => simp only [mapError_ok, hsettings, hparsed]; rfl
      | ok parsed =>
        cases howner : checkOwner vesselId parsed with
        | error e => simp only [mapError_ok, hsettings, hparsed, howner]
        | ok owned =>
          cases hexported : exportSheets h.files settings.storage batchId parsed.sheets with
          | mk written exported =>
            cases exported with
            | error e => simp only [mapError_ok, hsettings, hparsed, howner, hexported]; rfl
            | ok artifacts =>
              cases hnoted : h.database.insertBatch (.new batchId vesselId artifacts now) with
              | error e => simp only [mapError_ok, hsettings, hparsed, howner, hexported, hnoted]; rfl
              | ok after =>
                simp only [mapError_ok, hsettings, hparsed, howner, hexported, hnoted, bind,
                  Except.bind, pure, Except.pure]
                split
                · next hstaged => rw [hstaged]; rfl
                · next hstaged => rw [hstaged]
end ShipReport.Service
