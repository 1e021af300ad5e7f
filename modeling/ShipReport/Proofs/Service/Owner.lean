import ShipReport.Proofs.Service.Work
import ShipReport.Proofs.Store.ResolvedSettings
import ShipReport.Proofs.Template.Untouched

/-!
# Whose template is taken back

The number of a vessel is written into its template as a floating-point number, and its whole part
is compared with the vessel of the upload. So an unchanged template is refused for another vessel
and taken for its own exactly if the number of its vessel comes back as it was: if no more than 53
bits lie between its first and its last one, or if it is the greatest of 64 bits.
-/

namespace ShipReport.Service

open Report (Rules Layout TemplateKind)
open Store (Database)
open Submission (ReturnedFile ParsedWorkbook)
open Template (UploadToken build)
open Xlsx (WrittenSheet)

/-! ## Errors of an upload -/

/-- The error is none of a workbook for another vessel. -/
def ServiceError.IsOther (e : ServiceError) : Prop :=
  ∀ detail, e ≠ .tokenMismatch detail

/-- Errors of the store are none of a workbook for another vessel. -/
lemma ServiceError.ofStore_isOther (e : Store.StoreError) : (ofStore e).IsOther := by
  cases e <;> exact nofun

/-- Errors of submissions are none of a workbook for another vessel. -/
lemma ServiceError.ofSubmission_isOther (e : Submission.SubmissionError) :
    (ofSubmission e).IsOther := by
  cases e with
  | store e => exact ofStore_isOther e
  | _ => exact nofun

/-- An outcome whose errors were renamed. -/
lemma of_mapError {ε ε' α : Type} {P : ε → Prop} {f : ε' → ε} (hf : ∀ e, P (f e))
    {x : Except ε' α} {e : ε} (h : x.mapError f = .error e) : P e := by
  cases x with
  | ok a => cases h
  | error e' => cases h; exact hf e'

/-- The work fails with no error but those of a kind. -/
def Work.FailsWith {σ ε α : Type} (P : ε → Prop) (work : Work σ ε α) : Prop :=
  ∀ s e t, work.runOn s = (.error e, t) → P e

namespace Work.FailsWith

variable {σ τ ε ε' α β : Type} {P : ε → Prop}

/-- The error of a failure is of the kind. -/
lemma of_result {work : Work σ ε α} (h : work.FailsWith P) {s : σ} {e : ε}
    (hs : (work.runOn s).1 = .error e) : P e :=
  h s e _ (Prod.ext hs rfl)

/-- Work that only gives an answer does not fail. -/
lemma pure (a : α) : Work.FailsWith P (pure a : Work σ ε α) :=
  fun _ _ _ h => by cases h

/-- A change fails with the errors that it gives. -/
lemma change {f : σ → Except ε (σ × α)} (h : ∀ s e, f s = .error e → P e) :
    Work.FailsWith P (Work.change f) := by
  intro s e t hs
  unfold Work.runOn Work.change at hs
  cases hf : f s with
  | ok result => rw [hf] at hs; cases hs
  | error e' => rw [hf] at hs; cases hs; exact h s e hf

/-- An attempt fails with the errors that it gives. -/
lemma attempt {f : σ → σ × Except ε α} (h : ∀ s e, (f s).2 = .error e → P e) :
    Work.FailsWith P (Work.attempt f) := by
  intro s e t hs
  exact h s e (Prod.mk.inj hs).1

/-- What is an error of a kind after it was renamed is one of work that was renamed. -/
lemma orError {work : Work σ ε' α} {f : ε' → ε} (h : ∀ e, P (f e)) :
    Work.FailsWith P (work.orError f) := by
  intro s e t hs
  exact of_mapError h (Prod.mk.inj hs).1

/-- Work on a part fails as on the part. -/
lemma onPart {get : σ → τ} {set : σ → τ → σ} {work : Work τ ε α} (h : work.FailsWith P) :
    Work.FailsWith P (work.onPart get set) :=
  fun s e _ hs => h (get s) e _ (Prod.ext (Prod.mk.inj hs).1 rfl)

/-- Work after other work fails with the errors of both. -/
lemma bind {x : Work σ ε α} {f : α → Work σ ε β} (hx : x.FailsWith P)
    (hf : ∀ a, (f a).FailsWith P) : Work.FailsWith P (x >>= f) := by
  intro s e t hs
  rw [Work.runOn_bind] at hs
  cases hr : x.runOn s with
  | mk r s' =>
    rw [hr] at hs
    cases r with
    | error e' => cases hs; exact hx s e _ hr
    | ok a => exact hf a s' e t hs

/-- Work for each of a list fails with the errors of each. -/
lemma filterMapM {f : α → Work σ ε (Option β)} (as : List α) (h : ∀ a, (f a).FailsWith P) :
    Work.FailsWith P (as.filterMapM f) := by
  induction as with
  | nil => exact pure []
  | cons a as ih =>
    rw [List.filterMapM_cons]
    refine bind (h a) fun b => ?_
    cases b with
    | none => exact ih
    | some b => exact bind ih fun _ => pure _

end Work.FailsWith

/-! ## The check of the owner -/

/-- The upload is refused because the workbook was made for another vessel. -/
def Refused (dataDirectory : String) (vesselId : Int) (file : ReturnedFile) (batchId : String)
    (now : Calendar.Instant) (h : Holdings) : Prop :=
  ∃ detail, ((upload dataDirectory vesselId file batchId now).runOn h).1 =
    .error (.tokenMismatch detail)

section

variable {h : Holdings} {dataDirectory batchId : String} {vesselId : Int} {now : Calendar.Instant}
  {vessel : Catalog.Vessel} {settings : Report.Settings}
  (hvessel : h.database.vessel vesselId = .ok vessel)
  (hsettings : h.database.settings dataDirectory (some vesselId) = .ok settings)

include hvessel hsettings

/-- An upload that can be read is refused if and only if its token names another vessel. -/
lemma refused_iff {file : ReturnedFile} {parsed : ParsedWorkbook} {owner : Int}
    (hparsed : Submission.parse settings.rules settings.layout file = .ok parsed)
    (howner : parsed.tokenVesselId = some owner) :
    Refused dataDirectory vesselId file batchId now h ↔ owner ≠ vesselId := by
  have found : (onDatabase (Work.look fun db => (db.vessel vesselId).mapError
      ServiceError.ofStore)).runOn h = (.ok vessel, h) :=
    runOn_onDatabase_look_ok (by rw [hvessel]; rfl)
  have set : (settingsFor dataDirectory (some vesselId)).runOn h = (.ok settings, h) :=
    runOn_onDatabase_look_ok (by rw [hsettings]; rfl)
  have read : (Work.look fun _ : Holdings => (Submission.parse settings.rules settings.layout
      file).mapError ServiceError.ofSubmission).runOn h = (.ok parsed, h) :=
    Work.runOn_look_ok (by rw [hparsed]; rfl)
  unfold Refused upload
  rw [Work.runOn_bind_ok found, Work.runOn_bind_ok set, Work.runOn_bind_ok read]
  by_cases same : owner = vesselId
  · have owned : (Work.look fun _ : Holdings => checkOwner vesselId parsed).runOn h = (.ok (), h) :=
      Work.runOn_look_ok (by rw [checkOwner, howner]; exact if_pos same)
    rw [Work.runOn_bind_ok owned]
    refine iff_of_false ?_ (not_not_intro same)
    rintro ⟨detail, refused⟩
    -- what comes after the check fails for other reasons
    refine Work.FailsWith.of_result (P := ServiceError.IsOther) ?_ refused detail rfl
    refine .bind (.onPart (.attempt ?_)) fun artifacts => .bind (.onPart (.change ?_)) fun _ => ?_
    · intro files e hfailed
      exact of_mapError ServiceError.ofSubmission_isOther hfailed
    · intro db e hfailed
      cases hinsert : db.insertBatch (.new batchId vesselId artifacts now) with
      | ok after => rw [hinsert] at hfailed; cases hfailed
      | error cause =>
        rw [hinsert] at hfailed
        cases hfailed
        exact ServiceError.ofStore_isOther cause
    · refine .bind (.filterMapM _ fun s => ?_) fun _ => .pure _
      exact .bind (.onPart (.orError ServiceError.ofSubmission_isOther)) fun _ => .pure _
  · refine iff_of_true ?_ same
    obtain ⟨detail, refused⟩ :
        ∃ detail, checkOwner vesselId parsed = .error (.tokenMismatch detail) := by
      rw [checkOwner, howner]
      exact ⟨_, if_neg same⟩
    refine ⟨detail, ?_⟩
    rw [Work.runOn_bind]
    unfold Work.look Work.runOn
    rw [refused]

/-- An unchanged template is refused if and only if the whole part of the number that was written
for its vessel is not the vessel of the upload. -/
lemma refused_template_iff {catalog : Catalog} {kind : TemplateKind} {rules : Rules}
    {layout : Layout} {token : UploadToken} {sheets : List WrittenSheet}
    (hr : Xlsx.render (build catalog kind rules layout token).workbook = .ok sheets)
    (hname : layout.tokenSheet = Layout.default.tokenSheet) :
    Refused dataDirectory vesselId (Xlsx.returned sheets) batchId now h ↔
      Number.toInt64 (Float.ofInt token.vesselId) ≠ vesselId := by
  have name : settings.layout.tokenSheet = layout.tokenSheet :=
    (Database.tokenSheet_of_settings hsettings).trans hname.symm
  obtain ⟨_, parsed, -⟩ := Template.parse_untouched settings.rules name hr
  exact refused_iff hvessel hsettings parsed rfl

end

namespace Sample

/-- The rows of a table of the schema: one vessel with an id and nothing else. -/
def berthRows (id : Int) (s : Store.Shape) : List Store.Row :=
  if s = Store.Schema.vessel then [⟨1, [.integer id, .text "OCN", .text "Ocean Pioneer"]⟩] else []

/-- One vessel with an id, and no settings. -/
def berth (id : Int) : Holdings where
  database := ⟨Store.Schema.all.map fun s => ⟨s, berthRows id s⟩, [], true, []⟩
  files := ∅

/-- The tables are those of the schema. -/
lemma berth_table {id : Int} {name : String} {s : Store.Shape}
    (hs : Store.Schema.all.find? (fun s => Store.sameName s.name name) = some s) :
    (berth id).database.table? name = some ⟨s, berthRows id s⟩ := by
  unfold Database.table? berth
  rw [List.find?_map, Function.comp_def, hs]
  rfl

/-- The vessel is found under its id. -/
lemma berth_vessel (id : Int) :
    (berth id).database.vessel id = .ok ⟨id, "OCN", "Ocean Pioneer"⟩ := by
  have rows : berthRows id Store.Schema.vessel =
      [⟨1, [.integer id, .text "OCN", .text "Ocean Pioneer"]⟩] := rfl
  have same : Database.isVessel id ⟨1, [.integer id, .text "OCN", .text "Ocean Pioneer"]⟩ := by
    change (compare id id == .eq) = true
    rw [compare_eq_iff_eq.mpr rfl]
    rfl
  rw [Database.vessel_eq (berth_table rfl) rfl, rows, List.find?_cons, same]
  rfl

/-- Without rows the settings are the plain ones. -/
lemma berth_settings (id : Int) :
    (berth id).database.settings "" (some id) = .ok (Database.plainSettings "") :=
  Database.settings_of_none (berth_table rfl) "" _

end Sample

/-- Unchanged templates of a vessel are refused for exactly the other vessels if and only if the
number of the vessel is held, or is the greatest of 64 bits. -/
theorem refused_for_others_iff {catalog : Catalog} {kind : TemplateKind} {rules : Rules}
    {layout : Layout} {token : UploadToken} {sheets : List WrittenSheet}
    (hr : Xlsx.render (build catalog kind rules layout token).workbook = .ok sheets)
    (hname : layout.tokenSheet = Layout.default.tokenSheet) {v : Nat} (hv : token.vesselId = v)
    (hlt : v < 2 ^ 63) :
    (∀ (h : Holdings) (w : Int) vessel dataDirectory settings batchId now,
        h.database.vessel w = .ok vessel →
        h.database.settings dataDirectory (some w) = .ok settings →
        (Refused dataDirectory w (Xlsx.returned sheets) batchId now h ↔ w ≠ v)) ↔
      Number.Held v ∨ v = 2 ^ 63 - 1 := by
  rw [← Number.toInt64_ofInt_iff hlt]
  constructor
  · intro exactly
    have own := exactly (Sample.berth v) v _ "" _ "b1" ⟨0, 0, 0⟩ (Sample.berth_vessel v)
      (Sample.berth_settings v)
    rw [refused_template_iff (Sample.berth_vessel v) (Sample.berth_settings v) hr hname, hv] at own
    by_contra lost
    exact own.mp lost rfl
  · intro back h w vessel dataDirectory settings batchId now hvessel hsettings
    rw [refused_template_iff hvessel hsettings hr hname, hv, back]
    exact ne_comm

/-- The template of vessel 7 is refused for all other vessels, and for no other reason than that. -/
theorem refused_for_others_of_seven :
    ∃ sheets, Xlsx.render Template.Sample.workbook = .ok sheets ∧
      Template.Sample.layout.tokenSheet = Layout.default.tokenSheet ∧
      Template.Sample.token.vesselId = (7 : Nat) ∧
      ∀ (h : Holdings) (w : Int) vessel dataDirectory settings batchId now,
        h.database.vessel w = .ok vessel →
        h.database.settings dataDirectory (some w) = .ok settings →
        (Refused dataDirectory w (Xlsx.returned sheets) batchId now h ↔ w ≠ (7 : Nat)) :=
  ⟨_, Template.Sample.render_workbook, rfl, rfl,
    (refused_for_others_iff Template.Sample.render_workbook rfl rfl (by decide)).mpr
      (.inl (Number.held_of_lt (by decide)))⟩

/-- The template of a vessel whose number is odd and has 54 bits is refused for that vessel. -/
theorem own_template_refused :
    ∃ sheets, Xlsx.render (Template.Sample.template 9007199254740993) = .ok sheets ∧
      (Sample.berth 9007199254740993).database.vessel 9007199254740993 =
        .ok ⟨9007199254740993, "OCN", "Ocean Pioneer"⟩ ∧
      Refused "" 9007199254740993 (Xlsx.returned sheets) "b1" ⟨0, 0, 0⟩
        (Sample.berth 9007199254740993) := by
  have rendered := Template.Sample.render_template 9007199254740993 (by decide +kernel)
  refine ⟨_, rendered, Sample.berth_vessel _, ?_⟩
  rw [refused_template_iff (Sample.berth_vessel _) (Sample.berth_settings _) rendered rfl]
  refine mt (Number.toInt64_ofInt_iff (n := 9007199254740993) (by decide)).mp ?_
  rintro (held | greatest)
  · exact Number.not_held_of_odd (by decide) (by decide) held
  · exact absurd greatest (by decide)

end ShipReport.Service
