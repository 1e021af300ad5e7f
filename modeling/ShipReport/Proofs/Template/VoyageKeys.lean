import ShipReport.Proofs.Submission.Isolation
import ShipReport.Proofs.Template.Filled

/-!
# Voyage numbers as keys

The rows of the other sheets refer to a voyage by its number. The number leaves the workbook in two
ways: on the Voyage sheet as it was entered, and on the other sheets as the result of a formula,
which a reader takes for a number where it can. The two texts are the same if the number is the text
of what it reads as.
-/

namespace ShipReport.Template

open Formula (Grid Position Value)
open Report
open Submission (ParsedSheet ParsedWorkbook cellText isBlank)
open Workbook (Edit Entry)
open Xlsx (WrittenSheet cachedResult seen stored)

/-! ## Texts that read back -/

/-- A text that is the text of the number it reads as, if it reads as one. -/
def ReadsBack (s : String) : Prop :=
  ∀ x, Number.read? s = some x → Number.cellText x = s

/-- A text is read back as it is exactly if it reads back. -/
lemma reread_eq_self {s : String} : reread s = s ↔ ReadsBack s := by
  unfold reread ReadsBack
  cases Number.read? s with
  | none => exact iff_of_true rfl nofun
  | some x => exact ⟨fun same y hy => by cases hy; exact same, fun all => all x rfl⟩

/-- The texts of numbers read back. -/
lemma readsBack_cellText (x : Float) : ReadsBack (Number.cellText x) :=
  fun _ read => Number.cellText_of_read read

/-! ## Rows of a template that comes back -/

variable {catalog : Catalog} {kind : TemplateKind} {rules : Rules} {layout : Layout}
  {token : UploadToken} {w : Workbook} {sheets : List WrittenSheet}

/-- The voyage number in a row of exported texts. -/
def voyageNo (k : ReportSheet) (row : List String) : Option String :=
  (k.exportHeaders.zip row).lookup "Voyage No"

/-- The voyage number of a row is the text of its first cell. -/
lemma voyageNo_exportedRow {k : ReportSheet} {row : Nat} {ts : List String}
    (h : exportedRow w k row = .ok ts) :
    ∃ t, voyageNo k ts = some t ∧
      cellText .text (seen (w.value k.title ⟨row, shownColumn⟩)
        (w.cell? k.title ⟨row, shownColumn⟩)) = .ok t := by
  have read := mapM_eq_ok.mp h
  -- the number stands in the first column of every sheet
  cases k <;> obtain - | ⟨first, -⟩ := read <;> exact ⟨_, rfl, first⟩

section

variable (hw : (build catalog kind rules layout token).workbook.EditOf w)
  (hr : Xlsx.render w = .ok sheets)

include hw hr

/-- Each sheet of a template that was read holds the rows in which some exported cell is not
blank. -/
lemma exportedRows_of_parse {rules' : Rules} {layout' : Layout} {parsed : ParsedWorkbook}
    (hp : Submission.parse rules' layout' (Xlsx.returned sheets) = .ok parsed) (k : ReportSheet) :
    ∃ texts : Nat → List String,
      (∀ row, 0 < row → row < layout.maxRow kind → exportedRow w k row = .ok (texts row)) ∧
      ∃ s, parsed.sheet? k = some s ∧
        s.rows = ((List.range' 1 (layout.maxRow kind - 1)).map texts).filter fun row =>
          !row.all (isBlank rules') := by
  obtain ⟨s, found, read⟩ := Submission.parse_sheet? hp k
  obtain ⟨range, hrange, last, cells⟩ := findSheet?_report hw hr k
  -- the sheet was read, so each of its rows can be
  have countable := Submission.parseReportSheet_succeeds_iff.mp ⟨s, read⟩ range
    (by rw [Submission.range?, hrange]; rfl)
  have rows : ∀ row, ∃ ts, 0 < row → row < layout.maxRow kind → exportedRow w k row = .ok ts := by
    intro row
    by_cases data : row < layout.maxRow kind
    · obtain ⟨ts, hts⟩ := Submission.rowTexts_succeeds_iff.mpr (countable row (by omega))
      refine ⟨ts, fun _ _ => Eq.trans (mapM_congr fun ⟨c, col⟩ hc => ?_) hts⟩
      have column := column_of_export hc
      dsimp only
      rw [cells row col data (List.getElem?_eq_some_iff.mp column).1]
    · exact ⟨[], fun _ hmax => absurd hmax data⟩
  choose texts htexts using rows
  refine ⟨texts, htexts, s, found, ?_⟩
  rw [parseReportSheet_returned hw hr rules' htexts] at read
  rw [← Except.ok.inj read]
  rfl

end

/-- A row whose voyage number is not blank is exported. -/
lemma mem_exported_of_voyageNo {k : ReportSheet} {texts : Nat → List String} {last row : Nat}
    (hrow : row ∈ List.range' 1 last) {t : String} (h : voyageNo k (texts row) = some t)
    {rules : Rules} (ht : isBlank rules t = false) :
    texts row ∈ ((List.range' 1 last).map texts).filter fun row => !row.all (isBlank rules) := by
  obtain ⟨_, _, split, -⟩ := List.lookup_eq_some_iff.mp h
  have mem : t ∈ texts row := (List.of_mem_zip (split ▸ List.mem_append_cons_self)).2
  refine List.mem_filter.mpr ⟨List.mem_map_of_mem hrow, ?_⟩
  rw [Bool.not_eq_true', List.all_eq_false]
  exact ⟨t, mem, by rw [ht]; exact Bool.false_ne_true⟩

/-! ## The number in a row -/

/-- What stands in the cell of a voyage number can be held by a file if this is so of what was
entered there. -/
lemma voyageNo_cell {es : List Edit}
    (hstorable : ∀ e ∈ es, e.sheet = ReportSheet.voyage.title →
      e.position.col = VoyageColumn.voyageNo → ∀ entry ∈ e.entry, Storable entry)
    {row : Nat} (hrow : 0 < row) :
    ((build catalog kind rules layout token).workbook.editAll es).cell? ReportSheet.voyage.title
        ⟨row, VoyageColumn.voyageNo⟩ = none ∨
      ∃ entry : Entry, ((build catalog kind rules layout token).workbook.editAll es).cell?
        ReportSheet.voyage.title ⟨row, VoyageColumn.voyageNo⟩ = some entry.cell ∧ Storable entry :=
  input_editAll hrow rfl rfl fun e he sheet position => hstorable e he sheet (by rw [position])

section

variable {row : Nat}
  (input : w.cell? ReportSheet.voyage.title ⟨row, VoyageColumn.voyageNo⟩ = none ∨
    ∃ entry : Entry, w.cell? ReportSheet.voyage.title ⟨row, VoyageColumn.voyageNo⟩ =
      some entry.cell ∧ Storable entry)

include input

/-- A voyage number is stored as it was entered. -/
lemma voyageNo_stored {v : Value}
    (hv : w.entry? ReportSheet.voyage.title ⟨row, VoyageColumn.voyageNo⟩ = some v) :
    stored (cachedResult v) = cachedResult v := by
  rcases input with none | ⟨entry, holds, storable⟩
  · rw [Workbook.entry?, none] at hv
    cases hv
  · exact storable.stored_eq holds hv

/-- On the Voyage sheet the number of a row is the text of what was entered. -/
lemma voyageNo_entered {ts : List String} (h : exportedRow w .voyage row = .ok ts) :
    voyageNo .voyage ts =
      some (((w.entry? ReportSheet.voyage.title ⟨row, VoyageColumn.voyageNo⟩).map
        cachedResult).getD "") := by
  obtain ⟨t, ht, read⟩ := voyageNo_exportedRow h
  rw [ht, Option.some_inj, Workbook.entry?]
  rw [shownColumn] at read
  rcases input with none | ⟨entry, holds, storable⟩
  · rw [none] at read ⊢
    exact (Except.ok.inj read).symm
  · rw [holds] at read ⊢
    cases entry with
    | text s =>
      have faithful : Faithful s := storable
      rw [Entry.cell, faithful.seen] at read
      by_cases empty : s = ""
      · subst empty
        exact (Except.ok.inj read).symm
      · rw [if_neg (mt String.isEmpty_iff.mp empty)] at read
        simp only [Entry.cell, if_neg empty]
        exact (Except.ok.inj read).symm
    | number x =>
      rw [Entry.cell, seen, isNaN_of_isFinite storable, if_neg Bool.false_ne_true] at read
      exact (Except.ok.inj read).symm

end

section

variable (hw : (build catalog kind rules layout token).workbook.EditOf w)
  (hname : ∀ k : ReportSheet, layout.lookupSheet ≠ k.title)

include hw hname

/-- On the other sheets the number of a row with a driver is the carried one, read once more. -/
lemma voyageNo_carried {k : ReportSheet} {carry : Nat} (hk : carryColumn k = some carry) {n : Nat}
    (hn : 0 < n) (hmax : n < layout.maxRow kind) (hdriver : w.entry? k.title ⟨n, k.driver⟩ ≠ none)
    {v : Value} (hv : Grid.Layered.values w.grid (place k) ⟨n, carry⟩ = v)
    (hstored : stored (cachedResult v) = cachedResult v) {ts : List String}
    (h : exportedRow w k n = .ok ts) : voyageNo k ts = some (reread (cachedResult v)) := by
  obtain ⟨t, ht, read⟩ := voyageNo_exportedRow h
  rw [edited_formulaCell hw hn hmax (mem_voyageFormulas _ hk n).2, seen, edited_value hw hname,
    shown_of_driver hw hname hk hn hmax hdriver, hv, hstored, cellText_reread (by decide)] at read
  rw [ht, Except.ok.inj read]

end

/-- The sheets other than Voyage carry the voyage number. -/
lemma exists_carryColumn {k : ReportSheet} (h : k ≠ .voyage) :
    ∃ carry, carryColumn k = some carry := by
  cases k with
  | voyage => exact absurd rfl h
  | machinery => exact ⟨_, rfl⟩
  | lubeOil => exact ⟨_, rfl⟩
  | bunkering => exact ⟨_, rfl⟩

/-- When a template comes back in which texts and numbers were entered, a row of another sheet whose
driver is filled has the number of the nearest voyage at or above it, as a reader takes it that
looks for numbers. So it has the same number as the voyage if and only if that number reads back,
as it always does if a number was entered. A row with no voyage at or above it has none. -/
theorem voyage_number_shared_iff {catalog : Catalog} {kind : TemplateKind} {rules : Rules}
    {layout : Layout} {token : UploadToken} {es : List Edit}
    (hes : ∀ e ∈ es, (build catalog kind rules layout token).workbook.Admits e)
    (hstorable : ∀ e ∈ es, e.sheet = ReportSheet.voyage.title →
      e.position.col = VoyageColumn.voyageNo → ∀ entry ∈ e.entry, Storable entry)
    {sheets : List WrittenSheet}
    (hr : Xlsx.render ((build catalog kind rules layout token).workbook.editAll es) = .ok sheets)
    {rules' : Rules} {layout' : Layout} {parsed : ParsedWorkbook}
    (hp : Submission.parse rules' layout' (Xlsx.returned sheets) = .ok parsed) :
    let w := (build catalog kind rules layout token).workbook.editAll es
    let entered (row : Nat) := w.entry? ReportSheet.voyage.title ⟨row, VoyageColumn.voyageNo⟩
    ∃ texts : ReportSheet → Nat → List String,
      (∀ k row, 0 < row → row < layout.maxRow kind → exportedRow w k row = .ok (texts k row)) ∧
      (∀ k, ∃ s, parsed.sheet? k = some s ∧
        s.rows = ((List.range' 1 (layout.maxRow kind - 1)).map (texts k)).filter fun row =>
          !row.all (isBlank rules')) ∧
      ∀ k n, k ≠ .voyage → 0 < n → n < layout.maxRow kind →
        w.entry? k.title ⟨n, k.driver⟩ ≠ none →
        (∀ m, 0 < m → m ≤ n → entered m ≠ none → (∀ j, m < j → j ≤ n → entered j = none) →
          ∃ t, voyageNo .voyage (texts .voyage m) = some t ∧
            voyageNo k (texts k n) = some (reread t) ∧
            (voyageNo k (texts k n) = voyageNo .voyage (texts .voyage m) ↔ ReadsBack t) ∧
            ∀ x, entered m = some (.number x) → ReadsBack t) ∧
        ((∀ j, 0 < j → j ≤ n → entered j = none) → voyageNo k (texts k n) = some "") := by
  intro w entered
  have hw : (build catalog kind rules layout token).workbook.EditOf w := .editAll hes
  have hname : ∀ k : ReportSheet, layout.lookupSheet ≠ k.title := lookupSheet_ne_title hw hr
  choose texts htexts s hs using exportedRows_of_parse hw hr hp
  refine ⟨texts, fun k row => htexts k row, fun k => ⟨s k, hs k⟩, ?_⟩
  intro k n hk hn hmax hdriver
  obtain ⟨carry, hcarry⟩ := exists_carryColumn hk
  constructor
  · intro m hm hmn present last
    obtain ⟨v, hv⟩ : ∃ v, w.entry? ReportSheet.voyage.title ⟨m, VoyageColumn.voyageNo⟩ = some v :=
      Option.ne_none_iff_exists'.mp present
    -- both texts come from what was entered in the row of the voyage
    have voyage : voyageNo .voyage (texts .voyage m) = some (cachedResult v) := by
      rw [voyageNo_entered (voyageNo_cell hstorable hm) (htexts .voyage m hm (by omega)), hv]
      rfl
    have row : voyageNo k (texts k n) = some (reread (cachedResult v)) :=
      voyageNo_carried hw hname hcarry hn hmax hdriver
        (carry_of_entered hw hname hcarry hm hmn hmax hv last)
        (voyageNo_stored (voyageNo_cell hstorable hm) hv) (htexts k n hn hmax)
    refine ⟨_, voyage, row, ?_, fun x hx => ?_⟩
    · rw [row, voyage, Option.some_inj]
      exact reread_eq_self
    · obtain rfl := Option.some.inj (hv.symm.trans hx)
      exact readsBack_cellText x
  · intro none
    exact voyageNo_carried hw hname hcarry hn hmax hdriver
      (carry_of_none hw hname hcarry hn hmax none) (by decide) (htexts k n hn hmax)

namespace Sample

/-- A filled template of the vessel that can be written is read when it comes back. -/
lemma parse_filled {es : List Edit} (hes : ∀ e ∈ es, Fills .standard Sample.layout e)
    {sheets : List WrittenSheet} (hr : Xlsx.render (workbook.editAll es) = .ok sheets) :
    ∃ parsed, Submission.parse .default Sample.layout (Xlsx.returned sheets) = .ok parsed := by
  have hw : workbook.EditOf (workbook.editAll es) := .editAll fun e he => (hes e he).admits
  have hf : Filled catalog .standard .default layout token (workbook.editAll es) :=
    filled_editAll hes hr fun k => (hidden_names hw hr).1 k
  have rows : ∀ k row, ∃ ts, 0 < row → row < layout.maxRow .standard →
      exportedRow (workbook.editAll es) k row = .ok ts := by
    intro k row
    by_cases data : 0 < row ∧ row < layout.maxRow .standard
    · obtain ⟨ts, h, -⟩ := exportedRow_filled hf (lookupSheet_ne_title hw hr) k data.1 data.2
      exact ⟨ts, fun _ _ => h⟩
    · exact ⟨[], fun hrow hmax => absurd ⟨hrow, hmax⟩ data⟩
  choose texts htexts using rows
  obtain ⟨t, parsed, -⟩ := parse_returned hw hr .default rfl hf.token htexts
  exact ⟨_, parsed⟩

/-- What the crew enters can be held by a file. -/
lemma storable_of_fills {es : List Edit} (hes : ∀ e ∈ es, Fills .standard Sample.layout e) :
    ∀ e ∈ es, ∀ entry ∈ e.entry, Storable entry := by
  intro e he entry hentry
  obtain ⟨k, c, -, -, -, -, -, enterable⟩ := hes e he
  exact (enterable entry hentry).storable

end Sample

/-- The number V001 of the voyage in the first row is the number of the engine in the second. -/
theorem voyage_number_shared_two_rows :
    ∃ (sheets : List WrittenSheet) (parsed : ParsedWorkbook) (row : List String),
      Xlsx.render (Sample.workbook.editAll Sample.entries) = .ok sheets ∧
      Submission.parse .default Sample.layout (Xlsx.returned sheets) = .ok parsed ∧
      exportedRow (Sample.workbook.editAll Sample.entries) .machinery 2 = .ok row ∧
      voyageNo .machinery row = some "V001" := by
  have hes : ∀ e ∈ Sample.entries, Sample.workbook.Admits e :=
    fun e he => (Sample.entries_fill e he).admits
  have storable : ∀ e ∈ Sample.entries, e.sheet = ReportSheet.voyage.title →
      e.position.col = VoyageColumn.voyageNo → ∀ entry ∈ e.entry, Storable entry :=
    fun e he _ _ => Sample.storable_of_fills Sample.entries_fill e he
  obtain ⟨parsed, hp⟩ := Sample.parse_filled Sample.entries_fill Sample.render_entries
  obtain ⟨texts, htexts, -, rows⟩ := voyage_number_shared_iff hes storable
    Sample.render_entries hp
  obtain ⟨t, voyage, engine, -⟩ := (rows .machinery 2 nofun (by decide) (by decide)
      (by decide +kernel)).1 1
    (by decide) (by decide) (by decide +kernel) fun j hj hjn => by
      obtain rfl : j = 2 := by omega
      rfl
  have number : voyageNo .voyage (texts .voyage 1) = some "V001" := by
    rw [voyageNo_entered (voyageNo_cell storable Nat.one_pos)
      (htexts .voyage 1 (by decide) (by decide))]
    decide +kernel
  obtain rfl := Option.some.inj (voyage.symm.trans number)
  have same : reread "V001" = "V001" := by decide
  exact ⟨_, parsed, _, Sample.render_entries, hp, htexts .machinery 2 (by decide) (by decide),
    same ▸ engine⟩

namespace Sample

/-- A voyage whose number starts with zeros, and an engine beside it. -/
def paddedNumber : List Edit :=
  [⟨"Voyage", ⟨1, 0⟩, some (.text "007")⟩, ⟨"Machinery", ⟨1, 1⟩, some (.text "Main Engine")⟩]

/-- The entries with a padded number fill input cells. -/
lemma paddedNumber_fill : ∀ e ∈ paddedNumber, Fills .standard Sample.layout e := by
  simp only [paddedNumber, List.forall_mem_cons]
  refine ⟨?_, ?_, List.forall_mem_nil _⟩
  · exact ⟨.voyage, _, rfl, by decide, by decide, rfl, rfl, text_enterable (by decide) (by decide)⟩
  · exact ⟨.machinery, _, rfl, by decide, by decide, rfl, rfl,
      text_enterable (by decide) (by decide)⟩

/-- The workbook with a padded number can be written. -/
lemma render_paddedNumber : Xlsx.render (workbook.editAll paddedNumber) =
    .ok (Xlsx.writtenSheets (workbook.editAll paddedNumber)) := by
  refine render_filled paddedNumber_fill ?_
  simp only [paddedNumber, List.forall_mem_cons]
  refine ⟨?_, ?_, List.forall_mem_nil _⟩ <;> rintro _ ⟨⟩ <;> decide

/-- The first voyage has the number as it was entered, the others have none. -/
lemma paddedNumber_voyages {n : Nat} (hn : 0 < n) (hmax : n < 4) {ts : List String}
    (h : exportedRow (workbook.editAll paddedNumber) .voyage n = .ok ts) :
    voyageNo .voyage ts = some (if n = 1 then "007" else "") := by
  have storable : ∀ e ∈ paddedNumber, e.sheet = ReportSheet.voyage.title →
      e.position.col = VoyageColumn.voyageNo → ∀ entry ∈ e.entry, Storable entry :=
    fun e he _ _ => storable_of_fills paddedNumber_fill e he
  rw [voyageNo_entered (voyageNo_cell storable hn) h]
  obtain rfl | rfl | rfl : n = 1 ∨ n = 2 ∨ n = 3 := by omega
  all_goals decide +kernel

/-- The engine has the number without its zeros. -/
lemma paddedNumber_engine {ts : List String}
    (h : exportedRow (workbook.editAll paddedNumber) .machinery 1 = .ok ts) :
    voyageNo .machinery ts = some "7" := by
  have hw : workbook.EditOf (workbook.editAll paddedNumber) :=
    .editAll fun e he => (paddedNumber_fill e he).admits
  have carried := carry_of_entered hw lookupSheet_ne (k := .machinery) rfl Nat.one_pos
    (Nat.le_refl 1) (by decide) (v := .text "007") rfl fun j hj hj1 => by omega
  rw [voyageNo_carried hw lookupSheet_ne (k := .machinery) rfl Nat.one_pos (by decide)
    (by decide +kernel) carried (by decide) h]
  decide +kernel

end Sample

/-- The number 007 of a voyage is the number 7 of the engine beside it, and no voyage has that
number. -/
theorem leading_zeros_lost :
    ∃ (sheets : List WrittenSheet) (parsed : ParsedWorkbook) (voyages engines : ParsedSheet)
        (voyage engine : List String),
      Xlsx.render (Sample.workbook.editAll Sample.paddedNumber) = .ok sheets ∧
      Submission.parse .default Sample.layout (Xlsx.returned sheets) = .ok parsed ∧
      parsed.sheet? .voyage = some voyages ∧ parsed.sheet? .machinery = some engines ∧
      Workbook.entry? (Sample.workbook.editAll Sample.paddedNumber) "Machinery" ⟨1, 1⟩ =
        some (.text "Main Engine") ∧
      exportedRow (Sample.workbook.editAll Sample.paddedNumber) .voyage 1 = .ok voyage ∧
      voyage ∈ voyages.rows ∧ voyageNo .voyage voyage = some "007" ∧
      exportedRow (Sample.workbook.editAll Sample.paddedNumber) .machinery 1 = .ok engine ∧
      engine ∈ engines.rows ∧ voyageNo .machinery engine = some "7" ∧
      ∀ row ∈ voyages.rows, voyageNo .voyage row ≠ some "7" := by
  have hr := Sample.render_paddedNumber
  have hw : Sample.workbook.EditOf (Sample.workbook.editAll Sample.paddedNumber) :=
    .editAll fun e he => (Sample.paddedNumber_fill e he).admits
  obtain ⟨parsed, hp⟩ := Sample.parse_filled Sample.paddedNumber_fill hr
  obtain ⟨voyageTexts, hvoyages, voyages, foundVoyages, voyageRows⟩ :=
    exportedRows_of_parse hw hr hp .voyage
  obtain ⟨engineTexts, hengines, engines, foundEngines, engineRows⟩ :=
    exportedRows_of_parse hw hr hp .machinery
  have first : (1 : Nat) < Sample.layout.maxRow .standard := by decide
  have voyage := Sample.paddedNumber_voyages Nat.one_pos first (hvoyages 1 Nat.one_pos first)
  have engine := Sample.paddedNumber_engine (hengines 1 Nat.one_pos first)
  refine ⟨_, parsed, voyages, engines, _, _, hr, hp, foundVoyages, foundEngines,
    by decide +kernel, hvoyages 1 Nat.one_pos first, ?_, voyage, hengines 1 Nat.one_pos first, ?_,
    engine, ?_⟩
  · rw [voyageRows]
    exact mem_exported_of_voyageNo (by decide) voyage (by decide)
  · rw [engineRows]
    exact mem_exported_of_voyageNo (by decide) engine (by decide)
  · intro row hrow
    rw [voyageRows] at hrow
    obtain ⟨n, hn, rfl⟩ := List.mem_map.mp (List.mem_filter.mp hrow).1
    obtain ⟨hn1, hn4⟩ := List.mem_range'_1.mp hn
    rw [Sample.paddedNumber_voyages hn1 hn4 (hvoyages n hn1 hn4)]
    split
    · decide
    · decide

end ShipReport.Template
