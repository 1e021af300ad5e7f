import Mathlib.Tactic.Lemma
import ShipReport.Csv.Reader
import ShipReport.Storage.Files

/-!
# Round trip of CSV

What is written is read back: the reader follows the writer through fields, records and whole files.
Only a byte order mark that stands at the very beginning of the file, outside quotes, is lost.
-/

namespace ShipReport.Csv

/-- A text whose first character is a byte order mark and which needs no quotes. -/
def IsMarked (s : String) : Prop :=
  (∃ c, s.toList.head? = some c ∧ c.toNat = 0xFEFF) ∧ s.toList.any isSpecial = false

/-- The character that a line starts with: a quote, the comma after an empty field, or the first
character of a first field that needs no quotes. -/
inductive LineHead (record : List String) (c : Char) : Prop where
  | quote : c = '"' → LineHead record c
  | comma : c = ',' → LineHead record c
  | field {s : String} : record.head? = some s → s.toList.head? = some c →
    s.toList.any isSpecial = false → LineHead record c

/-- A line starts with a character that ends no line. -/
lemma LineHead.not_lineEnd {record : List String} {c : Char} (h : LineHead record c) :
    characters.isLineEnd c = false := by
  cases h with
  | quote h => subst h; decide
  | comma h => subst h; decide
  | field _ hc hs =>
    have hspecial := List.any_eq_false.mp hs c (List.mem_of_head? hc)
    simp only [isSpecial, Bool.or_eq_true, not_or, Bool.not_eq_true] at hspecial
    simp [characters, hspecial]

/-- What follows the first field of a record. -/
def afterFirst : List String → List Char
  | [] => []
  | s :: record => ',' :: (fields (s :: record)).toList

/-- The text of a record begins with that of its first field. -/
lemma fields_cons (s : String) (record : List String) :
    (fields (s :: record)).toList = (field s).toList ++ afterFirst record := by
  cases record <;> simp [fields, afterFirst, List.append_assoc]

/-- Every line has a first character. -/
lemma line_head {record : List String} (hne : record ≠ []) :
    ∃ c cs, (line record).toList = c :: cs ∧ LineHead record c := by
  unfold line
  by_cases hempty : record = [] ∨ record = [""]
  · rw [if_pos hempty]
    exact ⟨'"', _, rfl, .quote rfl⟩
  · rw [if_neg hempty, String.toList_append]
    cases record with
    | nil => exact absurd rfl hne
    | cons s record =>
      rw [fields_cons]
      by_cases hs : s.toList.any isSpecial
      · exact ⟨'"', _, by simp [field, hs, quoted]; rfl, .quote rfl⟩
      · rw [Bool.not_eq_true] at hs
        rw [field, hs, if_neg Bool.false_ne_true]
        cases hl : s.toList with
        | cons c cs => exact ⟨c, _, rfl, .field rfl (by rw [hl]; rfl) hs⟩
        | nil =>
          obtain rfl : s = "" := String.toList_eq_nil_iff.mp hl
          cases record with
          | nil => exact absurd (.inr rfl) hempty
          | cons t record => exact ⟨',', _, rfl, .comma rfl⟩

/-- A line whose first field needs no quotes and which is not empty. -/
lemma line_plain {s : String} {others : List String} (hs : s.toList.any isSpecial = false)
    (hne : s :: others ≠ [""]) :
    (line (s :: others)).toList = s.toList ++ afterFirst others ++ ['\r', '\n'] := by
  rw [line, if_neg (by simpa using hne), String.toList_append, fields_cons, field, hs,
    if_neg Bool.false_ne_true]
  rfl

namespace Reader

/-- Reads several characters. -/
def run (r : Reader Char) (cs : List Char) : Reader Char :=
  cs.foldl (step characters) r

/-- What a reader has read so far, apart from its counts. -/
structure Shows (r : Reader Char) (place : Place) (field : List Char) (fields : List (List Char))
    (records : List (List (List Char))) : Prop where
  place : r.place = place
  field : r.field = field
  fields : r.fields = fields
  records : r.records.map (·.fields) = records

variable {r : Reader Char} {f : List Char} {fs : List (List Char)} {rs : List (List (List Char))}

/-- Nothing to read changes nothing. -/
@[simp]
lemma run_nil : r.run [] = r := rfl

/-- The first character is read first. -/
@[simp]
lemma run_cons {c : Char} {cs : List Char} : r.run (c :: cs) = (r.step characters c).run cs := rfl

/-- A text in two parts is read one part after the other. -/
@[simp]
lemma run_append {cs ds : List Char} : r.run (cs ++ ds) = (r.run cs).run ds :=
  List.foldl_append

/-- The places where a field can end. -/
def Closing (place : Place) : Prop :=
  place = .fieldStart ∨ place = .plain ∨ place = .quoteSeen

/-- A comma ends a field that may end there. -/
lemma Shows.comma {place : Place} (h : r.Shows place f fs rs) (hp : Closing place) :
    (r.step characters ',').Shows .fieldStart [] (f.reverse :: fs) rs := by
  obtain ⟨rfl, rfl, rfl, rfl⟩ := h
  rcases hp with hp | hp | hp <;>
    · simp only [step, advance, hp]
      exact ⟨rfl, rfl, rfl, rfl⟩

/-- A line end ends the field and the record. -/
lemma Shows.lineEnd {place : Place} (h : r.Shows place f fs rs) (hp : Closing place) :
    (r.run ['\r', '\n']).Shows .recordStart [] [] ((f.reverse :: fs).reverse :: rs) := by
  obtain ⟨rfl, rfl, rfl, rfl⟩ := h
  rcases hp with hp | hp | hp <;>
    · simp only [run_cons, run_nil, step, advance, hp]
      exact ⟨rfl, rfl, rfl, rfl⟩

/-- Characters that are not special are copied outside quotes. -/
lemma Shows.plain {cs : List Char} (h : r.Shows .plain f fs rs)
    (hcs : ∀ c ∈ cs, isSpecial c = false) : (r.run cs).Shows .plain (cs.reverse ++ f) fs rs := by
  induction cs generalizing r f with
  | nil => exact h
  | cons c cs ih =>
    have hc := hcs c List.mem_cons_self
    simp only [isSpecial, Bool.or_eq_false_iff] at hc
    obtain ⟨⟨⟨hcomma, -⟩, hr⟩, hn⟩ := hc
    have copied : (r.step characters c).Shows .plain (c :: f) fs rs := by
      obtain ⟨hplace, rfl, rfl, rfl⟩ := h
      simp only [step, advance, hplace, literal, characters, hcomma, hr, hn]
      exact ⟨rfl, rfl, rfl, rfl⟩
    simpa using ih copied fun d hd => hcs d (List.mem_cons_of_mem c hd)

/-- Between quotes all characters are copied, and doubled quotes stand for one. -/
lemma Shows.quoted (h : r.Shows .quoted f fs rs) (cs : List Char) :
    (r.run (cs.flatMap (fun c => if c = '"' then ['"', '"'] else [c]) ++ ['"'])).Shows .quoteSeen
      (cs.reverse ++ f) fs rs := by
  induction cs generalizing r f with
  | nil =>
    obtain ⟨hplace, rfl, rfl, rfl⟩ := h
    simp only [List.flatMap_nil, List.nil_append, run_cons, run_nil, step, advance, hplace]
    exact ⟨rfl, rfl, rfl, rfl⟩
  | cons c cs ih =>
    have copied : (r.run (if c = '"' then ['"', '"'] else [c])).Shows .quoted (c :: f) fs rs := by
      obtain ⟨hplace, rfl, rfl, rfl⟩ := h
      -- a doubled quote leaves the quotes and enters them again
      by_cases hc : c = '"'
      · subst hc
        simp only [if_true, run_cons, run_nil, step, advance, hplace]
        exact ⟨rfl, rfl, rfl, rfl⟩
      · have hq : (c == '"') = false := beq_eq_false_iff_ne.mpr hc
        simp only [hc, if_false, run_cons, run_nil, step, advance, hplace, characters, hq]
        exact ⟨rfl, rfl, rfl, rfl⟩
    rw [List.flatMap_cons, List.append_assoc, run_append]
    simpa using ih copied

/-- A text between quotes is read as the text. -/
lemma Shows.readQuoted (h : r.Shows .fieldStart [] fs rs) (cs : List Char) :
    (r.run (Csv.quoted cs)).Shows .quoteSeen cs.reverse fs rs := by
  have opened : (r.step characters '"').Shows .quoted [] fs rs := by
    obtain ⟨hplace, hfield, rfl, rfl⟩ := h
    simp only [step, advance, hplace]
    exact ⟨rfl, hfield, rfl, rfl⟩
  simpa [Csv.quoted] using opened.quoted cs

/-- A field that was written is read. -/
lemma Shows.readField {s : String} (h : r.Shows .fieldStart [] fs rs) :
    ∃ place, Closing place ∧ (r.run (Csv.field s).toList).Shows place s.toList.reverse fs rs := by
  unfold Csv.field
  by_cases hs : s.toList.any isSpecial
  · rw [if_pos hs, String.toList_ofList]
    exact ⟨.quoteSeen, .inr (.inr rfl), h.readQuoted _⟩
  · rw [if_neg hs]
    have plain : ∀ c ∈ s.toList, isSpecial c = false := by simpa using hs
    cases hl : s.toList with
    | nil => exact ⟨.fieldStart, .inl rfl, h⟩
    | cons c cs =>
      rw [hl] at plain
      have hc := plain c List.mem_cons_self
      simp only [isSpecial, Bool.or_eq_false_iff] at hc
      obtain ⟨⟨⟨hcomma, hq⟩, hr⟩, hn⟩ := hc
      have copied : (r.step characters c).Shows .plain [c] fs rs := by
        obtain ⟨hplace, hfield, rfl, rfl⟩ := h
        simp only [step, advance, hplace, fieldFirst, literal, characters, hcomma, hq, hr, hn]
        exact ⟨rfl, congrArg (c :: ·) hfield, rfl, rfl⟩
      refine ⟨.plain, .inr (.inl rfl), ?_⟩
      simpa using copied.plain fun d hd => plain d (List.mem_cons_of_mem c hd)

/-- The fields of a record that were written are read. -/
lemma Shows.readFields {record : List String} (hne : record ≠ [])
    (h : r.Shows .fieldStart [] fs rs) :
    (r.run ((Csv.fields record).toList ++ ['\r', '\n'])).Shows .recordStart [] []
      ((fs.reverse ++ record.map String.toList) :: rs) := by
  induction record generalizing r fs with
  | nil => exact absurd rfl hne
  | cons s record ih =>
    obtain ⟨place, hplace, hfield⟩ := h.readField (s := s)
    cases record with
    | nil =>
      have ended := hfield.lineEnd hplace
      simpa [Csv.fields] using ended
    | cons t record =>
      have next := ih (List.cons_ne_nil t record) (hfield.comma hplace)
      simpa [Csv.fields, List.append_assoc] using next

/-- Before a record a character that ends no line is read as at the start of a field. -/
lemma step_recordStart {c : Char} (hr : r.place = .recordStart)
    (hc : characters.isLineEnd c = false) :
    r.step characters c = (r.goto .fieldStart).step characters c := by
  simp only [step, advance, goto, hr, hc, fieldFirst, literal, Bool.false_eq_true, if_false]
  split
  · rfl
  · split <;> rfl

/-- A line that was written is read as its record. -/
lemma Shows.readLine {record : List String} (hne : record ≠ [])
    (h : r.Shows .recordStart [] [] rs) :
    (r.run (line record).toList).Shows .recordStart [] [] (record.map String.toList :: rs) := by
  have start : (r.goto .fieldStart).Shows .fieldStart [] [] rs :=
    ⟨rfl, h.field, h.fields, h.records⟩
  -- the line as it is read from the start of a field
  have fromStart : ((r.goto .fieldStart).run (line record).toList).Shows .recordStart [] []
      (record.map String.toList :: rs) := by
    unfold line
    by_cases hempty : record = [] ∨ record = [""]
    · rw [if_pos hempty, hempty.resolve_left hne]
      exact (start.readQuoted []).lineEnd (.inr (.inr rfl))
    · rw [if_neg hempty, String.toList_append]
      exact start.readFields hne
  obtain ⟨c, cs, hline, hc⟩ := line_head hne
  rw [hline, run_cons] at fromStart ⊢
  rwa [step_recordStart h.place hc.not_lineEnd]

/-- Lines that were written are read as their records. -/
lemma Shows.readLines {records : List (List String)} (hne : ∀ record ∈ records, record ≠ [])
    (h : r.Shows .recordStart [] [] rs) :
    (r.run (records.flatMap fun record => (line record).toList)).Shows .recordStart [] []
      ((records.map (·.map String.toList)).reverse ++ rs) := by
  induction records generalizing r rs with
  | nil => exact h
  | cons record records ih =>
    have first := h.readLine (hne record List.mem_cons_self)
    rw [List.flatMap_cons, run_append]
    simpa using ih (fun record' h' => hne record' (List.mem_cons_of_mem _ h')) first

end Reader

/-! ## Whole files -/

/-- Writing succeeds if and only if all records have the same number of fields. -/
lemma writeRecords_failure {width : Nat} {rs : List (List String)} :
    (writeRecords width rs).failure = none ↔ ∀ record ∈ rs, record.length = width := by
  induction rs with
  | nil => simp [writeRecords]
  | cons record rs ih =>
    by_cases h : record.length = width
    · simp [writeRecords, h, ih]
    · simp [writeRecords, h]

/-- What is written when writing succeeds. -/
lemma writeRecords_text {width : Nat} {rs : List (List String)}
    (h : ∀ record ∈ rs, record.length = width) :
    (writeRecords width rs).text.toList = rs.flatMap fun record => (line record).toList := by
  induction rs with
  | nil => rfl
  | cons record rs ih =>
    have hrest := ih fun record' h' => h record' (List.mem_cons_of_mem _ h')
    simp [writeRecords, h record List.mem_cons_self, hrest]

/-- Lines that were written are read as the records that they were written from, also after
something that is skipped. -/
lemma records_lines {cs : List Char} {rs : List (List String)}
    (hcs : (Reader.start.run cs).Shows .recordStart [] [] [])
    (hne : ∀ record ∈ rs, record ≠ []) :
    (records characters (cs ++ rs.flatMap fun record => (line record).toList)).map
      (fun r => r.fields.map String.ofList) = rs := by
  have shows := hcs.readLines hne
  rw [← Reader.run_append, List.append_nil] at shows
  have texts : ∀ record : List String, (record.map String.toList).map String.ofList = record :=
    fun record => by simp
  unfold records
  change List.map _ (Reader.start.run _).finish.records.reverse = rs
  rw [Reader.finish, shows.place, List.map_reverse, List.reverse_eq_iff]
  have all := congrArg (List.map (List.map String.ofList)) shows.records
  rw [← List.map_reverse, List.map_map, List.map_map] at all
  refine all.trans ((List.map_congr_left fun record _ => texts record).trans ?_)
  exact List.map_id _

/-- What is read of a text without a byte order mark at its beginning. -/
lemma read_of_not_marked {c : Char} {cs : List Char} {text : String} (h : text.toList = c :: cs)
    (hc : c.toNat ≠ 0xFEFF) : read text = .ofRecords
      ((records characters (c :: cs)).map fun r => r.fields.map String.ofList) := by
  rw [read, h, dropMark, if_neg hc]

/-- A byte order mark at the beginning of a text is not read. -/
lemma read_of_marked {c : Char} {cs : List Char} {text : String} (h : text.toList = c :: cs)
    (hc : c.toNat = 0xFEFF) : read text = .ofRecords
      ((records characters cs).map fun r => r.fields.map String.ofList) := by
  rw [read, h, dropMark, if_pos hc]

section

variable {headers : List String} {rows : List (List String)}
  (hrows : ∀ row ∈ rows, row.length = headers.length)

include hrows

/-- A file consists of the line of the headers and those of the rows. -/
lemma write_text : (write headers rows).text.toList =
    (line headers).toList ++ rows.flatMap fun row => (line row).toList :=
  writeRecords_text (List.forall_mem_cons.mpr ⟨rfl, hrows⟩)

/-- Rows are as wide as the headers, so that none is empty. -/
lemma rows_ne_nil (hne : headers ≠ []) : ∀ row ∈ rows, row ≠ [] := by
  rintro row hrow rfl
  exact hne (List.eq_nil_of_length_eq_zero (hrows [] hrow).symm)

/-- A file whose first header is not marked is read as it was written. -/
lemma read_write (hne : headers ≠ []) (hmark : ¬ ∃ s, headers.head? = some s ∧ IsMarked s) :
    read (write headers rows).text = ⟨headers, rows⟩ := by
  obtain ⟨c, cs, hline, hhead⟩ := line_head hne
  have text := write_text hrows
  rw [hline, List.cons_append] at text
  have hc : c.toNat ≠ 0xFEFF := by
    cases hhead with
    | quote h => subst h; decide
    | comma h => subst h; decide
    | field hs hc hplain => exact fun h => hmark ⟨_, hs, ⟨c, hc, h⟩, hplain⟩
  have start : (Reader.start.run []).Shows .recordStart [] [] [] := ⟨rfl, rfl, rfl, rfl⟩
  have all := records_lines start (List.forall_mem_cons.mpr ⟨hne, rows_ne_nil hrows hne⟩)
  rw [List.nil_append, List.flatMap_cons, hline, List.cons_append] at all
  rw [read_of_not_marked text hc, all]
  rfl

/-- A file whose first header is marked is not read as it was written: the mark is lost, and the
line of the headers with it if it held nothing else. -/
lemma read_write_marked {s : String} {others : List String} (hs : headers = s :: others)
    (hmark : IsMarked s) : read (write headers rows).text ≠ ⟨headers, rows⟩ := by
  subst hs
  obtain ⟨⟨m, hm, hmark⟩, hplain⟩ := hmark
  obtain ⟨ms, hms⟩ := List.head?_eq_some_iff.mp hm
  have rowsNe := rows_ne_nil hrows (List.cons_ne_nil s others)
  have hne : s :: others ≠ [""] := by
    intro h
    obtain rfl := (List.cons.inj h).1
    cases hms
  have text := write_text hrows
  rw [line_plain hplain hne, hms, List.cons_append, List.cons_append, List.cons_append] at text
  rw [read_of_marked text hmark]
  by_cases hempty : ms = [] ∧ others = []
  · obtain ⟨rfl, rfl⟩ := hempty
    -- nothing but the mark stood in the line, and empty lines are skipped
    have start : (Reader.start.run ['\r', '\n']).Shows .recordStart [] [] [] :=
      ⟨rfl, rfl, rfl, rfl⟩
    have all := records_lines start rowsNe
    rw [afterFirst, List.append_nil, List.nil_append, all]
    intro h
    cases rows with
    | nil => cases h
    | cons row rows =>
      have lengths := congrArg (fun t => t.rows.length) h
      simp [Table.ofRecords] at lengths
  · -- the first header comes back without its first character
    have unmarked : (String.ofList ms).toList.any isSpecial = false := by
      rw [hms, List.any_cons, Bool.or_eq_false_iff] at hplain
      simpa using hplain.2
    have hne' : String.ofList ms :: others ≠ [""] := by
      intro h
      obtain ⟨h1, h2⟩ := List.cons.inj h
      exact hempty ⟨by simpa using h1, h2⟩
    have start : (Reader.start.run []).Shows .recordStart [] [] [] := ⟨rfl, rfl, rfl, rfl⟩
    have all := records_lines start
      (List.forall_mem_cons.mpr ⟨List.cons_ne_nil (String.ofList ms) others, rowsNe⟩)
    rw [List.nil_append, List.flatMap_cons, line_plain unmarked hne', String.toList_ofList] at all
    rw [all]
    intro h
    have same : String.ofList ms = s := (List.cons.inj (congrArg Table.headers h)).1
    have lengths := congrArg (fun t => t.toList.length) same
    simp [hms] at lengths

end

/-- The bytes of a text are read as the text. -/
lemma readBytes_utf8 (text : String) :
    readBytes text.toByteArray.data.toList = .ok (read text) := by
  have valid : Text.ofUtf8? text.toByteArray.data.toList = some text := by
    rw [Text.ofUtf8?, Array.toArray_toList, String.fromUTF8?, dif_pos text.isValidUTF8]
    rfl
  rw [readBytes, valid]

/-- Writing a file that nothing is in the way of succeeds if and only if all rows have as many
fields as there are headers. The file is then read as it was written, unless the first header starts
with a byte order mark and needs no quotes. -/
theorem file_round_trip {files : Storage.Files} {path : String}
    (hpath : files.isBlocked path = false) {headers : List String} (hne : headers ≠ []) (rows : List (List String)) :
    ((files.writeCsv path headers rows).2 = .ok () ↔
        ∀ row ∈ rows, row.length = headers.length) ∧
      ((files.writeCsv path headers rows).2 = .ok () →
        ∃ text, (files.writeCsv path headers rows).1[path]? = some text ∧
          (readBytes text.toByteArray.data.toList = .ok ⟨headers, rows⟩ ↔
            ¬ ∃ s, headers.head? = some s ∧ IsMarked s)) := by
  have free : ¬ files.isBlocked path := by
    rw [hpath]
    exact Bool.false_ne_true
  have succeeds : (files.writeCsv path headers rows).2 = .ok () ↔
      ∀ row ∈ rows, row.length = headers.length := by
    have failure : (write headers rows).failure = none ↔ _ := writeRecords_failure
    rw [List.forall_mem_cons, and_iff_right rfl] at failure
    rw [← failure]
    unfold Storage.Files.writeCsv
    rw [if_neg free]
    change _ ↔ (write headers rows).failure = none
    cases hf : (write headers rows).failure <;> simp [hf]
  refine ⟨succeeds, fun h => ⟨(write headers rows).text, ?_, ?_⟩⟩
  · unfold Storage.Files.writeCsv
    rw [if_neg free]
    exact Std.TreeMap.getElem?_insert_self
  · -- only a mark at the start of the first header is not read back
    have hrows := succeeds.mp h
    rw [readBytes_utf8, Except.ok.injEq]
    constructor
    · rintro hread ⟨s, hs, hmark⟩
      obtain ⟨others, hs⟩ := List.head?_eq_some_iff.mp hs
      exact read_write_marked hrows hs hmark hread
    · exact read_write hrows hne

/-- A quote, a line end and an empty field survive in a file. -/
theorem file_round_trip_quoted :
    ∃ text, (Storage.Files.writeCsv ∅ "out/a.csv" ["Remarks", ""] [["say \"hi\"\r\n", ""]]).1[
        "out/a.csv"]? = some text ∧
      readBytes text.toByteArray.data.toList =
        .ok ⟨["Remarks", ""], [["say \"hi\"\r\n", ""]]⟩ := by
  have blocked : Storage.Files.isBlocked ∅ "out/a.csv" = false := by
    simp [Storage.Files.isBlocked]
  obtain ⟨succeeds, trip⟩ := file_round_trip blocked (List.cons_ne_nil "Remarks" [""])
    [["say \"hi\"\r\n", ""]]
  obtain ⟨text, written, reads⟩ := trip (succeeds.mpr (by decide))
  refine ⟨text, written, reads.mpr ?_⟩
  rintro ⟨s, hs, ⟨c, hc, hmark⟩, -⟩
  obtain rfl := Option.some.inj hs
  obtain rfl := Option.some.inj hc
  exact absurd hmark (by decide)

end ShipReport.Csv
