import Mathlib.Data.List.Infix
import ShipReport.Proofs.Service.StagedRows

/-!
# Interleaved uploads

Two uploads for one vessel stage their sheets in single requests, which may be interleaved in any
order. Each staging table ends with the rows of the upload that came to it last. So all of them hold
the rows of one upload, whatever the uploads are, exactly for the schedules in which one upload is
never ahead of the other.
-/

namespace ShipReport

namespace Service

open Report (ReportSheet)
open Store (Database Table)
open Submission (ParsedSheet stagingTable)

/-! ## Uploads that go on by single requests -/

/-- Where an upload is with its sheets. -/
inductive Loading where
  /-- The sheets that are still to be staged. -/
  | left (sheets : List ParsedSheet)
  | failed (e : ServiceError)

/-- The next request of an upload; one that has failed, or has staged all its sheets, makes none. -/
def Loading.advance (code : String) : Loading → Holdings → Loading × Holdings
  | .left (s :: sheets), h =>
    match (stageSheet code s).runOn h with
    | (.ok _, h) => (.left sheets, h)
    | (.error e, h) => (.failed e, h)
  | l, h => (l, h)

/-- Where an upload is that has staged its sheets with a result. -/
def Loading.ofResult {α : Type} : Except ServiceError α → Loading
  | .ok _ => .left []
  | .error e => .failed e

/-- Two uploads under way for one vessel. -/
structure Contest where
  holdings : Holdings
  loading : Bool → Loading

namespace Contest

/-- One of the uploads goes on by a request. -/
def step (code : String) (c : Contest) (u : Bool) : Contest :=
  let next := (c.loading u).advance code c.holdings
  { holdings := next.2
    loading := Function.update c.loading u next.1 }

/-- The uploads go on in the order of a schedule, each time one by a request. -/
def run (code : String) (h : Holdings) (sheets : Bool → List ParsedSheet) (schedule : List Bool) :
    Contest :=
  schedule.foldl (step code) ⟨h, fun u => .left (sheets u)⟩

/-- Both uploads have staged their sheets. -/
def Finished (c : Contest) : Prop :=
  ∀ u, c.loading u = .left []

/-- Some upload has failed. -/
def Failed (c : Contest) : Prop :=
  ∃ u e, c.loading u = .failed e

variable {code : String} {h : Holdings} {sheets : Bool → List ParsedSheet} {c : Contest}

/-- The last request of a schedule is made after all others. -/
lemma run_concat (schedule : List Bool) (u : Bool) :
    run code h sheets (schedule ++ [u]) = (run code h sheets schedule).step code u := by
  simp [run]

/-- A step is the next request of one upload. -/
lemma step_eq {u : Bool} {l : Loading} {after : Holdings}
    (h : (c.loading u).advance code c.holdings = (l, after)) :
    c.step code u = ⟨after, Function.update c.loading u l⟩ := by
  unfold step
  rw [h]

/-- An upload that makes no more requests changes nothing. -/
lemma step_still {u : Bool} (h : (c.loading u).advance code c.holdings = (c.loading u, c.holdings)) :
    c.step code u = c := by
  rw [step_eq h, Function.update_eq_self]

/-- The next sheet of an upload is staged. -/
lemma step_staged {u : Bool} {s : ParsedSheet} {ss : List ParsedSheet} {after : Holdings}
    {b : Option (String × Nat)} (hc : c.loading u = .left (s :: ss))
    (hs : (stageSheet code s).runOn c.holdings = (.ok b, after)) :
    c.step code u = ⟨after, Function.update c.loading u (.left ss)⟩ := by
  apply step_eq
  rw [hc, Loading.advance, hs]

/-- The next sheet of an upload cannot be staged. -/
lemma step_refused {u : Bool} {s : ParsedSheet} {ss : List ParsedSheet} {after : Holdings}
    {e : ServiceError} (hc : c.loading u = .left (s :: ss))
    (hs : (stageSheet code s).runOn c.holdings = (.error e, after)) :
    c.step code u = ⟨after, Function.update c.loading u (.failed e)⟩ := by
  apply step_eq
  rw [hc, Loading.advance, hs]

/-- An upload that has failed changes nothing any more. -/
lemma foldl_replicate_failed {u : Bool} {e : ServiceError} (hc : c.loading u = .failed e)
    (n : Nat) : (List.replicate n u).foldl (step code) c = c := by
  have same : c.step code u = c := step_still (by rw [hc]; rfl)
  induction n with
  | zero => rfl
  | succ n ih => rw [List.replicate_succ, List.foldl_cons, same, ih]

/-- An upload that goes on without interruption stages its sheets one after the other. -/
lemma foldl_replicate {u : Bool} {ss : List ParsedSheet} (hc : c.loading u = .left ss) :
    ((List.replicate ss.length u).foldl (step code) c).loading u =
        .ofResult ((ss.filterMapM (stageSheet code)).runOn c.holdings).1 ∧
      ((List.replicate ss.length u).foldl (step code) c).holdings =
        ((ss.filterMapM (stageSheet code)).runOn c.holdings).2 := by
  induction ss generalizing c with
  | nil => exact ⟨hc, rfl⟩
  | cons s ss ih =>
    rw [List.length_cons, List.replicate_succ, List.foldl_cons]
    cases hs : (stageSheet code s).runOn c.holdings with
    | mk staged after =>
      cases staged with
      | error e =>
        have failed : (Function.update c.loading u (.failed e)) u = .failed e :=
          Function.update_self ..
        rw [step_refused hc hs, foldl_replicate_failed failed, Work.runOn_filterMapM_error hs]
        exact ⟨failed, rfl⟩
      | ok b =>
        have rest := ih (c := ⟨after, Function.update c.loading u (.left ss)⟩)
          (Function.update_self ..)
        rw [step_staged hc hs, Work.runOn_filterMapM_ok hs]
        refine ⟨rest.1.trans ?_, rest.2⟩
        cases ((ss.filterMapM (stageSheet code)).runOn after).1 <;> rfl

/-- An upload that is not interrupted stages its sheets as it does when it is alone. -/
theorem run_alone (code : String) (h : Holdings) (sheets : Bool → List ParsedSheet) (u : Bool) :
    let c := run code h sheets (List.replicate (sheets u).length u)
    let staged := ((sheets u).filterMapM (stageSheet code)).runOn h
    c.loading u = .ofResult staged.1 ∧ c.holdings = staged.2 :=
  foldl_replicate rfl

/-- A failed upload stays so. -/
lemma Failed.step (hc : c.Failed) (u : Bool) : (c.step code u).Failed := by
  obtain ⟨v, e, hv⟩ := hc
  by_cases same : v = u
  · subst same
    rw [step_still (by rw [hv]; rfl)]
    exact ⟨v, e, hv⟩
  · exact ⟨v, e, (Function.update_of_ne same ..).trans hv⟩

/-- Where an upload has failed, not both have staged their sheets. -/
lemma Failed.not_finished (hc : c.Failed) : ¬ c.Finished := by
  obtain ⟨v, e, hv⟩ := hc
  intro finished
  have := hv.symm.trans (finished v)
  cases this

end Contest

/-! ## Which upload comes last -/

/-- The upload comes to a sheet after the other one has. -/
def Behind (u : Bool) (i : Nat) (schedule : List Bool) : Prop :=
  ∀ before ∈ schedule.inits, before ++ [!u] ∈ schedule.inits → before.count (!u) = i →
    before.count u ≤ i

/-- The upload is at no time ahead of the other one. -/
def NeverAhead (u : Bool) (schedule : List Bool) : Prop :=
  ∀ before ∈ schedule.inits, before.count u ≤ before.count (!u)

instance (u : Bool) (schedule : List Bool) : Decidable (NeverAhead u schedule) :=
  inferInstanceAs (Decidable (∀ before ∈ schedule.inits, _))

instance (u : Bool) (i : Nat) (schedule : List Bool) : Decidable (Behind u i schedule) :=
  inferInstanceAs (Decidable (∀ before ∈ schedule.inits, _))

/-- What holds of two uploads after so many requests if one of them is to come last to a sheet. -/
structure Follows (code : String) (sheets : Bool → List ParsedSheet) (u : Bool) (i : Nat)
    (before : List Bool) (c : Contest) : Prop where
  loading : ∀ v, c.loading v = .left ((sheets v).drop (before.count v))
  tables : HasStaging code c.holdings.database
  held : i < before.count u → ∀ s ∈ (sheets u)[i]?, HoldsSheet code s c.holdings.database

section

variable {code : String} {h : Holdings} {sheets : Bool → List ParsedSheet} {u : Bool} {i : Nat}
  {before : List Bool} {c : Contest}

/-- Different sheets stand at different places of an upload, and the same ones of two uploads at the
same place. -/
lemma kind_ne {ss ss' : List ParsedSheet} (kinds : ss.map (·.kind) = ReportSheet.all)
    (kinds' : ss'.map (·.kind) = ReportSheet.all) {n m : Nat} {s s' : ParsedSheet}
    (hs : ss[n]? = some s) (hs' : ss'[m]? = some s') (hnm : n ≠ m) : s.kind ≠ s'.kind := by
  have place : ReportSheet.all[n]? = some s.kind := by rw [← kinds, List.getElem?_map, hs]; rfl
  have place' : ReportSheet.all[m]? = some s'.kind := by rw [← kinds', List.getElem?_map, hs']; rfl
  intro same
  obtain ⟨hn, -⟩ := List.getElem?_eq_some_iff.mp place
  exact hnm ((List.getElem?_inj hn (by decide)).mp (place.trans (same ▸ place'.symm)))

/-- A request counts for the upload that makes it. -/
lemma count_request_self (before : List Bool) (v : Bool) :
    (before ++ [v]).count v = before.count v + 1 := by
  simp

/-- A request does not count for the other upload. -/
lemma count_request_other (before : List Bool) {v w : Bool} (hw : w ≠ v) :
    (before ++ [v]).count w = before.count w := by
  simp [List.count_append, hw.symm]

/-- A request of an upload all sheets of which have been staged changes nothing. -/
lemma Follows.still (hc : Follows code sheets u i before c) {v : Bool}
    (done : (sheets v).drop (before.count v) = []) :
    Follows code sheets u i (before ++ [v]) (c.step code v) := by
  rw [Contest.step_still (by rw [hc.loading v, done]; rfl)]
  refine ⟨fun w => ?_, hc.tables, fun hi s hs => hc.held ?_ s hs⟩
  · by_cases hw : w = v
    · subst hw
      rw [hc.loading w, done, count_request_self, ← List.drop_drop, done, List.drop_nil]
    · rw [count_request_other before hw]
      exact hc.loading w
  · by_cases hu : u = v
    · subst hu
      exact lt_of_lt_of_le (List.getElem?_eq_some_iff.mp hs).1 (List.drop_eq_nil_iff.mp done)
    · rwa [count_request_other before hu] at hi

/-- A request about another sheet comes after the upload that is to be last has staged its own. -/
lemma earlier_of_other {v : Bool} (hi : i < (before ++ [v]).count u)
    (here : ¬ (v = u ∧ before.count v = i))
    (behind : v = !u → before.count v = i → before.count u ≤ i) :
    i < before.count u ∧ i ≠ before.count v := by
  by_cases hu : u = v
  · subst hu
    rw [count_request_self] at hi
    have other : before.count u ≠ i := fun hu => here ⟨rfl, hu⟩
    omega
  · rw [count_request_other before hu] at hi
    refine ⟨hi, fun same => ?_⟩
    have := behind (by cases u <;> cases v <;> simp_all) same.symm
    omega

/-- Staging the next sheet of either upload leaves the rows of the upload that is to come last. -/
lemma Follows.staged (hc : Follows code sheets u i before c)
    (kinds : ∀ v, (sheets v).map (·.kind) = ReportSheet.all) {v : Bool}
    (behind : v = !u → before.count v = i → before.count u ≤ i) {s : ParsedSheet}
    {rest : List ParsedSheet} (next : (sheets v).drop (before.count v) = s :: rest)
    {t : Store.Table} (ht : c.holdings.database.table? (stagingTable code s.kind) = some t)
    (staging : IsStaging (stagingTable code s.kind) t) {b : Option (String × Nat)}
    (staged : (stageSheet code s).runOn c.holdings = (.ok b, { c.holdings with
      database := c.holdings.database.put (stagingTable code s.kind) (reloaded s.rows t) })) :
    Follows code sheets u i (before ++ [v]) (c.step code v) := by
  have place : (sheets v)[before.count v]? = some s := by
    rw [← List.head?_drop, next, List.head?_cons]
  rw [Contest.step_staged ((hc.loading v).trans (congrArg Loading.left next)) staged]
  refine ⟨fun w => ?_, hc.tables.put (staging.reload _), fun hi s' hs' => ?_⟩
  · dsimp only
    by_cases hw : w = v
    · subst hw
      rw [Function.update_self, count_request_self, ← List.drop_drop, next]
      rfl
    · rw [Function.update_of_ne hw, count_request_other before hw]
      exact hc.loading w
  · -- the request is the one that counts, or one for another sheet
    by_cases here : v = u ∧ before.count v = i
    · obtain ⟨rfl, rfl⟩ := here
      rw [Option.mem_def, place] at hs'
      cases hs'
      exact holdsSheet_put ht staging
    · obtain ⟨earlier, other⟩ := earlier_of_other hi here behind
      exact (hc.held earlier s' hs').put_other (staging.reload _)
        (kind_ne (kinds u) (kinds v) hs' place other)

/-- The next request of either upload, unless it fails, leaves the rows of the upload that is to
come last. -/
lemma Follows.step (hc : Follows code sheets u i before c)
    (kinds : ∀ v, (sheets v).map (·.kind) = ReportSheet.all) (v : Bool)
    (behind : v = !u → before.count v = i → before.count u ≤ i) :
    (c.step code v).Failed ∨ Follows code sheets u i (before ++ [v]) (c.step code v) := by
  cases next : (sheets v).drop (before.count v) with
  | nil => exact .inr (hc.still next)
  | cons s rest =>
    obtain ⟨t, ht, staging⟩ := hc.tables s.kind
    rcases stageSheet_cases ht staging with ⟨e, failed⟩ | staged
    · rw [Contest.step_refused ((hc.loading v).trans (congrArg Loading.left next)) failed]
      exact .inl ⟨v, e, Function.update_self ..⟩
    · exact .inr (hc.staged kinds behind next ht staging staged)

end

section

variable {code : String} {h : Holdings} {sheets : Bool → List ParsedSheet} {u : Bool} {i : Nat}
  {schedule : List Bool}

/-- An upload that comes later to a sheet did so at every earlier time. -/
lemma Behind.earlier {before : List Bool} (behind : Behind u i schedule)
    (hb : before ∈ schedule.inits) : Behind u i before := by
  intro earlier he next
  rw [List.mem_inits] at hb he next
  exact behind earlier (List.mem_inits _ _ |>.mpr (he.trans hb))
    (List.mem_inits _ _ |>.mpr (next.trans hb))

/-- Two uploads go on, unless one fails, so that one of them comes last to a sheet. -/
lemma follows_run (kinds : ∀ v, (sheets v).map (·.kind) = ReportSheet.all)
    (tables : HasStaging code h.database) (behind : Behind u i schedule) :
    (Contest.run code h sheets schedule).Failed ∨
      Follows code sheets u i schedule (Contest.run code h sheets schedule) := by
  induction schedule using List.reverseRecOn with
  | nil => exact .inr ⟨fun v => rfl, tables, fun hi => absurd hi (by simp)⟩
  | append_singleton before v ih =>
    have last : before ∈ (before ++ [v]).inits := by simp [List.mem_inits]
    have whole : before ++ [v] ∈ (before ++ [v]).inits := by simp [List.mem_inits]
    rw [Contest.run_concat]
    rcases ih (behind.earlier last) with failed | follows
    · exact .inl (failed.step v)
    · refine follows.step kinds v fun hv hi => ?_
      subst hv
      exact behind before last whole hi

/-- A sheet that an upload comes to last has its rows when both have staged all sheets. -/
lemma holds_of_behind (kinds : ∀ v, (sheets v).map (·.kind) = ReportSheet.all)
    (tables : HasStaging code h.database) (behind : Behind u i schedule)
    (finished : (Contest.run code h sheets schedule).Finished) {s : ParsedSheet}
    (hs : (sheets u)[i]? = some s) (hi : i < schedule.count u) :
    HoldsSheet code s (Contest.run code h sheets schedule).holdings.database := by
  rcases follows_run kinds tables behind with failed | follows
  · exact absurd finished failed.not_finished
  · exact follows.held hi s hs

/-- An upload that is never ahead comes last to every sheet. -/
lemma NeverAhead.behind (h : NeverAhead u schedule) (i : Nat) : Behind u i schedule :=
  fun before hb _ hi => hi ▸ h before hb

/-- An upload that is ahead at some time leaves a sheet to the other one. -/
lemma exists_behind (complete : ∀ v, schedule.count v = 4) (ahead : ¬ NeverAhead (!u) schedule) :
    ∃ i < 4, Behind u i schedule := by
  simp only [NeverAhead, not_forall, not_le] at ahead
  obtain ⟨before, hb, lead⟩ := ahead
  rw [Bool.not_not] at lead
  rw [List.mem_inits] at hb
  refine ⟨before.count u, ?_, fun earlier he next hi => ?_⟩
  · have := hb.sublist.count_le (!u)
    have := complete (!u)
    omega
  · -- the other upload came to the sheet before this time
    rw [List.mem_inits] at he next
    rcases List.prefix_or_prefix_of_prefix he hb with early | late
    · exact early.sublist.count_le u
    · have := late.sublist.count_le (!u)
      omega

end

namespace Sample

/-- A sheet with one row. -/
def remark (text : String) (k : ReportSheet) : ParsedSheet :=
  ⟨k, k.title, ["Remarks"], [[text]], 0, none⟩

/-- Two uploads with different rows. -/
def remarks (u : Bool) : List ParsedSheet :=
  ReportSheet.all.map (remark (if u then "a" else "b"))

/-- The staging table of a sheet without rows. -/
def emptyStaging (k : ReportSheet) : Table :=
  ⟨Database.textShape (stagingTable "OCN" k) ["Remarks"], []⟩

/-- A database with the staging tables of a vessel and nothing else. -/
def stages : Holdings where
  database := ⟨ReportSheet.all.map emptyStaging, [], true, []⟩
  files := ∅

/-- Each upload has a sheet of every kind. -/
lemma kinds_remarks (u : Bool) : (remarks u).map (·.kind) = ReportSheet.all := by
  cases u <;> rfl

/-- The staging table of each sheet is there. -/
lemma stages_table (k : ReportSheet) :
    stages.database.table? (stagingTable "OCN" k) = some (emptyStaging k) := by
  unfold Database.table? stages
  cases k <;> simp [ReportSheet.all, emptyStaging, Database.textShape,
    Submission.sameName_stagingTable]

/-- The table without rows is a staging table. -/
lemma emptyStaging_isStaging (k : ReportSheet) :
    IsStaging (stagingTable "OCN" k) (emptyStaging k) :=
  ⟨rfl, .cons (List.forall_mem_nil _) .nil, List.cons_ne_nil _ _⟩

/-- All staging tables of the vessel are there. -/
lemma stages_hasStaging : HasStaging "OCN" stages.database :=
  fun k => ⟨_, stages_table k, emptyStaging_isStaging k⟩

end Sample

/-- Sheets with different rows in one column cannot both be held by a table. -/
lemma not_holds_both {t : Table} (given : t.shape.columnNames ≠ []) (ha : Holds [["a"]] t)
    (hb : Holds [["b"]] t) : False := by
  unfold Holds at ha hb
  rw [ha] at hb
  cases hcolumns : t.shape.columnNames with
  | nil => exact given hcolumns
  | cons c cs =>
    rw [hcolumns] at hb
    simp [Table.texts, Store.fitted] at hb

/-- What holds of two uploads while no table refers to their staging tables: neither fails. -/
structure Running (code : String) (c : Contest) : Prop where
  loading : ∀ u, ∃ ss, c.loading u = .left ss
  tables : HasStaging code c.holdings.database
  free : Unreferred c.holdings.database

section

variable {code : String} {c : Contest}

/-- While both run, none has failed. -/
lemma Running.not_failed (hc : Running code c) : ¬ c.Failed := by
  rintro ⟨u, e, failed⟩
  obtain ⟨ss, left⟩ := hc.loading u
  cases left.symm.trans failed

/-- A step leaves both running. -/
lemma Running.step (hc : Running code c) (u : Bool) : Running code (c.step code u) := by
  obtain ⟨ss, left⟩ := hc.loading u
  cases ss with
  | nil =>
    rw [Contest.step_still (by rw [left]; rfl)]
    exact hc
  | cons s ss =>
    obtain ⟨t, ht, staging⟩ := hc.tables s.kind
    rw [Contest.step_staged left (stageSheet_of_unreferred hc.free ht staging)]
    refine ⟨fun v => ?_, hc.tables.put (staging.reload _), hc.free.put (staging.reload _).references⟩
    dsimp only
    by_cases hv : v = u
    · subst hv
      exact ⟨ss, Function.update_self ..⟩
    · rw [Function.update_of_ne hv]
      exact hc.loading v

/-- Both run at the end of every schedule. -/
lemma running_run {h : Holdings} (tables : HasStaging code h.database)
    (free : Unreferred h.database) (sheets : Bool → List ParsedSheet) (schedule : List Bool) :
    Running code (Contest.run code h sheets schedule) := by
  induction schedule using List.reverseRecOn with
  | nil => exact ⟨fun u => ⟨_, rfl⟩, tables, free⟩
  | append_singleton before u ih =>
    rw [Contest.run_concat]
    exact ih.step u

end

namespace Sample

/-- No table of the database refers to another one. -/
lemma stages_unreferred : Unreferred stages.database := by
  intro t ht
  obtain ⟨k, -, rfl⟩ := List.mem_map.mp ht
  rfl

/-- The table that an upload comes to last holds its rows, and both uploads succeed. -/
lemma remark_held {schedule : List Bool} (complete : ∀ v, schedule.count v = 4) {u : Bool} {i : Nat}
    (hi : i < 4) (behind : Behind u i schedule) :
    (Contest.run "OCN" stages remarks schedule).Finished ∧
      ∃ k, ReportSheet.all[i]? = some k ∧
        HoldsSheet "OCN" (remark (if u then "a" else "b") k)
          (Contest.run "OCN" stages remarks schedule).holdings.database := by
  have running := running_run stages_hasStaging stages_unreferred remarks schedule
  rcases follows_run kinds_remarks stages_hasStaging behind with failed | follows
  · exact absurd failed running.not_failed
  · have finished : (Contest.run "OCN" stages remarks schedule).Finished := by
      intro v
      have done : (remarks v).drop 4 = [] := rfl
      rw [follows.loading v, complete v, done]
    have place : ReportSheet.all[i]? = some ReportSheet.all[i] := List.getElem?_eq_getElem hi
    refine ⟨finished, _, place, ?_⟩
    refine holds_of_behind kinds_remarks stages_hasStaging behind finished ?_ (by rwa [complete u])
    rw [remarks, List.getElem?_map, place]
    rfl

end Sample

/-- The staging tables hold the rows of one upload. -/
def Unmixed (code : String) (sheets : Bool → List ParsedSheet) (db : Database) : Prop :=
  ∃ u, ∀ s ∈ sheets u, HoldsSheet code s db

/-- If each of two uploads with different rows comes last to some sheet, they are mixed. -/
lemma Sample.remarks_mixed {schedule : List Bool} (complete : ∀ v, schedule.count v = 4)
    (behind : ∀ u, ∃ i < 4, Behind u i schedule) :
    (Contest.run "OCN" stages remarks schedule).Finished ∧
      ¬ Unmixed "OCN" remarks (Contest.run "OCN" stages remarks schedule).holdings.database := by
  obtain ⟨i, hi, last⟩ := behind true
  refine ⟨(remark_held complete hi last).1, ?_⟩
  rintro ⟨u, held⟩
  -- the other upload came last to some sheet
  obtain ⟨j, hj, last⟩ := behind !u
  obtain ⟨-, k, place, t, ht, other⟩ := remark_held complete hj last
  obtain ⟨t', ht', own⟩ := held (remark (if u then "a" else "b") k)
    (List.mem_map_of_mem (List.mem_of_getElem? place))
  cases ht.symm.trans ht'
  obtain ⟨t', ht', staging⟩ := (running_run stages_hasStaging stages_unreferred remarks
    schedule).tables k
  cases ht.symm.trans ht'
  cases u with
  | true => exact not_holds_both staging.given own other
  | false => exact not_holds_both staging.given other own

/-- Whenever two uploads for a vessel go on by a schedule and both succeed, its staging tables hold
the rows of one of them, if and only if one of the uploads is never ahead of the other. -/
theorem unmixed_iff {schedule : List Bool} (complete : ∀ u, schedule.count u = 4) :
    (∀ (code : String) (h : Holdings) (sheets : Bool → List ParsedSheet),
        (∀ u, (sheets u).map (·.kind) = ReportSheet.all) → HasStaging code h.database →
        (Contest.run code h sheets schedule).Finished →
          Unmixed code sheets (Contest.run code h sheets schedule).holdings.database) ↔
      ∃ u, NeverAhead u schedule := by
  constructor
  · -- if each upload is ahead at some time, two uploads with different rows end up mixed
    intro unmixed
    by_contra ahead
    rw [not_exists] at ahead
    obtain ⟨finished, mixed⟩ := Sample.remarks_mixed complete fun u =>
      exists_behind complete (ahead !u)
    exact mixed (unmixed "OCN" Sample.stages Sample.remarks Sample.kinds_remarks
      Sample.stages_hasStaging finished)
  · rintro ⟨u, never⟩ code h sheets kinds tables finished
    refine ⟨u, fun s hs => ?_⟩
    obtain ⟨i, hi⟩ := List.getElem?_of_mem hs
    refine holds_of_behind kinds tables (never.behind i) finished hi ?_
    have length : (sheets u).length = 4 := by
      rw [← List.length_map, kinds u]
      rfl
    have := (List.getElem?_eq_some_iff.mp hi).1
    rw [complete u]
    omega

/-- Two uploads in lockstep are not mixed. -/
theorem unmixed_in_lockstep :
    (∀ u, [true, false, true, false, true, false, true, false].count u = 4) ∧
      ∀ (code : String) (h : Holdings) (sheets : Bool → List ParsedSheet),
        (∀ u, (sheets u).map (·.kind) = ReportSheet.all) → HasStaging code h.database →
        (Contest.run code h sheets [true, false, true, false, true, false, true, false]).Finished →
          Unmixed code sheets (Contest.run code h sheets
            [true, false, true, false, true, false, true, false]).holdings.database :=
  ⟨by decide, (unmixed_iff (by decide)).mpr ⟨false, by decide⟩⟩

/-- One upload overtakes the other: the voyages are those of the one, and the machines those of the
other. -/
theorem uploads_mixed :
    let c := Contest.run "OCN" Sample.stages Sample.remarks
      [true, false, false, false, false, true, true, true]
    c.Finished ∧ HoldsSheet "OCN" (Sample.remark "b" .voyage) c.holdings.database ∧
      HoldsSheet "OCN" (Sample.remark "a" .machinery) c.holdings.database ∧
      ¬ Unmixed "OCN" Sample.remarks c.holdings.database := by
  have complete : ∀ u, [true, false, false, false, false, true, true, true].count u = 4 := by
    decide
  have voyages : Behind false 0 [true, false, false, false, false, true, true, true] := by decide
  have machines : Behind true 1 [true, false, false, false, false, true, true, true] := by decide
  obtain ⟨finished, mixed⟩ := Sample.remarks_mixed complete fun u => by
    cases u with
    | false => exact ⟨0, by decide, voyages⟩
    | true => exact ⟨1, by decide, machines⟩
  obtain ⟨-, _, ⟨⟩, voyage⟩ := Sample.remark_held complete (by decide) voyages
  obtain ⟨-, _, ⟨⟩, machine⟩ := Sample.remark_held complete (by decide) machines
  exact ⟨finished, voyage, machine, mixed⟩

end Service

end ShipReport
