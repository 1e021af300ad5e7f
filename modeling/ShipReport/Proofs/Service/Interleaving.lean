import Mathlib.Data.Fintype.Basic
import Mathlib.Data.List.Infix
import Mathlib.Data.List.Pairwise
import ShipReport.Proofs.Service.Dispatch

/-!
# Interleaved imports

The requests of several calls for one batch may be interleaved in any order. Whether a batch may be
imported is asked in one request and noted in another, so two calls may both be admitted before
either has noted its outcome. The schedules for which a batch is imported at most once, whatever the
procedures do, are the ones in which no two calls that have their procedures carried out are under
way at the same time.
-/

namespace ShipReport.Service

open Report (BatchStatus ReportType)
open Store (Database)
open Submission (Batch ImportOutcome SubmissionError)

/-! ## What a request can do -/

/-- What the next request of a call for a batch can do: how far the call comes and what the database
is then. -/
inductive Advances (id : String) (db : Database) (b : Batch) :
    Progress → Progress → Database → Prop where
  | refused (e : SubmissionError) : Advances id db b .called (.ended (.error e)) db
  | admitted (type : ReportType) :
      b.status ≠ .imported → Advances id db b .called (.admitted type) db
  | executed (type : ReportType) (outcome : Except String Nat) {after : Database} :
      db.SameBatches after → Advances id db b (.admitted type) (.executed type outcome) after
  | noted (type : ReportType) (outcome : Except String Nat)
      (result : Except SubmissionError ImportOutcome) {after : Database} :
      after.HasBatches → after.findBatch id = .ok (some (noteOf type outcome b)) →
        Advances id db b (.executed type outcome) (.ended result) after
  | ended (result : Except SubmissionError ImportOutcome) :
      Advances id db b (.ended result) (.ended result) db

/-- How far a call has come after so many requests. -/
def Progress.After : Progress → Nat → Prop
  | .called, n => n = 0
  | .admitted _, n => n = 1
  | .executed _ _, n => n = 2
  | .ended _, n => 0 < n

/-- The call waits to be made, or it is over. -/
def Progress.Idle : Progress → Prop
  | .called => True
  | .ended _ => True
  | _ => False

section

variable {c : Call} {db after : Database} {b : Batch} {id : String} {p p' : Progress} {n : Nat}

/-- A request of a call for a batch that is there is one of those. -/
lemma Call.advances (hdb : db.HasBatches) (hc : c.LeavesBatches db)
    (hb : db.findBatch c.batchId = .ok (some b)) (p : Progress) :
    Advances c.batchId db b p (c.advance p db).1 (c.advance p db).2 := by
  cases p with
  | called =>
    cases htype : ReportType.parse c.typeText with
    | error message =>
      simp only [Call.advance, htype]
      exact .refused _
    | ok type =>
      rw [Call.advance_called htype hb]
      cases he : refusal? c.batchId (some b) with
      | some e => exact .refused e
      | none =>
        obtain ⟨b', hb', hs⟩ := refusal?_eq_none.mp he
        obtain rfl := Option.some.inj hb'
        exact .admitted type hs
  | admitted type =>
    rw [Call.advance_admitted]
    exact .executed type _ (Call.sameBatches_afterExecution type hc)
  | executed type outcome =>
    obtain ⟨after, hadvance, hafter, here, -⟩ := Call.advance_executed type outcome hdb hb
    rw [hadvance]
    exact .noted type outcome _ hafter here
  | ended result => exact .ended result

/-- Requests keep the batches readable, and the batch of the call among them. -/
lemma Advances.hasBatches (h : Advances id db b p p' after) (hdb : db.HasBatches) :
    after.HasBatches := by
  cases h with
  | executed _ _ same => exact hdb.congr same
  | noted _ _ _ hafter _ => exact hafter
  | _ => exact hdb

/-- A request brings a call to its next stage. -/
lemma Advances.after_succ (h : Advances id db b p p' after) (hp : p.After n) :
    p'.After (n + 1) := by
  cases h with
  | refused e => exact Nat.succ_pos n
  | admitted type _ => exact congrArg (· + 1) hp
  | executed type outcome _ => exact congrArg (· + 1) hp
  | noted type outcome result _ _ => exact Nat.succ_pos n
  | ended result => exact Nat.succ_pos n

/-- A call that is neither waiting nor over has made one or two requests. -/
lemma Progress.After.of_not_idle (h : p.After n) (hp : ¬ p.Idle) : n = 1 ∨ n = 2 := by
  cases p with
  | called => exact absurd trivial hp
  | admitted type => exact .inl h
  | executed type outcome => exact .inr h
  | ended result => exact absurd trivial hp

end

/-! ## Calls under way -/

/-- The invocation of the executor by a request for a batch, if the request is one. -/
def invoked? (id : String) : Progress → Progress → Option Invocation
  | .admitted _, next => next.invocation? id
  | _, _ => none

section

variable {id : String} {p : Progress} {type type' : ReportType} {outcome : Except String Nat}
  {result : Except SubmissionError ImportOutcome}

/-- The first request carries out no procedure. -/
@[simp] lemma invoked?_called : invoked? id .called p = none :=
  rfl

/-- The second request of a call carries its procedure out. -/
@[simp] lemma invoked?_admitted :
    invoked? id (.admitted type') (.executed type outcome) = some ⟨id, type, outcome⟩ :=
  rfl

/-- The third request carries out no procedure. -/
@[simp] lemma invoked?_executed : invoked? id (.executed type outcome) p = none :=
  rfl

/-- A call that has ended carries out no procedure. -/
@[simp] lemma invoked?_ended : invoked? id (.ended result) p = none :=
  rfl

end

/-- Calls under way on one database, and the invocations of executors so far. -/
structure Shared (ι : Type) where
  progress : ι → Progress
  db : Database
  history : List Invocation

namespace Shared

variable {ι : Type} [DecidableEq ι]

/-- A call goes on by one request. -/
def step (calls : ι → Call) (s : Shared ι) (i : ι) : Shared ι :=
  let next := (calls i).advance (s.progress i) s.db
  { progress := Function.update s.progress i next.1
    db := next.2
    history := s.history ++ (invoked? (calls i).batchId (s.progress i) next.1).toList }

/-- The calls go on in the order of a schedule, each time one by a request. -/
def run (calls : ι → Call) (db : Database) (schedule : List ι) : Shared ι :=
  schedule.foldl (step calls) ⟨fun _ => .called, db, []⟩

/-- The last request of a schedule is made after all others. -/
lemma run_concat (calls : ι → Call) (db : Database) (schedule : List ι) (i : ι) :
    run calls db (schedule ++ [i]) = step calls (run calls db schedule) i := by
  simp [run]

end Shared

/-- At most one procedure was carried out. -/
def AtMostOne (history : List Invocation) : Prop :=
  history.Pairwise fun i j => ¬ (i.Succeeded ∧ j.Succeeded)

section

variable {ι : Type} [DecidableEq ι]

/-- The calls for a batch, interleaved in the order of a schedule, import it at most once: at most
one procedure is carried out, and once the batch shows that it is imported, it stays as it is. -/
structure ImportedOnce (calls : ι → Call) (db : Database) (id : String) (schedule : List ι) :
    Prop where
  once : AtMostOne (Shared.run calls db schedule).history
  kept : ∀ before after, schedule = before ++ after →
    ∀ b, (Shared.run calls db before).db.findBatch id = .ok (some b) → b.status = .imported →
      (Shared.run calls db schedule).db.findBatch id = .ok (some b)

/-- A call has made its first request and not yet its third. -/
def UnderWay (before : List ι) (i : ι) : Prop :=
  before.count i = 1 ∨ before.count i = 2

/-- A call that is under way has made a request. -/
lemma UnderWay.pos {before : List ι} {i : ι} (h : UnderWay before i) : 0 < before.count i := by
  rcases h with h | h <;> omega

/-- A call that is under way has made at most two requests. -/
lemma UnderWay.le_two {before : List ι} {i : ι} (h : UnderWay before i) : before.count i ≤ 2 := by
  rcases h with h | h <;> omega

/-- Two calls that come to have their procedures carried out are under way at the same time. -/
def Overlap (schedule : List ι) : Prop :=
  ∃ i j, i ≠ j ∧ 2 ≤ schedule.count i ∧ 2 ≤ schedule.count j ∧
    ∃ before ∈ schedule.inits, UnderWay before i ∧ UnderWay before j

instance (before : List ι) (i : ι) : Decidable (UnderWay before i) :=
  inferInstanceAs (Decidable (_ ∨ _))

instance [Fintype ι] (schedule : List ι) : Decidable (Overlap schedule) :=
  inferInstanceAs (Decidable (∃ _ _, _))

end

/-! ## Calls that do not overlap -/

/-- The calls are as far as a schedule has brought them, and all batches can be read. -/
structure Counted {ι : Type} [DecidableEq ι] (before : List ι) (s : Shared ι) : Prop where
  batches : s.db.HasBatches
  after : ∀ i, (s.progress i).After (before.count i)

/-- The batch is imported, and the calls that the schedule takes to their procedures are idle. -/
structure Settled {ι : Type} [DecidableEq ι] (id : String) (schedule : List ι) (b : Batch)
    (s : Shared ι) : Prop where
  found : s.db.findBatch id = .ok (some b)
  imported : b.status = .imported
  idle : ∀ i, 2 ≤ schedule.count i → (s.progress i).Idle

/-- How far the import of a batch has come. While no two calls overlap, a procedure is carried out
when all other calls are idle, and they stay idle until that is noted. -/
inductive Phase {ι : Type} [DecidableEq ι] (id : String) (schedule : List ι) (s : Shared ι) :
    Prop where
  | waiting {b : Batch} (found : s.db.findBatch id = .ok (some b)) (hs : b.status ≠ .imported)
      (failed : ∀ i type rows, s.progress i ≠ .executed type (.ok rows))
      (never : ∀ x ∈ s.history, ¬ x.Succeeded)
  | carriedOut {b : Batch} (found : s.db.findBatch id = .ok (some b)) (hs : b.status ≠ .imported)
      (i : ι) (type : ReportType) (rows : Nat) (here : s.progress i = .executed type (.ok rows))
      (idle : ∀ j, j ≠ i → 2 ≤ schedule.count j → (s.progress j).Idle)
      (once : AtMostOne s.history)
  | settled {b : Batch} (h : Settled id schedule b s) (once : AtMostOne s.history)

section

variable {ι : Type} [DecidableEq ι] {calls : ι → Call} {id : String} {schedule before : List ι}
  {s : Shared ι} {i : ι} {b : Batch}

/-- What a request of a call for the batch can do to all that is shared. -/
lemma Shared.step_request (hid : (calls i).batchId = id) (hc : (calls i).LeavesBatches s.db)
    (hdb : s.db.HasBatches) (hb : s.db.findBatch id = .ok (some b)) :
    ∃ p' after, Advances id s.db b (s.progress i) p' after ∧
      s.step calls i = ⟨Function.update s.progress i p', after,
        s.history ++ (invoked? id (s.progress i) p').toList⟩ := by
  subst hid
  exact ⟨_, _, (calls i).advances hdb hc hb _, rfl⟩

/-- One more request counts as one. -/
lemma Counted.step (h : Counted before s) (hid : (calls i).batchId = id)
    (hc : (calls i).LeavesBatches s.db) (hb : s.db.findBatch id = .ok (some b)) :
    Counted (before ++ [i]) (s.step calls i) := by
  obtain ⟨p', after, request, hstep⟩ := Shared.step_request hid hc h.batches hb
  rw [hstep]
  refine ⟨request.hasBatches h.batches, ?_⟩
  rw [Function.forall_update_iff s.progress fun j p => p.After ((before ++ [i]).count j)]
  refine ⟨?_, fun j hj => ?_⟩
  · simpa using request.after_succ (h.after i)
  · simpa [Ne.symm hj] using h.after j

/-- A call that is under way and goes on comes to have its procedure carried out. -/
lemma Counted.two_le (hs : Counted before s) (hi : before.count i < schedule.count i)
    (h : ¬ (s.progress i).Idle) : 2 ≤ schedule.count i := by
  rcases (hs.after i).of_not_idle h with hn | hn <;> omega

/-- A call that goes on is idle if the calls that come to their procedures are. -/
lemma Counted.idle (hs : Counted before s) (hi : before.count i < schedule.count i)
    (h : 2 ≤ schedule.count i → (s.progress i).Idle) : (s.progress i).Idle := by
  by_contra hp
  exact hp (h (hs.two_le hi hp))

/-- Once a batch is imported, a request changes neither the batch nor the history. -/
lemma Settled.step (h : Settled id schedule b s) (hs : Counted before s)
    (hid : (calls i).batchId = id) (hc : (calls i).LeavesBatches s.db)
    (hi : before.count i < schedule.count i) :
    Settled id schedule b (s.step calls i) ∧ (s.step calls i).history = s.history := by
  obtain ⟨p', after, request, hstep⟩ := Shared.step_request hid hc hs.batches h.found
  have idle := hs.idle hi (h.idle i)
  have others : p'.Idle → ∀ j, 2 ≤ schedule.count j → (Function.update s.progress i p' j).Idle := by
    intro hp'
    rw [Function.forall_update_iff s.progress fun j p => 2 ≤ schedule.count j → p.Idle]
    exact ⟨fun _ => hp', fun j _ => h.idle j⟩
  rw [hstep]
  generalize s.progress i = p at *
  cases request with
  | refused e => exact ⟨⟨h.found, h.imported, others trivial⟩, by simp⟩
  | admitted type hne => exact absurd h.imported hne
  | executed type outcome same => exact idle.elim
  | noted type outcome result hafter here => exact idle.elim
  | ended result => exact ⟨⟨h.found, h.imported, others trivial⟩, by simp⟩

/-- Where no procedure succeeded, at most one did. -/
lemma AtMostOne.of_never {history : List Invocation} (never : ∀ x ∈ history, ¬ x.Succeeded) :
    AtMostOne history :=
  List.pairwise_of_forall_mem_list fun x hx _ _ h => never x hx h.1

/-- While a call that comes to its procedure is under way, the others that do are idle. -/
lemma Counted.idle_of_apart (apart : ¬ Overlap schedule) (hs : Counted before s)
    (hbefore : before <+: schedule) (hi : UnderWay before i) (hcount : 2 ≤ schedule.count i) :
    ∀ j, j ≠ i → 2 ≤ schedule.count j → (s.progress j).Idle := by
  intro j hj hcj
  by_contra hp
  exact apart ⟨i, j, Ne.symm hj, hcount, hcj, before, (List.mem_inits _ _).mpr hbefore, hi,
    (hs.after j).of_not_idle hp⟩

/-- The next call of a schedule has requests left. -/
lemma count_lt_of_next (hi : before ++ [i] <+: schedule) :
    before.count i < schedule.count i := by
  have := hi.sublist.count_le i
  simp only [List.count_append, List.count_singleton_self] at this
  omega

/-- While nothing has been carried out, a request has a procedure carried out at most. -/
lemma Phase.step_waiting (apart : ¬ Overlap schedule) (hs : Counted before s)
    (found : s.db.findBatch id = .ok (some b)) (hne : b.status ≠ .imported)
    (failed : ∀ i type rows, s.progress i ≠ .executed type (.ok rows))
    (never : ∀ x ∈ s.history, ¬ x.Succeeded) (hid : (calls i).batchId = id)
    (hc : (calls i).LeavesBatches s.db) (hi : before ++ [i] <+: schedule) :
    Phase id schedule (s.step calls i) := by
  obtain ⟨p', after, request, hstep⟩ := Shared.step_request hid hc hs.batches found
  have others : (∀ type rows, p' ≠ .executed type (.ok rows)) →
      ∀ j type rows, Function.update s.progress i p' j ≠ .executed type (.ok rows) := by
    intro hp'
    rw [Function.forall_update_iff s.progress fun j p => ∀ type rows, p ≠ .executed type (.ok rows)]
    exact ⟨hp', fun j _ => failed j⟩
  have count := hs.after i
  have failed_i := failed i
  rw [hstep]
  generalize hp : s.progress i = p at *
  cases request with
  | refused e => exact .waiting found hne (others nofun) (by simpa using never)
  | admitted type _ => exact .waiting found hne (others nofun) (by simpa using never)
  | executed type outcome same =>
    have found' := (hs.batches.findBatch_congr same id).trans found
    cases outcome with
    | error message =>
      refine .waiting found' hne (others nofun) ?_
      simpa [Invocation.Succeeded, or_imp, forall_and] using never
    | ok rows =>
      refine .carriedOut found' hne i type rows (Function.update_self ..) ?_ ?_
      · -- the call goes on to its third request, so that no other one is under way until then
        have two : 2 ≤ schedule.count i := hs.two_le (count_lt_of_next hi) (hp ▸ not_false)
        have idle := hs.idle_of_apart apart ((List.prefix_append ..).trans hi) (.inl count) two
        rw [Function.forall_update_iff s.progress fun j p =>
          j ≠ i → 2 ≤ schedule.count j → p.Idle]
        exact ⟨fun h => absurd rfl h, fun j hj _ => idle j hj⟩
      · refine List.pairwise_append.mpr
          ⟨AtMostOne.of_never never, ?_, fun x hx _ _ h => never x hx h.1⟩
        simp
  | noted type outcome result hafter here =>
    cases outcome with
    | error message =>
      exact .waiting here (by simp [noteOf, statusAfter]) (others nofun)
        (by simpa using never)
    | ok rows => exact absurd rfl (failed_i type rows)
  | ended result => exact .waiting found hne (others nofun) (by simpa using never)

/-- While a procedure has been carried out and that is not noted, only noting it changes the batch.
-/
lemma Phase.step_carriedOut (apart : ¬ Overlap schedule) (hs : Counted before s)
    (found : s.db.findBatch id = .ok (some b)) (hne : b.status ≠ .imported) {k : ι}
    {type : ReportType} {rows : Nat} (here : s.progress k = .executed type (.ok rows))
    (idle : ∀ j, j ≠ k → 2 ≤ schedule.count j → (s.progress j).Idle) (once : AtMostOne s.history)
    (hid : (calls i).batchId = id) (hc : (calls i).LeavesBatches s.db)
    (hi : before ++ [i] <+: schedule) : Phase id schedule (s.step calls i) := by
  have hs' := hs.step hid hc found
  obtain ⟨p', after, request, hstep⟩ := Shared.step_request hid hc hs.batches found
  rw [hstep] at hs' ⊢
  by_cases hik : i = k
  · -- the outcome is noted
    subst hik
    rw [here] at request ⊢
    cases request with
    | noted _ _ result hafter noted =>
      refine .settled (b := noteOf type (.ok rows) b) ⟨noted, rfl, ?_⟩
        (by simpa using once)
      rw [Function.forall_update_iff s.progress fun j p => 2 ≤ schedule.count j → p.Idle]
      exact ⟨fun _ => trivial, fun j hj => idle j hj⟩
  · -- another call is not under way, and does not become so
    have idle_i := hs.idle (count_lt_of_next hi) (idle i hik)
    have here' : Function.update s.progress i p' k = .executed type (.ok rows) := by
      rw [Function.update_of_ne (Ne.symm hik), here]
    have two : (before ++ [i]).count k = 2 := by
      have count := hs'.after k
      dsimp only at count
      rwa [here'] at count
    have idle' := hs'.idle_of_apart apart hi (.inr two) (two ▸ hi.sublist.count_le k)
    have unchanged : after = s.db ∧ invoked? id (s.progress i) p' = none := by
      generalize s.progress i = p at *
      cases request with
      | executed type outcome same => exact idle_i.elim
      | noted type outcome result hafter here => exact idle_i.elim
      | _ => exact ⟨rfl, rfl⟩
    obtain ⟨rfl, hnone⟩ := unchanged
    exact .carriedOut found hne k type rows here' idle' (by simpa [hnone] using once)

/-- The batch is there in every phase. -/
lemma Phase.found (h : Phase id schedule s) : ∃ b, s.db.findBatch id = .ok (some b) := by
  cases h with
  | waiting found => exact ⟨_, found⟩
  | carriedOut found => exact ⟨_, found⟩
  | settled h => exact ⟨_, h.found⟩

/-- In each phase at most one procedure has succeeded. -/
lemma Phase.once (h : Phase id schedule s) : AtMostOne s.history := by
  cases h with
  | waiting _ _ _ never => exact .of_never never
  | carriedOut _ _ _ _ _ _ _ once => exact once
  | settled _ once => exact once

/-- In the phase in which the batch shows that it is imported, it is settled. -/
lemma Phase.settled_of_imported (h : Phase id schedule s)
    (hb : s.db.findBatch id = .ok (some b)) (hs : b.status = .imported) :
    Settled id schedule b s := by
  have same : ∀ {b'}, s.db.findBatch id = .ok (some b') → b' = b := fun found =>
    Option.some.inj (Except.ok.inj (found.symm.trans hb))
  cases h with
  | waiting found hne => exact absurd (same found ▸ hs) hne
  | carriedOut found hne => exact absurd (same found ▸ hs) hne
  | settled h => exact same h.found ▸ h

/-- A request leads from one phase to another. -/
lemma Phase.step (apart : ¬ Overlap schedule) (h : Phase id schedule s) (hs : Counted before s)
    (hid : (calls i).batchId = id) (hc : (calls i).LeavesBatches s.db)
    (hi : before ++ [i] <+: schedule) : Phase id schedule (s.step calls i) := by
  cases h with
  | waiting found hne failed never =>
    exact .step_waiting apart hs found hne failed never hid hc hi
  | carriedOut found hne k type rows here idle once =>
    exact .step_carriedOut apart hs found hne here idle once hid hc hi
  | settled h once =>
    obtain ⟨h', same⟩ := h.step hs hid hc (count_lt_of_next hi)
    exact .settled h' (same ▸ once)

section

variable (hid : ∀ i, (calls i).batchId = id) (hc : ∀ i db, (calls i).LeavesBatches db)
  {db : Database} (hdb : db.HasBatches)

include hid hc

/-- An imported batch stays settled, whatever is still to come. -/
lemma Settled.run (hs : Counted before (Shared.run calls db before))
    (h : Settled id schedule b (Shared.run calls db before)) (after : List ι)
    (hafter : before ++ after <+: schedule) :
    Counted (before ++ after) (Shared.run calls db (before ++ after)) ∧
      Settled id schedule b (Shared.run calls db (before ++ after)) ∧
      (Shared.run calls db (before ++ after)).history = (Shared.run calls db before).history := by
  induction after using List.reverseRecOn with
  | nil => simpa using ⟨hs, h⟩
  | append_singleton after i ih =>
    rw [← List.append_assoc] at hafter ⊢
    obtain ⟨counted, settled, same⟩ := ih ((List.prefix_append ..).trans hafter)
    obtain ⟨settled', same'⟩ := settled.step counted (hid i) (hc i _) (count_lt_of_next hafter)
    rw [Shared.run_concat]
    exact ⟨counted.step (hid i) (hc i _) settled.found, settled', same'.trans same⟩

include hdb

/-- However far the calls have come, the import is in one of its phases. -/
lemma Shared.run_phase (hb : db.findBatch id = .ok (some b))
    (safe : b.status = .imported ∨ ¬ Overlap schedule) (hbefore : before <+: schedule) :
    Counted before (Shared.run calls db before) ∧
      Phase id schedule (Shared.run calls db before) := by
  have counted : Counted [] (Shared.run calls db []) := ⟨hdb, fun _ => rfl⟩
  rcases safe with hs | apart
  · obtain ⟨counted', settled, same⟩ :=
      Settled.run hid hc counted ⟨hb, hs, fun _ _ => trivial⟩ before hbefore
    exact ⟨counted', .settled settled (same ▸ .nil)⟩
  · induction before using List.reverseRecOn with
    | nil =>
      refine ⟨counted, ?_⟩
      by_cases hs : b.status = .imported
      · exact .settled ⟨hb, hs, fun _ _ => trivial⟩ .nil
      · exact .waiting hb hs nofun nofun
    | append_singleton before i ih =>
      obtain ⟨counted', phase⟩ := ih ((List.prefix_append ..).trans hbefore)
      obtain ⟨b', found⟩ := phase.found
      rw [Shared.run_concat]
      exact ⟨counted'.step (hid i) (hc i _) found,
        phase.step apart counted' (hid i) (hc i _) hbefore⟩

/-- Calls that do not overlap import a batch at most once. -/
lemma ImportedOnce.of_safe (hb : db.findBatch id = .ok (some b))
    (safe : b.status = .imported ∨ ¬ Overlap schedule) : ImportedOnce calls db id schedule := by
  refine ⟨(Shared.run_phase hid hc hdb hb safe List.prefix_rfl).2.once, ?_⟩
  rintro before after rfl b' hb' hs'
  obtain ⟨counted, phase⟩ := Shared.run_phase hid hc hdb hb safe (List.prefix_append before after)
  obtain ⟨-, settled, -⟩ :=
    Settled.run hid hc counted (phase.settled_of_imported hb' hs') after List.prefix_rfl
  exact settled.found

end

end

/-! ## Calls that overlap -/

/-- Calls for a batch whose procedures end in given ways and change nothing. -/
def contenders {ι : Type} (id : String) (outcome : ι → Except String Nat) (i : ι) : Call where
  batchId := id
  typeText := ReportType.voyage.name
  execute db _ _ := (outcome i).map fun rows => (db, rows)

/-- How far a call has come after so many requests if it was admitted. -/
def OnTrack (outcome : Except String Nat) : Nat → Progress → Prop
  | 0, p => p = .called
  | 1, p => p = .admitted .voyage
  | 2, p => p = .executed .voyage outcome
  | _, p => ∃ result, p = .ended result

/-- A call goes its way, and its procedure is in the history once it has been carried out. -/
structure Tracked {ι : Type} [DecidableEq ι] (id : String) (outcome : Except String Nat)
    (before : List ι) (s : Shared ι) (i : ι) : Prop where
  progress : OnTrack outcome (before.count i) (s.progress i)
  invoked : 2 ≤ before.count i → ⟨id, .voyage, outcome⟩ ∈ s.history

section

variable {ι : Type} {id : String} {outcome : ι → Except String Nat} {i : ι} {db : Database}

/-- The calls leave all batches. -/
lemma contenders_leavesBatches : (contenders id outcome i).LeavesBatches db := by
  intro type after rows h
  dsimp only [contenders] at h
  cases ho : outcome i with
  | error message =>
    rw [ho] at h
    cases h
  | ok n =>
    rw [ho] at h
    obtain ⟨rfl, -⟩ := Prod.mk.inj (Except.ok.inj h)
    exact ⟨rfl, rfl⟩

/-- A call that is admitted carries its procedure out. -/
lemma contenders_admitted (type : ReportType) :
    ((contenders id outcome i).advance (.admitted type) db).1 = .executed type (outcome i) := by
  rw [Call.advance_admitted]
  unfold contenders
  cases outcome i <;> rfl

/-- A call for a batch that has not been imported is admitted. -/
lemma contenders_called {b : Batch} (hb : db.findBatch id = .ok (some b))
    (hs : b.status ≠ .imported) :
    (contenders id outcome i).advance .called db = (.admitted .voyage, db) := by
  rw [Call.advance_called (c := contenders id outcome i) (ReportType.parse_name .voyage) hb,
    refusal?_eq_none.mpr ⟨b, rfl, hs⟩]

end

section

variable {ι : Type} [DecidableEq ι] {id : String} {outcome : ι → Except String Nat}
  {before : List ι} {s : Shared ι} {i : ι}

/-- A request of another call leaves a call on its way. -/
lemma Tracked.step_other {j : ι} (hj : j ≠ i) (h : Tracked id (outcome i) before s i) :
    Tracked id (outcome i) (before ++ [j]) (s.step (contenders id outcome) j) i := by
  have count : (before ++ [j]).count i = before.count i := by simp [hj]
  constructor
  · rw [count]
    simpa [Shared.step, Ne.symm hj] using h.progress
  · intro two
    exact List.mem_append_left _ (h.invoked (count ▸ two))

/-- A request brings its call one step further on its way. -/
lemma Tracked.step_own (h : Tracked id (outcome i) before s i)
    (first : before.count i = 0 → ∃ b, s.db.findBatch id = .ok (some b) ∧ b.status ≠ .imported) :
    Tracked id (outcome i) (before ++ [i]) (s.step (contenders id outcome) i) i := by
  obtain ⟨progress, invoked⟩ := h
  have count : (before ++ [i]).count i = before.count i + 1 := by simp
  unfold Shared.step
  -- by the number of requests that the call has made: three of them, and none after that
  constructor
  · rw [count]
    simp only [Function.update_self]
    match hn : before.count i, progress with
    | 0, progress =>
      obtain ⟨b, hb, hs⟩ := first hn
      rw [progress, contenders_called hb hs]
      rfl
    | 1, progress =>
      rw [progress, contenders_admitted]
      rfl
    | 2, progress =>
      rw [progress]
      exact ⟨_, rfl⟩
    | n + 3, progress =>
      obtain ⟨result, progress⟩ := progress
      rw [progress]
      exact ⟨_, rfl⟩
  · intro two
    simp only [List.mem_append]
    match hn : before.count i, progress with
    | 0, progress => omega
    | 1, progress =>
      right
      rw [progress, contenders_admitted]
      exact List.mem_singleton_self _
    | n + 2, progress => exact .inl (invoked (by omega))

/-- A call that has been admitted goes its way, whatever the others do. -/
lemma Tracked.step (j : ι) (h : Tracked id (outcome i) before s i)
    (first : j = i → before.count i = 0 →
      ∃ b, s.db.findBatch id = .ok (some b) ∧ b.status ≠ .imported) :
    Tracked id (outcome i) (before ++ [j]) (s.step (contenders id outcome) j) i := by
  by_cases hj : j = i
  · subst hj
    exact h.step_own (first rfl)
  · exact h.step_other hj

/-- A call that has been admitted goes its way to the end. -/
lemma Tracked.run {db : Database}
    (h : Tracked id (outcome i) before
      (Shared.run (contenders id outcome) db before) i)
    (made : 0 < before.count i) (after : List ι) :
    Tracked id (outcome i) (before ++ after)
      (Shared.run (contenders id outcome) db (before ++ after)) i := by
  induction after using List.reverseRecOn with
  | nil => simpa using h
  | append_singleton after j ih =>
    rw [← List.append_assoc, Shared.run_concat]
    refine ih.step j fun _ none => ?_
    simp only [List.count_append] at none
    omega

/-- As long as no success is noted, all calls are admitted and go their ways. -/
lemma Shared.run_contenders {db : Database} (hdb : db.HasBatches) {b : Batch}
    (hb : db.findBatch id = .ok (some b)) (hs : b.status ≠ .imported) {top : List ι}
    (unnoted : ∀ i, top.count i ≤ 2 ∨ ∃ message, outcome i = .error message)
    (hbefore : before <+: top) :
    let s := Shared.run (contenders id outcome) db before
    s.db.HasBatches ∧ (∃ b, s.db.findBatch id = .ok (some b) ∧ b.status ≠ .imported) ∧
      ∀ i, Tracked id (outcome i) before s i := by
  induction before using List.reverseRecOn with
  | nil => exact ⟨hdb, ⟨b, hb, hs⟩, fun i => ⟨rfl, nofun⟩⟩
  | append_singleton before j ih =>
    obtain ⟨hdb', ⟨b', hb', hs'⟩, tracked⟩ := ih ((List.prefix_append ..).trans hbefore)
    dsimp only
    rw [Shared.run_concat]
    have admitted := fun i => (tracked i).step j fun _ _ => ⟨b', hb', hs'⟩
    have more : before.count j < top.count j := count_lt_of_next hbefore
    generalize Shared.run (contenders id outcome) db before = s at *
    obtain ⟨p', after, request, hstep⟩ := Shared.step_request rfl
      (contenders_leavesBatches (i := j)) hdb' hb'
    have progress := (tracked j).progress
    refine ⟨?_, ?_, admitted⟩
    · rw [hstep]
      exact request.hasBatches hdb'
    rw [hstep]
    dsimp only
    generalize s.progress j = p at *
    cases request with
    | executed type result same => exact ⟨b', (hdb'.findBatch_congr same id).trans hb', hs'⟩
    | noted type result answer hafter here =>
      -- only a failure is noted
      refine ⟨_, here, ?_⟩
      match hn : before.count j, progress with
      | 2, progress =>
        obtain ⟨rfl, rfl⟩ := Progress.executed.inj progress
        rcases unnoted j with hle | ⟨message, hfailed⟩
        · omega
        · rw [hfailed]
          simp [noteOf, statusAfter]
    | _ => exact ⟨b', hb', hs'⟩

/-- Procedures that were both carried out are the same if there is at most one. -/
lemma AtMostOne.eq {history : List Invocation} (h : AtMostOne history) {x y : Invocation}
    (hx : x ∈ history) (hy : y ∈ history) (sx : x.Succeeded) (sy : y.Succeeded) : x = y := by
  by_contra hne
  have : Std.Symm fun i j : Invocation => ¬ (i.Succeeded ∧ j.Succeeded) :=
    ⟨fun _ _ h h' => h h'.symm⟩
  exact List.Pairwise.forall h hx hy hne ⟨sx, sy⟩

/-- Calls that overlap may import a batch twice. -/
lemma Overlap.imported_twice {schedule : List ι} (h : Overlap schedule) {db : Database}
    (hdb : db.HasBatches) {b : Batch} (hb : db.findBatch id = .ok (some b))
    (hs : b.status ≠ .imported) :
    ∃ outcome : ι → Except String Nat,
      ¬ ImportedOnce (contenders id outcome) db id schedule := by
  obtain ⟨i, j, hij, hi, hj, before, hbefore, hi', hj'⟩ := h
  let outcome : ι → Except String Nat := fun k =>
    if k = i then .ok 1 else if k = j then .ok 2 else .error "no import"
  have at_i : outcome i = .ok 1 := if_pos rfl
  have at_j : outcome j = .ok 2 := by simp [outcome, Ne.symm hij]
  obtain ⟨after, rfl⟩ := (List.mem_inits _ _).mp hbefore
  have unnoted : ∀ k, before.count k ≤ 2 ∨ ∃ message, outcome k = .error message := by
    intro k
    by_cases hki : k = i
    · exact .inl (hki ▸ hi'.le_two)
    by_cases hkj : k = j
    · exact .inl (hkj ▸ hj'.le_two)
    exact .inr ⟨"no import", by simp [outcome, hki, hkj]⟩
  obtain ⟨-, -, tracked⟩ := Shared.run_contenders hdb hb hs unnoted List.prefix_rfl
  -- both are admitted, so both procedures are carried out
  have first := ((tracked i).run hi'.pos after).invoked hi
  have second := ((tracked j).run hj'.pos after).invoked hj
  rw [at_i] at first
  rw [at_j] at second
  refine ⟨outcome, fun once => ?_⟩
  have same := once.once.eq first second ⟨1, rfl⟩ ⟨2, rfl⟩
  cases same

end

/-- A batch that is there is imported at most once, whatever calls for it do and whatever the
procedures come to, if and only if it is imported already or no two calls of the schedule that come
to have their procedures carried out are under way at the same time. -/
theorem imported_once_iff_apart {ι : Type} [DecidableEq ι] {db : Database} (hdb : db.HasBatches)
    {id : String} {b : Batch} (hb : db.findBatch id = .ok (some b)) (schedule : List ι) :
    (∀ calls : ι → Call, (∀ i, (calls i).batchId = id) →
        (∀ i db, (calls i).LeavesBatches db) → ImportedOnce calls db id schedule) ↔
      b.status = .imported ∨ ¬ Overlap schedule := by
  constructor
  · intro once
    by_contra neither
    obtain ⟨hs, overlap⟩ := not_or.mp neither
    obtain ⟨outcome, twice⟩ := (not_not.mp overlap).imported_twice hdb hb hs
    exact twice (once _ (fun _ => rfl) fun _ _ => contenders_leavesBatches)
  · intro safe calls hid hc
    exact .of_safe hid hc hdb hb safe

open Sample in
/-- One call fails, and the next imports the batch. A third has been made before and does not go on.
-/
theorem imported_once_in_turn :
    let calls : Fin 3 → Call := fun i => if i = 0 then failing else succeeding
    ImportedOnce calls stored "b1" [2, 0, 0, 0, 1, 1, 1] := by
  intro calls
  have same_id : ∀ i, (calls i).batchId = "b1" := by decide
  have leaves : ∀ i db, (calls i).LeavesBatches db := by
    intro i db
    by_cases hi : i = 0
    · simpa [calls, hi] using failing_leavesBatches db
    · simpa [calls, hi] using succeeding_leavesBatches db
  exact (imported_once_iff_apart stored_hasBatches find_stored _).mpr (.inr (by decide)) calls
    same_id leaves

open Sample in
/-- Two calls that are both admitted before either notes its outcome: the batch is imported, and
then it shows that its import failed. -/
theorem imported_then_failed :
    let calls := contenders "b1" fun first : Bool => if first then .ok 1 else .error "not again"
    let schedule := [true, false, true, false, true, false]
    (∃ b, (Shared.run calls stored (schedule.take 5)).db.findBatch "b1" = .ok (some b) ∧
        b.status = .imported) ∧
      (∃ b, (Shared.run calls stored schedule).db.findBatch "b1" = .ok (some b) ∧
        b.status = .failed) ∧
      ¬ ImportedOnce calls stored "b1" schedule := by
  intro calls schedule
  have admitted : ∀ first, (calls first).advance .called stored = (.admitted .voyage, stored) :=
    fun first => contenders_called find_stored (by decide)
  have executed : ∀ first, (calls first).advance (.admitted .voyage) stored =
      (.executed .voyage (if first then .ok 1 else .error "not again"), stored) := by
    intro first
    rw [Call.advance_admitted]
    cases first <;> rfl
  obtain ⟨after, noted, hafter, here, -⟩ :=
    Call.advance_executed (c := calls true) .voyage (.ok 1) stored_hasBatches find_stored
  obtain ⟨last, notedLast, -, hereLast, -⟩ :=
    Call.advance_executed (c := calls false) .voyage (.error "not again") hafter here
  have imported : (Shared.run calls stored (schedule.take 5)).db = after := by
    simp [schedule, Shared.run, Shared.step, admitted, executed, noted]
  have failed : (Shared.run calls stored schedule).db = last := by
    simp [schedule, Shared.run, Shared.step, admitted, executed, noted, notedLast]
  refine ⟨⟨_, imported ▸ here, rfl⟩, ⟨_, failed ▸ hereLast, rfl⟩, fun once => ?_⟩
  have kept := once.kept (schedule.take 5) [false] rfl _ (imported ▸ here) rfl
  rw [failed] at kept
  cases (Except.ok.inj (hereLast.symm.trans kept))

end ShipReport.Service
