import Mathlib.Data.List.Forall2
import Mathlib.Tactic.Lemma

/-!
# Outcomes of steps

When a series of steps that may fail succeeds, and with what result.
-/

namespace ShipReport

variable {ε ε' α β : Type}

/-- Steps after one that succeeds go on with its result. -/
lemma ok_bind {a : α} {f : α → Except ε β} : (Except.ok a >>= f) = f a :=
  rfl

/-- Steps succeed if the first one does and the others do with its result. -/
lemma bind_eq_ok {x : Except ε α} {f : α → Except ε β} {b : β} :
    x >>= f = .ok b ↔ ∃ a, x = .ok a ∧ f a = .ok b := by
  cases x with
  | ok a => simp [bind, Except.bind]
  | error e => simp [bind, Except.bind]

/-- Steps fail where the first one does or the others do with its result. -/
lemma bind_eq_error {x : Except ε α} {f : α → Except ε β} {e : ε} :
    x >>= f = .error e ↔ x = .error e ∨ ∃ a, x = .ok a ∧ f a = .error e := by
  cases x with
  | ok a => simp [bind, Except.bind]
  | error e' => simp [bind, Except.bind]

/-- A step that succeeds has no error to name otherwise. -/
lemma mapError_ok {f : ε → ε'} {a : α} : (Except.ok a : Except ε α).mapError f = .ok a :=
  rfl

/-- Another name for its error makes a step succeed neither more nor less often. -/
lemma mapError_eq_ok {x : Except ε α} {f : ε → ε'} {a : α} :
    x.mapError f = .ok a ↔ x = .ok a := by
  cases x with
  | ok b => rw [mapError_ok, Except.ok.injEq, Except.ok.injEq]
  | error e => exact iff_of_false nofun nofun

/-- A step whose error is named otherwise fails where the step fails. -/
lemma mapError_eq_error {x : Except ε α} {f : ε → ε'} {e : ε'} :
    x.mapError f = .error e ↔ ∃ cause, x = .error cause ∧ f cause = e := by
  cases x with
  | ok a => exact iff_of_false nofun nofun
  | error cause => simp [Except.mapError]

/-- Steps after a check succeed only if what is checked for is not the case. -/
lemma guard_eq_ok {c : Prop} [Decidable c] {e : ε} {f : PUnit → Except ε α} {a : α} :
    (if c then throw e >>= f else f ⟨⟩) = .ok a ↔ ¬ c ∧ f ⟨⟩ = .ok a := by
  by_cases hc : c
  · rw [if_pos hc]
    exact iff_of_false nofun fun h => h.1 hc
  · rw [if_neg hc]
    exact (and_iff_right hc).symm

/-- Steps after a demand succeed only if it is met. -/
lemma unless_eq_ok {c : Prop} [Decidable c] {e : ε} {f : PUnit → Except ε α} {a : α} :
    (if c then f ⟨⟩ else throw e >>= f) = .ok a ↔ c ∧ f ⟨⟩ = .ok a := by
  by_cases hc : c
  · rw [if_pos hc]
    exact (and_iff_right hc).symm
  · rw [if_neg hc]
    exact iff_of_false nofun fun h => hc h.1

/-- Steps that are made for all elements succeed if and only if each of them does. -/
lemma forM_eq_ok {f : α → Except ε Unit} {as : List α} :
    as.forM f = .ok () ↔ ∀ a ∈ as, f a = .ok () := by
  induction as with
  | nil => exact iff_of_true rfl nofun
  | cons a as ih =>
    rw [List.forall_mem_cons, ← ih]
    refine bind_eq_ok.trans ⟨?_, fun h => ⟨(), h⟩⟩
    rintro ⟨_, first, rest⟩
    exact ⟨first, rest⟩

/-- Steps that are the same for all elements have the same outcome. -/
lemma mapM_congr {f g : α → Except ε β} {as : List α} (h : ∀ a ∈ as, f a = g a) :
    as.mapM f = as.mapM g := by
  induction as with
  | nil => rfl
  | cons a as ih =>
    obtain ⟨first, rest⟩ := List.forall_mem_cons.mp h
    rw [List.mapM_cons, List.mapM_cons, first, ih rest]

/-- Steps that are made for all elements give a result for each. -/
lemma mapM_eq_ok {f : α → Except ε β} {as : List α} {bs : List β} :
    as.mapM f = .ok bs ↔ List.Forall₂ (fun a b => f a = .ok b) as bs := by
  induction as generalizing bs with
  | nil => cases bs <;> simp [pure, Except.pure]
  | cons a as ih =>
    simp only [List.mapM_cons, bind_eq_ok, ih, pure, Except.pure, Except.ok.injEq]
    constructor
    · rintro ⟨b, first, rest, hrest, rfl⟩
      exact .cons first hrest
    · rintro (_ | ⟨first, rest⟩)
      exact ⟨_, first, _, rest, rfl⟩

/-- Each result comes from an element. -/
lemma exists_of_mem_mapM {f : α → Except ε β} {as : List α} {bs : List β} {b : β}
    (h : as.mapM f = .ok bs) (hb : b ∈ bs) : ∃ a ∈ as, f a = .ok b := by
  have each := mapM_eq_ok.mp h
  clear h
  induction each with
  | nil => cases hb
  | @cons a c as bs first _ ih =>
    rcases List.mem_cons.mp hb with rfl | hb
    · exact ⟨a, List.mem_cons_self, first⟩
    · obtain ⟨d, hd, found⟩ := ih hb
      exact ⟨d, List.mem_cons_of_mem a hd, found⟩

/-- Steps succeed for all elements if and only if they do for each. -/
lemma mapM_succeeds_iff {f : α → Except ε β} {as : List α} :
    (∃ bs, as.mapM f = .ok bs) ↔ ∀ a ∈ as, ∃ b, f a = .ok b := by
  simp only [mapM_eq_ok]
  induction as with
  | nil => exact iff_of_true ⟨[], .nil⟩ (List.forall_mem_nil _)
  | cons a as ih =>
    rw [List.forall_mem_cons, ← ih]
    constructor
    · rintro ⟨_, _ | ⟨first, rest⟩⟩
      exact ⟨⟨_, first⟩, _, rest⟩
    · rintro ⟨⟨b, first⟩, bs, rest⟩
      exact ⟨b :: bs, .cons first rest⟩

/-- Steps that are made for all elements fail with one of them. -/
lemma exists_of_mapM_error {f : α → Except ε β} {as : List α} {e : ε}
    (h : as.mapM f = .error e) : ∃ a ∈ as, f a = .error e := by
  induction as with
  | nil => cases h
  | cons a as ih =>
    rw [List.mapM_cons, bind_eq_error] at h
    rcases h with first | ⟨b, -, rest⟩
    · exact ⟨a, List.mem_cons_self, first⟩
    · rcases bind_eq_error.mp rest with rest | ⟨bs, -, rest⟩
      · obtain ⟨c, hc, failed⟩ := ih rest
        exact ⟨c, List.mem_cons_of_mem a hc, failed⟩
      · cases rest

/-- Steps that succeed for all elements give the list of their results. -/
lemma mapM_ok {f : α → Except ε β} {g : α → β} {as : List α} (h : ∀ a ∈ as, f a = .ok (g a)) :
    as.mapM f = .ok (as.map g) := by
  induction as with
  | nil => rfl
  | cons a as ih =>
    obtain ⟨first, rest⟩ := List.forall_mem_cons.mp h
    rw [List.mapM_cons, first, ih rest]
    rfl

end ShipReport
