import ShipReport.Proofs.Formula.Evaluation
import ShipReport.Proofs.Formula.Faults

/-!
# Questions to one evaluator

An evaluator is asked for many cells, by the place of a sheet or by its name. On a layered grid each
answer is the value that plain recursion on the formulas gives, so it does not depend on what was
asked before.
-/

namespace ShipReport.Formula

/-- A question for the value of a cell, whose sheet is given by its place or by its name. -/
inductive Query where
  | place (sheet : Nat) (p : Position)
  | name (sheet : String) (p : Position)

namespace Query

/-- The evaluator's answer. -/
def answer (g : Grid) : Query → EvalM Value
  | .place sheet p => g.valueAt sheet p
  | .name sheet p => g.value sheet p

/-- The answers to several questions, asked one after the other. -/
def answers (g : Grid) (qs : List Query) : EvalM (List Value) :=
  qs.mapM (answer g)

/-- The answer by plain recursion on the formulas, if that goes less than `depth` deep. -/
def recursion (g : Grid) (depth : Nat) : Query → Option Value
  | .place sheet p => g.recursion depth sheet p
  | .name sheet p =>
    match g.sheetIndex sheet with
    | some i => g.recursion depth i p
    | none => some (.fault .reference)

/-- The plain recursion ends with an answer, and with the same one however deep it may go. -/
def EndsWith (g : Grid) (q : Query) (v : Value) : Prop :=
  ∃ depth, ∀ k, depth ≤ k → q.recursion g k = some v

variable {g : Grid} {σ : Nat → Position → Value} {q : Query} {v w : Value}

/-- There is one answer that the recursion ends with. -/
lemma EndsWith.unique (hv : q.EndsWith g v) (hw : q.EndsWith g w) : v = w := by
  obtain ⟨n, hn⟩ := hv
  obtain ⟨k, hk⟩ := hw
  exact Option.some.inj ((hn _ (Nat.le_max_left n k)).symm.trans (hk _ (Nat.le_max_right n k)))

/-- On a layered grid the recursion ends at every cell with its value in the solution. -/
lemma endsWith_place (hg : g.Layered) (hσ : g.Solves σ) (i : Nat) (p : Position) :
    (place i p).EndsWith g (σ i p) := by
  obtain ⟨depth, h⟩ := hg.recursion_eq hσ i p
  exact ⟨depth, fun _ hk => Grid.recursion_mono h hk⟩

/-- A question by a name is one by the place of the sheet. -/
lemma endsWith_name {sheet : String} {i : Nat} (hi : g.sheetIndex sheet = some i) {p : Position} :
    (name sheet p).EndsWith g v ↔ (place i p).EndsWith g v := by
  simp only [EndsWith, recursion, hi]

/-- There is no question about a sheet that is missing. -/
lemma endsWith_missing {sheet : String} (hi : g.sheetIndex sheet = none) {p : Position} :
    (name sheet p).EndsWith g (.fault .reference) :=
  ⟨0, fun _ _ => by simp only [recursion, hi]⟩

/-- On a layered grid the evaluator answers with the value of the recursion and keeps its cache
sound. -/
lemma answer_recursion (hg : g.Layered) (hσ : g.Solves σ) (q : Query) {c : Cache}
    (hc : g.Sound σ c) :
    q.EndsWith g ((q.answer g).run c).1 ∧ g.Sound σ ((q.answer g).run c).2 := by
  have here : ∀ i p, (place i p).EndsWith g ((g.valueAt i p).run c).1 ∧
      g.Sound σ ((g.valueAt i p).run c).2 := by
    intro i p
    obtain ⟨hv, hc'⟩ := Grid.valueAt_solution hg hσ i p hc
    rw [hv]
    exact ⟨endsWith_place hg hσ i p, hc'⟩
  cases q with
  | place i p => exact here i p
  | name sheet p =>
    simp only [answer, Grid.value]
    cases hi : g.sheetIndex sheet with
    | some i =>
      rw [endsWith_name hi]
      exact here i p
    | none => exact ⟨endsWith_missing hi, hc⟩

/-- Asking questions keeps a cache sound. -/
lemma answers_sound (hg : g.Layered) (hσ : g.Solves σ) (qs : List Query) {c : Cache}
    (hc : g.Sound σ c) : g.Sound σ ((answers g qs).run c).2 := by
  induction qs generalizing c with
  | nil => exact hc
  | cons q qs ih =>
    unfold answers at ih ⊢
    rw [List.mapM_cons]
    exact ih (answer_recursion hg hσ q hc).2

/-- No question is answered with a cycle if no cell has this value. -/
lemma EndsWith.acyclic (hg : g.Layered) (hσ : g.Solves σ) (acyclic : ∀ i p, (σ i p).Acyclic)
    (hv : q.EndsWith g v) : v.Acyclic := by
  have here : ∀ i p, (place i p).EndsWith g v → v.Acyclic := by
    intro i p h
    obtain rfl := h.unique (endsWith_place hg hσ i p)
    exact acyclic i p
  cases q with
  | place i p => exact here i p hv
  | name sheet p =>
    cases hi : g.sheetIndex sheet with
    | some i => exact here i p ((endsWith_name hi).mp hv)
    | none =>
      obtain rfl := hv.unique (endsWith_missing hi)
      exact nofun

end Query

end ShipReport.Formula
