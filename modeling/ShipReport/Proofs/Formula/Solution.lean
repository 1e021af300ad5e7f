import Mathlib.Data.List.Induction
import ShipReport.Formula.Evaluator
import ShipReport.Proofs.Formula.Simulation

/-!
# Solutions of a grid

What the cells of a grid should be worth, without a cache and without a limit. A solution gives all
cells values that fit their formulas; `Grid.plain` is the plain recursion on formulas.
`Grid.NestsWithin` says how deep the formulas behind a cell are nested when some cells are known
already. A grid is `Grid.Layered` if its formulas nest within the limit when the formulas before
them on their sheet are known. On such a grid the plain recursion settles on values, and these are a
solution.
-/

namespace ShipReport.Formula

/-- Reading fewer cells is reading within more cells. -/
lemma RangeRef.Within.mono {index : String → Option Nat} {current : Nat}
    {A B : Nat → Position → Prop} {r : RangeRef} (h : r.Within index current A)
    (hAB : ∀ i p, A i p → B i p) : r.Within index current B := by
  unfold RangeRef.Within at *
  split at h
  · exact fun p hp => hAB _ p (h p hp)
  · exact fun i hi p hp => hAB i p (h i hi p hp)

mutual

/-- An expression that looks only at some cells looks only at more cells. -/
lemma Expr.ReadsWithin.mono {index : String → Option Nat} {current : Nat}
    {A B : Nat → Position → Prop} (hAB : ∀ i p, A i p → B i p) :
    ∀ e : Expr, e.ReadsWithin index current A → e.ReadsWithin index current B
  | .literal _, _ => by simp only [Expr.ReadsWithin]
  | .cell _, h => by
    simp only [Expr.ReadsWithin] at *
    exact h.mono hAB
  | .range _, h => by
    simp only [Expr.ReadsWithin] at *
    exact h.mono hAB
  | .call _ args, h => by
    simp only [Expr.ReadsWithin] at *
    exact ⟨fun hf i p => hAB i p (h.1 hf i p), allReadWithin_mono hAB args h.2⟩
  | .conditional test yes no, h => by
    simp only [Expr.ReadsWithin] at *
    exact ⟨Expr.ReadsWithin.mono hAB test h.1, Expr.ReadsWithin.mono hAB yes h.2.1,
      Expr.ReadsWithin.mono hAB no h.2.2⟩
  | .binary _ lhs rhs, h => by
    simp only [Expr.ReadsWithin] at *
    exact ⟨Expr.ReadsWithin.mono hAB lhs h.1, Expr.ReadsWithin.mono hAB rhs h.2⟩

/-- Expressions that read within some cells read within more of them. -/
lemma allReadWithin_mono {index : String → Option Nat} {current : Nat}
    {A B : Nat → Position → Prop} (hAB : ∀ i p, A i p → B i p) :
    ∀ es : List Expr, allReadWithin index current A es → allReadWithin index current B es
  | [], _ => by simp only [allReadWithin]
  | e :: es, h => by
    simp only [allReadWithin] at *
    exact ⟨Expr.ReadsWithin.mono hAB e h.1, allReadWithin_mono hAB es h.2⟩

end

/-- The surroundings of formulas when the values of all cells are given. -/
def Surroundings.given (index : String → Option Nat) (σ : Nat → Position → Value) :
    Surroundings Id :=
  ⟨index, fun i p => pure (σ i p)⟩

/-- The value of an expression when the values of all cells are given. -/
def Expr.valueUnder (index : String → Option Nat) (σ : Nat → Position → Value) (sheet : Nat)
    (e : Expr) : Value :=
  (e.meaning (.given index σ) sheet).value.run

/-- The range that an expression names when the values of all cells are given. -/
def Expr.targetUnder (index : String → Option Nat) (σ : Nat → Position → Value) (sheet : Nat)
    (e : Expr) : Except Fault Target :=
  (e.meaning (.given index σ) sheet).target.run

namespace Grid

/-- The value of a cell when the values of all cells are given. -/
def valueFrom (g : Grid) (σ : Nat → Position → Value) (sheet : Nat) (p : Position) : Value :=
  match g.content sheet p with
  | none => .empty
  | some (.value v) => v
  | some (.formula e) => settled (e.valueUnder g.sheetIndex σ sheet)

/-- Values of all cells that fit the contents of the cells. -/
def Solves (g : Grid) (σ : Nat → Position → Value) : Prop :=
  ∀ i p, σ i p = g.valueFrom σ i p

/-- The plain recursion on formulas, which may nest `depth` deep: no cache and no order. -/
def plain (g : Grid) (depth : Nat) (sheet : Nat) (p : Position) : Value :=
  match depth with
  | 0 =>
    match g.content sheet p with
    | none => .empty
    | some (.value v) => v
    | some (.formula _) => .fault .cycle
  | depth + 1 => g.valueFrom (g.plain depth) sheet p

/-- The formulas behind a cell are nested at most `n` deep when the cells of a set are known. -/
def NestsWithin (g : Grid) (known : Nat → Position → Prop) (n : Nat) (i : Nat) (p : Position) :
    Prop :=
  known i p ∨ ∀ e, g.content i p = some (.formula e) →
    match n with
    | 0 => False
    | n + 1 => e.ReadsWithin g.sheetIndex i (g.NestsWithin known n)

variable {g : Grid} {known more : Nat → Position → Prop} {σ τ : Nat → Position → Value}

namespace NestsWithin

/-- A known cell needs no depth. -/
lemma of_known {n i : Nat} {p : Position} (h : known i p) : g.NestsWithin known n i p := by
  unfold NestsWithin
  exact .inl h

/-- A cell without a formula nests nothing. -/
lemma of_plain {n i : Nat} {p : Position} (h : ∀ e, g.content i p ≠ some (.formula e)) :
    g.NestsWithin known n i p := by
  unfold NestsWithin
  exact .inr fun e he => absurd he (h e)

/-- A formula nests one deeper than the cells that it looks at. -/
lemma of_formula {n i : Nat} {p : Position}
    (h : ∀ e, g.content i p = some (.formula e) →
      e.ReadsWithin g.sheetIndex i (g.NestsWithin known n)) :
    g.NestsWithin known (n + 1) i p := by
  unfold NestsWithin
  exact .inr h

/-- What nests within a depth nests within a greater depth and with more cells known. -/
lemma mono (hk : ∀ i p, known i p → more i p) {n k : Nat} (hnk : n ≤ k) {i : Nat} {p : Position}
    (h : g.NestsWithin known n i p) : g.NestsWithin more k i p := by
  -- at depth zero the cell is known or holds no formula
  induction n generalizing k i p with
  | zero =>
    unfold NestsWithin at h
    rcases h with h | h
    · exact of_known (hk i p h)
    · exact of_plain h
  | succ n ih =>
    unfold NestsWithin at h
    rcases h with h | h
    · exact of_known (hk i p h)
    · obtain ⟨k, rfl⟩ : ∃ j, k = j + 1 := ⟨k - 1, by omega⟩
      apply of_formula
      intro e he
      exact Expr.ReadsWithin.mono (fun j q => ih (by omega)) e (h e he)

/-- A formula that is not known looks only at cells that nest no deeper. -/
lemma reads {n i : Nat} {p : Position} {e : Expr} (h : g.NestsWithin known n i p)
    (hp : ¬ known i p) (he : g.content i p = some (.formula e)) :
    e.ReadsWithin g.sheetIndex i (g.NestsWithin known n) := by
  unfold NestsWithin at h
  have h := h.resolve_left hp e he
  cases n with
  | zero => exact h.elim
  | succ n => exact Expr.ReadsWithin.mono (fun j q => mono (fun _ _ => id) (by omega)) e h

end NestsWithin

end Grid

/-! ## Values that agree -/

/-- Computations without effects, compared by their results. -/
def idSim : Simulation Id Id where
  rel P x y := x.run = y.run ∧ P x.run
  rel_pure h := ⟨rfl, h⟩
  rel_bind {_ _ _ _ x y f g} hx hf := by
    obtain ⟨hxy, hP⟩ := hx
    have hfg := hf x.run hP
    change (f x.run).run = (g y.run).run ∧ _
    rw [← hxy]
    exact hfg

/-- A formula has the same value under values that are equal on the cells that it looks at. -/
lemma Expr.valueUnder_congr {index : String → Option Nat} {i : Nat} {A : Nat → Position → Prop}
    {σ τ : Nat → Position → Value} (hA : ∀ j q, A j q → σ j q = τ j q) {e : Expr}
    (he : e.ReadsWithin index i A) :
    e.valueUnder index σ i = e.valueUnder index τ i := by
  have agree : Surroundings.Agree idSim A (.given index σ) (.given index τ) :=
    ⟨rfl, fun j q hq => ⟨hA j q hq, trivial⟩⟩
  exact (e.meaning_agree agree i he).value.1

namespace Grid

variable {g : Grid} {known : Nat → Position → Prop} {σ τ : Nat → Position → Value}

/-- The value of a cell depends only on the cells that its formula looks at. -/
lemma valueFrom_congr {A : Nat → Position → Prop} (hA : ∀ j q, A j q → σ j q = τ j q) {i : Nat}
    {p : Position}
    (h : ∀ e, g.content i p = some (.formula e) → e.ReadsWithin g.sheetIndex i A) :
    g.valueFrom σ i p = g.valueFrom τ i p := by
  unfold valueFrom
  cases hc : g.content i p with
  | none => rfl
  | some c =>
    cases c with
    | value v => rfl
    | formula e =>
      dsimp only
      rw [Expr.valueUnder_congr hA (h e hc)]

/-- What is not a formula has its value whatever the other cells show. -/
lemma valueFrom_plain {i : Nat} {p : Position} (h : ∀ e, g.content i p ≠ some (.formula e)) :
    g.valueFrom σ i p = g.valueFrom τ i p :=
  valueFrom_congr (A := fun _ _ => False) nofun fun e he => absurd he (h e)

/-- Only an absent cell is settled as zero. -/
lemma settled_of_ne {v : Value} (h : v ≠ .empty) : settled v = v := by
  cases v with
  | empty => exact absurd rfl h
  | _ => rfl

/-- The value of a formula in a solution. -/
lemma Solves.formula (hσ : g.Solves σ) {i : Nat} {p : Position} {e : Expr}
    (he : g.content i p = some (.formula e)) :
    σ i p = settled (e.valueUnder g.sheetIndex σ i) := by
  rw [hσ i p]
  simp only [valueFrom, he]

/-- The value of a formula is never the absent one. -/
lemma Solves.formula_ne_empty (hσ : g.Solves σ) {i : Nat} {p : Position} {e : Expr}
    (he : g.content i p = some (.formula e)) : σ i p ≠ .empty := by
  rw [hσ.formula he]
  cases e.valueUnder g.sheetIndex σ i <;> simp [settled]

/-- The plain recursion gives a cell one value from some depth on. -/
def SettlesBy (g : Grid) (n : Nat) (i : Nat) (p : Position) : Prop :=
  ∀ k, n ≤ k → g.plain k i p = g.plain n i p

/-- A cell without a formula settles at once. -/
lemma SettlesBy.of_plain {n i : Nat} {p : Position}
    (h : ∀ e, g.content i p ≠ some (.formula e)) : g.SettlesBy n i p := by
  have start : ∀ k, g.plain k i p = g.plain 0 i p := by
    intro k
    cases k with
    | zero => rfl
    | succ k =>
      unfold plain valueFrom
      cases hc : g.content i p with
      | none => rfl
      | some c =>
        cases c with
        | value v => rfl
        | formula e => exact absurd hc (h e)
  intro k _
  rw [start k, start n]

/-- A cell that has one value from some depth on has it from any later one on. -/
lemma SettlesBy.mono {n k i : Nat} {p : Position} (h : g.SettlesBy n i p) (hnk : n ≤ k) :
    g.SettlesBy k i p := by
  intro j hj
  rw [h j (by omega), h k hnk]

/-- When the known cells have settled, a cell settles as much later as its formulas nest. -/
lemma SettlesBy.of_nestsWithin {b : Nat} (hk : ∀ i p, known i p → g.SettlesBy b i p) {n i : Nat}
    {p : Position} (h : g.NestsWithin known n i p) : g.SettlesBy (b + n) i p := by
  induction n generalizing i p with
  | zero =>
    unfold NestsWithin at h
    rcases h with h | h
    · exact hk i p h
    · exact of_plain h
  | succ n ih =>
    unfold NestsWithin at h
    rcases h with h | h
    · exact (hk i p h).mono (by omega)
    · intro k hbk
      -- the cells that the formula looks at have settled one step earlier
      obtain ⟨k, rfl⟩ : ∃ j, k = j + 1 := ⟨k - 1, by omega⟩
      show g.valueFrom (g.plain k) i p = g.valueFrom (g.plain (b + n)) i p
      exact valueFrom_congr (fun j q hq => ih hq k (by omega)) h

/-- The formulas of a sheet that stand in a list. -/
def among (i : Nat) (ps : List Position) (j : Nat) (q : Position) : Prop :=
  j = i ∧ q ∈ ps

/-- All formulas of a grid are listed, and each nests within the limit when the formulas listed
before it are known. -/
structure Layered (g : Grid) : Prop where
  listed : ∀ i p e, g.content i p = some (.formula e) → p ∈ g.formulas i
  nests : ∀ i before p after, g.formulas i = before ++ p :: after →
    g.NestsWithin (among i before) depthLimit i p

namespace Layered

/-- The formulas of a sheet settle one after the other. -/
lemma settles_before (h : g.Layered) (i : Nat) (before after : List Position)
    (hl : g.formulas i = before ++ after) :
    ∀ j q, among i before j q → g.SettlesBy (before.length * depthLimit) j q := by
  -- the last formula nests within the limit over the formulas before it
  induction before using List.reverseRecOn generalizing after with
  | nil => exact fun _ _ hq => absurd hq.2 List.not_mem_nil
  | append_singleton before p ih =>
    have ih := ih (p :: after) (by simpa using hl)
    rintro j q ⟨rfl, hq⟩
    have hlen : (before ++ [p]).length * depthLimit = before.length * depthLimit + depthLimit := by
      simp [Nat.add_mul]
    rw [hlen]
    rcases List.mem_append.mp hq with hq | hq
    · exact (ih j q ⟨rfl, hq⟩).mono (by omega)
    · obtain rfl := List.mem_singleton.mp hq
      exact SettlesBy.of_nestsWithin ih (h.nests j before q after (by simpa using hl))

/-- The depth by which all cells of a sheet have settled. -/
def bound (g : Grid) (i : Nat) : Nat :=
  (g.formulas i).length * depthLimit

/-- All cells of a sheet settle. -/
lemma settles (h : g.Layered) (i : Nat) (p : Position) : g.SettlesBy (bound g i) i p := by
  by_cases hf : ∃ e, g.content i p = some (.formula e)
  · obtain ⟨e, he⟩ := hf
    exact h.settles_before i (g.formulas i) [] (by simp) i p ⟨rfl, h.listed i p e he⟩
  · exact SettlesBy.of_plain fun e he => hf ⟨e, he⟩

/-- The values that the plain recursion settles on. -/
def values (g : Grid) (i : Nat) (p : Position) : Value :=
  g.plain (bound g i) i p

/-- From its depth on, a cell has the value that it settles on. -/
lemma plain_eq (h : g.Layered) {n i : Nat} {p : Position} (hn : g.SettlesBy n i p) :
    g.plain n i p = values g i p := by
  -- both depths are compared with the larger one
  have hmax := hn (max n (bound g i)) (by omega)
  rw [← hmax, h.settles i p (max n (bound g i)) (by omega)]
  rfl

/-- The values that the plain recursion settles on solve the grid. -/
theorem values_solves (h : g.Layered) : g.Solves (values g) := by
  intro i p
  -- one step of the recursion beyond the depth at which the cell has settled
  have next : values g i p = g.plain (bound g i + depthLimit + 1) i p :=
    (h.settles i p _ (by omega)).symm
  rw [next]
  show g.valueFrom (g.plain (bound g i + depthLimit)) i p = _
  by_cases hf : ∃ e, g.content i p = some (.formula e)
  · obtain ⟨e, he⟩ := hf
    obtain ⟨before, after, hl, hp⟩ := List.eq_append_cons_of_mem (h.listed i p e he)
    have hlen : before.length * depthLimit ≤ bound g i := by
      have : before.length ≤ (g.formulas i).length := by simp [hl]
      exact Nat.mul_le_mul_right _ this
    apply valueFrom_congr (A := g.NestsWithin (among i before) depthLimit)
    · intro j q hq
      have hs := SettlesBy.of_nestsWithin (h.settles_before i before (p :: after) hl) hq
      exact h.plain_eq (hs.mono (by omega))
    · intro e he
      exact (h.nests i before p after hl).reads (fun hk => hp hk.2) he
  · exact valueFrom_plain fun e he => hf ⟨e, he⟩

end Layered

end Grid

end ShipReport.Formula
