import ShipReport.Proofs.Formula.Solution

/-!
# Layered grids

On a layered grid every formula stands on cells that come before it, so a property that a cell has
as soon as the cells that its formula looks at have it is a property of all cells. This induction
gives two results. The recursion on formulas that keeps nothing and evaluates nothing ahead ends
everywhere if it may go deep enough, with the values of the solution. And two grids whose formulas
stay within a set of cells on which the grids agree have equal values there.
-/

namespace ShipReport.Formula

section

variable {index : String → Option Nat} {current : Nat} {A B C : Nat → Position → Prop}

/-- A range lies within cells that are all there are. -/
lemma RangeRef.Within.of_all (hA : ∀ i p, A i p) (r : RangeRef) : r.Within index current A := by
  unfold RangeRef.Within
  split
  · exact fun p _ => hA current p
  · exact fun i _ p _ => hA i p

/-- A reference that keeps to two sets keeps to what they have in common. -/
lemma RangeRef.Within.meet (hC : ∀ i p, A i p → B i p → C i p) {r : RangeRef}
    (hA : r.Within index current A) (hB : r.Within index current B) :
    r.Within index current C := by
  unfold RangeRef.Within at *
  split at hA
  · next hs =>
    simp only [hs] at hB
    exact fun p hp => hC current p (hA p hp) (hB p hp)
  · next name hs =>
    simp only [hs] at hB
    exact fun i hi p hp => hC i p (hA i hi p hp) (hB i hi p hp)

mutual

/-- Every expression looks only at cells. -/
lemma Expr.ReadsWithin.of_all (hA : ∀ i p, A i p) : ∀ e : Expr, e.ReadsWithin index current A
  | .literal _ => by simp only [Expr.ReadsWithin]
  | .cell _ => by
    simp only [Expr.ReadsWithin]
    exact .of_all hA _
  | .range _ => by
    simp only [Expr.ReadsWithin]
    exact .of_all hA _
  | .call _ args => by
    simp only [Expr.ReadsWithin]
    exact ⟨fun _ => hA, allReadWithin_of_all hA args⟩
  | .conditional test yes no => by
    simp only [Expr.ReadsWithin]
    exact ⟨Expr.ReadsWithin.of_all hA test, Expr.ReadsWithin.of_all hA yes,
      Expr.ReadsWithin.of_all hA no⟩
  | .binary _ lhs rhs => by
    simp only [Expr.ReadsWithin]
    exact ⟨Expr.ReadsWithin.of_all hA lhs, Expr.ReadsWithin.of_all hA rhs⟩

/-- Expressions read within cells that are all there are. -/
lemma allReadWithin_of_all (hA : ∀ i p, A i p) : ∀ es : List Expr, allReadWithin index current A es
  | [] => by simp only [allReadWithin]
  | e :: es => by
    simp only [allReadWithin]
    exact ⟨Expr.ReadsWithin.of_all hA e, allReadWithin_of_all hA es⟩

end

mutual

/-- An expression that keeps to two sets keeps to what they have in common. -/
lemma Expr.ReadsWithin.meet (hC : ∀ i p, A i p → B i p → C i p) :
    ∀ e : Expr, e.ReadsWithin index current A → e.ReadsWithin index current B →
      e.ReadsWithin index current C
  | .literal _, _, _ => by simp only [Expr.ReadsWithin]
  | .cell _, hA, hB => by
    simp only [Expr.ReadsWithin] at *
    exact hA.meet hC hB
  | .range _, hA, hB => by
    simp only [Expr.ReadsWithin] at *
    exact hA.meet hC hB
  | .call _ args, hA, hB => by
    simp only [Expr.ReadsWithin] at *
    exact ⟨fun hf i p => hC i p (hA.1 hf i p) (hB.1 hf i p), allReadWithin_meet hC args hA.2 hB.2⟩
  | .conditional test yes no, hA, hB => by
    simp only [Expr.ReadsWithin] at *
    exact ⟨Expr.ReadsWithin.meet hC test hA.1 hB.1, Expr.ReadsWithin.meet hC yes hA.2.1 hB.2.1,
      Expr.ReadsWithin.meet hC no hA.2.2 hB.2.2⟩
  | .binary _ lhs rhs, hA, hB => by
    simp only [Expr.ReadsWithin] at *
    exact ⟨Expr.ReadsWithin.meet hC lhs hA.1 hB.1, Expr.ReadsWithin.meet hC rhs hA.2 hB.2⟩

/-- Expressions that read within two sets of cells read within the cells in both. -/
lemma allReadWithin_meet (hC : ∀ i p, A i p → B i p → C i p) :
    ∀ es : List Expr, allReadWithin index current A es → allReadWithin index current B es →
      allReadWithin index current C es
  | [], _, _ => by simp only [allReadWithin]
  | e :: es, hA, hB => by
    simp only [allReadWithin] at *
    exact ⟨Expr.ReadsWithin.meet hC e hA.1 hB.1, allReadWithin_meet hC es hA.2 hB.2⟩

end

end

/-! ## Plain recursion -/

/-- Computations that may not end: when the first ends, the second has the same result. -/
def partialSim : Simulation Option Option where
  rel P x y := ∀ a, x = some a → y = some a ∧ P a
  rel_pure h := by
    rintro a ha
    obtain rfl := Option.some.inj ha
    exact ⟨rfl, h⟩
  rel_bind {_ _ _ _ x y f g} hx hf := by
    intro b hb
    obtain ⟨a, ha, hb⟩ := Option.bind_eq_some_iff.mp hb
    obtain ⟨hy, hP⟩ := hx a ha
    obtain ⟨hb, hQ⟩ := hf a hP b hb
    exact ⟨Option.bind_eq_some_iff.mpr ⟨a, hy, hb⟩, hQ⟩

/-- A computation that ends, beside its result. -/
def endingSim : Simulation Option Id where
  rel P x y := x = some y.run ∧ P y.run
  rel_pure h := ⟨rfl, h⟩
  rel_bind {_ _ _ _ x y f g} hx hf := by
    obtain ⟨rfl, hP⟩ := hx
    exact hf y.run hP

namespace Grid

/-- The value of a cell by plain recursion on formulas that goes less than `depth` deep: no values
are kept and no cells are evaluated ahead of others. There is none if the recursion goes deeper. -/
def recursion (g : Grid) (depth : Nat) (i : Nat) (p : Position) : Option Value :=
  match depth with
  | 0 => none
  | depth + 1 =>
    match g.content i p with
    | none => some .empty
    | some (.value v) => some v
    | some (.formula e) => (e.meaning ⟨g.sheetIndex, g.recursion depth⟩ i).value.map settled

variable {g g' : Grid} {σ τ : Nat → Position → Value}

/-- A recursion that has ended has the same value if it may go deeper. -/
lemma recursion_succ {n i : Nat} {p : Position} {v : Value} (h : g.recursion n i p = some v) :
    g.recursion (n + 1) i p = some v := by
  induction n generalizing i p v with
  | zero => cases h
  | succ n ih =>
    unfold recursion at h ⊢
    cases hc : g.content i p with
    | none => simpa [hc] using h
    | some c =>
      cases c with
      | value u => simpa [hc] using h
      | formula e =>
        simp only [hc, Option.map_eq_some_iff] at h ⊢
        obtain ⟨u, hu, rfl⟩ := h
        have agree : Surroundings.Agree partialSim (fun _ _ => True)
            ⟨g.sheetIndex, g.recursion n⟩ ⟨g.sheetIndex, g.recursion (n + 1)⟩ :=
          ⟨rfl, fun j q _ w hw => ⟨ih hw, trivial⟩⟩
        exact ⟨u, ((e.meaning_agree agree i (.of_all (fun _ _ => trivial) e)).value u hu).1, rfl⟩

/-- What the recursion gives with some depth it gives with more. -/
lemma recursion_mono {n k i : Nat} {p : Position} {v : Value} (h : g.recursion n i p = some v)
    (hnk : n ≤ k) : g.recursion k i p = some v := by
  induction hnk with
  | refl => exact h
  | step _ ih => exact recursion_succ ih

namespace Layered

section

variable {P : Nat → Nat → Position → Prop} (mono : ∀ n i p, P n i p → P (n + 1) i p)
  (step : ∀ n i p, (∀ e, g.content i p = some (.formula e) → e.ReadsWithin g.sheetIndex i (P n)) →
    P (n + 1) i p)

include mono in
/-- What holds at some depth holds at all greater ones. -/
lemma of_le_depth {n k i : Nat} {p : Position} (hnk : n ≤ k) (hn : P n i p) : P k i p := by
  induction hnk with
  | refl => exact hn
  | step _ ih => exact mono _ i p ih

include step in
/-- A cell without a formula looks at nothing. -/
lemma of_no_formula (n : Nat) {i : Nat} {p : Position}
    (hp : ∀ e, g.content i p ≠ some (.formula e)) : P (n + 1) i p :=
  step n i p fun e he => absurd he (hp e)

include mono step

/-- What holds of known cells at one depth holds at a greater one of the cells that look at them
through so many others. -/
lemma of_nestsWithin {known : Nat → Position → Prop} {b : Nat}
    (hk : ∀ i p, known i p → P b i p) {n i : Nat} {p : Position}
    (hn : g.NestsWithin known n i p) : P (b + n + 1) i p := by
  induction n generalizing i p with
  | zero =>
    unfold NestsWithin at hn
    exact hn.elim (fun hn => mono b i p (hk i p hn)) (of_no_formula step b)
  | succ n ih =>
    unfold NestsWithin at hn
    rcases hn with hn | hn
    · exact of_le_depth mono (by omega) (hk i p hn)
    · exact step _ i p fun e he => .mono (fun _ _ => ih) e (hn e he)

/-- The formulas that stand first in the list of a sheet have the property at some depth. -/
lemma of_listed (h : g.Layered) {i : Nat} (before after : List Position)
    (hl : g.formulas i = before ++ after) : ∃ b, ∀ j q, among i before j q → P b j q := by
  induction before using List.reverseRecOn generalizing after with
  | nil => exact ⟨0, fun _ _ hq => absurd hq.2 List.not_mem_nil⟩
  | append_singleton before q ih =>
    obtain ⟨b, hb⟩ := ih (q :: after) (by simpa using hl)
    refine ⟨b + depthLimit + 1, ?_⟩
    rintro j q' ⟨rfl, hq⟩
    rcases List.mem_append.mp hq with hq | hq
    · exact of_le_depth mono (by omega) (hb j q' ⟨rfl, hq⟩)
    · obtain rfl := List.mem_singleton.mp hq
      exact of_nestsWithin mono step hb (h.nests j before q' after (by simpa using hl))

end

/-- Induction on a layered grid by depth: a property holds of every cell at some depth if it holds
of a cell one deeper than of the cells that its formula looks at, and at all greater depths. -/
theorem induction_by_depth (h : g.Layered) {P : Nat → Nat → Position → Prop}
    (mono : ∀ n i p, P n i p → P (n + 1) i p)
    (step : ∀ n i p, (∀ e, g.content i p = some (.formula e) →
      e.ReadsWithin g.sheetIndex i (P n)) → P (n + 1) i p) (i : Nat) (p : Position) :
    ∃ n, P n i p := by
  by_cases hf : ∃ e, g.content i p = some (.formula e)
  · obtain ⟨e, he⟩ := hf
    obtain ⟨b, hb⟩ := of_listed mono step h (g.formulas i) [] (List.append_nil _).symm
    exact ⟨b, hb i p ⟨rfl, h.listed i p e he⟩⟩
  · exact ⟨1, of_no_formula step 0 fun e he => hf ⟨e, he⟩⟩

/-- Induction on a layered grid: a property holds of all cells if a cell has it as soon as the cells
that its formula looks at have it. -/
theorem induction (h : g.Layered) {P : Nat → Position → Prop}
    (step : ∀ i p, (∀ e, g.content i p = some (.formula e) → e.ReadsWithin g.sheetIndex i P) →
      P i p) (i : Nat) (p : Position) : P i p := by
  obtain ⟨-, hP⟩ := h.induction_by_depth (P := fun _ => P) (fun _ _ _ hP => hP)
    (fun _ => step) i p
  exact hP

/-- On a layered grid the recursion ends at every cell, with its value in the solution, if it may go
deep enough. -/
theorem recursion_eq (h : g.Layered) (hσ : g.Solves σ) (i : Nat) (p : Position) :
    ∃ depth, g.recursion depth i p = some (σ i p) := by
  refine h.induction_by_depth (P := fun n i p => g.recursion n i p = some (σ i p))
    (fun _ _ _ => recursion_succ) (fun n i p ih => ?_) i p
  rw [hσ i p]
  unfold recursion valueFrom
  cases hc : g.content i p with
  | none => rfl
  | some c =>
    cases c with
    | value v => rfl
    | formula e =>
      have agree : Surroundings.Agree endingSim (fun j q => g.recursion n j q = some (σ j q))
          ⟨g.sheetIndex, g.recursion n⟩ (.given g.sheetIndex σ) :=
        ⟨rfl, fun j q hq => ⟨hq, trivial⟩⟩
      have value := (e.meaning_agree agree i (ih e hc)).value.1
      dsimp only
      rw [value]
      rfl

/-- Two grids have equal values on a set of cells if they have the same contents there and every
formula of the set keeps to it, or belongs to a cell whose values are known to be equal. -/
theorem values_agree (h : g.Layered) (hσ : g.Solves σ) (hτ : g'.Solves τ)
    (sheets : g.sheetIndex = g'.sheetIndex) {A : Nat → Position → Prop}
    (content : ∀ i p, A i p → g.content i p = g'.content i p)
    (closed : ∀ i p, A i p → σ i p = τ i p ∨
      ∀ e, g.content i p = some (.formula e) → e.ReadsWithin g.sheetIndex i A) (i : Nat)
    (p : Position) (hA : A i p) : σ i p = τ i p := by
  induction i, p using h.induction with
  | step i p ih =>
    rcases closed i p hA with known | hreads
    · exact known
    · rw [hσ i p, hτ i p]
      have equal : g.valueFrom σ i p = g.valueFrom τ i p :=
        valueFrom_congr (fun _ _ => id) fun e he =>
          .meet (fun _ _ hA hP => hP hA) e (hreads e he) (ih e he)
      rw [equal]
      unfold valueFrom
      rw [content i p hA, sheets]

end Layered

end Grid

end ShipReport.Formula
