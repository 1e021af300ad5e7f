import ShipReport.Proofs.Formula.Layers

/-!
# Cells that formulas read

Which cells a formula reads depends on their values: a conditional leaves one branch alone, and
`INDIRECT` follows an address. When the values of all cells are given, the cells that are read are
recorded along with the value. `Grid.NestsUnder` says how deep the formulas behind a cell are nested
by what they read, and a grid is `Grid.LayeredUnder` a solution if by that measure its formulas nest
within the limit when the formulas before them on their sheet are known.
-/

namespace ShipReport.Formula

/-! ## Records of what is read -/

/-- A result with the cells that were read for it, in their order. -/
@[ext]
structure Traced (α : Type) where
  result : α
  cells : List (Nat × Position)

namespace Traced

instance : Monad Traced where
  pure a := ⟨a, []⟩
  bind x f := ⟨(f x.result).result, x.cells ++ (f x.result).cells⟩

variable {α β : Type}

/-- The result of two runs is that of the second. -/
lemma result_bind (x : Traced α) (f : α → Traced β) :
    (x >>= f).result = (f x.result).result := rfl

/-- What two runs read is read by one after the other. -/
lemma cells_bind (x : Traced α) (f : α → Traced β) :
    (x >>= f).cells = x.cells ++ (f x.result).cells := rfl

instance : LawfulMonad Traced :=
  LawfulMonad.mk' _ (fun x => Traced.ext rfl (List.append_nil x.cells)) (fun _ _ => rfl)
    fun x _ _ => Traced.ext rfl (List.append_assoc x.cells _ _)

end Traced

/-- The surroundings of formulas when the values of all cells are given, with a record of what is
read. -/
def Surroundings.traced (index : String → Option Nat) (σ : Nat → Position → Value) :
    Surroundings Traced :=
  ⟨index, fun i p => ⟨σ i p, [(i, p)]⟩⟩

/-- The cells that the value of an expression is made from when the values of all cells are given.
-/
def Expr.cellsRead (index : String → Option Nat) (σ : Nat → Position → Value) (sheet : Nat)
    (e : Expr) : List (Nat × Position) :=
  (e.meaning (.traced index σ) sheet).value.cells

/-- Computations with a record of cells of a set, compared with computations without effects. -/
def traceSim (A : Nat → Position → Prop) : Simulation Traced Id where
  rel P x y := (x.result = y.run ∧ P y.run) ∧ ∀ c ∈ x.cells, A c.1 c.2
  rel_pure h := ⟨⟨rfl, h⟩, nofun⟩
  rel_bind {_ _ _ _ x y f g} hx hf := by
    obtain ⟨⟨hxy, hP⟩, first⟩ := hx
    obtain ⟨result, rest⟩ := hf y.run hP
    refine ⟨?_, ?_⟩
    · rw [Traced.result_bind, hxy]
      exact result
    · rw [Traced.cells_bind, hxy]
      exact List.forall_mem_append.mpr ⟨first, rest⟩

section

variable {index : String → Option Nat} {σ : Nat → Position → Value} {i : Nat}
  {A : Nat → Position → Prop}

/-- Recording what is read changes no value. -/
lemma traced_agree : Surroundings.Agree (traceSim A) A (.traced index σ) (.given index σ) :=
  ⟨rfl, fun _ _ h => ⟨⟨rfl, trivial⟩, List.forall_mem_singleton.mpr h⟩⟩

/-- A record does not change the value. -/
lemma Expr.result_traced (e : Expr) :
    (e.meaning (.traced index σ) i).value.result = e.valueUnder index σ i := by
  have agree : Surroundings.Agree (traceSim fun _ _ => True) (fun _ _ => True) (.traced index σ)
      (.given index σ) := traced_agree
  exact (e.meaning_agree agree i (.of_all (fun _ _ => trivial) e)).value.1.1

/-- An expression reads only cells that it looks at. -/
lemma Expr.ReadsWithin.cellsRead {e : Expr} (h : e.ReadsWithin index i A) :
    ∀ c ∈ e.cellsRead index σ i, A c.1 c.2 :=
  (e.meaning_agree traced_agree i h).value.2

end

/-! ## Nesting by what is read -/

namespace Grid

/-- By what they read under given values, the formulas behind a cell are nested at most `n` deep
when the cells of a set are known. -/
def NestsUnder (g : Grid) (σ : Nat → Position → Value) (known : Nat → Position → Prop) (n : Nat)
    (i : Nat) (p : Position) : Prop :=
  known i p ∨ ∀ e, g.content i p = some (.formula e) →
    match n with
    | 0 => False
    | n + 1 => ∀ c ∈ e.cellsRead g.sheetIndex σ i, g.NestsUnder σ known n c.1 c.2

/-- All formulas of a grid are listed, and under a solution each nests within the limit when the
formulas listed before it are known. -/
structure LayeredUnder (g : Grid) (σ : Nat → Position → Value) : Prop where
  solves : g.Solves σ
  listed : ∀ i p e, g.content i p = some (.formula e) → p ∈ g.formulas i
  nests : ∀ i before p after, g.formulas i = before ++ p :: after →
    g.NestsUnder σ (among i before) depthLimit i p

variable {g : Grid} {σ : Nat → Position → Value} {known more : Nat → Position → Prop}

/-- What nests within a depth also does when more cells are known. -/
lemma NestsUnder.mono (hk : ∀ i p, known i p → more i p) {n i : Nat} {p : Position}
    (h : g.NestsUnder σ known n i p) : g.NestsUnder σ more n i p := by
  induction n generalizing i p with
  | zero =>
    unfold NestsUnder at h ⊢
    exact h.imp_left (hk i p)
  | succ n ih =>
    unfold NestsUnder at h ⊢
    exact h.imp (hk i p) fun h e he c hc => ih (h e he c hc)

/-- Formulas nest no deeper by what they read than by what they look at. -/
lemma NestsWithin.under {n i : Nat} {p : Position} (h : g.NestsWithin known n i p) :
    g.NestsUnder σ known n i p := by
  induction n generalizing i p with
  | zero =>
    unfold NestsWithin at h
    unfold NestsUnder
    exact h
  | succ n ih =>
    unfold NestsWithin at h
    unfold NestsUnder
    exact h.imp_right fun h e he c hc => ih ((h e he).cellsRead c hc)

/-- A layered grid is layered under its solution. -/
lemma Layered.under (h : g.Layered) (hσ : g.Solves σ) : g.LayeredUnder σ :=
  ⟨hσ, h.listed, fun i before p after hl => (h.nests i before p after hl).under⟩

end Grid

end ShipReport.Formula
