import ShipReport.Proofs.Formula.Kept

/-!
# What a value depends on

An expression without `INDIRECT` looks only at the cells and ranges that are written in it. So where
none of these cells holds a formula, its value depends on nothing else: two grids with the same
sheets that have the same contents there give it the same value, whatever else they hold and
whatever their evaluators were asked before.
-/

namespace ShipReport.Formula

namespace Expr

mutual

/-- The ranges that an expression refers to, from left to right; single cells are not among them. -/
def rangeRefs : Expr → List RangeRef
  | .literal _ | .cell _ => []
  | .range ref => [ref]
  | .call _ args => rangeRefsOfAll args
  | .conditional test yes no => test.rangeRefs ++ yes.rangeRefs ++ no.rangeRefs
  | .binary _ lhs rhs => lhs.rangeRefs ++ rhs.rangeRefs

/-- The ranges that a list of expressions refers to. -/
def rangeRefsOfAll : List Expr → List RangeRef
  | [] => []
  | e :: es => e.rangeRefs ++ rangeRefsOfAll es

end

mutual

/-- Decides whether a function is called anywhere in an expression. -/
def calls (f : Function) : Expr → Bool
  | .literal _ | .cell _ | .range _ => false
  | .call g args => g == f || anyCalls f args
  | .conditional test yes no => test.calls f || yes.calls f || no.calls f
  | .binary _ lhs rhs => lhs.calls f || rhs.calls f

/-- Decides whether a function is called anywhere in a list of expressions. -/
def anyCalls (f : Function) : List Expr → Bool
  | [] => false
  | e :: es => e.calls f || anyCalls f es

end

end Expr

section

variable {index : String → Option Nat} {current : Nat} {A : Nat → Position → Prop}

mutual

/-- Without `INDIRECT` an expression looks only at the cells and ranges that are written in it. -/
lemma Expr.readsWithin_of_refs : ∀ e : Expr, e.calls .indirect = false →
    (∀ r ∈ e.cellRefs, (RangeRef.cell r.sheet r.position).Within index current A) →
    (∀ r ∈ e.rangeRefs, r.Within index current A) → e.ReadsWithin index current A
  | .literal _, _, _, _ => by simp only [Expr.ReadsWithin]
  | .cell _, _, cells, _ => by
    simp only [Expr.ReadsWithin]
    exact cells _ (List.mem_singleton_self _)
  | .range _, _, _, ranges => by
    simp only [Expr.ReadsWithin]
    exact ranges _ (List.mem_singleton_self _)
  | .call f args, direct, cells, ranges => by
    simp only [Expr.calls, Bool.or_eq_false_iff, beq_eq_false_iff_ne] at direct
    simp only [Expr.cellRefs, Expr.rangeRefs] at cells ranges
    simp only [Expr.ReadsWithin]
    exact ⟨fun hf => absurd hf direct.1, allReadWithin_of_refs args direct.2 cells ranges⟩
  | .conditional test yes no, direct, cells, ranges => by
    simp only [Expr.calls, Bool.or_eq_false_iff] at direct
    simp only [Expr.cellRefs, Expr.rangeRefs, List.forall_mem_append] at cells ranges
    simp only [Expr.ReadsWithin]
    exact ⟨test.readsWithin_of_refs direct.1.1 cells.1.1 ranges.1.1,
      yes.readsWithin_of_refs direct.1.2 cells.1.2 ranges.1.2,
      no.readsWithin_of_refs direct.2 cells.2 ranges.2⟩
  | .binary _ lhs rhs, direct, cells, ranges => by
    simp only [Expr.calls, Bool.or_eq_false_iff] at direct
    simp only [Expr.cellRefs, Expr.rangeRefs, List.forall_mem_append] at cells ranges
    simp only [Expr.ReadsWithin]
    exact ⟨lhs.readsWithin_of_refs direct.1 cells.1 ranges.1,
      rhs.readsWithin_of_refs direct.2 cells.2 ranges.2⟩

/-- A list of expressions without indirection reads only the cells and ranges named in them. -/
lemma allReadWithin_of_refs : ∀ es : List Expr, Expr.anyCalls .indirect es = false →
    (∀ r ∈ Expr.cellRefsOfAll es, (RangeRef.cell r.sheet r.position).Within index current A) →
    (∀ r ∈ Expr.rangeRefsOfAll es, r.Within index current A) → allReadWithin index current A es
  | [], _, _, _ => by simp only [allReadWithin]
  | e :: es, direct, cells, ranges => by
    simp only [Expr.anyCalls, Bool.or_eq_false_iff] at direct
    simp only [Expr.cellRefsOfAll, Expr.rangeRefsOfAll, List.forall_mem_append] at cells ranges
    simp only [allReadWithin]
    exact ⟨e.readsWithin_of_refs direct.1 cells.1 ranges.1,
      allReadWithin_of_refs es direct.2 cells.2 ranges.2⟩

end

end

/-! ## Properties that caches keep -/

variable {α β : Type} {I J : Cache → Prop} {P : α → Prop} {Q : β → Prop}

/-- A computation that leaves a cache with a property if it starts from one. -/
def Preserves (I : Cache → Prop) (P : α → Prop) (x : EvalM α) : Prop :=
  ∀ c : Cache, I c → P (x.run c).1 ∧ I (x.run c).2

namespace Preserves

/-- A run that only gives a value preserves what holds. -/
lemma pure {a : α} (h : P a) : Preserves I P (Pure.pure a) :=
  fun _ hc => ⟨h, hc⟩

/-- Two runs that preserve what holds do so one after the other. -/
lemma bind {x : EvalM α} {f : α → EvalM β} (hx : Preserves I P x)
    (hf : ∀ a, P a → Preserves I Q (f a)) : Preserves I Q (x >>= f) := by
  intro c hc
  obtain ⟨hP, hc'⟩ := hx c hc
  exact hf _ hP _ hc'

/-- A run for each of a list preserves what holds if each one does. -/
lemma forM {f : α → EvalM Unit} (as : List α) (hf : ∀ a, Preserves I anything (f a)) :
    Preserves I anything (as.forM f) := by
  induction as with
  | nil => exact pure trivial
  | cons a as ih => exact (hf a).bind fun _ _ => ih

end Preserves

/-- Computations that leave a cache with a property. -/
def preservingSim (I : Cache → Prop) : Simulation EvalM EvalM where
  rel P x _ := Preserves I P x
  rel_pure := Preserves.pure
  rel_bind hx hf := hx.bind hf

/-- Computations from two caches, each with a property of its own, that have the same result. -/
def twoCacheSim (I J : Cache → Prop) : Simulation EvalM EvalM where
  rel P x y := ∀ c d : Cache, I c → J d →
    (x.run c).1 = (y.run d).1 ∧ P (y.run d).1 ∧ I (x.run c).2 ∧ J (y.run d).2
  rel_pure h := fun _ _ hc hd => ⟨rfl, h, hc, hd⟩
  rel_bind {_ _ _ _ x y f g} hx hf := fun c d hc hd => by
    obtain ⟨hxy, hP, hc, hd⟩ := hx c d hc hd
    have hfg := hf (y.run d).1 hP _ _ hc hd
    change ((f (x.run c).1).run (x.run c).2).1 = ((g (y.run d).1).run (y.run d).2).1 ∧ _ ∧
      I ((f (x.run c).1).run (x.run c).2).2 ∧ J ((g (y.run d).1).run (y.run d).2).2
    rw [hxy]
    exact hfg

namespace Grid

variable {g g' : Grid} {i : Nat} {p : Position} {v w : Value} {c c' : Cache}

/-! ## Cells without formulas -/

/-- The cell holds no formula, and its value is the given one. -/
def Shows (g : Grid) (i : Nat) (p : Position) (v : Value) : Prop :=
  g.content i p = none ∧ v = .empty ∨ g.content i p = some (.value v)

/-- A cache keeps for cells without formulas only their values. -/
def Faithful (g : Grid) (c : Cache) : Prop :=
  ∀ i p v w, g.Shows i p v → c.values[(i, p)]? = some w → w = v

/-- Nothing is kept at the start, so that nothing kept is wrong. -/
lemma Faithful.empty : g.Faithful Cache.empty :=
  fun i p v w _ hw => by simp [Cache.empty] at hw

/-- Keeping a value that the cell shows, if it shows one, leaves a faithful cache. -/
lemma remember_faithful (h : ∀ w, g.Shows i p w → v = w) :
    Preserves g.Faithful anything (remember i p v) := by
  refine fun c hc => ⟨trivial, fun j q w u shown hu => ?_⟩
  change (c.values.insert (i, p) v)[(j, q)]? = some u at hu
  rw [Std.HashMap.getElem?_insert] at hu
  split at hu
  · next same =>
    obtain ⟨rfl, rfl⟩ := Prod.mk.inj (eq_of_beq same)
    exact (Option.some.inj hu).symm.trans (h w shown)
  · exact hc j q w u shown hu

/-- A cell with a formula shows no value by itself. -/
lemma Shows.not_formula (h : g.Shows i p v) (e : Expr) : g.content i p ≠ some (.formula e) := by
  intro he
  rcases h with ⟨none, -⟩ | some
  · cases he.symm.trans none
  · cases he.symm.trans some

/-- Reading a cell without a formula gives what it shows. -/
lemma read_shown (depth : Nat) (h : g.Shows i p v) (hc : g.Faithful c) :
    ((g.read depth i p).run c).1 = v := by
  cases hv : c.values[(i, p)]? with
  | some w =>
    rw [read_kept hv]
    exact hc i p v w h hv
  | none =>
    unfold read
    rcases h with ⟨none, rfl⟩ | some
    · simp [hv, none]
      rfl
    · simp [hv, some]
      rfl

/-! ## Evaluations leave faithful caches -/

/-- Reading a cell leaves a faithful cache if evaluating its formula does. -/
lemma read_faithful_of_formula {depth : Nat}
    (hf : ∀ e, g.content i p = some (.formula e) → ∀ c, c.values[(i, p)]? = none → g.Faithful c →
      g.Faithful ((g.read depth i p).run c).2) :
    Preserves g.Faithful anything (g.read depth i p) := by
  refine fun c hc => ⟨trivial, ?_⟩
  cases hv : c.values[(i, p)]? with
  | some w =>
    rw [read_kept hv]
    exact hc
  | none =>
    by_cases he : ∃ e, g.content i p = some (.formula e)
    · obtain ⟨e, he⟩ := he
      exact hf e he c hv hc
    · obtain ⟨w, hw⟩ := read_content depth hv fun e h => he ⟨e, h⟩
      -- what is kept for the cell is what is read from it
      have shown : ∀ u, g.Shows i p u → w = u := fun u hu => by
        rw [← read_shown depth hu hc, hw]
        rfl
      rw [hw]
      exact (remember_faithful shown c hc).2

/-- Reading a cell leaves a faithful cache. -/
lemma read_faithful (depth i : Nat) (p : Position) :
    Preserves g.Faithful anything (g.read depth i p) := by
  induction depth generalizing i p with
  | zero =>
    refine read_faithful_of_formula fun e he c hv hc => ?_
    rw [read_cut hv he]
    exact hc
  | succ depth ih =>
    refine read_faithful_of_formula fun e he c hv hc => ?_
    have agree : Surroundings.Agree (preservingSim g.Faithful) (fun _ _ => True)
        ⟨g.sheetIndex, g.read depth⟩ ⟨g.sheetIndex, g.read depth⟩ :=
      ⟨rfl, fun j q _ => ih j q⟩
    have value := (e.meaning_agree agree i (.of_all (fun _ _ => trivial) e)).value
    rw [read_formula hv he]
    exact (remember_faithful (fun w hw => absurd he (hw.not_formula e)) _ (value c hc).2).2

/-- Priming a sheet leaves a faithful cache. -/
lemma prime_faithful (i : Nat) : Preserves g.Faithful anything (g.prime i) := by
  refine fun c hc => ⟨trivial, ?_⟩
  by_cases hi : i ∈ c.primed
  · rw [prime_primed hi]
    exact hc
  · have each (p : Position) : Preserves g.Faithful anything
        (discard (g.read depthLimit i p)) :=
      fun c hc => ⟨trivial, (read_faithful depthLimit i p c hc).2⟩
    rw [prime_fresh hi]
    exact (Preserves.forM (g.formulas i) each { c with primed := i :: c.primed } hc).2

/-- Reading in a grid keeps the cache faithful. -/
lemma surroundings_faithful : Surroundings.Agree (preservingSim g.Faithful) (fun _ _ => True)
    g.surroundings g.surroundings :=
  ⟨rfl, fun j q _ => read_faithful depthLimit j q⟩

/-- Evaluating an expression leaves a faithful cache. -/
lemma eval_faithful (i : Nat) (e : Expr) : Preserves g.Faithful anything (g.eval i e) :=
  (e.meaning_agree surroundings_faithful i (.of_all (fun _ _ => trivial) e)).value

/-- Asking for a cell keeps the cache faithful. -/
lemma valueAt_faithful (i : Nat) (p : Position) :
    Preserves g.Faithful anything (g.valueAt i p) :=
  (prime_faithful i).bind fun _ _ => read_faithful depthLimit i p

/-- Asking for a cell by the name of its sheet keeps the cache faithful. -/
lemma value_faithful (name : String) (p : Position) :
    Preserves g.Faithful anything (g.value name p) := by
  unfold value
  cases g.sheetIndex name with
  | some i => exact valueAt_faithful i p
  | none => exact .pure trivial

/-- Evaluating a range leaves a faithful cache. -/
lemma rangeValues_faithful (i : Nat) (e : Expr) :
    Preserves g.Faithful anything (g.rangeValues i e) := by
  have found := (e.meaning_agree (surroundings_faithful (g := g)) i
    (.of_all (fun _ _ => trivial) e)).target
  refine (prime_faithful i).bind fun _ _ => Preserves.bind found fun t ht => ?_
  cases t with
  | error f => exact .pure trivial
  | ok t => exact Preserves.bind (surroundings_faithful.valuesAt ht) fun _ _ => .pure trivial

/-- The caches that an evaluator can have: at first nothing is kept, then what was evaluated left
it. -/
inductive Arises (g : Grid) : Cache → Prop where
  | fresh : g.Arises Cache.empty
  | value {c : Cache} (h : g.Arises c) (name : String) (p : Position) :
      g.Arises ((g.value name p).run c).2
  | valueAt {c : Cache} (h : g.Arises c) (i : Nat) (p : Position) :
      g.Arises ((g.valueAt i p).run c).2
  | eval {c : Cache} (h : g.Arises c) (i : Nat) (e : Expr) : g.Arises ((g.eval i e).run c).2
  | rangeValues {c : Cache} (h : g.Arises c) (i : Nat) (e : Expr) :
      g.Arises ((g.rangeValues i e).run c).2

/-- Whatever was evaluated, the cache is faithful. -/
lemma Arises.faithful (h : g.Arises c) : g.Faithful c := by
  induction h with
  | fresh => exact .empty
  | value _ name p ih => exact (value_faithful name p _ ih).2
  | valueAt _ i p ih => exact (valueAt_faithful i p _ ih).2
  | eval _ i e ih => exact (eval_faithful i e _ ih).2
  | rangeValues _ i e ih => exact (rangeValues_faithful i e _ ih).2

/-! ## Two grids -/

/-- Two grids have the same content in a cell, which is no formula. -/
def SamePlain (g g' : Grid) (i : Nat) (p : Position) : Prop :=
  g.content i p = g'.content i p ∧ ∀ e, g.content i p ≠ some (.formula e)

/-- Both grids show the same value in the cell. -/
lemma SamePlain.shows (h : g.SamePlain g' i p) : ∃ v, g.Shows i p v ∧ g'.Shows i p v := by
  obtain ⟨same, plain⟩ := h
  cases hc : g.content i p with
  | none => exact ⟨.empty, .inl ⟨hc, rfl⟩, .inl ⟨same ▸ hc, rfl⟩⟩
  | some content =>
    cases content with
    | value v => exact ⟨v, .inr hc, .inr (same ▸ hc)⟩
    | formula e => exact absurd hc (plain e)

/-- Two evaluators agree on the cells in which their grids have the same plain content. -/
lemma surroundings_samePlain (sheets : g.sheetIndex = g'.sheetIndex) :
    Surroundings.Agree (twoCacheSim g.Faithful g'.Faithful) (g.SamePlain g') g.surroundings
      g'.surroundings := by
  refine ⟨sheets, fun i p same c d hc hd => ?_⟩
  obtain ⟨v, shown, shown'⟩ := same.shows
  refine ⟨(read_shown depthLimit shown hc).trans (read_shown depthLimit shown' hd).symm, trivial,
    (read_faithful depthLimit i p c hc).2, (read_faithful depthLimit i p d hd).2⟩

/-- Two grids with the same sheets give an expression without `INDIRECT` the same value, if they
have the same contents in the cells that it refers to and in those of its ranges, and none of these
is a formula. What else the grids hold does not matter, nor what was evaluated before. -/
theorem eval_of_refs_agree {e : Expr} {sheet : Nat} (sheets : g.sheetIndex = g'.sheetIndex)
    (direct : e.calls .indirect = false)
    (cells : ∀ r ∈ e.cellRefs,
      (RangeRef.cell r.sheet r.position).Within g.sheetIndex sheet (g.SamePlain g'))
    (ranges : ∀ r ∈ e.rangeRefs, r.Within g.sheetIndex sheet (g.SamePlain g'))
    (hc : g.Arises c) (hc' : g'.Arises c') :
    ((g.eval sheet e).run c).1 = ((g'.eval sheet e).run c').1 := by
  have reads : e.ReadsWithin g.surroundings.sheetIndex sheet (g.SamePlain g') :=
    e.readsWithin_of_refs direct cells ranges
  have agree := (e.meaning_agree (surroundings_samePlain sheets) sheet reads).value
  exact (agree c c' hc.faithful hc'.faithful).1

end Grid

namespace Sample

/-- A price list on the second sheet, the name of a fuel on the first one, and a cell beside it. -/
def priceGrid (beside : Content) : Grid where
  sheetIndex name := ["Data", "Lookup"].idxOf? name
  content i p :=
    if i = 0 ∧ p = ⟨1, 5⟩ then some beside
    else if i = 0 ∧ p = ⟨1, 0⟩ then some (.value (.text "mgo"))
    else if i = 1 ∧ p = ⟨1, 0⟩ then some (.value (.text "HFO"))
    else if i = 1 ∧ p = ⟨2, 0⟩ then some (.value (.text "MGO"))
    else if i = 1 ∧ p = ⟨2, 1⟩ then some (.value (.number 640))
    else none
  formulas
    | 0 => [⟨1, 5⟩]
    | _ => []

/-- The price of the fuel, blank if it is not in the list. -/
def fuelPrice : Expr :=
  Pattern.keyedLookup (.cell (.here 1 0)) (.column "Lookup" 0 1 2) (.column "Lookup" 1 1 2)

/-- The grids differ in one cell only, and elsewhere they hold no formulas. -/
lemma priceGrid_samePlain {beside beside' : Content} {i : Nat} {p : Position}
    (other : ¬ (i = 0 ∧ p = ⟨1, 5⟩)) :
    (priceGrid beside).SamePlain (priceGrid beside') i p := by
  unfold Grid.SamePlain priceGrid
  dsimp only
  rw [if_neg other, if_neg other]
  refine ⟨rfl, fun e he => ?_⟩
  split_ifs at he
  all_goals cases he

/-- The price does not depend on the cell beside the name of the fuel, though that is a formula in
one grid, and its evaluator was asked for it before. -/
theorem fuelPrice_same :
    (priceGrid (.value (.number 1))).sheetIndex = (priceGrid (.formula fuelPrice)).sheetIndex ∧
      fuelPrice.calls .indirect = false ∧
      ((priceGrid (.value (.number 1))).eval 0 fuelPrice |>.run Cache.empty).1 =
        ((priceGrid (.formula fuelPrice)).eval 0 fuelPrice |>.run
          (((priceGrid (.formula fuelPrice)).valueAt 0 ⟨1, 5⟩).run Cache.empty).2).1 := by
  have direct : fuelPrice.calls .indirect = false := by decide
  refine ⟨rfl, direct, Grid.eval_of_refs_agree rfl direct (fun r hr => ?_) (fun r hr => ?_) .fresh
    (.valueAt .fresh 0 ⟨1, 5⟩)⟩
  · have cell : fuelPrice.cellRefs = [.here 1 0] := rfl
    rw [cell] at hr
    obtain rfl := List.mem_singleton.mp hr
    intro p hp
    refine priceGrid_samePlain fun same => ?_
    obtain rfl := same.2
    exact absurd hp (by decide)
  · have ranges : fuelPrice.rangeRefs =
        [.column "Lookup" 1 1 2, .column "Lookup" 0 1 2] := rfl
    rw [ranges] at hr
    -- the list stands on the second sheet
    have lookup : r.sheet = some "Lookup" := by
      rcases List.mem_pair.mp hr with rfl | rfl <;> rfl
    unfold RangeRef.Within
    rw [lookup]
    intro i hi p _
    refine priceGrid_samePlain fun same => ?_
    rw [same.1] at hi
    exact absurd hi (by decide)

end Sample

end ShipReport.Formula
