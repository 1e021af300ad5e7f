import ShipReport.Formula.Pattern
import ShipReport.Proofs.Formula.Reads

/-!
# Evaluation with a cache

The evaluator keeps values, primes sheets and cuts off deep nesting. A cache is sound for a solution
of the grid if it keeps only values of the solution, and all formulas of the sheets that it has
primed. On a grid that is layered a sound cache stays sound, and whatever is asked for has the value
of the solution. What one sheet has to do with that is named by `Grid.Primes`.
-/

namespace ShipReport.Formula

/-- A cache keeps only given values, keeps those of the known cells, and has primed given sheets. -/
structure Cache.Holds (σ : Nat → Position → Value) (known : Nat → Position → Prop)
    (primed : List Nat) (c : Cache) : Prop where
  correct : ∀ i p v, c.values[(i, p)]? = some v → v = σ i p
  known : ∀ i p, known i p → c.values[(i, p)]? = some (σ i p)
  primed : c.primed = primed

variable {σ : Nat → Position → Value} {known : Nat → Position → Prop} {primed : List Nat}
  {g : Grid}

/-- Computations with a cache, compared with computations without effects. -/
def cacheSim (σ : Nat → Position → Value) (known : Nat → Position → Prop) (primed : List Nat) :
    Simulation EvalM Id where
  rel P x y := ∀ c : Cache, c.Holds σ known primed →
    (x.run c).1 = y.run ∧ P y.run ∧ (x.run c).2.Holds σ known primed
  rel_pure h := fun _ hc => ⟨rfl, h, hc⟩
  rel_bind {_ _ _ _ x y f g} hx hf := fun c hc => by
    obtain ⟨hxy, hP, hc⟩ := hx c hc
    have hfg := hf y.run hP _ hc
    change ((f (x.run c).1).run (x.run c).2).1 = (g y.run).run ∧ _ ∧
      ((f (x.run c).1).run (x.run c).2).2.Holds σ known primed
    rw [hxy]
    exact hfg

/-- Computations with a cache, compared with computations that record what they read: they agree if
only cells of a set are read. -/
def tracedCacheSim (σ : Nat → Position → Value) (known : Nat → Position → Prop)
    (primed : List Nat) (A : Nat → Position → Prop) : Simulation EvalM Traced where
  rel P x y := (∀ r ∈ y.cells, A r.1 r.2) → ∀ c : Cache, c.Holds σ known primed →
    (x.run c).1 = y.result ∧ P y.result ∧ (x.run c).2.Holds σ known primed
  rel_pure h := fun _ _ hc => ⟨rfl, h, hc⟩
  rel_bind {_ _ _ _ x y f g} hx hf := fun hA c hc => by
    obtain ⟨first, rest⟩ := List.forall_mem_append.mp hA
    obtain ⟨hxy, hP, hc⟩ := hx first c hc
    have hfg := hf y.result hP rest _ hc
    change ((f (x.run c).1).run (x.run c).2).1 = (g y.result).result ∧ _ ∧
      ((f (x.run c).1).run (x.run c).2).2.Holds σ known primed
    rw [hxy]
    exact hfg

/-- The known cells and some cells of one sheet. -/
def withCells (known : Nat → Position → Prop) (i : Nat) (ps : List Position) (j : Nat)
    (q : Position) : Prop :=
  known j q ∨ j = i ∧ q ∈ ps

namespace Cache.Holds

/-- A cache that holds for some cells holds for more of them. -/
lemma weaken {more : Nat → Position → Prop} {c : Cache} (h : c.Holds σ more primed)
    (hk : ∀ i p, known i p → more i p) : c.Holds σ known primed :=
  ⟨h.correct, fun i p hp => h.known i p (hk i p hp), h.primed⟩

/-- A cell whose value is kept may count as known. -/
lemma of_kept {c : Cache} (h : c.Holds σ known primed) {i : Nat} {p : Position} {v : Value}
    (hv : c.values[(i, p)]? = some v) : c.Holds σ (withCells known i [p]) primed := by
  refine ⟨h.correct, ?_, h.primed⟩
  rintro j q (hq | ⟨rfl, hq⟩)
  · exact h.known j q hq
  · obtain rfl := List.mem_singleton.mp hq
    rw [hv, h.correct _ _ _ hv]

/-- Keeping the value of a cell makes it known. -/
lemma remember {c : Cache} (h : c.Holds σ known primed) (i : Nat) (p : Position) :
    ((Grid.remember i p (σ i p)).run c).1 = σ i p ∧
      ((Grid.remember i p (σ i p)).run c).2.Holds σ (withCells known i [p]) primed := by
  refine ⟨rfl, ?_, ?_, h.primed⟩
  · intro j q v hv
    change (c.values.insert (i, p) (σ i p))[(j, q)]? = some v at hv
    rw [Std.HashMap.getElem?_insert] at hv
    split at hv
    · next same =>
      obtain ⟨rfl, rfl⟩ := Prod.mk.inj (eq_of_beq same)
      exact (Option.some.inj hv).symm
    · exact h.correct j q v hv
  · intro j q hq
    change (c.values.insert (i, p) (σ i p))[(j, q)]? = some (σ j q)
    rw [Std.HashMap.getElem?_insert]
    split
    · next same =>
      obtain ⟨rfl, rfl⟩ := Prod.mk.inj (eq_of_beq same)
      rfl
    · next other =>
      rcases hq with hq | ⟨rfl, hq⟩
      · exact h.known j q hq
      · obtain rfl := List.mem_singleton.mp hq
        exact absurd (beq_self_eq_true _) other

end Cache.Holds

namespace Grid

/-- A value that is kept is read from the cache. -/
lemma read_kept {depth i : Nat} {p : Position} {c : Cache} {v : Value}
    (hv : c.values[(i, p)]? = some v) : (g.read depth i p).run c = (v, c) := by
  unfold read
  simp [hv]
  rfl

/-- A cell without a formula is read from the grid and kept. -/
lemma read_plain (hσ : g.Solves σ) {depth i : Nat} {p : Position} {c : Cache}
    (hv : c.values[(i, p)]? = none) (h : ∀ e, g.content i p ≠ some (.formula e)) :
    (g.read depth i p).run c = (remember i p (σ i p)).run c := by
  rw [hσ i p]
  unfold read valueFrom
  cases hc : g.content i p with
  | none => simp [hv]
  | some content =>
    cases content with
    | value v => simp [hv]
    | formula e => exact absurd hc (h e)

/-- A formula is evaluated with one level less, and its value is kept. -/
lemma read_formula {depth i : Nat} {p : Position} {c : Cache} {e : Expr}
    (hv : c.values[(i, p)]? = none) (he : g.content i p = some (.formula e)) :
    (g.read (depth + 1) i p).run c =
      let result := ((e.meaning ⟨g.sheetIndex, g.read depth⟩ i).value).run c
      (remember i p (settled result.1)).run result.2 := by
  conv => lhs; unfold read
  simp [hv, he]
  rfl

/-- Reading a cell that nests within the depth gives its value and makes it known. -/
lemma read_known (hσ : g.Solves σ) {n depth : Nat} (hn : n ≤ depth) {i : Nat} {p : Position}
    (h : g.NestsUnder σ known n i p) {c : Cache} (hc : c.Holds σ known primed) :
    ((g.read depth i p).run c).1 = σ i p ∧
      ((g.read depth i p).run c).2.Holds σ (withCells known i [p]) primed := by
  induction n generalizing depth i p c with
  | zero =>
    cases hv : c.values[(i, p)]? with
    | some v =>
      rw [read_kept hv]
      exact ⟨hc.correct i p v hv, hc.of_kept hv⟩
    | none =>
      unfold NestsUnder at h
      have hp : ¬ known i p := fun hk => by simp [hc.known i p hk] at hv
      rw [read_plain hσ hv (h.resolve_left hp)]
      exact hc.remember i p
  | succ n ih =>
    cases hv : c.values[(i, p)]? with
    | some v =>
      rw [read_kept hv]
      exact ⟨hc.correct i p v hv, hc.of_kept hv⟩
    | none =>
      by_cases hf : ∃ e, g.content i p = some (.formula e)
      · obtain ⟨e, he⟩ := hf
        obtain ⟨depth, rfl⟩ : ∃ d, depth = d + 1 := ⟨depth - 1, by omega⟩
        unfold NestsUnder at h
        have hp : ¬ known i p := fun hk => by simp [hc.known i p hk] at hv
        -- below the formula the reader is the evaluator with one level less
        have agree : Surroundings.Agree
            (tracedCacheSim σ known primed (g.NestsUnder σ known n)) (fun _ _ => True)
            ⟨g.sheetIndex, g.read depth⟩ (.traced g.sheetIndex σ) := by
          refine ⟨rfl, fun j q _ nests c hc => ?_⟩
          have nested : g.NestsUnder σ known n j q := nests (j, q) (List.mem_singleton_self _)
          obtain ⟨hv, hc⟩ := ih (Nat.le_of_succ_le_succ hn) nested hc
          exact ⟨hv, trivial, hc.weaken fun _ _ => .inl⟩
        obtain ⟨hval, -, hc'⟩ := (e.meaning_agree agree i (.of_all (fun _ _ => trivial) e)).value
          (h.resolve_left hp e he) c hc
        rw [read_formula hv he]
        dsimp only
        rw [hval, Expr.result_traced, ← hσ.formula he]
        exact hc'.remember i p
      · rw [read_plain hσ hv fun e he => hf ⟨e, he⟩]
        exact hc.remember i p

/-- Reading a cell gives its value and makes it known, whatever else is known besides a set. -/
def Readable (g : Grid) (σ : Nat → Position → Value) (known : Nat → Position → Prop) (i : Nat)
    (p : Position) : Prop :=
  ∀ (more : Nat → Position → Prop) (primed : List Nat) (c : Cache),
    (∀ j q, known j q → more j q) → c.Holds σ more primed →
      ((g.read depthLimit i p).run c).1 = σ i p ∧
        ((g.read depthLimit i p).run c).2.Holds σ (withCells more i [p]) primed

/-- A cell that is not nested too deeply can be read. -/
lemma NestsUnder.readable (hσ : g.Solves σ) {i : Nat} {p : Position}
    (h : g.NestsUnder σ known depthLimit i p) : g.Readable σ known i p :=
  fun _ _ _ hk hc => read_known hσ (Nat.le_refl _) (h.mono hk) hc

/-- Priming goes through formulas in order, each of which can be read when those before it are
known. -/
lemma primeAll_known {i : Nat} (before ps : List Position)
    (hr : ∀ xs p ys, ps = xs ++ p :: ys → g.Readable σ (among i (before ++ xs)) i p)
    {c : Cache} (hc : c.Holds σ (withCells known i before) primed) :
    ((ps.forM fun p => discard (g.read depthLimit i p)).run c).2.Holds σ
      (withCells known i (before ++ ps)) primed := by
  induction ps generalizing before c with
  | nil =>
    rw [List.append_nil]
    exact hc
  | cons p ps ih =>
    -- the first formula becomes known, and the others are primed after it
    have first : g.Readable σ (among i before) i p := by simpa using hr [] p ps rfl
    have hp := (first _ _ _ (fun _ _ => .inr) hc).2
    have hc' : ((g.read depthLimit i p).run c).2.Holds σ (withCells known i (before ++ [p]))
        primed := by
      refine hp.weaken ?_
      rintro j q (hq | ⟨rfl, hq⟩)
      · exact .inl (.inl hq)
      · rcases List.mem_append.mp hq with hq | hq
        · exact .inl (.inr ⟨rfl, hq⟩)
        · exact .inr ⟨rfl, hq⟩
    have step := ih (before ++ [p]) (fun xs q ys h => by
      simpa using hr (p :: xs) q ys (by rw [h]; rfl)) hc'
    rw [List.append_assoc] at step
    exact step

/-- Priming a sheet gives its formulas their values: all are listed, and each can be read when those
listed before it are known. -/
structure Primes (g : Grid) (σ : Nat → Position → Value) (i : Nat) : Prop where
  listed : ∀ p e, g.content i p = some (.formula e) → p ∈ g.formulas i
  reads : ∀ before p after, g.formulas i = before ++ p :: after →
    g.Readable σ (among i before) i p

/-- A grid in layers can be primed sheet by sheet. -/
lemma LayeredUnder.primes (h : g.LayeredUnder σ) (i : Nat) : g.Primes σ i :=
  ⟨h.listed i, fun before p after hl => (h.nests i before p after hl).readable h.solves⟩

/-- The formulas of some sheets. -/
def formulasOf (g : Grid) (sheets : List Nat) (i : Nat) (p : Position) : Prop :=
  i ∈ sheets ∧ p ∈ g.formulas i

/-- A cache is sound if it keeps only values of a solution, and all formulas of the sheets that it
has primed. -/
def Sound (g : Grid) (σ : Nat → Position → Value) (c : Cache) : Prop :=
  c.Holds σ (g.formulasOf c.primed) c.primed

/-- The empty cache is right about everything it keeps. -/
lemma Sound.empty : g.Sound σ Cache.empty :=
  ⟨fun i p v hv => by simp [Cache.empty] at hv, fun i p h => absurd h.1 List.not_mem_nil, rfl⟩

/-- A cache is sound when it has primed given sheets and knows their formulas. -/
lemma Sound.of_holds {c : Cache} (h : c.Holds σ (g.formulasOf primed) primed) : g.Sound σ c := by
  unfold Sound
  rw [h.primed]
  exact h

/-- A sheet is primed once. -/
lemma prime_primed {i : Nat} {c : Cache} (hi : i ∈ c.primed) : (g.prime i).run c = ((), c) := by
  unfold prime
  simp [hi]
  rfl

/-- Priming a sheet evaluates its formulas. -/
lemma prime_fresh {i : Nat} {c : Cache} (hi : i ∉ c.primed) :
    (g.prime i).run c = ((g.formulas i).forM fun p => discard (g.read depthLimit i p)).run
      { c with primed := i :: c.primed } := by
  unfold prime
  simp [hi]

/-- Priming a sheet keeps a cache sound, and the sheet is primed afterwards. -/
lemma prime_sound {i : Nat} (hi : g.Primes σ i) {c : Cache} (hc : g.Sound σ c) :
    g.Sound σ ((g.prime i).run c).2 ∧ i ∈ ((g.prime i).run c).2.primed := by
  by_cases done : i ∈ c.primed
  · rw [prime_primed done]
    exact ⟨hc, done⟩
  · rw [prime_fresh done]
    -- the sheet counts as primed already while its formulas are read
    have start : Cache.Holds σ (withCells (g.formulasOf c.primed) i []) (i :: c.primed)
        { c with primed := i :: c.primed } := by
      refine ⟨hc.correct, ?_, rfl⟩
      rintro j q (hq | ⟨-, hq⟩)
      · exact hc.known j q hq
      · exact absurd hq List.not_mem_nil
    have run := primeAll_known [] (g.formulas i) (fun xs p ys h => hi.reads xs p ys h) start
    refine ⟨Sound.of_holds (run.weaken ?_), ?_⟩
    · rintro j q ⟨hj, hq⟩
      rcases List.mem_cons.mp hj with rfl | hj
      · exact .inr ⟨rfl, hq⟩
      · exact .inl ⟨hj, hq⟩
    · rw [run.primed]
      exact List.mem_cons_self

/-- A cell of a primed sheet nests nothing that is not known. -/
lemma nests_primed {i : Nat} (listed : ∀ p e, g.content i p = some (.formula e) → p ∈ g.formulas i)
    {sheets : List Nat} (hi : i ∈ sheets) (n : Nat) (p : Position) :
    g.NestsWithin (g.formulasOf sheets) n i p := by
  by_cases hf : ∃ e, g.content i p = some (.formula e)
  · obtain ⟨e, he⟩ := hf
    exact .of_known ⟨hi, listed p e he⟩
  · exact .of_plain fun e he => hf ⟨e, he⟩

/-- On a sheet that priming gives its values the evaluator gives every cell its value, whatever it
has evaluated before, and keeps its cache sound. -/
theorem valueAt_primed (hσ : g.Solves σ) {i : Nat} (hi : g.Primes σ i) (p : Position) {c : Cache}
    (hc : g.Sound σ c) :
    ((g.valueAt i p).run c).1 = σ i p ∧ g.Sound σ ((g.valueAt i p).run c).2 := by
  obtain ⟨hc', done⟩ := prime_sound hi hc
  have nests := (nests_primed hi.listed done depthLimit p).under (σ := σ)
  obtain ⟨hv, hc''⟩ := read_known hσ (Nat.le_refl _) nests hc'
  exact ⟨hv, Sound.of_holds (hc''.weaken fun _ _ => .inl)⟩

/-- A cell of a named sheet that priming gives its values. -/
theorem value_primed (hσ : g.Solves σ) {name : String} {i : Nat}
    (hname : g.sheetIndex name = some i) (hi : g.Primes σ i) (p : Position) :
    ((g.value name p).run Cache.empty).1 = σ i p := by
  unfold value
  simp only [hname]
  exact (valueAt_primed hσ hi p .empty).1

/-- On a layered grid the evaluator gives every cell its value in the solution, whatever it has
evaluated before, and keeps its cache sound. -/
theorem valueAt_solution (hg : g.Layered) (hσ : g.Solves σ) (i : Nat) (p : Position) {c : Cache}
    (hc : g.Sound σ c) :
    ((g.valueAt i p).run c).1 = σ i p ∧ g.Sound σ ((g.valueAt i p).run c).2 :=
  valueAt_primed hσ ((hg.under hσ).primes i) p hc

/-- A cell of a named sheet has its value in the solution. -/
theorem value_solution (hg : g.Layered) (hσ : g.Solves σ) {name : String} {i : Nat}
    (hi : g.sheetIndex name = some i) (p : Position) :
    ((g.value name p).run Cache.empty).1 = σ i p :=
  value_primed hσ hi ((hg.under hσ).primes i) p

/-- The evaluator agrees with a solution on all cells that nest within the limit. -/
lemma surroundings_agree (hσ : g.Solves σ) (known : Nat → Position → Prop) (primed : List Nat) :
    Surroundings.Agree (cacheSim σ known primed) (g.NestsWithin known depthLimit) g.surroundings
      (.given g.sheetIndex σ) := by
  refine ⟨rfl, fun j q hq c hc => ?_⟩
  obtain ⟨hv, hc⟩ := read_known hσ (Nat.le_refl _) hq.under hc
  exact ⟨hv, trivial, hc.weaken fun _ _ => .inl⟩

/-- Reading the cells of a target gives their values in the solution. -/
lemma valuesAt_solution (hσ : g.Solves σ) {t : Target} {c : Cache}
    (hc : c.Holds σ known primed)
    (ht : ∀ p ∈ t.range.positions, g.NestsWithin known depthLimit t.sheet p) :
    ((g.surroundings.valuesAt t).run c).1 = t.range.positions.map (σ t.sheet) := by
  rw [((surroundings_agree hσ known primed).valuesAt ht c hc).1]
  simp [Surroundings.valuesAt, Surroundings.given]

/-- A sheet is primed, the range is found, and its cells are read. -/
lemma rangeValues_run (i : Nat) (e : Expr) (c : Cache) :
    ((g.rangeValues i e).run c).1 =
      let found := (e.meaning g.surroundings i).target.run ((g.prime i).run c).2
      found.1.map fun t => ((g.surroundings.valuesAt t).run found.2).1 := by
  unfold rangeValues
  rw [StateT.run_bind]
  change (((e.meaning g.surroundings i).target >>= _).run ((g.prime i).run c).2).1 = _
  rw [StateT.run_bind]
  obtain ⟨r, c'⟩ := (e.meaning g.surroundings i).target.run ((g.prime i).run c).2
  cases r <;> rfl

/-- The cells of the range that an expression names have their values in the solution, if the range
is the same whichever way cells are read. -/
lemma rangeValues_solution (hg : g.Layered) (hσ : g.Solves σ) {i : Nat} {e : Expr}
    (he : ∀ primed, i ∈ primed → (cacheSim σ (g.formulasOf primed) primed).rel anything
      (e.meaning g.surroundings i).target (e.meaning (.given g.sheetIndex σ) i).target)
    (hr : ∀ t, e.targetUnder g.sheetIndex σ i = .ok t → ∀ p ∈ t.range.positions,
      g.NestsWithin (g.formulasOf [i]) depthLimit t.sheet p) :
    ((g.rangeValues i e).run Cache.empty).1 =
      (e.targetUnder g.sheetIndex σ i).map fun t => t.range.positions.map (σ t.sheet) := by
  obtain ⟨hc, hi⟩ := prime_sound ((hg.under hσ).primes i) Sound.empty
  obtain ⟨ht, -, hc'⟩ := he _ hi _ hc
  rw [rangeValues_run]
  dsimp only
  rw [ht, ← Expr.targetUnder]
  cases htarget : e.targetUnder g.sheetIndex σ i with
  | error f => rfl
  | ok t =>
    -- priming may have primed more sheets, which only makes more cells known
    have nests : ∀ p ∈ t.range.positions,
        g.NestsWithin (g.formulasOf ((g.prime i).run Cache.empty).2.primed) depthLimit t.sheet p :=
      fun p hp => (hr t htarget p hp).mono
        (fun j q hq => ⟨List.mem_singleton.mp hq.1 ▸ hi, hq.2⟩) (Nat.le_refl _)
    exact congrArg Except.ok (valuesAt_solution hσ hc' nests)

/-- A range on a sheet without formulas holds the values of the solution. -/
theorem rangeValues_range (hg : g.Layered) (hσ : g.Solves σ) (i : Nat) {r : RangeRef} {t : Target}
    (ht : g.surroundings.targetOf i r = .ok t)
    (hp : ∀ p ∈ t.range.positions, ∀ e, g.content t.sheet p ≠ some (.formula e)) :
    ((g.rangeValues i (.range r)).run Cache.empty).1 =
      .ok (t.range.positions.map (σ t.sheet)) := by
  have found : (Expr.range r).targetUnder g.sheetIndex σ i = .ok t := by
    unfold Expr.targetUnder
    simp only [Expr.meaning]
    rw [← ht]
    exact Surroundings.targetOf_congr rfl i r
  rw [rangeValues_solution hg hσ, found]
  · rfl
  · intro primed _
    simp only [Expr.meaning]
    exact (cacheSim σ _ _).rel_pure trivial
  · intro t' ht' p hpos
    obtain rfl := Except.ok.inj (found.symm.trans ht')
    exact .of_plain (hp p hpos)

/-- A range whose address stands in a cell of the same sheet holds the values of the solution, if it
holds no formulas. -/
theorem rangeValues_listAt (hg : g.Layered) (hσ : g.Solves σ) (i : Nat) {helper : CellRef}
    (hh : helper.sheet = none)
    (hp : ∀ t, (Pattern.listAt helper).targetUnder g.sheetIndex σ i = .ok t →
      ∀ p ∈ t.range.positions, ∀ e, g.content t.sheet p ≠ some (.formula e)) :
    ((g.rangeValues i (Pattern.listAt helper)).run Cache.empty).1 =
      ((Pattern.listAt helper).targetUnder g.sheetIndex σ i).map fun t =>
        t.range.positions.map (σ t.sheet) := by
  refine rangeValues_solution hg hσ ?_ fun t ht p hpos => .of_plain (hp t ht p hpos)
  intro primed hi
  have agree := surroundings_agree hσ (g.formulasOf primed) primed
  have reads : (Expr.cell helper).ReadsWithin g.sheetIndex i
      (g.NestsWithin (g.formulasOf primed) depthLimit) := by
    simp only [Expr.ReadsWithin, RangeRef.Within, RangeRef.cell, hh]
    exact fun p _ => nests_primed (hg.listed i) hi depthLimit p
  have cell := ((Expr.cell helper).meaning_agree agree i reads).value
  unfold Pattern.listAt
  simp only [Expr.meaning, meanings, Meaning.call, Meaning.ofTarget]
  simp only [Expr.meaning] at cell
  exact Meaning.Agree.indirect agree.sheetIndex i cell

end Grid

end ShipReport.Formula
