import ShipReport.Proofs.Formula.Evaluation

/-!
# Values that are kept

Once a value is kept for a cell it stays, whatever is evaluated afterwards, and it is the answer
whenever the cell is asked for. So a value that was kept too early, when formulas had been nested
too deep, is not mended by priming the sheet of the cell later.
-/

namespace ShipReport.Formula

variable {α β : Type} {k : Nat × Position} {v : Value} {P : α → Prop} {Q : β → Prop}

/-- A computation that leaves the value kept for a cell, and whose result then has a property. -/
def Keeping (k : Nat × Position) (v : Value) (P : α → Prop) (x : EvalM α) : Prop :=
  ∀ c : Cache, c.values[k]? = some v → P (x.run c).1 ∧ (x.run c).2.values[k]? = some v

namespace Keeping

/-- A run that only gives a value keeps what is kept. -/
lemma pure {a : α} (h : P a) : Keeping k v P (Pure.pure a) :=
  fun _ hc => ⟨h, hc⟩

/-- Two runs that keep what is kept do so one after the other. -/
lemma bind {x : EvalM α} {f : α → EvalM β} (hx : Keeping k v P x)
    (hf : ∀ a, P a → Keeping k v Q (f a)) : Keeping k v Q (x >>= f) := by
  intro c hc
  obtain ⟨hP, hc'⟩ := hx c hc
  exact hf _ hP _ hc'

/-- Among the results of a list of computations are those of each. -/
lemma mapM {f : α → EvalM β} {R : α → β → Prop} (as : List α)
    (hf : ∀ a, Keeping k v (R a) (f a)) :
    Keeping k v (fun bs => ∀ a ∈ as, ∃ b ∈ bs, R a b) (as.mapM f) := by
  induction as with
  | nil => exact pure nofun
  | cons a as ih =>
    rw [List.mapM_cons]
    refine (hf a).bind fun b hb => ih.bind fun bs hbs => pure ?_
    refine List.forall_mem_cons.mpr ⟨⟨b, List.mem_cons_self, hb⟩, fun a' ha' => ?_⟩
    obtain ⟨b', hb', h⟩ := hbs a' ha'
    exact ⟨b', List.mem_cons_of_mem _ hb', h⟩

/-- A run for each of a list keeps what is kept if each one does. -/
lemma forM {f : α → EvalM Unit} (as : List α) (hf : ∀ a, Keeping k v anything (f a)) :
    Keeping k v anything (as.forM f) := by
  induction as with
  | nil => exact pure trivial
  | cons a as ih => exact (hf a).bind fun _ _ => ih

end Keeping

/-- Computations that leave the value kept for a cell. -/
def keepingSim (k : Nat × Position) (v : Value) : Simulation EvalM EvalM where
  rel P x _ := Keeping k v P x
  rel_pure := Keeping.pure
  rel_bind hx hf := hx.bind hf

namespace Grid

variable {g : Grid}

/-- Keeping the value of another cell. -/
lemma remember_keeping {i : Nat} {p : Position} (h : (i, p) ≠ k) (w : Value) :
    Keeping k v anything (remember i p w) := by
  intro c hc
  refine ⟨trivial, ?_⟩
  change (c.values.insert (i, p) w)[k]? = some v
  rwa [Std.HashMap.getElem?_insert, if_neg (by simpa using h)]

/-- A formula that is nested too deep is a cycle, which is not kept. -/
lemma read_cut {i : Nat} {p : Position} {c : Cache} {e : Expr} (hv : c.values[(i, p)]? = none)
    (he : g.content i p = some (.formula e)) : (g.read 0 i p).run c = (.fault .cycle, c) := by
  unfold read
  simp [hv, he]
  rfl

/-- A cell without a formula is read from the grid. -/
lemma read_content (depth : Nat) {i : Nat} {p : Position} {c : Cache}
    (hv : c.values[(i, p)]? = none) (h : ∀ e, g.content i p ≠ some (.formula e)) :
    ∃ w, (g.read depth i p).run c = (remember i p w).run c := by
  unfold read
  cases hcontent : g.content i p with
  | none => exact ⟨.empty, by simp [hv]⟩
  | some content =>
    cases content with
    | value w => exact ⟨w, by simp [hv]⟩
    | formula e => exact absurd hcontent (h e)

/-- Reading leaves what is kept if evaluating the formula of the cell does. -/
lemma read_keeping_of_formula {depth i : Nat} {p : Position}
    (hf : ∀ e c, g.content i p = some (.formula e) → c.values[(i, p)]? = none → (i, p) ≠ k →
      c.values[k]? = some v → ((g.read depth i p).run c).2.values[k]? = some v) :
    Keeping k v (fun a => (i, p) = k → a = v) (g.read depth i p) := by
  intro c hc
  cases hv : c.values[(i, p)]? with
  | some w =>
    rw [read_kept hv]
    exact ⟨fun hk => Option.some.inj (hv.symm.trans (hk ▸ hc)), hc⟩
  | none =>
    have other : (i, p) ≠ k := fun hk => Option.some_ne_none v (hc.symm.trans (hk ▸ hv))
    refine ⟨fun hk => absurd hk other, ?_⟩
    by_cases he : ∃ e, g.content i p = some (.formula e)
    · obtain ⟨e, he⟩ := he
      exact hf e c he hv other hc
    · obtain ⟨w, hw⟩ := read_content depth hv fun e h => he ⟨e, h⟩
      rw [hw]
      exact (remember_keeping other w c hc).2

/-- Reading a cell leaves what is kept, and a kept cell is read as it is kept. -/
theorem read_keeping (depth i : Nat) (p : Position) :
    Keeping k v (fun a => (i, p) = k → a = v) (g.read depth i p) := by
  induction depth generalizing i p with
  | zero =>
    refine read_keeping_of_formula fun e c he hv _ hc => ?_
    rw [read_cut hv he]
    exact hc
  | succ depth ih =>
    refine read_keeping_of_formula fun e c he hv other hc => ?_
    -- what the formula reads leaves the value kept, and so does keeping its own
    have agree : Surroundings.Agree (keepingSim k v) (fun _ _ => True)
        ⟨g.sheetIndex, g.read depth⟩ ⟨g.sheetIndex, g.read depth⟩ :=
      ⟨rfl, fun j q _ c hc => ⟨trivial, (ih j q c hc).2⟩⟩
    have value := (e.meaning_agree agree i (.of_all (fun _ _ => trivial) e)).value
    rw [read_formula hv he]
    exact (remember_keeping other _ _ (value c hc).2).2

/-- Priming a sheet leaves what is kept. -/
lemma prime_keeping (i : Nat) : Keeping k v anything (g.prime i) := by
  intro c hc
  refine ⟨trivial, ?_⟩
  by_cases hi : i ∈ c.primed
  · rw [prime_primed hi]
    exact hc
  · have each (p : Position) : Keeping k v anything (discard (g.read depthLimit i p)) :=
      fun c hc => ⟨trivial, (read_keeping depthLimit i p c hc).2⟩
    rw [prime_fresh hi]
    exact (Keeping.forM (g.formulas i) each { c with primed := i :: c.primed } hc).2

/-- Asking for a cell leaves what is kept, and a kept cell is answered as it is kept. -/
theorem valueAt_keeping (i : Nat) (p : Position) :
    Keeping k v (fun a => (i, p) = k → a = v) (g.valueAt i p) :=
  (prime_keeping i).bind fun _ _ => read_keeping depthLimit i p

end Grid

end ShipReport.Formula
