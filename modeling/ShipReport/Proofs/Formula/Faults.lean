import ShipReport.Proofs.Formula.Layers

/-!
# Faults of formulas

A formula fails with a fault of its own, such as a missing reference or a division by zero, or with
one that it reads. That formulas nest too deeply is nothing that a formula can find out by itself,
so the value of a formula is no cycle when the cells that it looks at are none.
-/

namespace ShipReport.Formula

/-- A value other than the one of formulas that are nested too deeply. -/
def Value.Acyclic (v : Value) : Prop :=
  v ≠ .fault .cycle

/-- A meaning whose value and whose target do not fail for a cycle. -/
structure Meaning.Acyclic (a : Meaning Id) : Prop where
  value : a.value.run.Acyclic
  target : a.target.run ≠ .error .cycle

namespace Value

variable {v w : Value} {f : Fault}

/-- A fault is free of cycles if it is not that of a cycle. -/
lemma acyclic_fault : (fault f).Acyclic ↔ f ≠ .cycle := by
  simp [Acyclic]

/-- A value that is no number fails for a reason of its own or for the fault that it is. -/
lemma Acyclic.asNumber (hv : v.Acyclic) (h : v.asNumber = .error f) : f ≠ .cycle := by
  cases v with
  | text s =>
    simp only [Value.asNumber] at h
    split at h
    · cases h
    · obtain rfl := Except.error.inj h
      decide
  | fault g =>
    obtain rfl := Except.error.inj h
    exact acyclic_fault.mp hv
  | _ => cases h

/-- A value free of cycles has no cycle as its truth value. -/
lemma Acyclic.asBool (hv : v.Acyclic) (h : v.asBool = .error f) : f ≠ .cycle := by
  cases v with
  | text s =>
    simp only [Value.asBool] at h
    split at h
    · cases h
    · split at h
      · cases h
      · obtain rfl := Except.error.inj h
        decide
  | fault g =>
    obtain rfl := Except.error.inj h
    exact acyclic_fault.mp hv
  | _ => cases h

/-- Arithmetic fails for its operands or for what the operation finds wrong. -/
lemma Acyclic.arithmetic (hv : v.Acyclic) (hw : w.Acyclic)
    {op : Float → Float → Except Fault Float} (hop : ∀ x y, op x y ≠ .error .cycle) :
    (arithmetic op v w).Acyclic := by
  unfold Value.arithmetic
  cases hx : v.asNumber with
  | error f => exact acyclic_fault.mpr (hv.asNumber hx)
  | ok x =>
    cases hy : w.asNumber with
    | error f => exact acyclic_fault.mpr (hw.asNumber hy)
    | ok y =>
      change (ofNumber (op x y)).Acyclic
      cases hz : op x y with
      | error f => exact acyclic_fault.mpr fun hf => hop x y (hf ▸ hz)
      | ok z => exact nofun

/-- Operators bring in no cycle. -/
lemma Acyclic.apply (hv : v.Acyclic) (hw : w.Acyclic) (op : Operator) : (v.apply op w).Acyclic := by
  cases op with
  | add | sub | mul => exact hv.arithmetic hw fun _ _ => nofun
  | div =>
    refine hv.arithmetic hw fun x y => ?_
    unfold divide
    split
    · decide
    · exact nofun
  | _ => exact nofun

/-- What a formula shows is acyclic when what it means is. -/
lemma Acyclic.settled (h : v.Acyclic) : (Grid.settled v).Acyclic := by
  cases v with
  | empty => exact nofun
  | _ => exact h

end Value

namespace Meaning

variable {a b c : Meaning Id} {as : List (Meaning Id)}

/-- A value alone brings in no cycle. -/
lemma Acyclic.ofValue {x : Id Value} (h : x.run.Acyclic) : (ofValue x).Acyclic :=
  ⟨h, nofun⟩

/-- An argument taken as a number fails for its own value or goes on. -/
lemma Acyclic.withNumber (h : a.Acyclic) {f : Float → Id Value} (hf : ∀ x, (f x).run.Acyclic) :
    (a.withNumber f).run.Acyclic := by
  unfold Meaning.withNumber
  rw [Id.run_bind]
  cases hx : a.value.run.asNumber with
  | ok x => exact hf x
  | error e => exact Value.acyclic_fault.mpr (h.value.asNumber hx)

/-- What goes on with a target brings in no cycle if nothing after it does. -/
lemma Acyclic.withTarget (h : a.Acyclic) {f : Target → Id Value} (hf : ∀ t, (f t).run.Acyclic) :
    (a.withTarget f).run.Acyclic := by
  unfold Meaning.withTarget
  rw [Id.run_bind]
  cases ht : a.target.run with
  | ok t => exact hf t
  | error e => exact Value.acyclic_fault.mpr fun he => h.target (he ▸ ht)

/-- What goes on with a number of a row or column brings in no cycle if nothing after it does. -/
lemma Acyclic.withOrdinal (h : a.Acyclic) {f : Nat → Id Value} (hf : ∀ n, (f n).run.Acyclic) :
    (a.withOrdinal f).run.Acyclic := by
  apply h.withNumber
  intro x
  split
  · exact hf _
  · exact nofun

variable {index : String → Option Nat} {σ : Nat → Position → Value}

/-- Looking a reference up does not fail for a cycle. -/
lemma targetOf_ne_cycle {m : Type → Type} {s : Surroundings m} (sheet : Nat) (r : RangeRef) :
    s.targetOf sheet r ≠ .error .cycle := by
  unfold Surroundings.targetOf Surroundings.resolve
  cases r.sheet with
  | none => exact nofun
  | some name => cases hi : s.sheetIndex name <;> simp [hi, Except.map]

section

variable (hσ : ∀ i p, (σ i p).Acyclic)

include hσ

/-- What stands at a target fails as the target does, for being no single cell, or as the cell. -/
lemma Acyclic.ofTarget {x : Id (Except Fault Target)} (hx : x.run ≠ .error .cycle) :
    (ofTarget (.given index σ) x).Acyclic := by
  refine ⟨?_, hx⟩
  unfold Meaning.ofTarget
  rw [Id.run_bind]
  cases ht : x.run with
  | error e => exact Value.acyclic_fault.mpr fun he => hx (he ▸ ht)
  | ok t =>
    unfold Surroundings.valueAt
    dsimp only
    split
    · exact hσ _ _
    · exact nofun

/-- The entry of a range is free of cycles. -/
lemma acyclic_entryAt (t : Target) (row col : Int) :
    (entryAt (.given index σ) t row col).run.Acyclic := by
  unfold entryAt
  split
  · exact nofun
  · exact hσ _ _

/-- INDEX brings in no cycle. -/
lemma acyclic_index (h : ∀ a ∈ as, a.Acyclic) : (Meaning.index (.given index σ) as).run.Acyclic := by
  match as with
  | [] | [_] => exact nofun
  | a :: n :: rest =>
    simp only [List.forall_mem_cons] at h
    apply h.1.withTarget
    intro t
    apply h.2.1.withNumber
    intro x
    match rest with
    | [] => exact acyclic_entryAt hσ _ _ _
    | k :: _ =>
      apply (h.2.2 k List.mem_cons_self).withNumber
      intro y
      exact acyclic_entryAt hσ _ _ _

end

/-- MATCH brings in no cycle. -/
lemma acyclic_matchKey {s : Surroundings Id} (h : ∀ a ∈ as, a.Acyclic) :
    (matchKey s as).run.Acyclic := by
  match as with
  | [] | [_] => exact nofun
  | key :: a :: _ =>
    simp only [List.forall_mem_cons] at h
    unfold matchKey
    rw [Id.run_bind]
    split
    · exact h.1.value
    · split
      · exact nofun
      · apply h.2.1.withTarget
        intro t
        split
        · exact nofun
        · rw [Id.run_bind]
          unfold placeOf
          split <;> exact nofun

/-- IFERROR brings in no cycle. -/
lemma acyclic_ifError (h : ∀ a ∈ as, a.Acyclic) : (ifError as).run.Acyclic := by
  match as with
  | [] | [_] | _ :: _ :: _ :: _ => exact nofun
  | [a, fallback] =>
    simp only [List.forall_mem_cons] at h
    unfold ifError
    rw [Id.run_bind]
    split
    · exact h.2.1.value
    · exact h.1.value

/-- ADDRESS brings in no cycle. -/
lemma acyclic_address (h : ∀ a ∈ as, a.Acyclic) : (address as).run.Acyclic := by
  match as with
  | [] | [_] => exact nofun
  | row :: col :: rest =>
    simp only [List.forall_mem_cons] at h
    unfold Meaning.address
    apply h.1.withOrdinal
    intro r
    apply h.2.1.withOrdinal
    intro c
    cases rest with
    | nil =>
      simp only [List.getElem?_nil]
      split <;> exact nofun
    | cons mode rest =>
      simp only [List.getElem?_cons_zero]
      apply (h.2.2 mode List.mem_cons_self).withNumber
      intro x
      split
      · exact nofun
      · -- with the name of a sheet the address fails as that name does
        split
        · exact nofun
        · next sheet hs =>
          rw [Id.run_bind]
          split
          · exact (h.2.2 sheet (List.mem_of_getElem? hs)).value
          · exact nofun

/-- Truth values of arguments bring in no cycle. -/
lemma bools_ne_cycle (h : ∀ a ∈ as, a.Acyclic) : (bools as).run ≠ .error .cycle := by
  induction as with
  | nil => exact nofun
  | cons a as ih =>
    simp only [List.forall_mem_cons] at h
    unfold bools
    rw [Id.run_bind]
    cases hb : a.value.run.asBool with
    | error e => exact fun he => h.1.value.asBool hb (Except.error.inj he)
    | ok b =>
      dsimp only
      rw [Id.run_bind]
      have ih := ih h.2
      cases hbs : (bools as).run with
      | error e => exact fun he => ih (hbs.trans he)
      | ok bs => exact nofun

/-- AND and OR bring in no cycle. -/
lemma acyclic_logical (combine : List Bool → Bool) (h : ∀ a ∈ as, a.Acyclic) :
    (logical combine as).run.Acyclic := by
  unfold logical
  rw [Id.run_bind]
  cases hb : (bools as).run with
  | ok bs => exact nofun
  | error e => exact Value.acyclic_fault.mpr fun he => bools_ne_cycle h (he ▸ hb)

/-- ROUND brings in no cycle. -/
lemma acyclic_round (h : ∀ a ∈ as, a.Acyclic) : (round as).run.Acyclic := by
  match as with
  | [] | [_] | _ :: _ :: _ :: _ => exact nofun
  | [a, places] =>
    simp only [List.forall_mem_cons] at h
    exact h.1.withNumber fun x => h.2.1.withNumber fun d => nofun

/-- INDIRECT brings in no cycle. -/
lemma indirect_ne_cycle {s : Surroundings Id} (sheet : Nat) (h : a.Acyclic) :
    (indirect s sheet a).run ≠ .error .cycle := by
  unfold indirect
  rw [Id.run_bind]
  split
  · next f hf => exact fun he => h.value (by rw [hf, Except.error.inj he])
  · unfold Surroundings.targetOfText
    split
    · exact targetOf_ne_cycle _ _
    · exact nofun

/-- A call fails for a fault of its own or for one of its arguments. -/
lemma acyclic_call (hσ : ∀ i p, (σ i p).Acyclic) (sheet : Nat) (f : Function)
    (h : ∀ a ∈ as, a.Acyclic) : (call (.given index σ) sheet f as).Acyclic := by
  cases f with
  | ifError => exact .ofValue (acyclic_ifError h)
  | index => exact .ofValue (acyclic_index hσ h)
  | «match» => exact .ofValue (acyclic_matchKey h)
  | address => exact .ofValue (acyclic_address h)
  | countA => exact .ofValue nofun
  | and => exact .ofValue (acyclic_logical _ h)
  | or => exact .ofValue (acyclic_logical _ h)
  | round => exact .ofValue (acyclic_round h)
  | indirect =>
    match as with
    | [] | _ :: _ :: _ => exact .ofValue nofun
    | [a] => exact .ofTarget hσ (indirect_ne_cycle _ (h a List.mem_cons_self))

/-- A case distinction brings in no cycle. -/
lemma acyclic_conditional (ha : a.Acyclic) (hb : b.Acyclic) (hc : c.Acyclic) :
    (conditional a b c).run.Acyclic := by
  unfold conditional
  rw [Id.run_bind]
  cases ht : a.value.run.asBool with
  | error e => exact Value.acyclic_fault.mpr (ha.value.asBool ht)
  | ok t => cases t with
    | true => exact hb.value
    | false => exact hc.value

/-- A binary operator brings in no cycle. -/
lemma acyclic_binary (op : Operator) (ha : a.Acyclic) (hb : b.Acyclic) :
    (binary op a b).run.Acyclic := by
  unfold binary
  rw [Id.run_bind]
  split
  · exact ha.value
  · rw [Id.run_bind]
    split
    · exact hb.value
    · exact ha.value.apply hb.value op

end Meaning

mutual

/-- No expression fails for a cycle unless a cell does. -/
lemma Expr.meaning_acyclic {index : String → Option Nat} {σ : Nat → Position → Value}
    (hσ : ∀ i p, (σ i p).Acyclic) (sheet : Nat) :
    ∀ e : Expr, (e.meaning (.given index σ) sheet).Acyclic
  | .literal l => by
    simp only [Expr.meaning]
    exact .ofValue (by cases l <;> exact nofun)
  | .cell ref => by
    simp only [Expr.meaning]
    exact .ofTarget hσ (Meaning.targetOf_ne_cycle _ _)
  | .range ref => by
    simp only [Expr.meaning]
    exact .ofTarget hσ (Meaning.targetOf_ne_cycle _ _)
  | .call f args => by
    simp only [Expr.meaning]
    exact Meaning.acyclic_call hσ sheet f (meanings_acyclic hσ sheet args)
  | .conditional test yes no => by
    simp only [Expr.meaning]
    exact .ofValue (Meaning.acyclic_conditional (Expr.meaning_acyclic hσ sheet test)
      (Expr.meaning_acyclic hσ sheet yes) (Expr.meaning_acyclic hσ sheet no))
  | .binary op lhs rhs => by
    simp only [Expr.meaning]
    exact .ofValue (Meaning.acyclic_binary op (Expr.meaning_acyclic hσ sheet lhs)
      (Expr.meaning_acyclic hσ sheet rhs))

/-- No argument brings in a cycle where no cell shows one. -/
lemma meanings_acyclic {index : String → Option Nat} {σ : Nat → Position → Value}
    (hσ : ∀ i p, (σ i p).Acyclic) (sheet : Nat) :
    ∀ es : List Expr, ∀ a ∈ meanings (.given index σ) sheet es, a.Acyclic
  | [] => by simp [meanings]
  | e :: es => by
    simp only [meanings, List.forall_mem_cons]
    exact ⟨Expr.meaning_acyclic hσ sheet e, meanings_acyclic hσ sheet es⟩

end

namespace Grid

variable {g : Grid} {σ : Nat → Position → Value}

/-- On a layered grid without such a plain value no cell fails for a cycle. -/
theorem Layered.acyclic (h : g.Layered) (hσ : g.Solves σ)
    (plain : ∀ i p v, g.content i p = some (.value v) → v.Acyclic) (i : Nat) (p : Position) :
    (σ i p).Acyclic := by
  classical
  induction i, p using h.induction with
  | step i p ih =>
    rw [hσ i p]
    unfold valueFrom
    cases hc : g.content i p with
    | none => exact nofun
    | some c =>
      cases c with
      | value v => exact plain i p v hc
      | formula e =>
        -- the formula cannot tell the values from ones that are nowhere a cycle
        let τ : Nat → Position → Value := fun j q => if (σ j q).Acyclic then σ j q else .empty
        have hτ : ∀ j q, (τ j q).Acyclic := by
          intro j q
          dsimp only [τ]
          split
          · assumption
          · exact nofun
        have same : e.valueUnder g.sheetIndex σ i = e.valueUnder g.sheetIndex τ i :=
          Expr.valueUnder_congr (fun j q hq => (if_pos hq).symm) (ih e hc)
        have value : (e.valueUnder g.sheetIndex τ i).Acyclic :=
          (Expr.meaning_acyclic hτ i e).value
        dsimp only
        rw [same]
        exact Value.Acyclic.settled value

end Grid

end ShipReport.Formula
