import Mathlib.Data.List.Forall2
import ShipReport.Formula.Meaning

/-!
# Simulation of formula meanings

The meaning of a formula is the same program in every monad, so two readings of the cells that agree
give values that agree. A `Simulation` is what "agree" may mean: a relation between computations in
two monads that keeps results equal and is closed under `pure` and `bind`. `Expr.ReadsWithin` bounds
the cells that a formula can look at. The main lemma `Expr.meaning_agree` says that a formula has
agreeing meanings as soon as the readings of those cells agree.
-/

namespace ShipReport.Formula

/-- A way to compare computations in two monads: they have the same result, of which a predicate is
known. -/
structure Simulation (m n : Type → Type) [Monad m] [Monad n] where
  rel {α : Type} : (α → Prop) → m α → n α → Prop
  rel_pure {α : Type} {P : α → Prop} {a : α} : P a → rel P (pure a) (pure a)
  rel_bind {α β : Type} {P : α → Prop} {Q : β → Prop} {x : m α} {y : n α} {f : α → m β}
    {g : α → n β} : rel P x y → (∀ a, P a → rel Q (f a) (g a)) → rel Q (x >>= f) (y >>= g)

/-- The predicate that says nothing. -/
def anything {α : Type} (_ : α) : Prop := True

/-- A reference keeps to a set of cells: all cells of its range belong to the set, on whatever sheet
they are. -/
def RangeRef.Within (index : String → Option Nat) (current : Nat) (A : Nat → Position → Prop)
    (r : RangeRef) : Prop :=
  match r.sheet with
  | none => ∀ p ∈ r.positions, A current p
  | some name => ∀ i, index name = some i → ∀ p ∈ r.positions, A i p

mutual

/-- An expression looks only at cells of a set. The address that `INDIRECT` computes may be any. -/
def Expr.ReadsWithin (index : String → Option Nat) (current : Nat) (A : Nat → Position → Prop) :
    Expr → Prop
  | .literal _ => True
  | .cell ref => (RangeRef.cell ref.sheet ref.position).Within index current A
  | .range ref => ref.Within index current A
  | .call f args => (f = .indirect → ∀ i p, A i p) ∧ allReadWithin index current A args
  | .conditional test yes no =>
    test.ReadsWithin index current A ∧ yes.ReadsWithin index current A ∧
      no.ReadsWithin index current A
  | .binary _ lhs rhs => lhs.ReadsWithin index current A ∧ rhs.ReadsWithin index current A

/-- Several expressions look only at cells of a set. -/
def allReadWithin (index : String → Option Nat) (current : Nat) (A : Nat → Position → Prop) :
    List Expr → Prop
  | [] => True
  | e :: es => e.ReadsWithin index current A ∧ allReadWithin index current A es

end

/-- The result of a target computation covers only cells of a set. -/
def targetWithin (A : Nat → Position → Prop) : Except Fault Target → Prop
  | .ok t => ∀ p ∈ t.range.positions, A t.sheet p
  | .error _ => True

variable {m n : Type → Type} [Monad m] [Monad n] {R : Simulation m n}

namespace Simulation

/-- Related computations stay related when less is said about their result. -/
lemma rel_weaken [LawfulMonad m] [LawfulMonad n] {α : Type} {P Q : α → Prop} {x : m α} {y : n α}
    (h : R.rel P x y) (hPQ : ∀ a, P a → Q a) : R.rel Q x y := by
  -- a `bind` with `pure` changes nothing but the predicate
  have hxy := R.rel_bind h (fun a ha => R.rel_pure (hPQ a ha))
  rwa [bind_pure, bind_pure] at hxy

/-- Running related computations over a list gives related computations. -/
lemma rel_mapM [LawfulMonad m] [LawfulMonad n] {α β : Type} {f : α → m β} {g : α → n β}
    {l : List α} (h : ∀ a ∈ l, R.rel anything (f a) (g a)) :
    R.rel anything (l.mapM f) (l.mapM g) := by
  induction l with
  | nil => exact R.rel_pure trivial
  | cons a l ih =>
    rw [List.mapM_cons, List.mapM_cons]
    apply R.rel_bind (h a List.mem_cons_self)
    intro b _
    apply R.rel_bind (ih fun c hc => h c (List.mem_cons_of_mem _ hc))
    intro bs _
    exact R.rel_pure trivial

end Simulation

/-- Two surroundings know the same sheets and agree in reading the cells of a set. -/
structure Surroundings.Agree (R : Simulation m n) (A : Nat → Position → Prop)
    (s : Surroundings m) (s' : Surroundings n) : Prop where
  sheetIndex : s.sheetIndex = s'.sheetIndex
  read : ∀ i p, A i p → R.rel anything (s.read i p) (s'.read i p)

/-- Two meanings agree in their values and in their targets, which keep to a set of cells. -/
structure Meaning.Agree (R : Simulation m n) (A : Nat → Position → Prop)
    (a : Meaning m) (b : Meaning n) : Prop where
  value : R.rel anything a.value b.value
  target : R.rel (targetWithin A) a.target b.target

variable {A : Nat → Position → Prop} {s : Surroundings m} {s' : Surroundings n}

namespace Surroundings

omit [Monad m] in
/-- The target of a reference that keeps to a set keeps to that set. -/
lemma targetOf_within {current : Nat} {r : RangeRef}
    (h : r.Within s.sheetIndex current A) : targetWithin A (s.targetOf current r) := by
  cases hs : r.sheet with
  | none =>
    simp only [RangeRef.Within, hs] at h
    simpa only [targetOf, resolve, hs, Except.map, targetWithin] using h
  | some name =>
    simp only [RangeRef.Within, hs] at h
    cases hi : s.sheetIndex name with
    | none => simp only [targetOf, resolve, hs, hi]; trivial
    | some i => simpa only [targetOf, resolve, hs, hi, Except.map, targetWithin] using h i hi

omit [Monad m] [Monad n] in
/-- Surroundings with the same sheets find the same targets. -/
lemma targetOf_congr (h : s.sheetIndex = s'.sheetIndex) (current : Nat) (r : RangeRef) :
    s.targetOf current r = s'.targetOf current r := by
  cases hs : r.sheet <;> simp only [targetOf, resolve, hs, h]

omit [Monad m] [Monad n] in
/-- Where the sheets are the same, an address names the same target. -/
lemma targetOfText_congr (h : s.sheetIndex = s'.sheetIndex) (current : Nat) (address : String) :
    s.targetOfText current address = s'.targetOfText current address := by
  unfold targetOfText
  cases reference? address with
  | none => rfl
  | some r => exact targetOf_congr h current r

/-- Reading a target that has to be one cell. -/
lemma Agree.valueAt (h : Agree R A s s') {t : Except Fault Target} (ht : targetWithin A t) :
    R.rel anything (s.valueAt t) (s'.valueAt t) := by
  cases t with
  | error f => exact R.rel_pure trivial
  | ok t =>
    unfold Surroundings.valueAt
    by_cases hc : t.range.isCell
    · simp only [hc, if_true]
      -- the cell is the only position of the range
      apply h.read
      apply ht
      simp only [RangeRef.isCell, Bool.and_eq_true, beq_iff_eq] at hc
      simp [RangeRef.positions, hc.1, hc.2, RangeRef.cellAt, RangeRef.first]
    · simp only [hc]
      exact R.rel_pure trivial

/-- The values of a target agree if it keeps to the cells that agree. -/
lemma Agree.valuesAt [LawfulMonad m] [LawfulMonad n] (h : Agree R A s s') {t : Target}
    (ht : targetWithin A (.ok t)) : R.rel anything (s.valuesAt t) (s'.valuesAt t) :=
  Simulation.rel_mapM fun p hp => h.read _ _ (ht p hp)

end Surroundings

namespace Meaning

variable {a b c : Meaning m} {a' b' c' : Meaning n} {as : List (Meaning m)}
  {bs : List (Meaning n)}

/-- Values that agree have meanings that agree. -/
lemma Agree.ofValue {x : m Value} {y : n Value} (h : R.rel anything x y) :
    Agree R A (ofValue x) (ofValue y) :=
  ⟨h, R.rel_pure trivial⟩

/-- An expression that names a range agrees if its target does. -/
lemma Agree.ofTarget (h : s.Agree R A s') {x : m (Except Fault Target)}
    {y : n (Except Fault Target)} (hxy : R.rel (targetWithin A) x y) :
    Agree R A (ofTarget s x) (ofTarget s' y) :=
  ⟨R.rel_bind hxy fun _ ht => h.valueAt ht, hxy⟩

/-- The results agree if those for every number do. -/
lemma Agree.withNumber (h : Agree R A a a') {f : Float → m Value} {g : Float → n Value}
    (hfg : ∀ x, R.rel anything (f x) (g x)) :
    R.rel anything (a.withNumber f) (a'.withNumber g) := by
  apply R.rel_bind h.value
  intro v _
  cases v.asNumber with
  | ok x => exact hfg x
  | error f => exact R.rel_pure trivial

/-- What goes on with a target agrees if it agrees for each target among the cells. -/
lemma Agree.withTarget (h : Agree R A a a') {f : Target → m Value} {g : Target → n Value}
    (hfg : ∀ t, targetWithin A (.ok t) → R.rel anything (f t) (g t)) :
    R.rel anything (a.withTarget f) (a'.withTarget g) := by
  apply R.rel_bind h.target
  intro t ht
  cases t with
  | ok t => exact hfg t ht
  | error f => exact R.rel_pure trivial

/-- What goes on with a number of a row or column agrees if it agrees for each number. -/
lemma Agree.withOrdinal (h : Agree R A a a') {f : Nat → m Value} {g : Nat → n Value}
    (hfg : ∀ k, R.rel anything (f k) (g k)) :
    R.rel anything (a.withOrdinal f) (a'.withOrdinal g) := by
  apply h.withNumber
  intro x
  by_cases hx : 1 ≤ x
  · simp only [hx, if_true]
    exact hfg _
  · simp only [hx, if_false]
    exact R.rel_pure trivial

/-- Functions of agreeing arguments agree, here the one that replaces a fault. -/
lemma Agree.ifError (h : List.Forall₂ (Agree R A) as bs) :
    R.rel anything (ifError as) (ifError bs) := by
  match h with
  | .nil | .cons _ .nil | .cons _ (.cons _ (.cons _ _)) => exact R.rel_pure trivial
  | .cons ha (.cons hb .nil) =>
    apply R.rel_bind ha.value
    intro v _
    by_cases hv : v.isFault
    · simp only [hv, if_true]
      exact hb.value
    · simp only [hv]
      exact R.rel_pure trivial

/-- The entry of a target agrees if the target keeps to the cells that agree. -/
lemma Agree.entryAt (h : s.Agree R A s') {t : Target} (ht : targetWithin A (.ok t))
    (row col : Int) : R.rel anything (entryAt s t row col) (entryAt s' t row col) := by
  unfold Meaning.entryAt
  split
  · exact R.rel_pure trivial
  · next inside =>
    -- the guard keeps the place inside the range
    apply h.read
    apply ht
    simp only [not_or, Int.not_lt] at inside
    simp only [RangeRef.positions, List.mem_flatMap, List.mem_map, List.mem_range]
    exact ⟨(row - 1).toNat, by omega, (col - 1).toNat, by omega, rfl⟩

/-- INDEX agrees where its arguments do. -/
lemma Agree.index (hs : s.Agree R A s') (h : List.Forall₂ (Agree R A) as bs) :
    R.rel anything (index s as) (index s' bs) := by
  match h with
  | .nil | .cons _ .nil => exact R.rel_pure trivial
  | .cons ha (.cons hn rest) =>
    apply ha.withTarget
    intro t ht
    apply hn.withNumber
    intro x
    cases rest with
    | nil => exact Agree.entryAt hs ht _ _
    | cons hk _ =>
      apply hk.withNumber
      intro k
      exact Agree.entryAt hs ht _ _

/-- MATCH agrees where its arguments do. -/
lemma Agree.matchKey [LawfulMonad m] [LawfulMonad n] (hs : s.Agree R A s')
    (h : List.Forall₂ (Agree R A) as bs) :
    R.rel anything (matchKey s as) (matchKey s' bs) := by
  match h with
  | .nil | .cons _ .nil => exact R.rel_pure trivial
  | .cons hk (.cons ha _) =>
    apply R.rel_bind hk.value
    intro v _
    by_cases hf : v.isFault
    · simp only [hf, if_true]
      exact R.rel_pure trivial
    · simp only [hf]
      by_cases hb : v.isBlank
      · simp only [hb, if_true]
        exact R.rel_pure trivial
      · simp only [hb]
        apply ha.withTarget
        intro t ht
        split
        · exact R.rel_pure trivial
        · exact R.rel_bind (hs.valuesAt ht) fun _ _ => R.rel_pure trivial

/-- The sheet part of an address, and the address with it. -/
lemma Agree.addressOn (h : List.Forall₂ (Agree R A) as bs) (k : Nat) (cell : String) :
    R.rel anything
      (match as[k]? with
        | none => pure (.text cell)
        | some sheet => do
          let name ← sheet.value
          if name.isFault then pure name
          else pure (.text (quoteSheet name.asText ++ "!" ++ cell)))
      (match bs[k]? with
        | none => pure (.text cell)
        | some sheet => do
          let name ← sheet.value
          if name.isFault then pure name
          else pure (.text (quoteSheet name.asText ++ "!" ++ cell))) := by
  induction h generalizing k with
  | nil => exact R.rel_pure trivial
  | cons hab _ ih =>
    cases k with
    | succ k => simpa only [List.getElem?_cons_succ] using ih k
    | zero =>
      simp only [List.getElem?_cons_zero]
      apply R.rel_bind hab.value
      intro v _
      split <;> exact R.rel_pure trivial

/-- ADDRESS agrees where its arguments do. -/
lemma Agree.address (h : List.Forall₂ (Agree R A) as bs) :
    R.rel anything (address as) (address bs) := by
  match h with
  | .nil | .cons _ .nil => exact R.rel_pure trivial
  | .cons hr (.cons hc rest) =>
    unfold Meaning.address
    apply hr.withOrdinal
    intro row
    apply hc.withOrdinal
    intro col
    cases rest with
    | nil =>
      simp only [List.getElem?_nil]
      split <;> exact R.rel_pure trivial
    | cons hm rest =>
      simp only [List.getElem?_cons_zero]
      apply hm.withNumber
      intro x
      split
      · exact R.rel_pure trivial
      · exact Agree.addressOn (.cons hm rest) 2 _

/-- The count of one argument agrees where the argument does. -/
lemma Agree.countOne [LawfulMonad m] [LawfulMonad n] (hs : s.Agree R A s') (h : Agree R A a a') :
    R.rel anything (countOne s a) (countOne s' a') := by
  apply R.rel_bind h.target
  intro t ht
  cases t with
  | ok t => exact R.rel_bind (hs.valuesAt ht) fun _ _ => R.rel_pure trivial
  | error f => exact R.rel_bind h.value fun _ _ => R.rel_pure trivial

/-- COUNTA agrees where its arguments do. -/
lemma Agree.countA [LawfulMonad m] [LawfulMonad n] (hs : s.Agree R A s')
    (h : List.Forall₂ (Agree R A) as bs) : R.rel anything (countA s as) (countA s' bs) := by
  have counts : R.rel anything (as.mapM (Meaning.countOne s)) (bs.mapM (Meaning.countOne s')) := by
    induction h with
    | nil => exact R.rel_pure trivial
    | cons hab _ ih =>
      rw [List.mapM_cons, List.mapM_cons]
      apply R.rel_bind (hab.countOne hs)
      intro k _
      exact R.rel_bind ih fun _ _ => R.rel_pure trivial
  exact R.rel_bind counts fun _ _ => R.rel_pure trivial

/-- The truth values of arguments agree where the arguments do. -/
lemma Agree.bools (h : List.Forall₂ (Agree R A) as bs) :
    R.rel anything (bools as) (bools bs) := by
  induction h with
  | nil => exact R.rel_pure trivial
  | cons hab _ ih =>
    apply R.rel_bind hab.value
    intro v _
    cases v.asBool with
    | error f => exact R.rel_pure trivial
    | ok b => exact R.rel_bind ih fun _ _ => R.rel_pure trivial

/-- AND and OR agree where their arguments do. -/
lemma Agree.logical (combine : List Bool → Bool) (h : List.Forall₂ (Agree R A) as bs) :
    R.rel anything (logical combine as) (logical combine bs) := by
  apply R.rel_bind (Agree.bools h)
  intro v _
  cases v <;> exact R.rel_pure trivial

/-- ROUND agrees where its arguments do. -/
lemma Agree.round (h : List.Forall₂ (Agree R A) as bs) :
    R.rel anything (round as) (round bs) := by
  match h with
  | .nil | .cons _ .nil | .cons _ (.cons _ (.cons _ _)) => exact R.rel_pure trivial
  | .cons ha (.cons hd .nil) =>
    apply ha.withNumber
    intro x
    exact hd.withNumber fun _ => R.rel_pure trivial

/-- The address that an argument computes names the same target in both. -/
lemma Agree.indirect (hs : s.sheetIndex = s'.sheetIndex) (sheet : Nat)
    (h : R.rel anything a.value a'.value) :
    R.rel anything (indirect s sheet a) (indirect s' sheet a') := by
  apply R.rel_bind h
  intro v _
  cases v with
  | fault f => exact R.rel_pure trivial
  | _ =>
    dsimp only
    rw [Surroundings.targetOfText_congr hs]
    exact R.rel_pure trivial

/-- Calls with agreeing arguments agree. -/
lemma Agree.call [LawfulMonad m] [LawfulMonad n] (hs : s.Agree R A s') (sheet : Nat) (f : Function)
    (hA : f = .indirect → ∀ i p, A i p) (h : List.Forall₂ (Agree R A) as bs) :
    Agree R A (call s sheet f as) (call s' sheet f bs) := by
  cases f with
  | ifError => exact .ofValue (Agree.ifError h)
  | index => exact .ofValue (Agree.index hs h)
  | «match» => exact .ofValue (Agree.matchKey hs h)
  | address => exact .ofValue (Agree.address h)
  | countA => exact .ofValue (Agree.countA hs h)
  | and => exact .ofValue (Agree.logical _ h)
  | or => exact .ofValue (Agree.logical _ h)
  | round => exact .ofValue (Agree.round h)
  | indirect =>
    match h with
    | .nil | .cons _ (.cons _ _) => exact .ofValue (R.rel_pure trivial)
    | .cons ha .nil =>
      -- the address may name any cells, and so all cells have to agree
      refine .ofTarget hs (Simulation.rel_weaken (Agree.indirect hs.sheetIndex sheet ha.value)
        fun t _ => ?_)
      cases t with
      | error f => trivial
      | ok t => exact fun p _ => hA rfl _ p

/-- A case distinction agrees where its parts do. -/
lemma Agree.conditional (ha : Agree R A a a') (hb : Agree R A b b') (hc : Agree R A c c') :
    R.rel anything (conditional a b c) (conditional a' b' c') := by
  apply R.rel_bind ha.value
  intro v _
  cases v.asBool with
  | error f => exact R.rel_pure trivial
  | ok t => cases t with
    | true => exact hb.value
    | false => exact hc.value

/-- A binary operator agrees where its sides do. -/
lemma Agree.binary (op : Operator) (ha : Agree R A a a') (hb : Agree R A b b') :
    R.rel anything (binary op a b) (binary op a' b') := by
  apply R.rel_bind ha.value
  intro v _
  split
  · exact R.rel_pure trivial
  · apply R.rel_bind hb.value
    intro w _
    split <;> exact R.rel_pure trivial

end Meaning

mutual

/-- A formula has agreeing meanings in surroundings that agree on the cells that it looks at. -/
theorem Expr.meaning_agree [LawfulMonad m] [LawfulMonad n] (h : s.Agree R A s') (sheet : Nat) :
    ∀ e : Expr, e.ReadsWithin s.sheetIndex sheet A →
      (e.meaning s sheet).Agree R A (e.meaning s' sheet)
  | .literal l, _ => .ofValue (R.rel_pure trivial)
  | .cell ref, hr => by
    simp only [Expr.meaning]
    rw [← Surroundings.targetOf_congr h.sheetIndex]
    exact .ofTarget h (R.rel_pure (Surroundings.targetOf_within hr))
  | .range ref, hr => by
    simp only [Expr.meaning]
    rw [← Surroundings.targetOf_congr h.sheetIndex]
    exact .ofTarget h (R.rel_pure (Surroundings.targetOf_within hr))
  | .call f args, hr => by
    simp only [Expr.ReadsWithin] at hr
    exact .call h sheet f hr.1 (meanings_agree h sheet args hr.2)
  | .conditional test yes no, hr => by
    simp only [Expr.ReadsWithin] at hr
    exact .ofValue (Meaning.Agree.conditional (test.meaning_agree h sheet hr.1)
      (yes.meaning_agree h sheet hr.2.1) (no.meaning_agree h sheet hr.2.2))
  | .binary op lhs rhs, hr => by
    simp only [Expr.ReadsWithin] at hr
    exact .ofValue (Meaning.Agree.binary op (lhs.meaning_agree h sheet hr.1)
      (rhs.meaning_agree h sheet hr.2))

/-- Several formulas have agreeing meanings. -/
theorem meanings_agree [LawfulMonad m] [LawfulMonad n] (h : s.Agree R A s') (sheet : Nat) :
    ∀ es : List Expr, allReadWithin s.sheetIndex sheet A es →
      List.Forall₂ (Meaning.Agree R A) (meanings s sheet es) (meanings s' sheet es)
  | [], _ => .nil
  | e :: es, hr => by
    simp only [allReadWithin] at hr
    exact .cons (e.meaning_agree h sheet hr.1) (meanings_agree h sheet es hr.2)

end

end ShipReport.Formula
