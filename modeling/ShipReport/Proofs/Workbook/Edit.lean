import ShipReport.Proofs.Workbook.Cells

/-!
# Edits by the crew

What the crew does to a workbook: texts and numbers are entered into input cells of data rows, and
such cells are cleared. Edits of this kind leave everything but the contents of input cells as it
was, the formulas in particular.
-/

namespace ShipReport

open Formula (Position Expr)

namespace Workbook

/-- What the crew enters into a cell. -/
inductive Entry where
  | text (s : String)
  | number (x : Float)

/-- The cell that holds an entry. -/
def Entry.cell : Entry → Cell
  | .text s => .text s
  | .number x => .number x

/-- The change of one cell of a named sheet: something is entered, or the cell is cleared. -/
structure Edit where
  sheet : String
  position : Position
  entry : Option Entry

/-- An input cell of a data row. -/
def Sheet.IsInput (s : Sheet) (p : Position) : Prop :=
  0 < p.row ∧ p.row < s.maxRow ∧ ∃ c, s.columns[p.col]? = some c ∧ c.role = .input

/-- The edit changes an input cell of a data row. -/
def Admits (w : Workbook) (e : Edit) : Prop :=
  ∃ s, w.sheet? e.sheet = some s ∧ s.IsInput e.position

/-- The workbook after an edit; an edit of a sheet that does not exist changes nothing. -/
def edit (w : Workbook) (e : Edit) : Workbook :=
  (match e.entry with
    | some entry => w.enter? e.sheet e.position entry.cell
    | none => w.clear? e.sheet e.position).getD w

/-- The workbook after several edits, one after the other. -/
def editAll (w : Workbook) (es : List Edit) : Workbook :=
  es.foldl edit w

/-- What a cell of a named sheet holds. -/
def cell? (w : Workbook) (sheet : String) (p : Position) : Option Cell :=
  (w.sheet? sheet).bind (·.get? p)

/-- What has been entered into a cell; nothing if the cell is absent or holds the empty text. -/
def entry? (w : Workbook) (sheet : String) (p : Position) : Option Formula.Value :=
  match w.cell? sheet p with
  | some (.text s) => if s = "" then none else some (.text s)
  | some (.number x) => some (.number x)
  | _ => none

/-- What has been entered is a text or a number. -/
lemma entry?_cases {w : Workbook} {sheet : String} {p : Position} {v : Formula.Value}
    (h : w.entry? sheet p = some v) : (∃ t, t ≠ "" ∧ v = .text t) ∨ ∃ x, v = .number x := by
  unfold entry? at h
  split at h
  · next s _ =>
    split at h
    · cases h
    · next hs => exact .inl ⟨s, hs, (Option.some.inj h).symm⟩
  · next x _ => exact .inr ⟨x, (Option.some.inj h).symm⟩
  · cases h

/-- What has been entered is not blank. -/
lemma isBlank_of_entry? {w : Workbook} {sheet : String} {p : Position} {v : Formula.Value}
    (h : w.entry? sheet p = some v) : v.isBlank = false := by
  rcases entry?_cases h with ⟨t, ht, rfl⟩ | ⟨x, rfl⟩
  · simpa [Formula.Value.isBlank] using ht
  · rfl

/-- A sheet differs from another at most in the contents of input cells, none of which has become a
formula. -/
structure Sheet.EditOf (b s : Sheet) : Prop where
  frame : s = { b with cells := s.cells }
  cells : ∀ p, s.get? p = b.get? p ∨ b.IsInput p ∧ ∀ e, s.get? p ≠ some (.formula e)

/-- The sheets of a workbook differ from those of another at most in the contents of input cells. -/
def EditOf (b w : Workbook) : Prop :=
  ∀ i : Nat, Option.Rel Sheet.EditOf b.sheets[i]? w.sheets[i]?

namespace Sheet.EditOf

variable {b s : Sheet}

/-- A sheet is an edit of itself. -/
lemma refl (s : Sheet) : EditOf s s :=
  ⟨rfl, fun _ => .inl rfl⟩

/-- Writing a text or a number into an input cell is an edit. -/
lemma set (h : EditOf b s) {p : Position} (hp : b.IsInput p) (entry : Entry) :
    EditOf b (s.set p entry.cell) := by
  refine ⟨?_, fun q => ?_⟩
  · rw [h.frame]
    rfl
  · rw [get?_set]
    split
    · next same =>
      subst same
      exact .inr ⟨hp, by cases entry <;> simp [Entry.cell]⟩
    · exact h.cells q

/-- Emptying an input cell is an edit. -/
lemma clear (h : EditOf b s) {p : Position} (hp : b.IsInput p) : EditOf b (s.clear p) := by
  refine ⟨?_, fun q => ?_⟩
  · rw [h.frame]
    rfl
  · rw [get?_clear]
    split
    · next same =>
      subst same
      exact .inr ⟨hp, nofun⟩
    · exact h.cells q

/-- A cell that is not an input cell keeps what it holds. -/
lemma get?_eq (h : EditOf b s) {p : Position} (hp : ¬ b.IsInput p) : s.get? p = b.get? p :=
  (h.cells p).resolve_right fun hi => hp hi.1

end Sheet.EditOf

/-- What the grid has in a cell is what the cell holds. -/
lemma grid_content (w : Workbook) (i : Nat) (p : Position) :
    w.grid.content i p = (w.sheets[i]?.bind (·.get? p)).map Cell.content := by
  unfold grid
  dsimp only
  cases w.sheets[i]? with
  | none => rfl
  | some s => cases hc : s.get? p <;> simp [hc]

/-- A formula of the grid is one that stands in a cell. -/
lemma grid_formula {w : Workbook} {i : Nat} {p : Position} {e : Expr} :
    w.grid.content i p = some (.formula e) ↔
      ∃ s, w.sheets[i]? = some s ∧ s.get? p = some (.formula e) := by
  rw [grid_content, Option.map_eq_some_iff]
  simp only [Option.bind_eq_some_iff]
  constructor
  · rintro ⟨c, ⟨s, hs, hc⟩, he⟩
    cases c with
    | formula e' =>
      obtain rfl := Formula.Content.formula.inj he
      exact ⟨s, hs, hc⟩
    | _ => cases he
  · rintro ⟨s, hs, hc⟩
    exact ⟨.formula e, ⟨s, hs, hc⟩, rfl⟩

/-- The formulas of the grid are listed where they stand. -/
lemma mem_grid_formulas {w : Workbook} {i : Nat} {p : Position} :
    p ∈ w.grid.formulas i ↔ ∃ e, w.grid.content i p = some (.formula e) := by
  simp only [grid_formula]
  change p ∈ (w.sheets[i]?.map (·.formulaPositions)).getD [] ↔ _
  cases w.sheets[i]? with
  | none => simp
  | some s => simp [Sheet.mem_formulaPositions]

/-- The formulas of the grid that come before a formula are listed before it. -/
lemma mem_before_grid {w : Workbook} {i : Nat} {before after : List Position} {p q : Position}
    (h : w.grid.formulas i = before ++ p :: after) {e : Expr}
    (hq : w.grid.content i q = some (.formula e)) (hlt : compare q p = .lt) : q ∈ before := by
  obtain ⟨s, hs, he⟩ := grid_formula.mp hq
  have listed : (w.sheets[i]?.map (·.formulaPositions)).getD [] = before ++ p :: after := h
  rw [hs] at listed
  exact Sheet.mem_before listed he hlt

/-- No formula stands in an input cell. -/
def InputsPlain (w : Workbook) : Prop :=
  ∀ s ∈ w.sheets, ∀ p e, s.get? p = some (.formula e) → ¬ s.IsInput p

/-- The place and the contents of a named sheet go together. -/
lemma sheet?_eq (w : Workbook) (name : String) :
    w.sheet? name = (w.sheetIndex? name).bind (w.sheets[·]?) :=
  List.find?_eq_bind_findIdx?_getElem?

/-- A cell of a sheet, by the place of the sheet. -/
lemma cell?_eq {w : Workbook} {name : String} {i : Nat} (hi : w.sheetIndex? name = some i)
    (p : Position) : w.cell? name p = w.sheets[i]?.bind (·.get? p) := by
  rw [cell?, sheet?_eq, hi]
  rfl

/-- The edit of a sheet leaves the other sheets as they are. -/
lemma edit_other {w : Workbook} {e : Edit} {i : Nat} {s : Sheet} (hs : w.sheets[i]? = some s)
    (he : e.sheet ≠ s.name) : (w.edit e).sheets[i]? = some s := by
  have update : ∀ f, ((w.updateSheet? e.sheet f).getD w).sheets[i]? = some s := by
    intro f
    rw [Workbook.updateSheet?]
    cases hj : w.sheetIndex? e.sheet with
    | none => exact hs
    | some j =>
      obtain ⟨hlt, hname, -⟩ := List.findIdx?_eq_some_iff_getElem.mp hj
      -- the sheet that changes has another name, so it stands elsewhere
      have hne : j ≠ i := by
        rintro rfl
        rw [List.getElem?_eq_getElem hlt] at hs
        obtain rfl := Option.some.inj hs
        exact he (beq_iff_eq.mp hname).symm
      simp [hne, hs]
  unfold edit
  cases e.entry <;> exact update _

/-- An edit changes no other cell than its own. -/
lemma edit_get? {w : Workbook} {e : Edit} {i j : Nat} {q : Position}
    (hi : w.sheetIndex? e.sheet = some i) (h : ¬ (j = i ∧ q = e.position)) :
    (w.edit e).sheets[j]?.bind (·.get? q) = w.sheets[j]?.bind (·.get? q) := by
  have update : ∀ f : Sheet → Sheet, (∀ s, q ≠ e.position → (f s).get? q = s.get? q) →
      ((w.updateSheet? e.sheet f).getD w).sheets[j]?.bind (·.get? q) =
        w.sheets[j]?.bind (·.get? q) := by
    intro f hf
    rw [updateSheet?, hi]
    simp only [Option.map_some, Option.getD_some, List.getElem?_modify]
    by_cases hij : i = j
    · have hq : q ≠ e.position := fun hq => h ⟨hij.symm, hq⟩
      cases w.sheets[j]? with
      | none => rfl
      | some s => simpa [hij] using hf s hq
    · simp [hij]
  unfold edit
  cases e.entry with
  | none => exact update _ fun s hq => Sheet.get?_clear.trans (if_neg hq.symm)
  | some entry => exact update _ fun s hq => Sheet.get?_set.trans (if_neg hq.symm)

/-- Edits of other sheets leave a sheet as it is. -/
lemma editAll_other {w : Workbook} {es : List Edit} {i : Nat} {s : Sheet}
    (hs : w.sheets[i]? = some s) (hes : ∀ e ∈ es, e.sheet ≠ s.name) :
    (w.editAll es).sheets[i]? = some s := by
  induction es generalizing w with
  | nil => exact hs
  | cons e es ih =>
    exact ih (edit_other hs (hes e List.mem_cons_self)) fun e' he' =>
      hes e' (List.mem_cons_of_mem _ he')

/-- An edit keeps the places of the sheets. -/
lemma sheetIndex?_edit (w : Workbook) (e : Edit) (name : String) :
    (w.edit e).sheetIndex? name = w.sheetIndex? name := by
  have update : ∀ f : Sheet → Sheet, (∀ s, (f s).name = s.name) →
      ((w.updateSheet? e.sheet f).getD w).sheetIndex? name = w.sheetIndex? name := by
    intro f hf
    rw [updateSheet?]
    cases w.sheetIndex? e.sheet with
    | none => rfl
    | some i =>
      have names : (w.sheets.modify i f).map (·.name) = w.sheets.map (·.name) := by
        apply List.ext_getElem?
        intro j
        rw [List.getElem?_map, List.getElem?_map, List.getElem?_modify]
        by_cases hij : i = j
        · cases w.sheets[j]? <;> simp [hij, hf]
        · simp [hij]
      have found := congrArg (List.findIdx? (· == name)) names
      rwa [List.findIdx?_map, List.findIdx?_map] at found
  unfold edit
  cases e.entry with
  | none => exact update _ fun _ => rfl
  | some entry => exact update _ fun _ => rfl

/-- After an edit a cell holds what it held before, or it is the cell of the edit and holds what was
entered. -/
lemma cell?_edit (w : Workbook) (e : Edit) (name : String) (p : Position) :
    (w.edit e).cell? name p = w.cell? name p ∨
      e.sheet = name ∧ e.position = p ∧ (w.edit e).cell? name p = e.entry.map Entry.cell := by
  cases hj : w.sheetIndex? name with
  | none =>
    left
    rw [cell?, cell?, sheet?_eq, sheet?_eq, sheetIndex?_edit, hj]
    rfl
  | some j =>
    rw [cell?_eq ((sheetIndex?_edit w e name).trans hj), cell?_eq hj]
    cases hi : w.sheetIndex? e.sheet with
    | none =>
      left
      unfold edit enter? clear? updateSheet?
      rw [hi]
      cases e.entry <;> rfl
    | some i =>
      by_cases same : j = i ∧ p = e.position
      · -- the sheet is the one of the edit, whose name leads to its place
        obtain ⟨rfl, rfl⟩ := same
        obtain ⟨hlt, named, -⟩ := List.findIdx?_eq_some_iff_getElem.mp hi
        obtain ⟨_, called, -⟩ := List.findIdx?_eq_some_iff_getElem.mp hj
        refine .inr ⟨(beq_iff_eq.mp named).symm.trans (beq_iff_eq.mp called), rfl, ?_⟩
        have update : ∀ f : Sheet → Sheet,
            ((w.updateSheet? e.sheet f).getD w).sheets[j]?.bind (·.get? e.position) =
              (f w.sheets[j]).get? e.position := by
          intro f
          rw [updateSheet?, hi]
          simp [hlt]
        unfold edit
        cases e.entry with
        | none => exact (update _).trans (Sheet.get?_clear.trans (if_pos rfl))
        | some entry => exact (update _).trans (Sheet.get?_set.trans (if_pos rfl))
      · exact .inl (edit_get? hi same)

/-- After several edits a cell holds what it held before, or one of them has entered what it holds.
-/
lemma cell?_editAll (w : Workbook) (es : List Edit) (name : String) (p : Position) :
    (w.editAll es).cell? name p = w.cell? name p ∨
      ∃ e ∈ es, e.sheet = name ∧ e.position = p ∧
        (w.editAll es).cell? name p = e.entry.map Entry.cell := by
  induction es generalizing w with
  | nil => exact .inl rfl
  | cons e es ih =>
    change ((w.edit e).editAll es).cell? name p = _ ∨ _
    rcases ih (w.edit e) with kept | ⟨e', he', entered⟩
    · -- the later edits have left the cell alone
      rw [kept]
      refine (cell?_edit w e name p).imp_right fun ⟨sheet, position, holds⟩ => ?_
      exact ⟨e, List.mem_cons_self, sheet, position, kept.trans holds⟩
    · exact .inr ⟨e', List.mem_cons_of_mem _ he', entered⟩

namespace EditOf

variable {b w : Workbook}

/-- A workbook is an edit of itself. -/
lemma refl (w : Workbook) : EditOf w w := by
  intro i
  cases w.sheets[i]? with
  | none => exact .none
  | some s => exact .some (.refl s)

/-- Edits keep the names of the sheets. -/
lemma names_eq (h : EditOf b w) : w.sheets.map (·.name) = b.sheets.map (·.name) := by
  apply List.ext_getElem?
  intro i
  rw [List.getElem?_map, List.getElem?_map]
  have hi := h i
  generalize b.sheets[i]? = x at hi ⊢
  generalize w.sheets[i]? = y at hi ⊢
  cases hi with
  | none => rfl
  | some hs => rw [Option.map_some, Option.map_some, hs.frame]

/-- A sheet is found at the same place after edits. -/
lemma sheetIndex?_eq (h : EditOf b w) (name : String) :
    w.sheetIndex? name = b.sheetIndex? name := by
  have found := congrArg (List.findIdx? (· == name)) h.names_eq
  rwa [List.findIdx?_map, List.findIdx?_map] at found

/-- A change of an input cell of one sheet is an edit. -/
lemma updateSheet? (h : EditOf b w) {e : Edit} (he : b.Admits e) {f : Sheet → Sheet}
    (hf : ∀ bs ws, Sheet.EditOf bs ws → bs.IsInput e.position → Sheet.EditOf bs (f ws)) :
    EditOf b ((w.updateSheet? e.sheet f).getD w) := by
  obtain ⟨s, hs, hp⟩ := he
  rw [sheet?_eq] at hs
  obtain ⟨j, hj, hs⟩ := Option.bind_eq_some_iff.mp hs
  rw [Workbook.updateSheet?, h.sheetIndex?_eq, hj]
  intro i
  simp only [Option.map_some, Option.getD_some, List.getElem?_modify]
  by_cases hij : j = i
  · subst hij
    have hi := h j
    rw [hs] at hi ⊢
    generalize w.sheets[j]? = y at hi ⊢
    cases hi with
    | some hsw => simpa using hf s _ hsw hp
  · simpa [hij] using h i

/-- An admitted edit is an edit. -/
lemma edit (h : EditOf b w) {e : Edit} (he : b.Admits e) : EditOf b (w.edit e) := by
  unfold Workbook.edit
  cases e.entry with
  | none => exact h.updateSheet? he fun _ _ hs hp => hs.clear hp
  | some entry => exact h.updateSheet? he fun _ _ hs hp => hs.set hp entry

/-- Edits keep the formulas if none stands in an input cell. -/
lemma formula_iff (h : EditOf b w) (hb : b.InputsPlain) {i : Nat} {p : Position} {e : Expr} :
    w.grid.content i p = some (.formula e) ↔ b.grid.content i p = some (.formula e) := by
  rw [grid_formula, grid_formula]
  have hi := h i
  constructor
  · rintro ⟨s, hs, he⟩
    rw [hs] at hi
    generalize hx : b.sheets[i]? = x at hi
    cases hi with
    | some hsw =>
      refine ⟨_, rfl, ?_⟩
      -- a cell with a formula is not one that was changed
      rcases hsw.cells p with hp | ⟨-, hp⟩
      · rw [← hp, he]
      · exact absurd he (hp e)
  · rintro ⟨s, hs, he⟩
    rw [hs] at hi
    generalize hx : w.sheets[i]? = x at hi
    cases hi with
    | some hsw => exact ⟨_, rfl, (hsw.get?_eq (hb s (List.mem_of_getElem? hs) p e he)).trans he⟩

/-- Admitted edits in any order and number are an edit. -/
theorem editAll {es : List Edit} (he : ∀ e ∈ es, b.Admits e) : EditOf b (b.editAll es) := by
  suffices ∀ w, EditOf b w → EditOf b (w.editAll es) from this b (refl b)
  induction es with
  | nil => exact fun _ h => h
  | cons e es ih =>
    intro w h
    exact ih (fun e' he' => he e' (List.mem_cons_of_mem _ he')) _
      (h.edit (he e List.mem_cons_self))

end EditOf

end Workbook

end ShipReport
