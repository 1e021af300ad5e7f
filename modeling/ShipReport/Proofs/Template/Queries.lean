import ShipReport.Proofs.Formula.Queries
import ShipReport.Proofs.Template.Gate

/-!
# Questions about a template

Templates are layered however they are filled in, so their cells have the values of plain recursion
on the formulas, in whatever order they are asked for. As nothing but texts and numbers is entered,
no cell ever shows that formulas nest too deeply, even though the voyage number is carried down a
sheet of any length.
-/

namespace ShipReport.Template

open Formula (Grid Position Query Value)
open Report
open Workbook (Edit)

/-- What stands in a cell without a formula is a text or a number. -/
lemma plain_acyclic {w : Workbook} {i : Nat} {p : Position} {v : Value}
    (h : w.grid.content i p = some (.value v)) : v.Acyclic := by
  rw [Workbook.grid_content, Option.map_eq_some_iff] at h
  obtain ⟨c, -, hv⟩ := h
  cases c with
  | formula e => cases hv
  | _ =>
    obtain rfl := Formula.Content.value.inj hv
    exact nofun

/-- However a template has been filled in, every question about it is answered with the value that
plain recursion on its formulas ends with, whatever has been asked before, and never with a cycle.
-/
theorem answer_eq_recursion {catalog : Catalog} {kind : TemplateKind} {rules : Rules}
    {layout : Layout} {token : UploadToken}
    (hname : ∀ k : ReportSheet, layout.lookupSheet ≠ k.title) {es : List Edit}
    (hes : ∀ e ∈ es, (build catalog kind rules layout token).workbook.Admits e) (q : Query) :
    let g := ((build catalog kind rules layout token).workbook.editAll es).grid
    ∃ v, q.EndsWith g v ∧ v ≠ .fault .cycle ∧
      ∀ earlier : List Query,
        Workbook.evaluate (do let _ ← Query.answers g earlier; q.answer g) = v := by
  intro g
  have hw := Workbook.EditOf.editAll hes
  have hg : g.Layered := edited_layered hw hname
  have hσ := edited_solves hw hname
  have acyclic := hg.acyclic hσ fun i p v hv => plain_acyclic hv
  obtain ⟨first, -⟩ := q.answer_recursion hg hσ .empty
  refine ⟨_, first, first.acyclic hg hσ acyclic, fun earlier => ?_⟩
  -- the recursion does not know what has been asked
  obtain ⟨later, -⟩ := q.answer_recursion hg hσ (Query.answers_sound hg hσ earlier .empty)
  exact later.unique first

/-- The voyage number of the first row is asked for at the end of a sheet whose rows outnumber the
levels that formulas may nest. -/
theorem answer_at_end_of_chain :
    let w := (build Sample.catalog .bulk .default .default Sample.token).workbook.editAll
      [⟨"Voyage", ⟨1, 0⟩, some (.text "V001")⟩]
    let q := Query.name "Machinery" ⟨400, 13⟩
    ∃ v, q.EndsWith w.grid v ∧ v ≠ .fault .cycle ∧
      ∀ earlier : List Query,
        Workbook.evaluate (do let _ ← Query.answers w.grid earlier; q.answer w.grid) = v := by
  have name (k : ReportSheet) : Layout.default.lookupSheet ≠ k.title := by
    cases k <;> decide
  have admitted : ∀ e ∈ [(⟨"Voyage", ⟨1, 0⟩, some (.text "V001")⟩ : Edit)],
      (build Sample.catalog .bulk .default .default Sample.token).workbook.Admits e := by
    intro e he
    obtain rfl := List.mem_singleton.mp he
    exact (build_admits (k := .voyage)).mpr ⟨by decide, by decide, _, rfl, rfl⟩
  exact answer_eq_recursion name admitted (.name "Machinery" ⟨400, 13⟩)

end ShipReport.Template
