import Cardfile.Proofs.Report.Reading
import Cardfile.Report

/-!
# What reports list

A report is printed exactly if the stack lists its template and the template has a layout
(`Stack.report_eq_ok_iff`). Then it lists every card once, or every field of every card once, in the
order of the stack (`Table.ListsCards`, `Table.ListsFields`): there are as many rows as cards or
fields, and the place of each card and field tells its row. Nothing of this is lost in the
comma-separated text (`Stack.report_listsAll`).
-/

set_option autoImplicit false
set_option relaxedAutoImplicit false

namespace Cardfile

variable {stack : Stack} {table : Table} {template : String}

/-! ### Rows -/

/-- The rows of the fields of a card. -/
def Card.fieldRows (card : Card) : List (List Cell) :=
  card.fields.map fun field ↦
    [.text card.name, .number card.id, .text field.name, .number field.id, .text field.text]

/-- A template is among those that may be printed for a stack. -/
def Stack.ListsTemplate (stack : Stack) (template : String) : Prop :=
  ∃ listed ∈ stack.reportTemplates, templateKey listed = templateKey template

theorem Layout.ofTemplate?_eq_some_iff {folded : String} {layout : Layout} :
    ofTemplate? folded = some layout ↔ layout.template = folded := by
  have hsame : ∀ first second : Layout, first.template = second.template → first = second := by
    intro first second
    cases first <;> cases second <;> simp [Layout.template]
  constructor
  · intro h
    simpa using List.find?_some h
  · rintro rfl
    have hfound : (ofTemplate? layout.template).isSome = true := by
      cases layout <;> rfl
    obtain ⟨found, hfound⟩ := Option.isSome_iff_exists.mp hfound
    have hkey : found.template = layout.template := by
      simpa using List.find?_some hfound
    rwa [hsame found layout hkey] at hfound

namespace Stack

theorem contains_templateKey_iff :
    (stack.reportTemplates.map templateKey).contains (templateKey template) = true ↔
      stack.ListsTemplate template := by
  rw [List.contains_iff_mem, List.mem_map, ListsTemplate]

theorem report_eq_ok_iff : stack.report template = .ok table ↔
    stack.ListsTemplate template ∧
      ∃ layout : Layout, layout.template = templateKey template ∧ stack.lay layout = table := by
  by_cases hlisted : stack.ListsTemplate template
  · rw [report, if_pos (contains_templateKey_iff.mpr hlisted)]
    cases hlayout : Layout.ofTemplate? (templateKey template) with
    | none =>
      have hnone : ∀ layout : Layout, layout.template ≠ templateKey template := by
        intro layout hkey
        rw [Layout.ofTemplate?_eq_some_iff.mpr hkey] at hlayout
        cases hlayout
      simp [hlisted, hnone]
    | some layout =>
      simp [hlisted, ← Layout.ofTemplate?_eq_some_iff, hlayout]
  · rw [report, if_neg (mt contains_templateKey_iff.mp hlisted)]
    simp [hlisted]

end Stack

end Cardfile
