import Mathlib.Data.List.Basic
import TokenScopes.Diagnostic

namespace TokenScopes

theorem DiffKind.mark_length (k : DiffKind) : k.mark.toList.length = 2 := by
  cases k <;> rfl

/-- Each mark stands for one kind. -/
theorem DiffKind.mark_injective : Function.Injective DiffKind.mark := by
  intro k l same
  cases k <;> cases l <;> simp [mark] at same ⊢

namespace DiffEntry

theorem render_injective : Function.Injective DiffEntry.render := by
  rintro ⟨name, kind⟩ ⟨name', kind'⟩ same
  have chars : kind.mark.toList ++ name.toList = kind'.mark.toList ++ name'.toList := by
    rw [← Text.toList_append, ← Text.toList_append]
    exact congrArg Text.toList same
  obtain ⟨marks, names⟩ := List.append_inj chars (by rw [kind.mark_length, kind'.mark_length])
  rw [DiffKind.mark_injective (Text.toList_injective marks), Text.toList_injective names]

theorem indent_render_injective :
    Function.Injective fun e : DiffEntry => ScopeDiff.indent e.render := by
  intro e f same
  exact render_injective ((Text.append_right_inj "  ").mp same)

/-- The line of an entry has an indentation and a mark even if its name is empty. -/
theorem indent_render_ne_empty (e : DiffEntry) : ScopeDiff.indent e.render ≠ "" := by
  simp [ScopeDiff.indent]

end DiffEntry

namespace ScopeDiff

theorem render_eq (d : ScopeDiff) : d.render =
    ("scopes in spec" : Text) :: (d.expected.map (fun e => indent e.render) ++
      ("" : Text) :: ("actual scopes" : Text) :: d.actual.map fun e => indent e.render) := rfl

/-- No line of an entry is empty. -/
theorem empty_notMem_column (es : List DiffEntry) : ("" : Text) ∉ es.map fun e => indent e.render := by
  intro member
  obtain ⟨e, -, empty⟩ := List.mem_map.mp member
  exact e.indent_render_ne_empty empty

/-- The first empty line ends the expected column, whatever the names are. -/
theorem render_injective : Function.Injective render := by
  rintro ⟨expected, actual⟩ ⟨expected', actual'⟩ same
  have columns := DiffEntry.indent_render_injective.list_map
  have heading : ("" : Text) ∉ ("actual scopes" : Text) :: actual.map fun e => indent e.render := by
    rw [List.mem_cons, not_or]
    exact ⟨by decide, empty_notMem_column actual⟩
  rw [render_eq, render_eq, List.cons_inj_right,
    List.append_cons_inj_of_notMem (empty_notMem_column expected) heading] at same
  obtain ⟨left, -, right⟩ := same
  rw [columns left, columns (List.cons_inj_right _ |>.mp right)]

/-- Neither an empty name nor one that reads as the heading ends the expected column. -/
example : (between ["", "actual scopes"] [""]).render =
    ["scopes in spec", "    ", "  - actual scopes", "", "actual scopes", "    "] := by decide

end ScopeDiff

namespace Diagnostic

/-- The line of a diagnostic itself: its message, with the number of the line it is on. -/
def headline (d : Diagnostic) : Text :=
  match d.lineNumber with
  | some n => "line " ++ toString n ++ ": " ++ d.message
  | none => d.message

def below : Option ScopeDiff → List Text
  | none => []
  | some diff => ("" : Text) :: diff.render.map indented ++ [("" : Text)]

theorem render_eq (d : Diagnostic) : d.render = d.headline :: below d.diff := by
  cases diff : d.diff <;> simp only [render, diff] <;> rfl

theorem indented_injective : Function.Injective indented := by
  intro s t same
  by_cases left : s = "" <;> by_cases right : t = ""
  · rw [left, right]
  · simp [indented, left, right] at same
  · simp [indented, left, right] at same
  · simpa [indented, left, right] using same

theorem below_injective : Function.Injective below := by
  intro diff diff' same
  cases diff with
  | none => cases diff' <;> simp [below] at same ⊢
  | some d =>
    cases diff' with
    | none => simp [below] at same
    | some e =>
      have lines : d.render.map indented = e.render.map indented :=
        List.append_cancel_right (List.tail_eq_of_cons_eq same)
      rw [ScopeDiff.render_injective (indented_injective.list_map lines)]

/-- The lines of a diff are those of no other, and the lines of a diagnostic tell its headline and
its diff, or that it has none. -/
theorem render_unambiguous :
    (∀ d e : ScopeDiff, d.render = e.render ↔ d = e) ∧
      ∀ d e : Diagnostic, d.render = e.render ↔ d.headline = e.headline ∧ d.diff = e.diff := by
  refine ⟨fun d e => ScopeDiff.render_injective.eq_iff, fun d e => ?_⟩
  rw [render_eq, render_eq, List.cons.injEq, below_injective.eq_iff]

end Diagnostic

end TokenScopes
