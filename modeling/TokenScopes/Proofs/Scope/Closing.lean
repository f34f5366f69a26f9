import Mathlib.Data.List.Range
import TokenScopes.Diagnostic
import TokenScopes.Proofs.Scope.Stack

namespace TokenScopes

/-- The entry `j` places below the top of a stack that is listed from the outermost scope on. -/
def belowTop (stack : List Text) (j : Nat) : Option Text :=
  if j < stack.length then stack[stack.length - 1 - j]? else none

/-- The reports on names that are closed, from the last name to the first: one for each name that
differs from the entry at its place, or that has none left. -/
def closeReports (stack names : List Text) : List Diagnostic :=
  (List.finRange names.length).filterMap fun (j : Fin names.length) =>
    if belowTop stack j = some names[j.rev] then none
    else some (.ofCloseMismatch ⟨names[j.rev], belowTop stack j⟩)

theorem belowTop_eq (stack : List Text) (j : Nat) : belowTop stack j = stack.reverse[j]? := by
  rw [belowTop]
  split_ifs with deep
  · rw [List.getElem?_reverse deep]
  · rw [List.getElem?_eq_none (by simpa using deep)]

theorem zipIdx_reverse (names : List Text) :
    names.reverse.zipIdx =
      (List.finRange names.length).map fun (j : Fin names.length) => (names[j.rev], j.val) := by
  apply List.ext_getElem
  · simp
  · intro j _ _
    simp [Fin.rev, Nat.sub_sub, Nat.add_comm]

/-- Place by place, the reports are the mismatches of the stack. -/
theorem closeReports_eq (stack names : List Text) :
    closeReports stack names = (closeMismatches stack names).map .ofCloseMismatch := by
  rw [closeMismatches, zipIdx_reverse, List.filterMap_map, List.map_filterMap, closeReports]
  congr 1
  funext j
  simp only [belowTop_eq, Function.comp_apply]
  split_ifs <;> rfl

/-- Tells a diagnostic to a listener, if there is one. A listener is known by what it makes of what
was heard before. -/
def tell {α : Type} (listener : Option (α → Diagnostic → α)) (heard : α) (d : Diagnostic) : α :=
  match listener with
  | none => heard
  | some hear => hear heard d

namespace ScopeStack

variable {α : Type} (listener : Option (α → Diagnostic → α))

/-- Closes names one after the other and tells each mismatch before the entry goes. -/
def closeTelling (s : ScopeStack) (heard : α) : List Text → ScopeStack × α
  | [] => (s, heard)
  | name :: names =>
    let told := match s.mismatch? name with
      | none => heard
      | some m => tell listener heard (.ofCloseMismatch m)
    closeTelling s.pop told names

/-- Whoever listens does not change what is closed. -/
theorem closeTelling_eq (s : ScopeStack) (heard : α) (names : List Text) :
    s.closeTelling listener heard names =
      ((s.closeEach names).1,
        ((s.closeEach names).2.map .ofCloseMismatch).foldl (tell listener) heard) := by
  induction names generalizing s heard with
  | nil => rfl
  | cons name rest ih =>
    have each : s.closeEach (name :: rest) =
        ((s.pop.closeEach rest).1, (s.mismatch? name).toList ++ (s.pop.closeEach rest).2) := rfl
    rw [closeTelling, ih, each]
    cases s.mismatch? name with
    | none => rfl
    | some m => rfl

/-- Closing names drops as many entries as there are names, whichever they are. It reports, from the
last name on, those that differ from the entry at their place; so nothing exactly when the names
end the stack. The stack is the same whether or not somebody listens to the reports. -/
theorem close_reports (s : ScopeStack) (names : List Text) :
    (s.close names).1.path = s.path.take (s.path.length - names.length) ∧
      (s.close names).2.map Diagnostic.ofCloseMismatch = closeReports s.path names ∧
      (closeReports s.path names = [] ↔ names <:+ s.path) ∧
      ∀ (α : Type) (listener : Option (α → Diagnostic → α)) (heard : α),
        s.closeTelling listener heard names.reverse =
          ((s.close names).1, (closeReports s.path names).foldl (tell listener) heard) := by
  have reports : (s.close names).2.map Diagnostic.ofCloseMismatch = closeReports s.path names := by
    rw [close_mismatches, closeReports_eq]
  refine ⟨?_, reports, ?_, fun α listener heard => ?_⟩
  · rw [path_close, List.rdrop]
  · rw [closeReports_eq, List.map_eq_nil_iff, closeMismatches_eq_nil_iff]
  · rw [closeTelling_eq, ← reports]
    rfl

end ScopeStack

end TokenScopes
