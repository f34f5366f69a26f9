import Mathlib.Data.List.DropRight
import TokenScopes.Scope.Stack

namespace TokenScopes

/-- The mismatches of closing names on a stack, outermost scope first: the `j`-th name from the end
stands against the `j`-th entry from the top, if there is one. -/
def closeMismatches (stack names : List Text) : List CloseMismatch :=
  names.reverse.zipIdx.filterMap fun (name, j) =>
    if stack.reverse[j]? = some name then none else some ⟨name, stack.reverse[j]?⟩

namespace ScopeStack

theorem fromTop_eq_reverse_path (s : ScopeStack) : s.fromTop = s.path.reverse := by
  simp [path]

theorem path_push (s : ScopeStack) (name : Text) : (s.push name).path = s.path ++ [name] := by
  simp [push, path]

@[simp] theorem path_opened (s : ScopeStack) (names : List Text) :
    (s.opened names).path = s.path ++ names := by
  induction names generalizing s with
  | nil => simp [opened]
  | cons name names ih =>
    change ((s.push name).opened names).path = _
    rw [ih, path_push]
    simp

/-- Closing drops as many entries as there are names, whatever the names are. -/
theorem closeEach_fromTop (s : ScopeStack) (names : List Text) :
    (s.closeEach names).1.fromTop = s.fromTop.drop names.length := by
  induction names generalizing s with
  | nil => rfl
  | cons name names ih =>
    change (s.pop.closeEach names).1.fromTop = s.fromTop.drop (names.length + 1)
    rw [ih, pop, List.drop_tail]

@[simp] theorem path_close (s : ScopeStack) (names : List Text) :
    (s.close names).1.path = s.path.rdrop names.length := by
  rw [List.rdrop_eq_reverse_drop_reverse, path, close, closeEach_fromTop,
    fromTop_eq_reverse_path, List.length_reverse]

/-- Names that are closed from some place on stand against the entries from that place on. -/
theorem closeEach_mismatches (s : ScopeStack) (names : List Text) (tops : List Text) (j : Nat)
    (h : s.fromTop = tops.drop j) :
    (s.closeEach names).2 = (names.zipIdx j).filterMap fun (name, i) =>
      if tops[i]? = some name then none else some ⟨name, tops[i]?⟩ := by
  induction names generalizing s j with
  | nil => rfl
  | cons name names ih =>
    -- The entry on top is the `j`-th of the whole stack, which stays while the names are used up.
    have top : s.top? = tops[j]? := by rw [top?, h, List.head?_drop]
    have below : s.pop.fromTop = tops.drop (j + 1) := by simp [pop, h]
    have later := ih s.pop (j + 1) below
    simp only [closeEach, later, mismatch?, top, List.zipIdx_cons, List.filterMap_cons]
    split_ifs <;> rfl

@[simp] theorem close_mismatches (s : ScopeStack) (names : List Text) :
    (s.close names).2 = closeMismatches s.path names := by
  have each := closeEach_mismatches s names.reverse s.path.reverse 0
    (by simp [fromTop_eq_reverse_path])
  exact each

end ScopeStack

@[simp] theorem closeMismatches_nil (stack : List Text) : closeMismatches stack [] = [] := rfl

/-- The names that stand last are closed first, and the others on what they leave. -/
theorem closeMismatches_append (stack names later : List Text) :
    closeMismatches stack (names ++ later) =
      closeMismatches stack later ++ closeMismatches (stack.rdrop later.length) names := by
  have entries (j : Nat) :
      (stack.rdrop later.length).reverse[j]? = stack.reverse[later.length + j]? := by
    rw [List.rdrop_eq_reverse_drop_reverse, List.reverse_reverse, List.getElem?_drop]
  have places := List.zipIdx_eq_map_add (l := names.reverse) (i := later.length)
  rw [closeMismatches, List.reverse_append, List.zipIdx_append, List.filterMap_append,
    List.length_reverse, Nat.zero_add, places, List.filterMap_map]
  simp only [closeMismatches, entries]
  rfl

/-- Closing is silent exactly when the names end the stack. -/
theorem closeMismatches_eq_nil_iff (stack names : List Text) :
    closeMismatches stack names = [] ↔ names <:+ stack := by
  rw [closeMismatches, List.filterMap_eq_nil_iff, ← List.reverse_prefix,
    List.prefix_iff_getElem?]
  generalize names.reverse = closed
  generalize stack.reverse = tops
  constructor
  · intro silent j hj
    have place := silent (closed[j], j) (List.mem_zipIdx_iff_getElem?.mpr (by simp [hj]))
    by_contra differs
    simp [differs] at place
  · rintro matched ⟨name, j⟩ member
    have found : closed[j]? = some name := List.mem_zipIdx_iff_getElem?.mp member
    obtain ⟨hj, rfl⟩ := List.getElem?_eq_some_iff.mp found
    simp [matched j hj]

end TokenScopes
