import Mathlib.Data.List.Basic
import TokenScopes.Scope.Diff

namespace TokenScopes

/-- The kind of the same name when the two paths change places. -/
def DiffKind.opposite : DiffKind → DiffKind
  | .added => .removed
  | .removed => .added
  | .unchanged => .unchanged

theorem DiffKind.eq_removed {k : DiffKind} (changed : k ≠ .unchanged) (notAdded : k ≠ .added) :
    k = .removed := by
  cases k <;> first | rfl | contradiction

theorem DiffKind.eq_added {k : DiffKind} (changed : k ≠ .unchanged) (notRemoved : k ≠ .removed) :
    k = .added := by
  cases k <;> first | rfl | contradiction

def DiffEntry.opposite (e : DiffEntry) : DiffEntry :=
  ⟨e.name, e.kind.opposite⟩

namespace ScopeDiff

def swap (d : ScopeDiff) : ScopeDiff :=
  ⟨d.actual.map DiffEntry.opposite, d.expected.map DiffEntry.opposite⟩

/-- The entries of a path against another one, with the kind of the names that are missing there. -/
def column (missing : DiffKind) (other names : List Text) : List DiffEntry :=
  names.map fun name => ⟨name, if name ∈ other then .unchanged else missing⟩

theorem between_columns (expected actual : List Text) :
    between expected actual = ⟨column .removed actual expected, column .added expected actual⟩ := by
  rw [between, ofSequences, column, column]
  congr 1
  · apply List.map_congr_left
    intro name (here : name ∈ expected)
    by_cases other : name ∈ actual <;>
      simp [DiffKind.classify, NameSequence.contains, here, other]
  · apply List.map_congr_left
    intro name (here : name ∈ actual)
    by_cases other : name ∈ expected <;>
      simp [DiffKind.classify, NameSequence.contains, here, other]

section Column

variable (missing : DiffKind) (other names : List Text)

theorem map_name_column : (column missing other names).map (·.name) = names := by
  simp [column, Function.comp_def]

theorem map_opposite_column :
    (column missing other names).map DiffEntry.opposite = column missing.opposite other names := by
  rw [column, List.map_map]
  apply List.map_congr_left
  intro name _
  by_cases there : name ∈ other <;> simp [DiffEntry.opposite, DiffKind.opposite, there]

variable {missing other names}

/-- An entry of a column has a name of its path, and the kind tells whether the other has it. -/
theorem mem_column {e : DiffEntry} : e ∈ column missing other names ↔
    e.name ∈ names ∧ e.kind = if e.name ∈ other then .unchanged else missing := by
  constructor
  · intro member
    obtain ⟨name, here, rfl⟩ := List.mem_map.mp member
    exact ⟨here, rfl⟩
  · rintro ⟨here, kind⟩
    exact List.mem_map.mpr ⟨e.name, here, by rw [← kind]⟩

theorem kind_eq_unchanged_iff (differs : missing ≠ .unchanged) {e : DiffEntry}
    (member : e ∈ column missing other names) : e.kind = .unchanged ↔ e.name ∈ other := by
  rw [(mem_column.mp member).2]
  split_ifs with there <;> simp [there, differs]

theorem kind_eq_missing_iff (differs : missing ≠ .unchanged) {e : DiffEntry}
    (member : e ∈ column missing other names) : e.kind = missing ↔ e.name ∉ other := by
  rw [(mem_column.mp member).2]
  split_ifs with there <;> simp [there, differs.symm]

/-- The names of a column that the other path does not have. -/
theorem names_missing (differs : missing ≠ .unchanged) :
    ((column missing other names).filter fun e => e.kind = missing).map (·.name) =
      names.filter (· ∉ other) := by
  have decided : (column missing other names).filter (fun e => e.kind = missing) =
      (column missing other names).filter fun e => e.name ∉ other := by
    apply List.filter_congr
    intro e member
    simp [kind_eq_missing_iff differs member]
  conv_rhs => rw [← map_name_column missing other names, List.filter_map]
  rw [decided]
  rfl

/-- A column is decided by its names and by which of its entries are unchanged. -/
theorem eq_column {entries : List DiffEntry} (listed : entries.map (·.name) = names)
    (kinds : ∀ e ∈ entries, e.kind = if e.name ∈ other then .unchanged else missing) :
    entries = column missing other names := by
  rw [← listed, column, List.map_map]
  conv_lhs => rw [← List.map_id entries]
  apply List.map_congr_left
  intro e member
  simp only [Function.comp_apply, ← kinds e member, id]

end Column

/-- A diff tells of two paths. Its columns list their names, at the same places; an entry is unchanged
exactly when both paths have its name, and only the actual path can add names and only the expected
one can lose some. -/
structure Tells (expected actual : List Text) (d : ScopeDiff) : Prop where
  expectedNames : d.expected.map (·.name) = expected
  actualNames : d.actual.map (·.name) = actual
  unchanged : ∀ e ∈ d.expected ++ d.actual,
    e.kind = .unchanged ↔ e.name ∈ expected ∧ e.name ∈ actual
  noneAdded : ∀ e ∈ d.expected, e.kind ≠ .added
  noneRemoved : ∀ e ∈ d.actual, e.kind ≠ .removed

/-- Nothing else tells of two paths than their comparison. -/
theorem Tells.eq_between {expected actual : List Text} {d : ScopeDiff}
    (h : Tells expected actual d) : d = between expected actual := by
  rw [between_columns]
  have left : d.expected = column .removed actual expected := by
    apply eq_column h.expectedNames
    intro e member
    have here : e.name ∈ expected := h.expectedNames ▸ List.mem_map_of_mem member
    have same := (h.unchanged e (List.mem_append_left _ member)).trans (and_iff_right here)
    split_ifs with there
    · exact same.mpr there
    · exact DiffKind.eq_removed (there ∘ same.mp) (h.noneAdded e member)
  have right : d.actual = column .added expected actual := by
    apply eq_column h.actualNames
    intro e member
    have here : e.name ∈ actual := h.actualNames ▸ List.mem_map_of_mem member
    have same := (h.unchanged e (List.mem_append_right _ member)).trans (and_iff_left here)
    split_ifs with there
    · exact same.mpr there
    · exact DiffKind.eq_added (there ∘ same.mp) (h.noneRemoved e member)
  rw [← left, ← right]

/-- The comparison does. -/
theorem between_tells (expected actual : List Text) :
    Tells expected actual (between expected actual) := by
  rw [between_columns]
  constructor
  · exact map_name_column _ _ _
  · exact map_name_column _ _ _
  · intro e member
    rcases List.mem_append.mp member with member | member
    · rw [kind_eq_unchanged_iff (by decide) member, and_iff_right (mem_column.mp member).1]
    · rw [kind_eq_unchanged_iff (by decide) member, and_iff_left (mem_column.mp member).1]
  · intro e member
    rw [(mem_column.mp member).2]
    split_ifs <;> decide
  · intro e member
    rw [(mem_column.mp member).2]
    split_ifs <;> decide

/-- The comparison of two paths is the one diff that tells of them. What it shows as removed are the
expected names that are not actual, what it shows as added the actual ones that are not expected; so
it shows neither exactly when both paths have the same names. The other way round the columns and
these two change places. -/
theorem between_faithful (expected actual : List Text) :
    (∀ d, Tells expected actual d ↔ d = between expected actual) ∧
      (between expected actual).removed = expected.filter (· ∉ actual) ∧
      (between expected actual).added = actual.filter (· ∉ expected) ∧
      ((between expected actual).removed = [] ∧ (between expected actual).added = [] ↔
        ∀ name, name ∈ expected ↔ name ∈ actual) ∧
      between actual expected = (between expected actual).swap := by
  have removed : (between expected actual).removed = expected.filter (· ∉ actual) := by
    rw [between_columns]
    exact names_missing (by decide)
  have added : (between expected actual).added = actual.filter (· ∉ expected) := by
    rw [between_columns]
    exact names_missing (by decide)
  refine ⟨fun d => ⟨Tells.eq_between, fun same => same ▸ between_tells expected actual⟩,
    removed, added, ?_, ?_⟩
  · rw [removed, added, List.filter_eq_nil_iff, List.filter_eq_nil_iff]
    simp only [decide_eq_true_eq, not_not]
    exact ⟨fun ⟨left, right⟩ name => ⟨left name, right name⟩,
      fun same => ⟨fun name => (same name).mp, fun name => (same name).mpr⟩⟩
  · rw [between_columns, between_columns, swap, map_opposite_column, map_opposite_column]
    rfl

end ScopeDiff

end TokenScopes
