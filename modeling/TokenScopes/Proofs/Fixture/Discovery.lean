import Mathlib.Data.List.Induction
import Mathlib.Data.List.Nodup
import TokenScopes.Fixture.Load
import TokenScopes.Proofs.File.Tree

namespace TokenScopes

section

variable {α : Type} [DecidableEq α]

/-- An element goes to the end, unless it is there already. -/
theorem eraseDups_concat (as : List α) (b : α) :
    (as ++ [b]).eraseDups = if b ∈ as then as.eraseDups else as.eraseDups ++ [b] := by
  rw [List.eraseDups_append, List.removeAll]
  split_ifs with member
  · simp [member]
  · simp [member, List.eraseDups_cons]

theorem nodup_eraseDups (as : List α) : as.eraseDups.Nodup := by
  induction as using List.reverseRecOn with
  | nil => exact List.nodup_nil
  | append_singleton as b ih =>
    rw [eraseDups_concat]
    split_ifs with member
    · exact ih
    · rw [← List.concat_eq_append, List.nodup_concat, List.mem_eraseDups]
      exact ⟨member, ih⟩

theorem eraseDups_sublist (as : List α) : as.eraseDups.Sublist as := by
  induction as using List.reverseRecOn with
  | nil => exact .slnil
  | append_singleton as b ih =>
    rw [eraseDups_concat]
    split_ifs
    · exact ih.trans (List.sublist_append_left as [b])
    · exact ih.append (.refl [b])

theorem eraseDups_of_nodup {as : List α} (distinct : as.Nodup) : as.eraseDups = as := by
  induction as using List.reverseRecOn with
  | nil => rfl
  | append_singleton as b ih =>
    rw [← List.concat_eq_append, List.nodup_concat] at distinct
    rw [eraseDups_concat, if_neg distinct.1, ih distinct.2]

theorem eraseDups_filter (p : α → Bool) (as : List α) :
    (as.filter p).eraseDups = as.eraseDups.filter p := by
  induction as using List.reverseRecOn with
  | nil => rfl
  | append_singleton as b ih =>
    rw [List.filter_append, eraseDups_concat]
    by_cases kept : p b = true
    · rw [List.filter_cons_of_pos kept, List.filter_nil, eraseDups_concat]
      by_cases member : b ∈ as
      · rw [if_pos (List.mem_filter.mpr ⟨member, kept⟩), if_pos member, ih]
      · have new : b ∉ as.filter p := fun given => member (List.mem_filter.mp given).1
        rw [if_neg new, if_neg member, ih, List.filter_append, List.filter_cons_of_pos kept,
          List.filter_nil]
    · rw [List.filter_cons_of_neg kept, List.filter_nil, List.append_nil, ih]
      split_ifs
      · rfl
      · rw [List.filter_append, List.filter_cons_of_neg kept, List.filter_nil, List.append_nil]

end

namespace Path

variable {p q : Path}

theorem before_iff : p.before q = true ↔ ¬q.anchor :: q.parts < p.anchor :: p.parts := by
  rw [before, Bool.not_eq_true', decide_eq_false_iff_not]

theorem pairwise_mergeSort (ps : List Path) :
    (ps.mergeSort before).Pairwise fun p q => p.before q = true := by
  apply List.pairwise_mergeSort
  · intro p q r first second
    rw [before_iff] at first second ⊢
    exact List.not_lt.mpr (List.le_trans (List.not_lt.mp first) (List.not_lt.mp second))
  · intro p q
    simp only [Bool.or_eq_true, before_iff, List.not_lt]
    exact List.le_total _ _

theorem parts_lt_of_before (ordered : p.before q = true) (anchor : p.anchor = q.anchor)
    (differ : p ≠ q) : p.parts < q.parts := by
  rw [before_iff, anchor, List.cons_lt_cons_iff] at ordered
  have below : ¬q.parts < p.parts := fun less => ordered (.inr ⟨rfl, less⟩)
  by_contra above
  have parts := List.le_antisymm (List.not_lt.mp below) (List.not_lt.mp above)
  cases p
  cases q
  cases anchor
  cases parts
  exact differ rfl

end Path

namespace Fixture

variable {fs : FileSystem} {ps qs : List Path} {p : Path}

theorem mem_discover : p ∈ discover fs ps ↔ ∃ q ∈ ps, p ∈ expand fs q := by
  rw [discover, List.mem_eraseDups, List.mem_flatMap]

theorem mem_discover_append :
    p ∈ discover fs (ps ++ qs) ↔ p ∈ discover fs ps ∨ p ∈ discover fs qs := by
  simp only [mem_discover, List.mem_append, or_and_right, exists_or]

/-- No directory is among the discovered files. -/
theorem not_isDirectory_of_discovered (tree : fs.top.WellFormed) (found : p ∈ discover fs ps) :
    fs.isDirectory p = false := by
  obtain ⟨q, -, member⟩ := mem_discover.mp found
  rw [expand] at member
  split at member
  · obtain ⟨listed, -⟩ := List.mem_filter.mp member
    obtain ⟨-, _, _, -, -, file⟩ := (FileSystem.mem_filesUnder_iff tree).mp listed
    rw [FileSystem.isDirectory, file]
  · next other =>
    rw [List.mem_singleton] at member
    rw [member]
    exact Bool.eq_false_iff.mpr other

theorem discover_file (file : fs.isDirectory p = false) : discover fs [p] = [p] := by
  rw [discover, List.flatMap_singleton, expand, file]
  rfl

/-- Loading the files that paths stand for meets nothing but load faults. -/
def Loadable (fs : FileSystem) (ps : List Path) : Prop :=
  ∀ p ∈ discover fs ps, ∀ f, load fs p ≠ .error (.scalar f)

theorem Loadable.append (here : Loadable fs ps) (there : Loadable fs qs) :
    Loadable fs (ps ++ qs) := by
  intro p member
  rcases mem_discover_append.mp member with first | second
  · exact here p first
  · exact there p second

/-- A file at any depth below a directory, with the suffix of a fixture. -/
structure IsFixtureBelow (fs : FileSystem) (p q : Path) : Prop where
  directory : fs.isDirectory p = true
  file : ∃ names bytes, q = p.descend names ∧ ".." ∉ names ∧ fs.find q = .ok (.file bytes)
  suffix : q.lowerSuffix ∈ [".json", ".yaml", ".yml"]

/-- A path stands for itself, or for the fixtures at any depth below a directory. -/
theorem mem_expand_iff (tree : fs.top.WellFormed) {q : Path} :
    q ∈ expand fs p ↔ q = p ∧ fs.isDirectory q = false ∨ IsFixtureBelow fs p q := by
  rw [expand]
  split
  · next directory =>
    have suffixes : hasFixtureSuffix q = true ↔ q.lowerSuffix ∈ [".json", ".yaml", ".yml"] :=
      List.contains_iff_mem
    rw [List.mem_filter, FileSystem.mem_filesUnder_iff tree, suffixes]
    constructor
    · rintro ⟨⟨-, file⟩, suffix⟩
      exact .inr ⟨directory, file, suffix⟩
    · rintro (⟨rfl, other⟩ | below)
      · rw [directory] at other
        cases other
      · exact ⟨⟨directory, below.file⟩, below.suffix⟩
  · next other =>
    rw [List.mem_singleton]
    constructor
    · rintro rfl
      exact .inl ⟨rfl, Bool.eq_false_iff.mpr other⟩
    · rintro (⟨same, -⟩ | below)
      · exact same
      · exact absurd below.directory other

/-- What is found later is appended, as far as it is new. -/
theorem discover_append (fs : FileSystem) (ps qs : List Path) :
    discover fs (ps ++ qs) =
      discover fs ps ++ (discover fs qs).filter (· ∉ discover fs ps) := by
  rw [discover, List.flatMap_append, List.eraseDups_append, List.removeAll, eraseDups_filter]
  congr 1
  refine List.filter_congr fun q _ => ?_
  rw [Bool.eq_iff_iff]
  simp [discover]

/-- What a directory stands for is in the order of its paths. -/
theorem pairwise_discover (tree : fs.top.WellFormed) (directory : fs.isDirectory p = true) :
    (discover fs [p]).Pairwise fun a b => a.parts < b.parts := by
  have ordered : (discover fs [p]).Pairwise fun a b => a.before b = true := by
    rw [discover, List.flatMap_singleton, expand, if_pos directory]
    refine .sublist ((eraseDups_sublist _).trans List.filter_sublist) ?_
    rw [FileSystem.filesUnder]
    split
    · exact Path.pairwise_mergeSort _
    · exact .nil
  have anchored : ∀ q ∈ discover fs [p], q.anchor = p.anchor := by
    intro q found
    rw [mem_discover] at found
    simp only [List.mem_singleton, exists_eq_left, mem_expand_iff tree] at found
    rcases found with ⟨rfl, -⟩ | below
    · rfl
    · obtain ⟨names, _, rfl, -⟩ := below.file
      rfl
  refine (ordered.and (nodup_eraseDups _)).imp_of_mem fun {a b} first second both => ?_
  have anchor : a.anchor = b.anchor := (anchored a first).trans (anchored b second).symm
  exact Path.parts_lt_of_before both.1 anchor both.2

/-- Discovered files stand for themselves, in the same order. -/
theorem discover_discover (tree : fs.top.WellFormed) (ps : List Path) :
    discover fs (discover fs ps) = discover fs ps := by
  have alone : ∀ q ∈ discover fs ps, expand fs q = [q] := by
    intro q found
    rw [expand, not_isDirectory_of_discovered tree found]
    rfl
  rw [discover, List.flatMap_congr alone, List.flatMap_singleton']
  exact eraseDups_of_nodup (nodup_eraseDups _)

/-- Paths stand for those among them that are no directories and for the fixtures below those that
are. Each of these is found once: in the order of the paths where one directory adds it, and after
what was found before. What is found stands for itself. -/
theorem discover_finds_once (fs : FileSystem) (tree : fs.top.WellFormed) (ps qs : List Path) :
    (discover fs ps).Nodup ∧
    (∀ q, q ∈ discover fs ps ↔
      q ∈ ps ∧ fs.isDirectory q = false ∨ ∃ p ∈ ps, IsFixtureBelow fs p q) ∧
    (∀ p, fs.isDirectory p = true → ∃ added, discover fs (ps ++ [p]) = discover fs ps ++ added ∧
      added.Pairwise fun a b => a.parts < b.parts) ∧
    discover fs (discover fs ps) = discover fs ps ∧
    discover fs (ps ++ qs) =
      discover fs ps ++ (discover fs qs).filter (· ∉ discover fs ps) := by
  refine ⟨nodup_eraseDups _, fun q => ?_, fun p directory => ?_, discover_discover tree ps,
    discover_append fs ps qs⟩
  · simp only [mem_discover, mem_expand_iff tree, and_or_left, exists_or]
    constructor
    · rintro (⟨p, given, rfl, other⟩ | below)
      · exact .inl ⟨given, other⟩
      · exact .inr below
    · rintro (⟨given, other⟩ | below)
      · exact .inl ⟨q, given, rfl, other⟩
      · exact .inr below
  · exact ⟨_, discover_append fs ps [p], (pairwise_discover tree directory).sublist
      List.filter_sublist⟩

def nestedFixtures : FileSystem where
  top := .directory [("d.json", .directory [("b.YML", .file []), ("c", .file [])])]

/-- A directory that is named like a fixture, with a fixture in it and a file that is none. -/
theorem nestedFixtures_found_once :
    nestedFixtures.top.WellFormed ∧
      (discover nestedFixtures [Path.of "d.json", Path.of "d.json/b.YML"]).Nodup ∧
      Path.of "d.json/b.YML" ∈ discover nestedFixtures [Path.of "d.json"] ∧
      Path.of "d.json/c" ∉ discover nestedFixtures [Path.of "d.json"] ∧
      discover nestedFixtures ([Path.of "d.json/b.YML"] ++ [Path.of "d.json"]) =
        discover nestedFixtures [Path.of "d.json/b.YML"] ++
          (discover nestedFixtures [Path.of "d.json"]).filter
            (· ∉ discover nestedFixtures [Path.of "d.json/b.YML"]) := by
  have tree : nestedFixtures.top.WellFormed := by
    refine .directory (by decide) (by decide) ?_
    simp only [List.mem_cons, List.not_mem_nil, or_false, forall_eq]
    refine .directory (by decide) (by decide) ?_
    simp only [List.mem_cons, List.not_mem_nil, or_false, forall_eq_or_imp, forall_eq]
    exact ⟨.file _, .file _⟩
  have below : IsFixtureBelow nestedFixtures (Path.of "d.json") (Path.of "d.json/b.YML") :=
    ⟨by decide +kernel, ⟨["b.YML"], [], by decide +kernel, by decide, rfl⟩, by decide +kernel⟩
  have found (ps qs : List Path) := discover_finds_once nestedFixtures tree ps qs
  refine ⟨tree, (found _ []).1, ?_, ?_, (found _ _).2.2.2.2⟩
  · exact ((found [Path.of "d.json"] []).2.1 _).mpr (.inr ⟨_, List.mem_singleton_self _, below⟩)
  · rw [(found [Path.of "d.json"] []).2.1]
    rintro (⟨given, -⟩ | ⟨p, -, other⟩)
    · exact absurd given (by decide +kernel)
    · exact absurd other.suffix (by decide +kernel)

end Fixture

end TokenScopes
