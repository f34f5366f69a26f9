import TokenScopes.File.System

namespace TokenScopes

/-- The path of what names lead to below a path. -/
def Path.descend (p : Path) (names : List String) : Path :=
  { p with parts := p.parts ++ names }

theorem Path.descend_child (p : Path) (name : String) (names : List String) :
    (p.child name).descend names = p.descend (name :: names) := by
  simp [descend, child]

namespace FileNode

/-- The names in each directory differ, and none of them leads out of it. -/
inductive WellFormed : FileNode → Prop
  | file (bytes : List UInt8) : WellFormed (.file bytes)
  | directory {children : List (String × FileNode)} (distinct : (children.map Prod.fst).Nodup)
    (inner : ".." ∉ children.map Prod.fst) (below : ∀ child ∈ children, WellFormed child.2) :
    WellFormed (.directory children)

/-- A place is gone to in steps. -/
theorem at?_append (n : FileNode) (xs ys : List String) :
    n.at? (xs ++ ys) = (n.at? xs).bind (·.at? ys) := by
  induction xs generalizing n with
  | nil => rfl
  | cons name xs ih =>
    cases n with
    | file bytes => rfl
    | directory children =>
      rw [List.cons_append, at?, at?]
      cases children.lookup name with
      | none => rfl
      | some child => exact ih child

/-- In a list of children with different names, each is found under its name. -/
theorem lookup_of_mem {children : List (String × FileNode)}
    (distinct : (children.map Prod.fst).Nodup) {child : String × FileNode}
    (member : child ∈ children) : children.lookup child.1 = some child.2 := by
  induction children with
  | nil => cases member
  | cons first rest ih =>
    obtain ⟨new, distinct⟩ := List.nodup_cons.mp distinct
    rcases List.mem_cons.mp member with rfl | later
    · rw [List.lookup_cons, beq_self_eq_true]
    · have other : child.1 ≠ first.1 := by
        intro same
        exact new (same ▸ List.mem_map_of_mem later)
      rw [List.lookup_cons, beq_eq_false_iff_ne.mpr other]
      exact ih distinct later

theorem mem_of_lookup {children : List (String × FileNode)} {name : String} {node : FileNode}
    (found : children.lookup name = some node) : (name, node) ∈ children := by
  obtain ⟨before, after, same, -⟩ := List.lookup_eq_some_iff.mp found
  simp [same]

theorem at?_cons_eq_some_iff {children : List (String × FileNode)} {name : String}
    {names : List String} {m : FileNode} :
    (directory children).at? (name :: names) = some m ↔
      ∃ node, children.lookup name = some node ∧ node.at? names = some m := by
  rw [FileNode.at?]
  cases children.lookup name <;> simp

theorem WellFormed.at? {n m : FileNode} (h : n.WellFormed) {place : List String}
    (found : n.at? place = some m) : m.WellFormed := by
  induction place generalizing n with
  | nil =>
    cases found
    exact h
  | cons name place ih =>
    cases h with
    | file bytes => cases found
    | @directory children _ _ below =>
      obtain ⟨node, child, found⟩ := at?_cons_eq_some_iff.mp found
      exact ih (below _ (mem_of_lookup child)) found

theorem mem_filesOfChildren {p q : Path} {children : List (String × FileNode)} :
    q ∈ filesOfChildren p children ↔
      ∃ child ∈ children, q ∈ filesBelow (p.child child.1) child.2 := by
  induction children with
  | nil => simp [filesOfChildren]
  | cons child rest ih =>
    simp only [filesOfChildren, List.mem_append, ih, List.mem_cons, exists_eq_or_imp]

/-- What is listed below a node is a file below it. -/
theorem WellFormed.file_of_listed {n : FileNode} (h : n.WellFormed) {p q : Path}
    (listed : q ∈ filesBelow p n) :
    ∃ names bytes, q = p.descend names ∧ n.at? names = some (.file bytes) ∧ ".." ∉ names := by
  induction h generalizing p with
  | file bytes =>
    rw [filesBelow, List.mem_singleton] at listed
    refine ⟨[], bytes, ?_, rfl, List.not_mem_nil⟩
    rw [listed, Path.descend, List.append_nil]
  | @directory children distinct inner _ ih =>
    rw [filesBelow] at listed
    obtain ⟨child, member, deeper⟩ := mem_filesOfChildren.mp listed
    obtain ⟨names, bytes, below, found, proper⟩ := ih child member deeper
    have name : child.1 ≠ ".." := by
      intro same
      exact inner (same ▸ List.mem_map_of_mem member)
    refine ⟨child.1 :: names, bytes, ?_, ?_, ?_⟩
    · rw [below, Path.descend_child]
    · exact at?_cons_eq_some_iff.mpr ⟨_, lookup_of_mem distinct member, found⟩
    · rw [List.mem_cons, not_or]
      exact ⟨name.symm, proper⟩

/-- A file that names lead to is listed. -/
theorem listed_of_file {n : FileNode} {names : List String} {bytes : List UInt8}
    (found : n.at? names = some (.file bytes)) (p : Path) : p.descend names ∈ filesBelow p n := by
  induction names generalizing n p with
  | nil =>
    cases found
    rw [filesBelow, Path.descend, List.append_nil]
    exact List.mem_singleton_self p
  | cons name names ih =>
    cases n with
    | file bytes => cases found
    | directory children =>
      obtain ⟨node, child, found⟩ := at?_cons_eq_some_iff.mp found
      rw [filesBelow, ← Path.descend_child]
      exact mem_filesOfChildren.mpr ⟨_, mem_of_lookup child, ih found _⟩

end FileNode

namespace FileSystem

open FileNode

theorem follow_append (top : FileNode) (place xs ys : List String) :
    follow top place (xs ++ ys) = (follow top place xs).bind fun p => follow top p ys := by
  induction xs generalizing place with
  | nil => rfl
  | cons part xs ih =>
    rw [List.cons_append, follow, follow]
    rcases top.at? place with _ | ⟨_ | _⟩
    · rfl
    · rfl
    · exact ih _

/-- Names that lead from a node to another are followed one by one. -/
theorem follow_below {top n m : FileNode} {place names : List String}
    (here : top.at? place = some n) (found : n.at? names = some m) (inner : ".." ∉ names) :
    follow top place names = .ok (place ++ names) := by
  induction names generalizing n place with
  | nil => rw [follow, List.append_nil]
  | cons name names ih =>
    rw [List.mem_cons, not_or] at inner
    cases n with
    | file bytes => cases found
    | directory children =>
      obtain ⟨node, child, found⟩ := at?_cons_eq_some_iff.mp found
      have next : top.at? (place ++ [name]) = some node := by
        rw [at?_append, here, Option.bind_some]
        exact at?_cons_eq_some_iff.mpr ⟨node, child, rfl⟩
      have rest := ih next found inner.2
      rw [follow, here]
      simp only [Ne.symm inner.1, if_false, rest, List.append_assoc, List.singleton_append]

/-- Where names are followed that do not lead back, they are added to the place. -/
theorem follow_proper {top : FileNode} {place target names : List String} (inner : ".." ∉ names)
    (followed : follow top place names = .ok target) : target = place ++ names := by
  induction names generalizing place with
  | nil =>
    cases followed
    exact (List.append_nil _).symm
  | cons name names ih =>
    rw [List.mem_cons, not_or] at inner
    rw [follow, if_neg (Ne.symm inner.1)] at followed
    split at followed
    · cases followed
    · cases followed
    · rw [ih inner.2 followed, List.append_assoc, List.singleton_append]

theorem find_eq_ok_iff {fs : FileSystem} {p : Path} {n : FileNode} :
    fs.find p = .ok n ↔ ∃ place, fs.placeOf p = .ok place ∧ fs.top.at? place = some n := by
  rw [find]
  cases fs.placeOf p with
  | error problem => simp
  | ok place => cases node : fs.top.at? place <;> simp [node]

/-- Below a node that is found, those nodes are found that names lead to from it. -/
theorem find_descend_iff {fs : FileSystem} {p : Path} {n m : FileNode} {names : List String}
    (here : fs.find p = .ok n) (inner : ".." ∉ names) :
    fs.find (p.descend names) = .ok m ↔ n.at? names = some m := by
  obtain ⟨start, place, node⟩ := find_eq_ok_iff.mp here
  have below : fs.placeOf (p.descend names) = follow fs.top start names := by
    rw [placeOf] at place ⊢
    rw [Path.descend, follow_append, place]
    rfl
  have target : fs.top.at? (start ++ names) = n.at? names := by
    rw [at?_append, node, Option.bind_some]
  rw [find_eq_ok_iff, below, ← target]
  constructor
  · rintro ⟨_, followed, found⟩
    rwa [follow_proper inner followed] at found
  · intro found
    exact ⟨_, follow_below node (target ▸ found) inner, found⟩

/-- Whatever is found in a well-formed tree is one. -/
theorem find_wellFormed {fs : FileSystem} (h : fs.top.WellFormed) {p : Path} {n : FileNode}
    (found : fs.find p = .ok n) : n.WellFormed := by
  obtain ⟨_, -, node⟩ := find_eq_ok_iff.mp found
  exact h.at? node

theorem isDirectory_iff {fs : FileSystem} {p : Path} :
    fs.isDirectory p = true ↔ ∃ children, fs.find p = .ok (.directory children) := by
  rw [isDirectory]
  split <;> simp_all

/-- What is listed below a path are the files below the directory it leads to. -/
theorem mem_filesUnder_iff {fs : FileSystem} (h : fs.top.WellFormed) {p q : Path} :
    q ∈ fs.filesUnder p ↔ fs.isDirectory p = true ∧
      ∃ names bytes, q = p.descend names ∧ ".." ∉ names ∧ fs.find q = .ok (.file bytes) := by
  rw [filesUnder]
  split
  · next children found =>
    rw [List.mem_mergeSort]
    constructor
    · intro listed
      obtain ⟨names, bytes, rfl, file, inner⟩ :=
        (find_wellFormed h found).file_of_listed (p := p) listed
      exact ⟨isDirectory_iff.mpr ⟨children, found⟩, names, bytes, rfl, inner,
        (find_descend_iff found inner).mpr file⟩
    · rintro ⟨-, names, bytes, rfl, inner, file⟩
      exact listed_of_file ((find_descend_iff found inner).mp file) p
  · next other =>
    refine iff_of_false List.not_mem_nil ?_
    rintro ⟨directory, -⟩
    obtain ⟨children, found⟩ := isDirectory_iff.mp directory
    exact other children found

end FileSystem

end TokenScopes
