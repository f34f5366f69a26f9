import Mathlib.Combinatorics.Pigeonhole
import Mathlib.Logic.Relation
import Mathlib.Tactic.SplitIfs
import TokenScopes.Proofs.Outcome
import TokenScopes.Yaml.Construction

namespace TokenScopes.Yaml

namespace Node

/-- Nodes that differ in their parts at most, and in a tag that became that of a text. -/
inductive Like : Node → Node → Prop
  | scalar {own tag : Tag} (s : Text) (tags : tag = own ∨ tag = .str) :
    Like (.scalar own s) (.scalar tag s)
  | sequence {own tag : Tag} (items : List NodeId) (tags : tag = own ∨ tag = .str) :
    Like (.sequence own items) (.sequence tag items)
  | mapping {own tag : Tag} (before after : List (NodeId × NodeId))
    (tags : tag = own ∨ tag = .str) : Like (.mapping own before) (.mapping tag after)

theorem Like.refl (n : Node) : Like n n := by
  cases n with
  | scalar tag s => exact .scalar s (.inl rfl)
  | sequence tag items => exact .sequence items (.inl rfl)
  | mapping tag entries => exact .mapping entries entries (.inl rfl)

theorem like_tags {a b c : Tag} (h : b = a ∨ b = .str) (h' : c = b ∨ c = .str) :
    c = a ∨ c = .str := by
  rcases h' with rfl | str
  · exact h
  · exact .inr str

theorem Like.trans {a b c : Node} (h : Like a b) (h' : Like b c) : Like a c := by
  cases h with
  | scalar s tags =>
    cases h' with
    | scalar _ tags' => exact .scalar s (like_tags tags tags')
  | sequence items tags =>
    cases h' with
    | sequence _ tags' => exact .sequence items (like_tags tags tags')
  | mapping before after tags =>
    cases h' with
    | mapping _ last tags' => exact .mapping before last (like_tags tags tags')

theorem Like.tag {a b : Node} (h : Like a b) : b.tag = a.tag ∨ b.tag = .str := by
  cases h <;> assumption

end Node

namespace Nodes

/-- An entry for the default value leads from a mapping to another node. -/
def Default (nodes : Nodes) (i j : NodeId) : Prop :=
  ∃ k, (k, j) ∈ nodes.entries i ∧ nodes.tag k = .value

/-- What among the nodes of a document has no value: a scalar whose text its tag has no value for,
a mapping in place of a timestamp, or a mapping whose default value leads back to itself. -/
inductive Strays (nodes : Nodes) : Fault → Prop
  | text {i : NodeId} {own tag : Tag} {s : Text} {f : Fault}
    (scalar : nodes[i]? = some (Node.scalar own s))
    (kind : tag ∈ [Tag.bool, .int, .float, .timestamp])
    (unfit : Yaml.scalarValue tag s = .error f) : Strays nodes f
  | timestamp {i j : NodeId} {entries : List (NodeId × NodeId)}
    (mapping : nodes[i]? = some (Node.mapping .timestamp entries))
    (default : nodes.Default i j) : Strays nodes .notText
  | endless {i : NodeId} (loop : Relation.TransGen nodes.Default i i) : Strays nodes .endless

/-- What the nodes of a document may be refused for. -/
def Refuses (nodes : Nodes) (f : Fault) : Prop :=
  f = .malformed ∨ nodes.Strays f

@[simp] theorem refuses_malformed {nodes : Nodes} : nodes.Refuses .malformed :=
  .inl rfl

variable {o m n : Nodes} {i j k : NodeId}

/-- The nodes are the same but for their parts, and some tags became those of texts. -/
def Alike (o n : Nodes) : Prop :=
  ∀ i : NodeId, Option.Rel Node.Like o[i]? n[i]?

theorem Alike.tag (h : Alike o n) (i : NodeId) : n.tag i = o.tag i ∨ n.tag i = .str := by
  have told {a b : Option Node} (like : Option.Rel Node.Like a b) :
      (b.map Node.tag).getD .unknown = (a.map Node.tag).getD .unknown ∨
        (b.map Node.tag).getD .unknown = .str := by
    cases like with
    | none => exact .inl rfl
    | some like => exact like.tag
  exact told (h i)

theorem Alike.tag_eq (h : Alike o n) {tag : Tag} (told : tag ≠ .str) (found : n.tag i = tag) :
    o.tag i = tag := by
  rcases h.tag i with same | str
  · rw [← same, found]
  · rw [str] at found
    exact absurd found.symm told

/-- What the making of values leaves as it is: the kinds of the nodes and their texts. A key for the
default value may become a plain text, and no mapping gets such a key that it did not have. -/
structure Keeps (o n : Nodes) : Prop where
  alike : Alike o n
  default : ∀ {i : NodeId}, ∀ e ∈ n.entries i, n.tag e.1 = .value → e ∈ o.entries i

theorem Keeps.refl (n : Nodes) : Keeps n n where
  alike i := by
    cases n[i]? with
    | none => exact .none
    | some node => exact .some (.refl node)
  default _ member _ := member

/-- What is kept by one step and the next is kept by both. -/
theorem Keeps.trans (h : Keeps o m) (h' : Keeps m n) : Keeps o n where
  alike i := by
    have told {a b c : Option Node} (first : Option.Rel Node.Like a b)
        (second : Option.Rel Node.Like b c) : Option.Rel Node.Like a c := by
      cases first with
      | none => exact second
      | some like =>
        cases second with
        | some like' => exact .some (like.trans like')
    exact told (h.alike i) (h'.alike i)
  default e member value := by
    have before := h'.default e member value
    exact h.default e before (h'.alike.tag_eq (by decide) value)

theorem Keeps.default_of (h : Keeps o n) (default : n.Default i j) : o.Default i j := by
  obtain ⟨k, member, value⟩ := default
  exact ⟨k, h.default _ member value, h.alike.tag_eq (by decide) value⟩

theorem Keeps.node (h : Keeps o n) {node : Node} (found : n[i]? = some node) :
    ∃ own, o[i]? = some own ∧ own.Like node := by
  have told {a : Option Node} (like : Option.Rel Node.Like a (some node)) :
      ∃ own, a = some own ∧ own.Like node := by
    cases like with
    | some like => exact ⟨_, rfl, like⟩
  exact told (found ▸ h.alike i)

def Plain (n : Nodes) (entries : List (NodeId × NodeId)) : Prop :=
  ∀ e ∈ entries, n.tag e.1 ≠ .value

theorem Plain.keep {entries : List (NodeId × NodeId)} (plain : Plain m entries) (h : Keeps m n) :
    Plain n entries :=
  fun e member value => plain e member (h.alike.tag_eq (by decide) value)

theorem Plain.append {es es' : List (NodeId × NodeId)} (h : Plain n es) (h' : Plain n es') :
    Plain n (es ++ es') :=
  List.forall_mem_append.mpr ⟨h, h'⟩

/-- A chain of so many default values. -/
def Chain (n : Nodes) (length : Nat) (p : Nat → NodeId) : Prop :=
  ∀ k < length, n.Default (p k) (p (k + 1)) ∧ p k < n.size

theorem Chain.reaches {length : Nat} {p : Nat → NodeId} (chain : n.Chain length p) {a b : Nat}
    (before : a < b) (inside : b ≤ length) : Relation.TransGen n.Default (p a) (p b) := by
  induction b, before using Nat.le_induction with
  | base => exact .single (chain a inside).1
  | succ b before ih => exact (ih (Nat.le_of_succ_le inside)).tail (chain b inside).1

/-- A chain with more links than there are nodes leads back to where it was. -/
theorem Chain.loop {p : Nat → NodeId} (chain : n.Chain (n.size + 1) p) :
    ∃ i, Relation.TransGen n.Default i i := by
  obtain ⟨a, ha, b, hb, differ, same⟩ := Finset.exists_ne_map_eq_of_card_lt_of_maps_to
    (s := Finset.range (n.size + 1)) (t := Finset.range n.size) (f := p) (by simp)
    fun k member => Finset.mem_range.mpr (chain k (Finset.mem_range.mp member)).2
  rw [Finset.mem_range] at ha hb
  rcases lt_or_gt_of_ne differ with before | before
  · have loop := chain.reaches before (Nat.le_of_lt hb)
    rw [same] at loop
    exact ⟨p b, loop⟩
  · have loop := chain.reaches before (Nat.le_of_lt ha)
    rw [same] at loop
    exact ⟨p b, loop⟩

end Nodes

namespace Nodes

variable {o n : Nodes}

theorem Keeps.loop (h : Keeps o n) {i : NodeId} (loop : Relation.TransGen n.Default i i) :
    Relation.TransGen o.Default i i :=
  Relation.TransGen.mono (r := n.Default) (fun _ _ => h.default_of) _ _ loop

/-- A mapping in place of a timestamp is one from the start. -/
theorem Keeps.timestamp (h : Keeps o n) {i : NodeId} {tag : Tag}
    {entries : List (NodeId × NodeId)} (mapping : n[i]? = some (Node.mapping tag entries))
    (told : n.tag i = .timestamp) : ∃ own, o[i]? = some (Node.mapping .timestamp own) := by
  obtain ⟨node, found, like⟩ := h.node mapping
  have tags := h.alike.tag_eq (by decide) told
  cases like with
  | mapping own _ _ =>
    rw [Nodes.tag, found] at tags
    cases tags
    exact ⟨own, found⟩

end Nodes

namespace Maker

variable {o : Nodes} {m : Maker}

/-- The nodes are kept, or the document is refused. -/
abbrev Makes (o : Nodes) (r : Except Fault Maker) : Prop :=
  Yields o.Refuses (fun m => o.Keeps m.nodes) r

end Maker

end TokenScopes.Yaml
