import TokenScopes.Proofs.Value.Canonical

namespace TokenScopes.Value

variable {fields : List (Text × Value)}

/-- The sort leaves the fields of one key in their order. -/
theorem filter_mergeSort (fields : List (Text × Value)) (key : Text) :
    (fields.mergeSort fun a b => decide (a.1 ≤ b.1)).filter (·.1 == key) =
      fields.filter (·.1 == key) := by
  have alike : (fields.filter (·.1 == key)).Pairwise fun a b => decide (a.1 ≤ b.1) = true := by
    apply List.pairwise_of_forall_mem_list
    intro a first b second
    rw [List.mem_filter, beq_iff_eq] at first second
    have same : a.1 = b.1 := first.2.trans second.2.symm
    exact decide_eq_true (same ▸ le_refl a.1)
  have kept := (List.sublist_mergeSort key_le_trans key_le_total alike
    List.filter_sublist).filter (·.1 == key)
  rw [List.filter_filter] at kept
  simp only [Bool.and_self] at kept
  exact (kept.eq_of_length ((List.mergeSort_perm ..).filter _).length_eq.symm).symm

theorem mem_of_mem_lastOfEach {f : Text × Value} (member : f ∈ lastOfEach fields) :
    f ∈ fields := by
  fun_induction lastOfEach fields with
  | case1 => exact member
  | case2 e => exact member
  | case3 a b rest same ih => exact List.mem_cons_of_mem a (ih member)
  | case4 a b rest differ ih =>
    rcases List.mem_cons.mp member with rfl | later
    · exact List.mem_cons_self ..
    · exact List.mem_cons_of_mem a (ih later)

/-- Where the key changes in a sorted list, all later keys are greater. -/
theorem lt_of_mem_later {a b f : Text × Value} {rest : List (Text × Value)}
    (sorted : (a :: b :: rest).Pairwise fun a b => a.1 ≤ b.1) (differ : a.1 ≠ b.1)
    (later : f ∈ b :: rest) : a.1 < f.1 := by
  obtain ⟨least, sorted⟩ := List.pairwise_cons.mp sorted
  have further : b.1 ≤ f.1 := by
    rcases List.mem_cons.mp later with rfl | beyond
    · exact le_refl _
    · exact (List.pairwise_cons.mp sorted).1 f beyond
  by_contra above
  have back := le_trans further (not_lt.mp above)
  exact differ (le_antisymm (least b (List.mem_cons_self ..)) back)

/-- Where each key is kept once, the order is strict. -/
theorem ascending_lastOfEach (sorted : fields.Pairwise fun a b => a.1 ≤ b.1) :
    Ascending (lastOfEach fields) := by
  fun_induction lastOfEach fields with
  | case1 => exact .nil
  | case2 e => exact List.pairwise_singleton _ e
  | case3 a b rest same ih => exact ih (List.pairwise_cons.mp sorted).2
  | case4 a b rest differ ih =>
    refine List.pairwise_cons.mpr ⟨fun f member => ?_, ih (List.pairwise_cons.mp sorted).2⟩
    exact lt_of_mem_later sorted differ (mem_of_mem_lastOfEach member)

/-- Of a sorted list the last field of each key is kept. -/
theorem mem_lastOfEach_iff {f : Text × Value} (sorted : fields.Pairwise fun a b => a.1 ≤ b.1) :
    f ∈ lastOfEach fields ↔ (fields.filter (·.1 == f.1)).getLast? = some f := by
  fun_induction lastOfEach fields with
  | case1 => simp
  | case2 e =>
    by_cases key : e.1 = f.1
    · simp [key, eq_comm]
    · simp only [List.mem_singleton, List.filter_cons, beq_iff_eq, key, if_false, List.filter_nil]
      refine iff_of_false ?_ nofun
      rintro rfl
      exact key rfl
  | case3 a b rest same ih =>
    rw [ih (List.pairwise_cons.mp sorted).2]
    by_cases key : b.1 = f.1
    · simp [key, same]
    · simp [key, same]
  | case4 a b rest differ ih =>
    have greater {g : Text × Value} (later : g ∈ b :: rest) : a.1 < g.1 :=
      lt_of_mem_later sorted differ later
    rw [List.mem_cons, ih (List.pairwise_cons.mp sorted).2]
    by_cases key : a.1 = f.1
    · have none_later : (b :: rest).filter (·.1 == f.1) = [] := by
        rw [List.filter_eq_nil_iff]
        intro g later
        rw [beq_iff_eq, ← key]
        exact (ne_of_lt (greater later)).symm
      have first : (a :: b :: rest).filter (·.1 == f.1) = a :: (b :: rest).filter (·.1 == f.1) :=
        List.filter_cons_of_pos (beq_iff_eq.mpr key)
      rw [first, none_later]
      simp [eq_comm]
    · have first : (a :: b :: rest).filter (·.1 == f.1) = (b :: rest).filter (·.1 == f.1) :=
        List.filter_cons_of_neg (mt beq_iff_eq.mp key)
      rw [first]
      refine or_iff_right ?_
      rintro rfl
      exact key rfl

theorem ascending_sortFields (fields : List (Text × Value)) : Ascending (sortFields fields) :=
  ascending_lastOfEach (pairwise_mergeSort fields)

/-- Sorting keeps the last field of each key. -/
theorem mem_sortFields_iff {f : Text × Value} :
    f ∈ sortFields fields ↔ (fields.filter (·.1 == f.1)).getLast? = some f := by
  rw [sortFields, mem_lastOfEach_iff (pairwise_mergeSort fields), filter_mergeSort]

def isLeaf : Value → Bool
  | .list _ | .tuple _ | .map _ => false
  | _ => true

/-- What holds of leaves, and of a sequence or mapping if it holds of all items or values, holds of
all values. -/
@[elab_as_elim]
theorem nesting_induction {P : Value → Prop} (leaf : ∀ v, v.isLeaf = true → P v)
    (list : ∀ items, (∀ v ∈ items, P v) → P (.list items))
    (tuple : ∀ items, (∀ v ∈ items, P v) → P (.tuple items))
    (map : ∀ entries, (∀ e ∈ entries, P e.2) → P (.map entries)) (v : Value) : P v := by
  cases v with
  | list items => exact list items fun w member => nesting_induction leaf list tuple map w
  | tuple items => exact tuple items fun w member => nesting_induction leaf list tuple map w
  | map entries => exact map entries fun e member => nesting_induction leaf list tuple map e.2
  | _ => exact leaf _ rfl
termination_by sizeOf v
decreasing_by
  · have smaller := List.sizeOf_lt_of_mem member
    rw [Value.list.sizeOf_spec]
    omega
  · have smaller := List.sizeOf_lt_of_mem member
    rw [Value.tuple.sizeOf_spec]
    omega
  · have smaller := List.sizeOf_lt_of_mem member
    have parts : sizeOf e = 1 + sizeOf e.1 + sizeOf e.2 := by
      cases e
      rfl
    rw [Value.map.sizeOf_spec]
    omega

/-- At every depth sequences are lists, and mappings have text keys in ascending order. -/
inductive IsCanonical : Value → Prop
  | leaf {v : Value} (leaf : v.isLeaf = true) : IsCanonical v
  | list {items : List Value} (members : ∀ v ∈ items, IsCanonical v) : IsCanonical (.list items)
  | map {fields : List (Text × Value)} (keys : Ascending fields)
    (values : ∀ f ∈ fields, IsCanonical f.2) : IsCanonical (.ofFields fields)

theorem canonical_leaf {v : Value} (leaf : v.isLeaf = true) : v.canonical = v := by
  cases v with
  | list items | tuple items | map entries => cases leaf
  | _ => rfl

theorem canonical_tuple (items : List Value) :
    canonical (.tuple items) = .list (items.map canonical) := by
  rw [canonical, canonicalItems_eq]

theorem canonicalFields_eq (entries : List (Value × Value)) :
    canonicalFields entries = entries.map fun e => (e.1.display, e.2.canonical) := by
  induction entries with
  | nil => rfl
  | cons e entries ih => rw [canonicalFields, ih, List.map_cons]

/-- The canonical form of a mapping: its keys become texts before they are sorted. -/
theorem canonical_map (entries : List (Value × Value)) :
    canonical (.map entries) =
      .ofFields (sortFields (entries.map fun e => (e.1.display, e.2.canonical))) := by
  rw [canonical, canonicalFields_eq]

theorem isCanonical_canonical (v : Value) : v.canonical.IsCanonical := by
  -- By induction on the value, over the depth of its parts.
  induction v using nesting_induction with
  | leaf v leaf =>
    rw [canonical_leaf leaf]
    exact .leaf leaf
  | list items ih =>
    rw [canonical_list]
    exact .list (List.forall_mem_map.mpr ih)
  | tuple items ih =>
    rw [canonical_tuple]
    exact .list (List.forall_mem_map.mpr ih)
  | map entries ih =>
    rw [canonical_map]
    refine .map (ascending_sortFields _) fun f member => ?_
    have given := List.mem_of_mem_getLast? (mem_sortFields_iff.mp member)
    obtain ⟨e, entry, rfl⟩ := List.mem_map.mp (List.mem_filter.mp given).1
    exact ih e entry

/-- A value in canonical form is its own. -/
theorem IsCanonical.canonical_eq {v : Value} (h : v.IsCanonical) : v.canonical = v := by
  induction h with
  | leaf leaf => exact canonical_leaf leaf
  | @list items _ ih =>
    rw [canonical_list, List.map_congr_left ih, List.map_id']
  | @map fields keys _ ih =>
    have settled : fields.map canonicalField = fields := by
      refine (List.map_congr_left fun f member => ?_).trans (List.map_id _)
      exact Prod.ext rfl (ih f member)
    rw [canonical_ofFields, settled, sortFields_of_perm (.refl _) keys]

theorem canonical_canonical (v : Value) : v.canonical.canonical = v.canonical :=
  v.isCanonical_canonical.canonical_eq

/-- A value and another that differs from it in the order of the entries of mappings whose keys have
different texts, at any depth. -/
inductive Reordered : Value → Value → Prop
  | refl (v : Value) : Reordered v v
  | trans {u v w : Value} (first : Reordered u v) (second : Reordered v w) : Reordered u w
  | entries {entries others : List (Value × Value)} (perm : entries.Perm others)
    (distinct : (entries.map (·.1.display)).Nodup) : Reordered (.map entries) (.map others)
  | inList {v w : Value} (before after : List Value) (inner : Reordered v w) :
    Reordered (.list (before ++ v :: after)) (.list (before ++ w :: after))
  | inTuple {v w : Value} (before after : List Value) (inner : Reordered v w) :
    Reordered (.tuple (before ++ v :: after)) (.tuple (before ++ w :: after))
  | inMap {v w : Value} (before after : List (Value × Value)) (key : Value)
    (inner : Reordered v w) :
    Reordered (.map (before ++ (key, v) :: after)) (.map (before ++ (key, w) :: after))

/-- The order of entries with different texts as keys is forgotten at every depth. -/
theorem Reordered.canonical_eq {v w : Value} (h : Reordered v w) : v.canonical = w.canonical := by
  induction h with
  | refl v => rfl
  | trans _ _ first second => exact first.trans second
  | @entries entries others perm distinct =>
    have fields := perm.map fun e => (e.1.display, e.2.canonical)
    have keys : ((entries.map fun e => (e.1.display, e.2.canonical)).map Prod.fst).Nodup := by
      rw [List.map_map]
      exact distinct
    have keys' := (fields.map Prod.fst).nodup_iff.mp keys
    rw [canonical_map, canonical_map, (sortFields_eq_iff keys keys').mpr fields]
  | inList before after _ ih => simp only [canonical_list, List.map_append, List.map_cons, ih]
  | inTuple before after _ ih => simp only [canonical_tuple, List.map_append, List.map_cons, ih]
  | inMap before after key _ ih => simp only [canonical_map, List.map_append, List.map_cons, ih]

end TokenScopes.Value
