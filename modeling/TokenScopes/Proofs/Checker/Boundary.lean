import TokenScopes.Proofs.Checker.Acceptance

namespace TokenScopes

def Visit.demand (v : Visit) : Text × List Text :=
  (v.span.source, v.path)

/-- The walk behind some spans starts on the stack they leave. -/
theorem textVisits_append (stack : List Text) (before after : List Span) :
    textVisits stack (before ++ after) =
      textVisits stack before ++ textVisits (stackAfter stack before) after := by
  rw [textVisits, walk_append, List.filter_append]
  rfl

/-- Spans that from any stack ask the same of the tokens, close the same names and leave the same
stack. -/
structure WalksAlike (ss ts : List Span) : Prop where
  demands : ∀ stack, (textVisits stack ss).map Visit.demand = (textVisits stack ts).map Visit.demand
  mismatches : ∀ stack, walkMismatches stack ss = walkMismatches stack ts
  left : ∀ stack, stackAfter stack ss = stackAfter stack ts

namespace WalksAlike

variable {ss ts : List Span}

theorem symm (h : WalksAlike ss ts) : WalksAlike ts ss where
  demands := fun stack => (h.demands stack).symm
  mismatches := fun stack => (h.mismatches stack).symm
  left := fun stack => (h.left stack).symm

/-- Spans before and behind make no difference. -/
theorem within (h : WalksAlike ss ts) (before after : List Span) :
    WalksAlike (before ++ (ss ++ after)) (before ++ (ts ++ after)) where
  demands := by
    intro stack
    simp only [textVisits_append, List.map_append, h.demands, h.left]
  mismatches := by
    intro stack
    simp only [walkMismatches_append, h.mismatches, h.left]
  left := by
    intro stack
    simp only [stackAfter_append, h.left]

end WalksAlike

section Single

variable (stack : List Text) (s : Span)

theorem demands_singleton : (textVisits stack [s]).map Visit.demand =
    if s.isZeroWidth then [] else [(s.source, stack ++ s.opens ++ s.scopes)] := by
  have here : (visit stack s).span.isZeroWidth = s.isZeroWidth := rfl
  rw [textVisits, walk, walk, List.filter_singleton, here]
  cases s.isZeroWidth <;> rfl

theorem walkMismatches_singleton :
    walkMismatches stack [s] = closeMismatches (stack ++ s.opens) s.closes := by
  rw [walkMismatches_cons, walkMismatches_nil, List.append_nil]
  rfl

theorem stackAfter_singleton :
    stackAfter stack [s] = (stack ++ s.opens).rdrop s.closes.length := rfl

end Single

/-- A boundary without closes is merged into the span behind it. -/
theorem walksAlike_opens {z : Span} (boundary : z.isZeroWidth = true) (silent : z.closes = [])
    (u : Span) : WalksAlike [z, u] [{ u with opens := z.opens ++ u.opens }] := by
  have split : [z, u] = [z] ++ [u] := rfl
  have kind : ({ u with opens := z.opens ++ u.opens } : Span).isZeroWidth = u.isZeroWidth := rfl
  have passed (stack : List Text) : stackAfter stack [z] = stack ++ z.opens := by
    rw [stackAfter_singleton, silent, List.length_nil, List.rdrop_zero]
  refine ⟨fun stack => ?_, fun stack => ?_, fun stack => ?_⟩
  · rw [split, textVisits_append, List.map_append, demands_singleton, demands_singleton,
      demands_singleton, boundary, passed, kind, if_pos rfl, List.nil_append]
    simp only [List.append_assoc]
  · rw [split, walkMismatches_append, walkMismatches_singleton, walkMismatches_singleton,
      walkMismatches_singleton, silent, closeMismatches_nil, passed, List.nil_append,
      List.append_assoc]
  · rw [split, stackAfter_append, passed, stackAfter_singleton, stackAfter_singleton,
      List.append_assoc]

/-- A boundary without opens is merged into the span before it. Its names are closed after those of
the span, so they stand in front of them. -/
theorem walksAlike_closes {z : Span} (boundary : z.isZeroWidth = true) (silent : z.opens = [])
    (u : Span) : WalksAlike [u, z] [{ u with closes := z.closes ++ u.closes }] := by
  have split : [u, z] = [u] ++ [z] := rfl
  have kind : ({ u with closes := z.closes ++ u.closes } : Span).isZeroWidth = u.isZeroWidth := rfl
  refine ⟨fun stack => ?_, fun stack => ?_, fun stack => ?_⟩
  · rw [split, textVisits_append, List.map_append, demands_singleton, demands_singleton,
      demands_singleton, boundary, kind, if_pos rfl, List.append_nil]
  · rw [split, walkMismatches_append, walkMismatches_singleton, walkMismatches_singleton,
      walkMismatches_singleton, stackAfter_singleton, silent, List.append_nil,
      closeMismatches_append]
  · rw [split, stackAfter_append, stackAfter_singleton, stackAfter_singleton,
      stackAfter_singleton, silent, List.append_nil, List.rdrop_add, List.length_append,
      Nat.add_comm]

/-- Matching depends on what the visits ask. -/
theorem Matches.congr {config : Config} {vs ws : List Visit} {xs : List Lexeme}
    (same : vs.map Visit.demand = ws.map Visit.demand) (h : Matches config vs xs) :
    Matches config ws xs := by
  induction vs generalizing ws xs with
  | nil =>
    obtain rfl := List.map_eq_nil_iff.mp same.symm
    exact h
  | cons v vs ih =>
    obtain ⟨w, rest, rfl, here, later⟩ := List.map_eq_cons_iff.mp same.symm
    cases xs with
    | nil => exact absurd (Matches.nil_iff.mp h) (List.cons_ne_nil v vs)
    | cons x xs =>
      obtain ⟨text, path, others⟩ := Matches.cons_iff.mp h
      obtain ⟨source, stack⟩ := Prod.mk.inj here
      exact Matches.cons_iff.mpr ⟨source ▸ text, stack ▸ path, ih later.symm others⟩

namespace Case

/-- A case that passes also passes against spans that are walked alike. -/
theorem passed_of_walksAlike (c : Case) (config : Config) {ss ts : List Span}
    (alike : WalksAlike ss ts) (passed : (c.resultOf config (c.reading config ss)).passed = true) :
    (c.resultOf config (c.reading config ts)).passed = true := by
  let stop := config.stopOnMismatch
  let lines := c.lines.map Line.lexemes
  let start (spans : List Span) := Cursor.start spans config.rootScope
  obtain ⟨discipline, strict⟩ := (c.passed_resultOf config _).mp passed
  have accepted : ((start ss).readInput config stop lines).accepted = true :=
    ((start ss).readInput_accepted_iff_found config stop lines).mpr discipline
  have admitted : (start ts).Admits config lines.flatten := by
    have before := ((start ss).readInput_accepted_iff config stop lines).mp accepted
    exact Matches.congr (alike.demands [config.rootScope]) before
  have accepted' := ((start ts).readInput_accepted_iff config stop lines).mpr admitted
  have discipline' := ((start ts).readInput_accepted_iff_found config stop lines).mp accepted'
  refine (c.passed_resultOf config _).mpr ⟨discipline', fun counts => ?_⟩
  -- Both runs consume all spans, so they report what the walks over all of them report.
  have silent : walkMismatches [config.rootScope] ss = [] := by
    have reported := (start ss).readInput_mismatches config stop lines accepted
    rw [show ((start ss).readInput config stop lines).found = [] from strict counts] at reported
    exact List.map_eq_nil_iff.mp reported.symm
  have reported := (start ts).readInput_mismatches config stop lines accepted'
  rw [show walkMismatches (start ts).stack.path (start ts).remaining = [] from
    (alike.mismatches [config.rootScope]).symm.trans silent] at reported
  exact List.map_eq_nil_iff.mp reported

end Case

/-- Specifications of which the second has one boundary less: it is merged into the span behind it or
into the span before it. -/
inductive Merged : List Span → List Span → Prop
  | opens {z : Span} (boundary : z.isZeroWidth = true) (silent : z.closes = [])
    (before : List Span) (u : Span) (after : List Span) :
    Merged (before ++ z :: u :: after)
      (before ++ { u with opens := z.opens ++ u.opens } :: after)
  | closes {z : Span} (boundary : z.isZeroWidth = true) (silent : z.opens = [])
    (before : List Span) (u : Span) (after : List Span) :
    Merged (before ++ u :: z :: after)
      (before ++ { u with closes := z.closes ++ u.closes } :: after)

/-- Either merge is one of these two at some place between other spans. -/
theorem Merged.walksAlike {ss ts : List Span} (h : Merged ss ts) : WalksAlike ss ts := by
  cases h with
  | opens boundary silent before u after =>
    exact (walksAlike_opens boundary silent u).within before after
  | closes boundary silent before u after =>
    exact (walksAlike_closes boundary silent u).within before after

namespace Case

/-- Merging a boundary into its neighbour leaves the verdict on a case. -/
theorem check_merged (c : Case) {merged : List Value} {ss ts : List Span}
    (normal : Spec.spans c.spec = .ok ss) (normal' : Spec.spans merged = .ok ts)
    (boundary : Merged ss ts) (config : Config) (echoes : Bool) :
    ∃ r s echoed echoed', c.check config echoes = .ok (r, echoed) ∧
      Case.check { c with spec := merged } config echoes = .ok (s, echoed') ∧
      r.passed = s.passed := by
  have alike := boundary.walksAlike
  refine ⟨_, _, _, _, by rw [check_eq, normal]; rfl, by rw [check_eq, normal']; rfl, ?_⟩
  have forward := c.passed_of_walksAlike config alike
  have backward := c.passed_of_walksAlike config alike.symm
  exact Bool.eq_iff_iff.mpr ⟨forward, backward⟩

def wholeBlock : Span :=
  { source := "int", opens := ["block.cpp"], scopes := ["type"], closes := ["block.cpp"] }

/-- The boundary that opens the block may as well be merged into its text. -/
theorem block_check_merged :
    Spec.spans block.spec = .ok blockSpans ∧ Spec.spans [.span wholeBlock] = .ok [wholeBlock] ∧
      Merged blockSpans [wholeBlock] ∧ (block.check {} true).map (·.1.passed) = .ok true ∧
      ∃ r s echoed echoed', block.check {} true = .ok (r, echoed) ∧
        Case.check { block with spec := [.span wholeBlock] } {} true = .ok (s, echoed') ∧
        r.passed = s.passed := by
  have normal : Spec.spans block.spec = .ok blockSpans := rfl
  have normal' : Spec.spans [.span wholeBlock] = .ok [wholeBlock] := rfl
  have boundary : Merged blockSpans [wholeBlock] :=
    .opens rfl rfl [] { source := "int", scopes := ["type"], closes := ["block.cpp"] } []
  exact ⟨normal, normal', boundary, rfl, block.check_merged normal normal' boundary {} true⟩

end Case

end TokenScopes
