import TokenScopes.Checker.Case
import TokenScopes.Command.Normalize
import TokenScopes.Proofs.Spec.Structured

namespace TokenScopes

/-- A case depends on its entries only through the spans they stand for. -/
theorem Case.check_congr (c : Case) {entries others : List Value}
    (same : Spec.spans entries = Spec.spans others) (config : Config) (echoes : Bool) :
    { c with spec := entries }.check config echoes = { c with spec := others }.check config echoes := by
  simp only [Case.check, same]

namespace Spec

def migrate (entries : List Value) : Except SpecFault String :=
  (spans entries).map NormalizeCommand.resultText

/-- The entries that are read from migrated text. -/
def structuredEntries (ss : List Span) : List Value :=
  ss.map fun s => .ofFields s.sortedFields

theorem canonical_toValues (ss : List Span) :
    (Value.list (ss.map Span.toValue)).canonical = .list (structuredEntries ss) := by
  rw [Value.canonical, Value.canonicalItems_eq, List.map_map, structuredEntries]
  congr 1
  exact List.map_congr_left fun s _ => s.canonical_toValue

variable {ss : List Span}

theorem exact_structuredEntries (apart : ∀ s ∈ ss, s.Apart) :
    Json.Exact (.list (structuredEntries ss)) := by
  apply Json.Exact.list
  intro v member
  obtain ⟨s, listed, rfl⟩ := List.mem_map.mp member
  exact Span.exact_sortedFields (apart s listed)

/-- The entries of spans can be written, since they hold texts only. -/
theorem pretty_toValues (apart : ∀ s ∈ ss, s.Apart) :
    Json.pretty (.list (ss.map Span.toValue)) = .ok (NormalizeCommand.resultText ss) := by
  have denoted := exact_structuredEntries apart
  rw [← canonical_toValues] at denoted
  exact denoted.pretty_eq

theorem read_resultText (apart : ∀ s ∈ ss, s.Apart) :
    Json.read (NormalizeCommand.resultText ss) = .ok (.list (structuredEntries ss)) := by
  have denoted := exact_structuredEntries apart
  rw [← canonical_toValues] at denoted
  rw [NormalizeCommand.resultText, denoted.read_prettyText, canonical_toValues]

theorem normalizeFrom_structuredEntries (index : Nat) (ss : List Span) :
    normalizeFrom index (structuredEntries ss) = .ok (ss.map fun s => ⟨s, s.sortedFields⟩) := by
  induction ss generalizing index with
  | nil => rfl
  | cons s ss ih =>
    have later := ih (index + 1)
    rw [structuredEntries] at later ⊢
    rw [List.map_cons, normalizeFrom, s.entrySpans_sortedFields, later]
    rfl

/-- Entries that are read from migrated text stand for the spans they were written for. -/
theorem spans_structuredEntries (ss : List Span) : spans (structuredEntries ss) = .ok ss := by
  rw [spans, normalize, normalizeFrom_structuredEntries]
  simp [Except.map, Function.comp_def]

/-- Migrated text is read as entries that stand for the same spans, that are migrated to the same
text and that every case is checked against with the same result. Two halves of a surrogate pair in
a row would be read back as one character, so no text of the spans may have them. -/
theorem migrate_preserves {entries : List Value} (h : spans entries = .ok ss)
    (apart : ∀ s ∈ ss, s.Apart) :
    ∃ text migrated, migrate entries = .ok text ∧
      Json.pretty (.list (ss.map Span.toValue)) = .ok text ∧
      Json.read text = .ok (.list migrated) ∧
      spans migrated = .ok ss ∧
      migrate migrated = .ok text ∧
      ∀ (c : Case) (config : Config) (echoes : Bool),
        { c with spec := migrated }.check config echoes =
          { c with spec := entries }.check config echoes := by
  have same := spans_structuredEntries ss
  refine ⟨NormalizeCommand.resultText ss, structuredEntries ss, ?_, pretty_toValues apart,
    read_resultText apart, same, ?_, ?_⟩
  · rw [migrate, h]
    rfl
  · rw [migrate, same]
    rfl
  · intro c config echoes
    exact c.check_congr (same.trans h.symm) config echoes

def mixedEntries : List Value :=
  [.ofFields [("c", .text "let"), ("t", .text "source keyword")],
    .ofFields [("c", .text " \n"), ("t", .text "source")],
    .span { source := "\"é\"", scopes := ["string.quoted"], closes := ["meta.line"] },
    .ofFields [("sourceText", .text "x"), ("scopesOpened", .list [.text "meta.line"]),
      ("scopesEnd", .null)]]

def mixedSpans : List Span :=
  [{ source := "let", scopes := Scope.ofTagString "source keyword" },
    { source := "\"é\"", scopes := ["string.quoted"], closes := ["meta.line"] },
    { source := "x", opens := ["meta.line"] }]

/-- A text with tags, a blank one that is dropped, a span, and an entry that uses other names for
its fields. -/
theorem migrate_preserves_mixedEntries :
    ∃ text migrated, migrate mixedEntries = .ok text ∧ Json.read text = .ok (.list migrated) ∧
      migrate migrated = .ok text := by
  have normal : spans mixedEntries = .ok mixedSpans := rfl
  have apart : ∀ s ∈ mixedSpans, s.Apart := by
    intro s member
    simp only [mixedSpans, List.mem_cons, List.not_mem_nil, or_false] at member
    rcases member with rfl | rfl | rfl
    all_goals exact ⟨by decide, by decide, by decide +kernel, by decide⟩
  obtain ⟨text, migrated, printed, -, read, -, again, -⟩ := migrate_preserves normal apart
  exact ⟨text, migrated, printed, read, again⟩

end Spec
end TokenScopes
