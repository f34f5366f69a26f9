import TokenScopes.Proofs.Checker.Recording
import TokenScopes.Proofs.Spec.Grammar
import TokenScopes.Proofs.Spec.Migration

namespace TokenScopes

namespace Lookup

/-- What a field of two spellings holds. In an entry that has both the first counts. -/
def either (field : Lookup) (first second : Text) : Option Value :=
  (field first).or (field second)

/-- Two entries hold the same in every field that is read, whichever spelling each of them uses. -/
structure Agree (field other : Lookup) : Prop where
  literal : other "c" = field "c"
  tags : other "t" = field "t"
  scopes : other "scopes" = field "scopes"
  source : other.either "source" "sourceText" = field.either "source" "sourceText"
  opens : other.either "scopesBegin" "scopesOpened" = field.either "scopesBegin" "scopesOpened"
  closes : other.either "scopesEnd" "scopesClosed" = field.either "scopesEnd" "scopesClosed"

variable (field : Lookup)

theorem isStructured_iff : field.IsStructured ↔
    field "scopes" ≠ none ∨ field.either "source" "sourceText" ≠ none ∨
      field.either "scopesBegin" "scopesOpened" ≠ none ∨
      field.either "scopesEnd" "scopesClosed" ≠ none := by
  simp only [IsStructured, either, List.mem_cons, List.not_mem_nil, or_false, exists_eq_or_imp,
    exists_eq_left, ne_eq, Option.or_eq_none_iff, not_and_or, or_assoc]

/-- The span that the fields of a structured entry declare. -/
def readSpan : Except EntryFault Span := do
  let source ← Entry.readText "source" field.declaredText
  let opens ← Entry.readScopes "scopesBegin" field.declaredOpens
  let scopes ← Entry.readScopes "scopes" (field "scopes")
  let closes ← Entry.readScopes "scopesEnd" field.declaredCloses
  return ⟨source, opens, scopes, closes⟩

/-- The span of an entry that is not structured, or none if its literal is blank. -/
def readFlat : Except EntryFault (List Span) :=
  if (field "c").isSome then do
    let literal ← Entry.readText "c" (field "c")
    let tags ← Entry.readText "t" (field "t")
    return if Text.allBlank literal.toList then []
      else [{ source := literal, scopes := Scope.ofTagString tags }]
  else .error .unrecognised

namespace Agree

variable {field} {other : Lookup}

theorem isStructured_iff (h : Agree field other) : other.IsStructured ↔ field.IsStructured := by
  rw [Lookup.isStructured_iff, Lookup.isStructured_iff, h.scopes, h.source, h.opens, h.closes]

theorem hasBlankLiteral_iff (h : Agree field other) :
    other.HasBlankLiteral ↔ field.HasBlankLiteral := by
  rw [HasBlankLiteral, HasBlankLiteral, h.literal]

/-- Entries that agree declare the same span, or have the same fault. -/
theorem readSpan (h : Agree field other) : other.readSpan = field.readSpan := by
  have text : other.declaredText = field.declaredText := by
    have source := h.source
    rw [either, either] at source
    rw [declaredText, declaredText, source, h.literal]
  have opens : other.declaredOpens = field.declaredOpens := h.opens
  have closes : other.declaredCloses = field.declaredCloses := h.closes
  rw [Lookup.readSpan, Lookup.readSpan, text, opens, h.scopes, closes]

theorem readFlat (h : Agree field other) : other.readFlat = field.readFlat := by
  rw [Lookup.readFlat, Lookup.readFlat, h.literal, h.tags]

end Agree

end Lookup

theorem Entry.toSpan_structured (fields : Fields) :
    toSpan (.structured fields) = (Lookup.readSpan fields.get?).map (⟨·, fields⟩) := by
  have map_do {α β γ : Type} (r : Except EntryFault α) (next : α → Except EntryFault β)
      (g : β → γ) : (r >>= next).map g = r >>= fun a => (next a).map g := by
    cases r <;> rfl
  rw [toSpan, sourceOf_eq, opensKeys, closesKeys, Fields.firstOf?_pair, Fields.firstOf?_pair]
  simp only [Lookup.readSpan, map_do]
  rfl

open Value (under?)

/-- Mappings that agree in the fields that are read. -/
inductive SameFields : Value → Value → Prop
  | mappings {entries others : List (Value × Value)}
    (agree : Lookup.Agree (under? entries) (under? others)) :
    SameFields (.map entries) (.map others)

namespace Spec

/-- The spans of one entry, without the fields they come with. -/
def bareSpans (v : Value) : Except EntryFault (List Span) :=
  (entrySpans v).map (·.map (·.span))

variable {entries : List (Value × Value)}

theorem bareSpans_structured (structured : Lookup.IsStructured (under? entries))
    (kept : ¬Lookup.HasBlankLiteral (under? entries)) :
    bareSpans (.map entries) = (Lookup.readSpan (under? entries)).map ([·]) := by
  have placeholder := Entry.isPlaceholder_structured_iff (Fields.ofEntries entries)
  rw [Fields.get?_ofEntries] at placeholder
  rw [bareSpans, entrySpans_map, classify_structured structured]
  change Except.map _ (if Entry.isPlaceholder _ = true then _ else _) = _
  rw [if_neg fun blank => kept (placeholder.mp blank), Entry.toSpan_structured,
    Fields.get?_ofEntries]
  cases Lookup.readSpan (under? entries) <;> rfl

theorem bareSpans_dropped (structured : Lookup.IsStructured (under? entries))
    (blank : Lookup.HasBlankLiteral (under? entries)) : bareSpans (.map entries) = .ok [] := by
  rw [← Fields.get?_ofEntries] at blank
  rw [bareSpans, entrySpans_map, classify_structured structured]
  change Except.map _ (if Entry.isPlaceholder _ = true then _ else _) = _
  rw [if_pos ((Entry.isPlaceholder_structured_iff _).mpr blank)]
  rfl

/-- An entry that is not structured is read from its literal and tags. -/
theorem bareSpans_flat (flat : ¬Lookup.IsStructured (under? entries)) :
    bareSpans (.map entries) = Lookup.readFlat (under? entries) := by
  rw [bareSpans, entrySpans_map, classify_flat flat, Lookup.readFlat]
  split_ifs
  · cases Entry.readText "c" (under? entries "c") with
    | error fault => rfl
    | ok literal =>
      cases Entry.readText "t" (under? entries "t") with
      | error fault => rfl
      | ok tags =>
        change Except.map _ (if Text.allBlank literal.toList = true then _ else _) = .ok _
        split_ifs <;> rfl
  · rfl

/-- An entry is normalized by the fields that are read, and by nothing else. -/
theorem bareSpans_congr {v w : Value} (h : SameFields v w) : bareSpans w = bareSpans v := by
  cases h with
  | @mappings entries others agree =>
    by_cases structured : Lookup.IsStructured (under? entries)
    · have structured' := agree.isStructured_iff.mpr structured
      by_cases blank : Lookup.HasBlankLiteral (under? entries)
      · rw [bareSpans_dropped structured blank,
          bareSpans_dropped structured' (agree.hasBlankLiteral_iff.mpr blank)]
      · have kept := fun literal => blank (agree.hasBlankLiteral_iff.mp literal)
        rw [bareSpans_structured structured blank, bareSpans_structured structured' kept,
          agree.readSpan]
    · have flat := fun form => structured (agree.isStructured_iff.mp form)
      rw [bareSpans_flat structured, bareSpans_flat flat, agree.readFlat]

theorem normalizeFrom_bare (index : Nat) (v : Value) (rest : List Value) :
    (normalizeFrom index (v :: rest)).map (·.map (·.span)) = (do
      let here ← (bareSpans v).mapError fun cause => (⟨index, cause⟩ : SpecFault)
      let later ← (normalizeFrom (index + 1) rest).map (·.map (·.span))
      return here ++ later) := by
  rw [normalizeFrom, bareSpans]
  cases entrySpans v with
  | error cause => rfl
  | ok part =>
    cases normalizeFrom (index + 1) rest with
    | error fault => rfl
    | ok later => exact congrArg Except.ok List.map_append

theorem normalizeFrom_congr {entries others : List Value}
    (h : List.Forall₂ SameFields entries others) (index : Nat) :
    (normalizeFrom index others).map (·.map (·.span)) =
      (normalizeFrom index entries).map (·.map (·.span)) := by
  -- By induction on the entries, which agree one by one.
  induction h generalizing index with
  | nil => rfl
  | cons here _ ih => rw [normalizeFrom_bare, normalizeFrom_bare, bareSpans_congr here, ih]

/-- Specifications whose entries agree one by one stand for the same spans, or the same entry of
both is refused for the same reason; so no check and no sequence of calls tells them apart. -/
theorem spans_sameFields {entries others : List Value}
    (h : List.Forall₂ SameFields entries others) :
    ((∃ ss, spans entries = .ok ss ∧ spans others = .ok ss) ∨
      ∃ fault : SpecFault, spans entries = .error fault ∧ spans others = .error fault) ∧
    ∀ (config : Config) (echoes : Bool),
      (∀ calls : List Call,
        (spans others).map (fun ss => (Verifier.start config ss echoes).performAll calls) =
          (spans entries).map fun ss => (Verifier.start config ss echoes).performAll calls) ∧
      ∀ c : Case, { c with spec := others }.check config echoes =
        { c with spec := entries }.check config echoes := by
  have same : spans others = spans entries := normalizeFrom_congr h 0
  refine ⟨?_, fun config echoes => ⟨fun calls => ?_, fun c => ?_⟩⟩
  · rw [same]
    cases spans entries with
    | ok ss => exact .inl ⟨ss, rfl, rfl⟩
    | error fault => exact .inr ⟨fault, rfl, rfl⟩
  · rw [same]
  · exact c.check_congr same config echoes

def bracketEntries : List Value :=
  [.ofFields [("source", .text "("), ("scopesBegin", .ofTexts ["parens"]), ("line", .int 1)],
    .ofFields [("c", .text "x"), ("t", .text "source variable")],
    .ofFields [("scopesEnd", .ofTexts ["parens"]), ("source", .null), ("c", .text ")")]]

def respelledBrackets : List Value :=
  [.ofFields [("scopesOpened", .ofTexts ["parens"]), ("line", .null), ("sourceText", .text "(")],
    .ofFields [("t", .text "source variable"), ("column", .int 2), ("c", .text "x")],
    .ofFields [("c", .text ")"), ("sourceText", .null), ("scopesClosed", .ofTexts ["parens"])]]

/-- A bracket that opens a scope, a legacy entry, and a bracket that closes the scope; then the same
with the other spellings, in another order and with other notes. -/
theorem brackets_sameFields :
    List.Forall₂ SameFields bracketEntries respelledBrackets ∧
      spans respelledBrackets = .ok [{ source := "(", opens := ["parens"] },
        { source := "x", scopes := Scope.ofTagString "source variable" },
        { source := ")", closes := ["parens"] }] ∧
      ((∃ ss, spans bracketEntries = .ok ss ∧ spans respelledBrackets = .ok ss) ∨
        ∃ fault : SpecFault,
          spans bracketEntries = .error fault ∧ spans respelledBrackets = .error fault) := by
  have same : List.Forall₂ SameFields bracketEntries respelledBrackets := by
    refine .cons (.mappings ?_) (.cons (.mappings ?_) (.cons (.mappings ?_) .nil))
    all_goals
      constructor <;> simp [Lookup.either, under?, Value.display, List.find?]
  exact ⟨same, rfl, (spans_sameFields same).1⟩

end Spec

end TokenScopes
