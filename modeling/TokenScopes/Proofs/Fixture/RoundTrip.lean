import TokenScopes.Fixture.Document
import TokenScopes.Fixture.Format
import TokenScopes.Proofs.Checker.Reading
import TokenScopes.Proofs.Spec.Migration

namespace TokenScopes

def Line.toValue (l : Line) : Value :=
  .ofFields [("text", .text l.text), ("tokens", .list (l.tokens.map Token.toValue))]

namespace Fixture

def documentFor (name : Text) (lines : List Line) (spans : List Span) : Value :=
  .ofFields [("name", .text name), ("lines", .list (lines.map Line.toValue)),
    ("spec", .list (spans.map Span.toValue))]

end Fixture

namespace Token

/-- A token as it is read back: the keys are in order. -/
def sortedFields (t : Token) : Fields :=
  [("endIndex", .int t.stop), ("scopes", .ofTexts t.scopes), ("startIndex", .int t.start)]

theorem canonical_toValue (t : Token) : t.toValue.canonical = .ofFields t.sortedFields := by
  rw [toValue]
  apply Value.canonical_of_sorted
  · simp only [List.map_cons, List.map_nil, Value.canonicalField, Value.canonical_int,
      Value.canonical_ofTexts]
    exact @List.perm_append_comm _ [_] [_, _]
  · exact (by decide : (["endIndex", "scopes", "startIndex"] : List Text).Pairwise (· < ·))

theorem exact_sortedFields {t : Token} (short : t.stop < 10 ^ Decimal.digitLimit)
    (apart : ∀ name ∈ t.scopes, name.Apart) : Json.Exact (.ofFields t.sortedFields) := by
  have order := t.start_le_stop
  apply Json.Exact.map
  · exact (by decide : (["endIndex", "scopes", "startIndex"] : List Text).Nodup)
  · intro f member
    simp only [sortedFields, List.mem_cons, List.not_mem_nil, or_false] at member
    rcases member with rfl | rfl | rfl <;> exact Json.apart_ofString _
  · intro f member
    simp only [sortedFields, List.mem_cons, List.not_mem_nil, or_false] at member
    rcases member with rfl | rfl | rfl
    · exact .int (by rw [Int.natAbs_natCast]; exact short)
    · exact Span.exact_ofTexts apart
    · exact .int (by rw [Int.natAbs_natCast]; exact Nat.lt_of_le_of_lt order short)

end Token

namespace Line

/-- No text of a line has the two halves of a pair in a row. -/
structure Apart (l : Line) : Prop where
  text : l.text.Apart
  scopes : ∀ t ∈ l.tokens, ∀ name ∈ t.scopes, name.Apart

def sortedFields (l : Line) : Fields :=
  [("text", .text l.text), ("tokens", .list (l.tokens.map fun t => .ofFields t.sortedFields))]

theorem canonical_toValue (l : Line) : l.toValue.canonical = .ofFields l.sortedFields := by
  have tokens : (l.tokens.map Token.toValue).map Value.canonical =
      l.tokens.map fun t => .ofFields t.sortedFields := by
    rw [List.map_map]
    exact List.map_congr_left fun t _ => t.canonical_toValue
  rw [toValue]
  apply Value.canonical_of_sorted
  · simp only [List.map_cons, List.map_nil, Value.canonicalField, Value.canonical_list,
      Value.canonical_text, tokens]
    exact .refl _
  · exact (by decide : (["text", "tokens"] : List Text).Pairwise (· < ·))

theorem exact_sortedFields {l : Line} (short : ∀ t ∈ l.tokens, t.stop < 10 ^ Decimal.digitLimit)
    (apart : l.Apart) : Json.Exact (.ofFields l.sortedFields) := by
  have tokens : Json.Exact (.list (l.tokens.map fun t => .ofFields t.sortedFields)) := by
    apply Json.Exact.list
    intro v member
    obtain ⟨t, given, rfl⟩ := List.mem_map.mp member
    exact Token.exact_sortedFields (short t given) (apart.scopes t given)
  apply Json.Exact.map
  · exact (by decide : (["text", "tokens"] : List Text).Nodup)
  · intro f member
    simp only [sortedFields, List.mem_cons, List.not_mem_nil, or_false] at member
    rcases member with rfl | rfl <;> exact Json.apart_ofString _
  · intro f member
    simp only [sortedFields, List.mem_cons, List.not_mem_nil, or_false] at member
    rcases member with rfl | rfl
    · exact .text apart.text
    · exact tokens

end Line

namespace Fixture

def sortedDocument (name : Text) (lines : List Line) (spans : List Span) : Fields :=
  [("lines", .list (lines.map fun l => .ofFields l.sortedFields)), ("name", .text name),
    ("spec", .list (Spec.structuredEntries spans))]

theorem canonical_documentFor (name : Text) (lines : List Line) (spans : List Span) :
    (documentFor name lines spans).canonical = .ofFields (sortedDocument name lines spans) := by
  have written : (lines.map Line.toValue).map Value.canonical =
      lines.map fun l => .ofFields l.sortedFields := by
    rw [List.map_map]
    exact List.map_congr_left fun l _ => l.canonical_toValue
  rw [documentFor]
  apply Value.canonical_of_sorted
  · simp only [List.map_cons, List.map_nil, Value.canonicalField, Value.canonical_text,
      Spec.canonical_toValues]
    rw [Value.canonical_list, written]
    exact .swap _ _ _
  · exact (by decide : (["lines", "name", "spec"] : List Text).Pairwise (· < ·))

theorem exact_sortedDocument {name : Text} {lines : List Line} {spans : List Span}
    (short : ∀ l ∈ lines, ∀ t ∈ l.tokens, t.stop < 10 ^ Decimal.digitLimit)
    (apart : name.Apart ∧ (∀ l ∈ lines, l.Apart) ∧ ∀ s ∈ spans, s.Apart) :
    Json.Exact (.ofFields (sortedDocument name lines spans)) := by
  have written : Json.Exact (.list (lines.map fun l => .ofFields l.sortedFields)) := by
    apply Json.Exact.list
    intro v member
    obtain ⟨l, given, rfl⟩ := List.mem_map.mp member
    exact Line.exact_sortedFields (short l given) (apart.2.1 l given)
  apply Json.Exact.map
  · exact (by decide : (["lines", "name", "spec"] : List Text).Nodup)
  · intro f member
    simp only [sortedDocument, List.mem_cons, List.not_mem_nil, or_false] at member
    rcases member with rfl | rfl | rfl <;> exact Json.apart_ofString _
  · intro f member
    simp only [sortedDocument, List.mem_cons, List.not_mem_nil, or_false] at member
    rcases member with rfl | rfl | rfl
    · exact written
    · exact .text apart.1
    · exact Spec.exact_structuredEntries apart.2.2

end Fixture

def Fields.entries (fields : Fields) : List (Value × Value) :=
  fields.map fun (k, v) => (.text k, v)

namespace Shape

section

variable {α : Type} {entries : List (Value × Value)} {name : Text} {v : Value} {a : α}
  {read : Value → Checked α}

theorem readRecord_ofFields (read : List (Value × Value) → Checked α) (fields : Fields) :
    readRecord read (.ofFields fields) = read fields.entries := rfl

theorem required_field (names : List Text) (field : Value.field? entries name = some v)
    (value : read v = .ok a) : required entries (name :: names) read = .ok a := by
  rw [required, fieldNamed, List.findSome?_cons, field]
  change within name (read v) = _
  rw [value]
  rfl

theorem optional_field (default : α) (field : Value.field? entries name = some v)
    (value : read v = .ok a) : optional entries name default read = .ok a := by
  rw [optional, field]
  change within name (read v) = _
  rw [value]
  rfl

theorem eachFrom_map {β : Type} {write : β → Value} {result : β → α} {bs : List β}
    (h : ∀ b ∈ bs, read (write b) = .ok (result b)) (index : Nat) :
    eachFrom read index (bs.map write) = .ok (bs.map result) := by
  induction bs generalizing index with
  | nil => rfl
  | cons b bs ih =>
    have first := h b (List.mem_cons_self ..)
    have rest := ih (fun c member => h c (List.mem_cons_of_mem b member)) (index + 1)
    rw [List.map_cons, eachFrom, first, rest]
    rfl

theorem readList_map {β : Type} {write : β → Value} {result : β → α} {bs : List β}
    (h : ∀ b ∈ bs, read (write b) = .ok (result b)) :
    readList read (.list (bs.map write)) = .ok (bs.map result) :=
  eachFrom_map h 0

end

theorem readList_texts (ss : List Text) : readList readText (.ofTexts ss) = .ok ss := by
  have texts : readList readText (.list (ss.map Value.text)) = .ok (ss.map id) :=
    readList_map fun _ _ => rfl
  rwa [List.map_id] at texts

/-- Text keys are read as they are. -/
theorem readEntries_fields (fields : Fields) : readEntries fields.entries = .ok fields := by
  induction fields with
  | nil => rfl
  | cons f fields ih =>
    have rest : readEntries (Fields.entries (f :: fields)) =
        both List.cons (.ok f) (readEntries (Fields.entries fields)) := rfl
    rw [rest, ih]
    rfl

end Shape

namespace Fixture

def TokenData.ofToken (t : Token) : TokenData :=
  ⟨t.start, t.stop, t.scopes⟩

def LineData.ofLine (l : Line) : LineData :=
  ⟨l.text, l.tokens.map TokenData.ofToken⟩

theorem readToken_sortedFields (t : Token) :
    readToken (.ofFields t.sortedFields) = .ok (.ofToken t) := by
  have start : Shape.required t.sortedFields.entries ["startIndex", "start"] Shape.readInt =
      .ok (t.start : Int) := Shape.required_field ["start"] rfl rfl
  have stop : Shape.required t.sortedFields.entries ["endIndex", "end"] Shape.readInt =
      .ok (t.stop : Int) := Shape.required_field ["end"] rfl rfl
  have scopes : Shape.optional t.sortedFields.entries "scopes" []
      (Shape.readList Shape.readText) = .ok t.scopes :=
    Shape.optional_field [] rfl (Shape.readList_texts t.scopes)
  rw [readToken, Shape.readRecord_ofFields, start, stop, scopes]
  rfl

theorem readLine_sortedFields (l : Line) :
    readLine (.ofFields l.sortedFields) = .ok (.ofLine l) := by
  have text : Shape.required l.sortedFields.entries ["text"] Shape.readText = .ok l.text :=
    Shape.required_field [] rfl rfl
  have tokens : Shape.optional l.sortedFields.entries "tokens" [] (Shape.readList readToken) =
      .ok (l.tokens.map TokenData.ofToken) :=
    Shape.optional_field [] rfl (Shape.readList_map fun t _ => readToken_sortedFields t)
  rw [readLine, Shape.readRecord_ofFields, text, tokens]
  rfl

theorem readSpecEntry_fields {fields : Fields} (distinct : (fields.map Prod.fst).Nodup) :
    readSpecEntry (.ofFields fields) = .ok (.ofFields fields) := by
  have inserted := Fields.foldl_insertField [] distinct
  rw [List.foldl_map, List.nil_append] at inserted
  change (Shape.readEntries fields.entries).map _ = _
  rw [Shape.readEntries_fields]
  exact congrArg (fun fields => Except.ok (Value.ofFields fields)) inserted

def CaseData.written (name : Text) (lines : List Line) (spans : List Span) : CaseData :=
  ⟨some name, lines.map LineData.ofLine, Spec.structuredEntries spans⟩

theorem readCase_sortedDocument (name : Text) (lines : List Line) (spans : List Span) :
    readCase (.ofFields (sortedDocument name lines spans)) = .ok (.written name lines spans) := by
  have named : Shape.optional (sortedDocument name lines spans).entries "name" none
      Shape.readOptionalText = .ok (some name) :=
    Shape.optional_field none rfl rfl
  have written : Shape.required (sortedDocument name lines spans).entries ["lines"]
      (Shape.readList readLine) = .ok (lines.map LineData.ofLine) :=
    Shape.required_field [] rfl (Shape.readList_map fun l _ => readLine_sortedFields l)
  have spec : Shape.required (sortedDocument name lines spans).entries ["spec"]
      (Shape.readList readSpecEntry) = .ok (Spec.structuredEntries spans) :=
    Shape.required_field [] rfl (Shape.readList_map fun s _ => readSpecEntry_fields s.sortedFields_ascending.nodup)
  rw [readCase, Shape.readRecord_ofFields, named, written, spec]
  rfl

theorem tokenOf_ofToken (t : Token) : tokenOf (.ofToken t) = .ok t := by
  have start : ¬(t.start : Int) < 0 := by omega
  have order : (t.start : Int) ≤ t.stop := by
    have := t.start_le_stop
    omega
  rw [tokenOf, TokenData.ofToken, Token.ofOffsets, if_neg start, dif_pos order]
  rfl

/-- A list is made anew if each element is. -/
theorem mapM_map_ok {α β ε : Type} {make : β → Except ε α} {data : α → β}
    (h : ∀ a, make (data a) = .ok a) (as : List α) : (as.map data).mapM make = .ok as := by
  induction as with
  | nil => rfl
  | cons a as ih =>
    rw [List.map_cons, List.mapM_cons, h, ih]
    rfl

theorem lineOf_ofLine (l : Line) : lineOf (.ofLine l) = .ok l := by
  rw [lineOf, LineData.ofLine, mapM_map_ok tokenOf_ofToken]
  rfl

theorem caseOf_written (path : Path) (default : Text) {name : Text} (named : name ≠ "")
    (lines : List Line) (spans : List Span) :
    caseOf path default (.written name lines spans) =
      .ok ⟨name, lines, Spec.structuredEntries spans, some path⟩ := by
  have kept : (name == "") = false := beq_eq_false_iff_ne.mpr named
  rw [caseOf, CaseData.written, mapM_map_ok lineOf_ofLine]
  simp only [kept]
  rfl

/-- A document of one case is read as that case, under its own name. -/
theorem cases_sortedDocument (path : Path) {name : Text} (named : name ≠ "") (lines : List Line)
    (spans : List Span) :
    cases path (.ofFields (sortedDocument name lines spans)) =
      .ok [⟨name, lines, Spec.structuredEntries spans, some path⟩] := by
  have single : casesOf (.ofFields (sortedDocument name lines spans)) =
      some (.list [.ofFields (sortedDocument name lines spans)]) := rfl
  have read : readCases (.list [.ofFields (sortedDocument name lines spans)]) =
      .ok [.written name lines spans] := by
    have items : Shape.readList readCase (.list ([spans].map fun spans =>
        .ofFields (sortedDocument name lines spans))) =
        .ok ([spans].map fun spans => .written name lines spans) :=
      Shape.readList_map fun spans _ => readCase_sortedDocument name lines spans
    rw [readCases]
    exact congrArg (Shape.within "cases") items
  have made := caseOf_written path (defaultName path 1 0) named lines spans
  rw [cases, single]
  simp only [read, casesFrom, List.length_singleton, made]
  rfl

/-- What is written for a name, lines and spans is read back as one case with this name and these
lines, and its specification stands for these spans. No text of them may have two halves of a
surrogate pair in a row, which would be read back as one character. -/
theorem document_round_trip {name : Text} (named : name ≠ "") {lines : List Line}
    (short : ∀ l ∈ lines, ∀ t ∈ l.tokens, t.stop < 10 ^ Decimal.digitLimit) {spans : List Span}
    (apart : name.Apart ∧ (∀ l ∈ lines, l.Apart) ∧ ∀ s ∈ spans, s.Apart) {path : Path}
    (json : isYaml path = false) :
    ∃ text payload entries, Json.pretty (documentFor name lines spans) = .ok text ∧
      decode path text = .ok payload ∧
      cases path payload = .ok [⟨name, lines, entries, some path⟩] ∧
      Spec.spans entries = .ok spans := by
  have canonical := canonical_documentFor name lines spans
  have sound : Json.Exact (documentFor name lines spans).canonical := by
    rw [canonical]
    exact exact_sortedDocument short apart
  refine ⟨_, .ofFields (sortedDocument name lines spans), Spec.structuredEntries spans,
    sound.pretty_eq, ?_, cases_sortedDocument path named lines spans,
    Spec.spans_structuredEntries spans⟩
  rw [decode, json, decodeJson, sound.read_prettyText, canonical]
  rfl

def quotedLines : List Line :=
  [⟨"", []⟩, ⟨"\"é\" x", [.covering 0 3 ["string.quoted"], .covering 4 1 []]⟩]

def quotedSpans : List Span :=
  [{ opens := ["meta.line"] }, { source := "\"é\"", scopes := ["string.quoted"] },
    { source := "x", closes := ["meta.line"] }]

theorem quoted_apart :
    Text.Apart "quoted" ∧ (∀ l ∈ quotedLines, l.Apart) ∧ ∀ s ∈ quotedSpans, s.Apart := by
  refine ⟨by decide, fun l member => ?_, fun s member => ?_⟩
  · simp only [quotedLines, List.mem_cons, List.not_mem_nil, or_false] at member
    rcases member with rfl | rfl <;> exact ⟨by decide, by decide⟩
  · simp only [quotedSpans, List.mem_cons, List.not_mem_nil, or_false] at member
    rcases member with rfl | rfl | rfl <;> exact ⟨by decide, by decide, by decide, by decide⟩

/-- An empty line, and one whose text is escaped, with a token that has no scopes. -/
theorem quoted_document_round_trip :
    (("quoted" : Text) ≠ "" ∧ (∀ l ∈ quotedLines, ∀ t ∈ l.tokens, t.stop < 10 ^ Decimal.digitLimit) ∧
      isYaml (Path.of "a.json") = false) ∧
    ∃ text payload entries,
      Json.pretty (documentFor "quoted" quotedLines quotedSpans) = .ok text ∧
      decode (Path.of "a.json") text = .ok payload ∧
      cases (Path.of "a.json") payload =
        .ok [⟨"quoted", quotedLines, entries, some (Path.of "a.json")⟩] ∧
      Spec.spans entries = .ok quotedSpans := by
  have small : ∀ l ∈ quotedLines, ∀ t ∈ l.tokens, t.stop < 10 ^ 1 := by decide
  have short : ∀ l ∈ quotedLines, ∀ t ∈ l.tokens, t.stop < 10 ^ Decimal.digitLimit := by
    intro l line t token
    exact Nat.lt_of_lt_of_le (small l line t token) (Nat.pow_le_pow_right (by decide) (by decide))
  have json : isYaml (Path.of "a.json") = false := by decide +kernel
  exact ⟨⟨by decide, short, json⟩, document_round_trip (by decide) short quoted_apart json⟩

end Fixture

end TokenScopes
