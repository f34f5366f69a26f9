import TokenScopes.Spec.Entry

namespace TokenScopes.Spec

/-- The spans of one entry: none for a placeholder, else one. A span that was built beforehand
stands for itself. -/
def entrySpans (v : Value) : Except EntryFault (List DeclaredSpan) :=
  match v with
  | .span s => .ok [⟨s, []⟩]
  | v => do
    let entry ← Entry.classify v
    if entry.isPlaceholder then return []
    return [← entry.toSpan]

def normalizeFrom (index : Nat) : List Value → Except SpecFault (List DeclaredSpan)
  | [] => .ok []
  | v :: rest => do
    let here ← (entrySpans v).mapError fun cause => (⟨index, cause⟩ : SpecFault)
    let later ← normalizeFrom (index + 1) rest
    return here ++ later

/-- The spans of a list of entries, in order; the first entry without a meaning is the fault. -/
def normalize (entries : List Value) : Except SpecFault (List DeclaredSpan) :=
  normalizeFrom 0 entries

def spans (entries : List Value) : Except SpecFault (List Span) :=
  (normalize entries).map (·.map (·.span))

/-- Whether a list starts with a mapping that has a literal. -/
def isLegacy : List Value → Bool
  | .map entries :: _ => (Value.field? entries Entry.literalKey).isSome
  | _ => false

end TokenScopes.Spec

namespace TokenScopes.Span

/-- The structured entry of a span; empty lists of opened and closed scopes are left out. -/
def toValue (s : Span) : Value :=
  .ofFields <|
    [(("source" : Text), .text s.source)] ++
    (if s.opens.isEmpty then [] else [(("scopesBegin" : Text), .ofTexts s.opens)]) ++
    [(("scopes" : Text), .ofTexts s.scopes)] ++
    (if s.closes.isEmpty then [] else [(("scopesEnd" : Text), .ofTexts s.closes)])

end TokenScopes.Span
