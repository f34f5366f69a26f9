import Mathlib.Tactic.SplitIfs
import TokenScopes.Proofs.Outcome
import TokenScopes.Yaml.Token.Lexer

namespace TokenScopes.Yaml

/-- A fault of the lexer. -/
inductive Lexical : Fault → Prop
  | malformed : Lexical .malformed
  | escape {code : Nat} (beyond : 0x110000 ≤ code) : Lexical (.codePoint code)
  | version {digits : Nat} (long : Decimal.digitLimit < digits) : Lexical (.integerTooLong digits)

attribute [simp] Lexical.malformed

/-- A result with a property, or a fault of the lexer. -/
abbrev Lexes {α : Type} (P : α → Prop) (r : Except Fault α) : Prop :=
  Yields Lexical P r

/-- A fault, if there is one, is one of the lexer. -/
abbrev Refuses {α : Type} (r : Except Fault α) : Prop :=
  Lexes (fun _ => True) r

/-- A token of the text, not a fault in place of one. -/
def Token.Proper : Token → Prop
  | .fault _ => False
  | _ => True

namespace Source

theorem anchorName_refuses (s : Source) : Refuses s.anchorName := by
  rw [anchorName]
  simp only
  -- Which characters end a name does not matter.
  generalize (!_) = ends
  split <;> simp

theorem tagHandle_refuses (s : Source) : Refuses s.tagHandle := by
  rw [tagHandle]
  simp only
  split_ifs <;> simp

theorem uriBytes_refuses (acc : List UInt8) (fuel : Nat) (s : Source) :
    Refuses (uriBytes acc fuel s) := by
  fun_induction uriBytes acc fuel s <;> simp_all

theorem uriChars_refuses (acc : List Char) (fuel : Nat) (s : Source) :
    Refuses (uriChars acc fuel s) := by
  fun_induction uriChars acc fuel s
  case case2 refused => exact (uriBytes_refuses _ _ _).fault refused
  case case4 ih => exact ih
  all_goals simp

theorem uri_refuses (s : Source) : Refuses s.uri := by
  rw [uri]
  split
  · next refused => exact (uriChars_refuses _ _ _).fault refused
  · split <;> simp

theorem tag_lexes (s : Source) : Lexes (fun r => r.1.Proper) s.tag := by
  have ends (handle : Option String) (suffix : String) (t : Source) :
      Lexes (fun r => r.1.Proper) (if isSpaceOrEnd t.peek then pure (Token.tag handle suffix, t)
        else throw Fault.malformed : Except Fault (Token × Source)) := by
    split <;> simp [Token.Proper]
  rw [tag]
  split_ifs
  · refine (uri_refuses _).bind fun r _ => ?_
    simp only
    split
    · exact ends _ _ _
    · simp
  · exact ends _ _ _
  · simp only
    split
    · exact (tagHandle_refuses s).bind fun _ _ => (uri_refuses _).bind fun _ _ => ends _ _ _
    · exact (uri_refuses _).bind fun _ _ => ends _ _ _

theorem decimal_refuses (s : Source) : Refuses s.decimal := by
  rw [decimal]
  simp only
  split_ifs with empty long
  · simp
  · exact Lexical.version long
  · simp

theorem version_lexes (s : Source) : Lexes (fun r => r.1.Proper) s.version := by
  rw [version]
  refine (decimal_refuses _).bind fun r _ => ?_
  simp only
  split
  · simp
  · refine (decimal_refuses _).bind fun _ _ => ?_
    split <;> simp [Token.Proper]

theorem tagDefinition_lexes (s : Source) : Lexes (fun r => r.1.Proper) s.tagDefinition := by
  rw [tagDefinition]
  refine (tagHandle_refuses _).bind fun r _ => ?_
  simp only
  split
  · simp
  · refine (uri_refuses _).bind fun _ _ => ?_
    split <;> simp [Token.Proper]

theorem ignoredLine_lexes (r : Token × Source) (proper : r.1.Proper) :
    Lexes (fun r => r.1.Proper) (match r.2.ignoredLine? with
      | some v => pure (r.1, v)
      | none => throw Fault.malformed : Except Fault (Token × Source)) := by
  split
  · exact proper
  · simp

theorem directive_lexes (s : Source) : Lexes (fun r => r.1.Proper) s.directive := by
  rw [directive]
  simp only
  split
  · simp
  · split_ifs
    · exact (version_lexes _).bind ignoredLine_lexes
    · exact (tagDefinition_lexes _).bind ignoredLine_lexes
    · exact ignoredLine_lexes (.otherDirective, _) trivial

end Source

theorem quotedBreaks_refuses (acc : List Char) (fuel : Nat) (s : Source) :
    Refuses (quotedBreaks acc fuel s) := by
  fun_induction quotedBreaks acc fuel s <;> simp_all

/-- An escape is refused for its number only where it names no character. -/
theorem readEscape_refuses (s : Source) : Refuses (readEscape s) := by
  fun_cases readEscape s
  case case5 beyond => exact Lexical.escape beyond
  case case8 => exact (quotedBreaks_refuses _ _ _).map fun _ _ => trivial
  all_goals simp

theorem quotedText_refuses (double : Bool) (acc : List CodePoint) (fuel : Nat) (s : Source) :
    Refuses (quotedText double acc fuel s) := by
  fun_induction quotedText double acc fuel s
  case case7 refused => exact (readEscape_refuses _).fault refused
  case case2 ih | case3 ih | case6 ih | case8 ih | case9 ih => exact ih
  all_goals simp

theorem quotedSpace_refuses (s : Source) : Refuses (quotedSpace s) := by
  fun_cases quotedSpace s
  case case3 refused => exact (quotedBreaks_refuses _ _ _).fault refused
  all_goals simp

theorem quotedParts_refuses (double : Bool) (acc : List CodePoint) (fuel : Nat) (s : Source) :
    Refuses (quotedParts double acc fuel s) := by
  fun_induction quotedParts double acc fuel s
  case case2 refused => exact (quotedText_refuses _ _ _ _).fault refused
  case case4 refused => exact (quotedSpace_refuses _).fault refused
  case case5 ih => exact ih
  all_goals simp

theorem Source.quotedScalar_refuses (s : Source) : Refuses s.quotedScalar :=
  quotedParts_refuses _ _ _ _

theorem readIncrement_refuses (s : Source) : Refuses (readIncrement s) := by
  rw [readIncrement]
  split <;> simp

theorem readIndicators_refuses (s : Source) : Refuses (readIndicators s) := by
  have ends (c : Chomping) (increment : Option Nat) (t : Source) :
      Refuses (if isSpaceOrEnd t.peek then pure (c, increment, t)
        else throw Fault.malformed : Except Fault (Chomping × Option Nat × Source)) := by
    split <;> simp
  rw [readIndicators]
  split
  · exact (readIncrement_refuses _).bind fun _ _ => ends _ _ _
  · refine (readIncrement_refuses _).bind fun _ _ => ?_
    simp only
    split
    · exact ends _ _ _
    · exact ends _ _ _

theorem Source.blockScalar_refuses (s : Source) (parent : Int) :
    Refuses (s.blockScalar parent) := by
  rw [blockScalar]
  refine (readIndicators_refuses _).bind fun _ _ => ?_
  simp only
  split <;> simp

namespace Lexer

/-- None of the tokens so far is a fault. -/
def Clean (l : Lexer) : Prop :=
  ∀ t ∈ l.tokens, t.Proper

variable {l : Lexer}

theorem Clean.emit (h : l.Clean) {t : Token} (proper : t.Proper) : (l.emit t).Clean :=
  List.forall_mem_cons.mpr ⟨proper, h⟩

theorem Clean.allowKey (h : l.Clean) (allowed : Bool) : (l.allowKey allowed).Clean := h

theorem Clean.insertAt (h : l.Clean) (position : Nat) {ts : List Token}
    (proper : ∀ t ∈ ts, t.Proper) : (l.insertAt position ts).Clean := by
  intro t member
  simp only [Lexer.insertAt, List.mem_append, List.mem_reverse] at member
  rcases member with (before | new) | after
  · exact h t (List.mem_of_mem_take before)
  · exact proper t new
  · exact h t (List.mem_of_mem_drop after)

theorem Clean.unwind (column : Int) (fuel : Nat) (h : l.Clean) : (unwind column fuel l).Clean := by
  induction fuel generalizing l with
  | zero => exact h
  | succ fuel ih =>
    rw [Lexer.unwind]
    split
    · exact h
    · exact ih (h.emit (t := .blockEnd) trivial)

theorem Clean.unwindTo (h : l.Clean) (column : Int) : (l.unwindTo column).Clean := by
  rw [Lexer.unwindTo]
  split
  · exact h
  · exact h.unwind column _

theorem Clean.skipToToken (fuel : Nat) (h : l.Clean) : (skipToToken fuel l).Clean := by
  fun_induction Lexer.skipToToken fuel l
  case case1 | case3 => exact h
  case case2 ih => exact ih h

theorem Clean.openBlock (h : l.Clean) {t : Token} (proper : t.Proper) : (l.openBlock t).Clean := by
  rw [Lexer.openBlock, indentTo]
  split_ifs
  · exact h.emit proper
  · exact h

theorem Clean.insertKey (h : l.Clean) (k : KeyCandidate) : (l.insertKey k).Clean := by
  have key : ∀ t ∈ [Token.key], t.Proper := by simp [Token.Proper]
  have opened : ∀ t ∈ [Token.blockMappingStart, .key], t.Proper := by simp [Token.Proper]
  rw [Lexer.insertKey, indentTo]
  split_ifs
  · exact Clean.insertAt h k.position key
  · exact Clean.insertAt h k.position opened
  · exact Clean.insertAt h k.position key

theorem Clean.dropStale (h : l.Clean) : Lexes Clean l.dropStale := by
  rw [Lexer.dropStale]
  split
  · simp
  · exact h

theorem Clean.dropCandidate (h : l.Clean) : Lexes Clean l.dropCandidate := by
  rw [Lexer.dropCandidate]
  split
  · exact h
  · split
    · simp
    · exact h

theorem Clean.saveCandidate (h : l.Clean) : Lexes Clean l.saveCandidate := by
  rw [Lexer.saveCandidate]
  split
  · exact h
  · exact h.dropCandidate.bind fun _ clean => clean

theorem Clean.fetchEnd (h : l.Clean) : Lexes Clean l.fetchEnd :=
  (h.unwindTo (-1)).dropCandidate.bind fun _ clean =>
    clean.emit (t := .streamEnd) trivial

theorem Clean.fetchDirective (h : l.Clean) : Lexes Clean l.fetchDirective := by
  refine (h.unwindTo (-1)).dropCandidate.bind fun m clean => ?_
  exact m.source.directive_lexes.bind fun r proper => clean.emit proper

theorem Clean.fetchDocumentMarker (h : l.Clean) {t : Token} (proper : t.Proper) :
    Lexes Clean (l.fetchDocumentMarker t) :=
  (h.unwindTo (-1)).dropCandidate.bind fun _ clean => clean.emit proper

theorem Clean.fetchFlowStart (h : l.Clean) {t : Token} (proper : t.Proper) :
    Lexes Clean (l.fetchFlowStart t) :=
  h.saveCandidate.bind fun _ clean => clean.emit proper

theorem Clean.fetchFlowEnd (h : l.Clean) {t : Token} (proper : t.Proper) :
    Lexes Clean (l.fetchFlowEnd t) :=
  h.dropCandidate.bind fun _ clean => clean.emit proper

theorem Clean.fetchFlowEntry (h : l.Clean) : Lexes Clean l.fetchFlowEntry :=
  (h.allowKey true).dropCandidate.bind fun _ clean =>
    clean.emit (t := .flowEntry) trivial

theorem Clean.openInBlock (h : l.Clean) {t : Token} (proper : t.Proper) :
    (if l.inFlow then l else l.openBlock t).Clean := by
  split
  · exact h
  · exact h.openBlock proper

theorem Clean.fetchBlockEntry (h : l.Clean) : Lexes Clean l.fetchBlockEntry := by
  have opened := h.openInBlock (t := .blockSequenceStart) trivial
  rw [Lexer.fetchBlockEntry]
  split
  · simp
  · exact (opened.allowKey true).dropCandidate.bind fun _ clean =>
      clean.emit (t := .blockEntry) trivial

theorem Clean.fetchKey (h : l.Clean) : Lexes Clean l.fetchKey := by
  have opened := h.openInBlock (t := .blockMappingStart) trivial
  rw [Lexer.fetchKey]
  split
  · simp
  · exact (opened.allowKey _).dropCandidate.bind fun _ clean => clean.emit (t := .key) trivial

theorem Clean.fetchValue (h : l.Clean) : Lexes Clean l.fetchValue := by
  have opened := h.openInBlock (t := .blockMappingStart) trivial
  have value {m : Lexer} (clean : m.Clean) : ((m.skip 1).emit .value).Clean :=
    clean.emit (t := .value) trivial
  rw [Lexer.fetchValue]
  split
  · exact value (h.insertKey _)
  · refine .ite (by simp) ?_
    exact (opened.allowKey _).dropCandidate.bind fun _ clean => value clean

theorem Clean.fetchWord (h : l.Clean) {read : Source → Except Fault (Token × Source)}
    (word : ∀ s, Lexes (fun r => r.1.Proper) (read s)) : Lexes Clean (l.fetchWord read) :=
  h.saveCandidate.bind fun m clean => (word m.source).bind fun _ proper => clean.emit proper

theorem Clean.fetchPlain (h : l.Clean) : Lexes Clean l.fetchPlain :=
  h.saveCandidate.bind fun _ clean => clean.emit (t := .scalar _ true) trivial

theorem Clean.fetchBlock (h : l.Clean) : Lexes Clean l.fetchBlock :=
  (h.allowKey true).dropCandidate.bind fun m clean =>
    (m.source.blockScalar_refuses m.indent).bind fun _ _ =>
      clean.emit (t := .scalar _ false) trivial

theorem Clean.fetchAnchor (h : l.Clean) {token : String → Token} (proper : ∀ s, (token s).Proper) :
    Lexes Clean (l.fetchAnchor token) :=
  h.fetchWord fun s => s.anchorName_refuses.map fun r _ => proper r.1

theorem Clean.fetchQuoted (h : l.Clean) : Lexes Clean l.fetchQuoted :=
  h.fetchWord fun s => s.quotedScalar_refuses.map fun _ _ => trivial

/-- Whatever the character in front, one token more leaves the tokens clean. -/
theorem Clean.fetchAt (h : l.Clean) (c : Char) : Lexes Clean (l.fetchAt c) := by
  have directive := h.fetchDirective
  have marker {t : Token} (proper : t.Proper) := h.fetchDocumentMarker proper
  have flow {t : Token} (proper : t.Proper) := h.fetchFlowStart proper
  have flowEnd {t : Token} (proper : t.Proper) := h.fetchFlowEnd proper
  have name : Lexes Clean (l.fetchAnchor .alias) := h.fetchAnchor fun _ => trivial
  have named : Lexes Clean (l.fetchAnchor .anchor) := h.fetchAnchor fun _ => trivial
  have word := h.fetchWord Source.tag_lexes
  exact .ite directive <| .ite (marker trivial) <| .ite (marker trivial) <| .ite (flow trivial) <|
    .ite (flow trivial) <| .ite (flowEnd trivial) <| .ite (flowEnd trivial) <|
    .ite h.fetchFlowEntry <| .ite h.fetchBlockEntry <| .ite h.fetchKey <| .ite h.fetchValue <|
    .ite name <| .ite named <| .ite word <| .ite h.fetchBlock <| .ite h.fetchQuoted <|
    .ite h.fetchPlain (by simp)

theorem Clean.fetch (h : l.Clean) : Lexes Clean l.fetch := by
  refine (h.skipToToken _).dropStale.bind fun m clean => ?_
  simp only
  split
  · exact (clean.unwindTo _).fetchEnd
  · exact (clean.unwindTo _).fetchAt _

/-- A fault ends the tokens, and there is no other. -/
theorem Clean.failing (h : l.Clean) {f g : Fault} (fault : Token.fault f ∈ l.failing g) :
    f = g := by
  rw [Lexer.failing, List.mem_append, List.mem_singleton] at fault
  rcases fault with before | here
  · exact absurd (h _ (List.mem_reverse.mp (List.mem_of_mem_take before))) id
  · cases here
    rfl

theorem Clean.fetchAll (fuel : Nat) (h : l.Clean) {f : Fault}
    (fault : Token.fault f ∈ fetchAll fuel l) : Lexical f := by
  -- By induction on the steps: up to the fault that ends them the tokens are clean.
  induction fuel generalizing l with
  | zero =>
    rw [h.failing fault]
    exact .malformed
  | succ fuel ih =>
    have next := h.fetch
    rw [Lexer.fetchAll] at fault
    split at fault
    · next refused =>
      rw [h.failing fault]
      exact next.fault refused
    · next m found =>
      rw [found] at next
      split at fault
      · exact absurd (next _ (List.mem_reverse.mp fault)) id
      · exact ih next fault

end Lexer

end TokenScopes.Yaml
