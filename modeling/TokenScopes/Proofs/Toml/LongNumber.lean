import TokenScopes.Proofs.Outcome
import TokenScopes.Proofs.Text.Front
import TokenScopes.Toml.Reader

namespace TokenScopes.Toml

/-- More digits in a row than a number may have, with underscores between them or not. -/
def HasLongNumber (cs : List Char) : Prop :=
  ∃ part, part <:+: cs ∧ (∀ c ∈ part, c.isDigit = true ∨ c = '_') ∧
    Decimal.digitLimit < part.countP Char.isDigit

theorem HasLongNumber.mono {cs ds : List Char} (h : HasLongNumber cs) (within : cs <:+: ds) :
    HasLongNumber ds := by
  obtain ⟨part, inside, digits, long⟩ := h
  exact ⟨part, inside.trans within, digits, long⟩

/-- What a fault tells of the text. -/
def Blames (cs : List Char) : Fault → Prop
  | .malformed => True
  | .numberTooLong _ => HasLongNumber cs

/-- A reader leaves an end of the text it is given, and it finds a number too long only in a text
with a long one. -/
abbrev Tracks {α : Type} (cs : List Char) (r : Except Fault (α × List Char)) : Prop :=
  Yields (Blames cs) (fun read => read.2 <:+ cs) r

theorem Blames.mono {cs rest : List Char} {f : Fault} (blamed : Blames rest f)
    (left : rest <:+ cs) : Blames cs f := by
  cases f with
  | malformed => trivial
  | numberTooLong => exact HasLongNumber.mono blamed left.isInfix

theorem Tracks.of_suffix {α : Type} {cs rest : List Char} {r : Except Fault (α × List Char)}
    (h : Tracks rest r) (left : rest <:+ cs) : Tracks cs r :=
  h.mono (fun _ blamed => blamed.mono left) fun _ further => further.trans left

theorem require_yields {α : Type} {P : α → Prop} {found : Option α} (h : Finds P found)
    (cs : List Char) : Yields (Blames cs) P (require found) := by
  cases found with
  | some a => exact h
  | none => trivial

/-- Digits were read from the front of a text, underscores between them passed over. -/
def Spelled (digit? : Char → Option Nat) (cs : List Char) (read : List Nat × List Char) : Prop :=
  ∃ part, part ++ read.2 = cs ∧ (∀ c ∈ part, (digit? c).isSome = true ∨ c = '_') ∧
    read.1.length ≤ part.countP fun c => (digit? c).isSome

theorem Spelled.suffix {digit? : Char → Option Nat} {cs : List Char} {read : List Nat × List Char}
    (h : Spelled digit? cs read) : read.2 <:+ cs := by
  obtain ⟨part, split, -⟩ := h
  exact ⟨part, split⟩

theorem Spelled.nil (digit? : Char → Option Nat) (cs : List Char) : Spelled digit? cs ([], cs) :=
  ⟨[], rfl, nofun, Nat.le_refl 0⟩

theorem Spelled.digit {digit? : Char → Option Nat} {c : Char} {cs rest : List Char} {d : Nat}
    {ds : List Nat} (h : Spelled digit? cs (ds, rest)) (digit : digit? c = some d) :
    Spelled digit? (c :: cs) (d :: ds, rest) := by
  obtain ⟨part, split, digits, count⟩ := h
  have here : (digit? c).isSome = true := by rw [digit, Option.isSome_some]
  refine ⟨c :: part, congrArg (c :: ·) split, ?_, ?_⟩
  · exact List.forall_mem_cons.mpr ⟨.inl here, digits⟩
  · have one_more : (c :: part).countP (fun c => (digit? c).isSome) =
        part.countP (fun c => (digit? c).isSome) + 1 := List.countP_cons_of_pos here
    rw [one_more]
    exact Nat.succ_le_succ count

theorem Spelled.underscore {digit? : Char → Option Nat} {cs : List Char}
    {read : List Nat × List Char} (h : Spelled digit? cs read) :
    Spelled digit? ('_' :: cs) read := by
  obtain ⟨part, split, digits, count⟩ := h
  refine ⟨'_' :: part, congrArg ('_' :: ·) split, ?_, ?_⟩
  · exact List.forall_mem_cons.mpr ⟨.inr rfl, digits⟩
  · exact count.trans (List.Sublist.countP_le (List.sublist_cons_self ..))

theorem moreDigits_spelled (digit? : Char → Option Nat) (cs : List Char) :
    Spelled digit? cs (moreDigits digit? cs) := by
  -- By induction on the text, with the underscores that were passed over.
  fun_induction moreDigits digit? cs with
  | case1 c rest d digit ds left read ih =>
    rw [read] at ih
    exact (ih.digit digit).underscore
  | case3 c rest _ d digit ds left read ih =>
    rw [read] at ih
    exact ih.digit digit
  | _ => exact .nil _ _

theorem readDigits_spelled (digit? : Char → Option Nat) (cs : List Char) :
    Finds (Spelled digit? cs) (readDigits digit? cs) := by
  cases cs with
  | nil => trivial
  | cons c rest =>
    rw [readDigits]
    cases digit : digit? c with
    | none => trivial
    | some d => exact (moreDigits_spelled digit? rest).digit digit

theorem readDigits_leaves (digit? : Char → Option Nat) (cs : List Char) :
    Leaves cs (readDigits digit? cs) :=
  (readDigits_spelled digit? cs).mono fun _ => Spelled.suffix

theorem readBased_leaves (cs : List Char) : Leaves cs (readBased cs) := by
  rw [readBased.eq_def]
  split
  · next mark rest =>
    have base : Finds (fun _ => True) (baseOf? mark) := by
      cases baseOf? mark <;> trivial
    refine base.bind fun base _ => ?_
    refine (readDigits_leaves (below base) rest).bind fun read left => ?_
    exact (left.trans (List.suffix_cons mark rest)).trans (List.suffix_cons '0' _)
  · trivial

theorem readWhole_spelled (cs : List Char) :
    Finds (Spelled Text.asciiDigit? cs) (readWhole cs) := by
  rw [readWhole.eq_def]
  split
  · next rest => exact (Spelled.nil Text.asciiDigit? rest).digit rfl
  · exact readDigits_spelled _ _

theorem readFraction_leaves (cs : List Char) : Leaves cs (readFraction cs) := by
  rw [readFraction.eq_def]
  split
  · next rest => exact (readDigits_leaves _ rest).of_suffix (List.suffix_cons _ _)
  · trivial

theorem readExponent_leaves (cs : List Char) : Leaves cs (readExponent cs) := by
  cases cs with
  | nil => trivial
  | cons c rest =>
    rw [readExponent]
    refine .ite ?_ trivial
    refine (readDigits_leaves _ _).bind fun read left => ?_
    exact (left.trans (Decimal.signed_suffix rest)).trans (List.suffix_cons c rest)

/-- Nothing is left out where nothing was found. -/
theorem getD_suffix {α : Type} {cs : List Char} {found : Option (α × List Char)}
    (h : Leaves cs found) : (found.map Prod.snd).getD cs <:+ cs := by
  cases found with
  | some read => exact h
  | none => exact List.suffix_rfl

/-- Digits that are too many were spelled in the text. -/
theorem hasLongNumber_of_spelled {cs : List Char} {read : List Nat × List Char}
    (h : Spelled Text.asciiDigit? cs read) (long : Decimal.digitLimit < read.1.length) :
    HasLongNumber cs := by
  have isSome_digit (c : Char) : (Text.asciiDigit? c).isSome = c.isDigit := by
    rw [Text.asciiDigit?]
    cases c.isDigit <;> rfl
  obtain ⟨part, split, digits, count⟩ := h
  simp only [isSome_digit] at digits count
  exact ⟨part, (List.IsPrefix.isInfix ⟨read.2, split⟩), digits, Nat.lt_of_lt_of_le long count⟩

/-- A decimal number is refused for its digits only if they stand in front. -/
theorem readDecimal_tracks (cs : List Char) : Finds (Tracks cs) (readDecimal cs) := by
  have body := Decimal.signed_suffix cs
  rw [readDecimal]
  dsimp only
  have spelled := readWhole_spelled (Decimal.signed cs).2
  split
  · trivial
  · next whole rest read =>
    rw [read] at spelled
    have fraction := getD_suffix (readFraction_leaves rest)
    have exponent := getD_suffix (readExponent_leaves
      (((readFraction rest).map Prod.snd).getD rest))
    have left := (exponent.trans fraction).trans (Spelled.suffix spelled |>.trans body)
    -- With a point or an exponent the number may have any length.
    refine .ite ?_ left
    split
    · next long => exact (hasLongNumber_of_spelled spelled long).mono body.isInfix
    · exact left

theorem readPair_leaves (least most : Nat) (cs : List Char) :
    Leaves cs (readPair least most cs) := by
  have digit (c : Char) : Finds (fun _ => True) (Text.asciiDigit? c) := by
    cases Text.asciiDigit? c <;> trivial
  rw [readPair.eq_def]
  split
  · next a b rest =>
    refine (digit a).bind fun _ _ => (digit b).bind fun _ _ => .ite ?_ trivial
    exact (List.suffix_cons b rest).trans (List.suffix_cons a _)
  · trivial

theorem readMark_leaves (mark : Char) (cs : List Char) :
    Finds (· <:+ cs) (readMark mark cs) := by
  cases cs with
  | nil => trivial
  | cons c rest => exact .ite (List.suffix_cons c rest) trivial

/-- A pair of digits behind a mark is read, and more after it. -/
theorem marked_finds {β : Type} {Q : β → Prop} {mark : Char} {least most : Nat} {cs : List Char}
    {next : Nat × List Char → Option β} (after : ∀ read, read.2 <:+ cs → Finds Q (next read)) :
    Finds Q (readMark mark cs >>= fun rest => readPair least most rest >>= next) :=
  (readMark_leaves mark cs).bind fun rest left =>
    (readPair_leaves least most rest).bind fun read further => after read (further.trans left)

theorem readMicroseconds_suffix (cs : List Char) : (readMicroseconds cs).2 <:+ cs := by
  rw [readMicroseconds.eq_def]
  split
  · next rest =>
    dsimp only
    split
    · exact List.suffix_rfl
    · exact (List.drop_suffix _ rest).trans (List.suffix_cons '.' rest)
  · exact List.suffix_rfl

theorem readTime_leaves (cs : List Char) : Leaves cs (readTime cs) := by
  rw [readTime]
  refine (readPair_leaves _ _ _).bind fun hour left₁ => ?_
  refine marked_finds fun minute left₂ => marked_finds fun second left₃ => ?_
  exact (readMicroseconds_suffix _).trans ((left₃.trans left₂).trans left₁)

theorem readOffset_leaves (cs : List Char) : Leaves cs (readOffset cs) := by
  rw [readOffset.eq_def]
  split
  · exact List.suffix_cons _ _
  · exact List.suffix_cons _ _
  · next sign rest _ _ =>
    refine .ite ((readPair_leaves _ _ _).bind fun hours left₁ => ?_) trivial
    exact marked_finds fun minutes left₂ => (left₂.trans left₁).trans (List.suffix_cons sign rest)
  · trivial

theorem readDay_leaves (cs : List Char) : Leaves cs (readDay cs) := by
  rw [readDay]
  refine (readPair_leaves _ _ _).bind fun century left₁ => ?_
  refine (readPair_leaves _ _ _).bind fun year left₂ => ?_
  refine marked_finds fun month left₃ => marked_finds fun day left₄ => ?_
  exact (left₄.trans left₃).trans (left₂.trans left₁)

theorem readTimeAfterDay_leaves (cs : List Char) : Leaves cs (readTimeAfterDay cs) := by
  cases cs with
  | nil => trivial
  | cons c rest =>
    rw [readTimeAfterDay]
    exact .ite ((readTime_leaves rest).of_suffix (List.suffix_cons c rest)) trivial

theorem readDateTime_tracks (cs : List Char) : Finds (Tracks cs) (readDateTime cs) := by
  rw [readDateTime]
  refine (readDay_leaves cs).bind fun read left => ?_
  obtain ⟨⟨year, month, day⟩, rest⟩ := read
  dsimp only
  split
  · trivial
  · split
    · exact left
    · next time rest' found =>
      have after := ((readTimeAfterDay_leaves rest).of_eq found).trans left
      split
      · exact after
      · next offset rest'' zone => exact ((readOffset_leaves rest').of_eq zone).trans after

theorem readWord_leaves (cs : List Char) : Leaves cs (readWord cs) := by
  rw [readWord]
  split
  · exact List.drop_suffix _ cs
  · trivial

theorem readScalar_tracks (cs : List Char) : Tracks cs (readScalar cs) := by
  rw [readScalar]
  split
  · next r found => exact (readDateTime_tracks cs).of_eq found
  · split
    · next found => exact (readTime_leaves cs).of_eq found
    · split
      · next found => exact (readBased_leaves cs).of_eq found
      · split
        · next found => exact (readDecimal_tracks cs).of_eq found
        · split
          · next found => exact (readWord_leaves cs).of_eq found
          · trivial

theorem readCodePoint_leaves (width : Nat) (cs : List Char) :
    Leaves cs (readCodePoint width cs) := by
  rw [readCodePoint]
  exact .ite (List.drop_suffix width cs) trivial

theorem readEscape_leaves (multiline : Bool) (cs : List Char) :
    Leaves cs (readEscape multiline cs) := by
  rw [readEscape.eq_def]
  split
  · trivial
  · exact (readCodePoint_leaves 4 _).of_suffix (List.suffix_cons _ _)
  · exact (readCodePoint_leaves 8 _).of_suffix (List.suffix_cons _ _)
  · next c rest _ _ =>
    refine .ite ?_ ?_
    · split
      · exact List.nil_suffix
      · next d more blanks =>
        refine .ite ?_ trivial
        have line := List.dropWhile_suffix isSpace (l := c :: rest)
        rw [blanks] at line
        exact ((List.dropWhile_suffix _).trans (List.suffix_cons d more)).trans line
    · cases escape? c with
      | none => trivial
      | some d => exact List.suffix_cons c rest

theorem readEscaped_leaves (multiline : Bool) (acc : List Char) (fuel : Nat) (cs : List Char) :
    Leaves cs (readEscaped multiline acc fuel cs) := by
  fun_induction readEscaped multiline acc fuel cs
  case case3 rest _ => exact List.suffix_cons _ _
  case case4 after _ => exact ⟨['"', '"', '"'], rfl⟩
  case case5 ih => exact ih.of_suffix (List.suffix_cons _ _)
  case case7 escaped ih =>
    have further := (readEscape_leaves _ _).of_eq escaped
    exact ih.of_suffix (further.trans (List.suffix_cons _ _))
  case case9 ih => exact ih.of_suffix (List.suffix_cons _ _)
  all_goals trivial

theorem readLiteral_leaves (cs : List Char) : Leaves cs (readLiteral cs) := by
  have after := span_suffix (· != '\'') cs
  rw [readLiteral]
  split
  · next body rest found =>
    rw [found] at after
    exact .ite trivial ((List.suffix_cons _ rest).trans after)
  · trivial

theorem readLiteralLines_leaves (acc cs : List Char) : Leaves cs (readLiteralLines acc cs) := by
  fun_induction readLiteralLines acc cs
  case case1 => exact ⟨['\'', '\'', '\''], rfl⟩
  case case3 ih => exact ih.of_suffix (List.suffix_cons _ _)
  all_goals trivial

theorem takeQuotes_suffix (quote : Char) (body rest : List Char) :
    (takeQuotes quote body rest).2 <:+ rest :=
  List.drop_suffix _ rest

theorem dropFirstNewline_suffix (cs : List Char) : dropFirstNewline cs <:+ cs := by
  rw [dropFirstNewline.eq_def]
  split
  · exact List.suffix_cons _ _
  · exact List.suffix_rfl

theorem readText_leaves (multiline : Bool) (cs : List Char) :
    Leaves cs (readText multiline cs) := by
  have lines {quote : Char} {more : List Char} {found : Option (List Char × List Char)}
      (h : Leaves (dropFirstNewline more) found) :
      Leaves (quote :: quote :: quote :: more)
        (found.map fun read => takeQuotes quote read.1 read.2) := by
    refine h.map fun read left => ?_
    have further := (takeQuotes_suffix quote read.1 read.2).trans left
    exact (further.trans (dropFirstNewline_suffix more)).trans ⟨[quote, quote, quote], rfl⟩
  rw [readText.eq_def]
  refine Finds.map (P := fun read => read.2 <:+ cs) ?_ fun _ left => left
  split
  · split
    · exact lines (readEscaped_leaves _ _ _ _)
    · exact (readEscaped_leaves _ _ _ _).of_suffix (List.suffix_cons _ _)
  · split
    · exact lines (readLiteralLines_leaves _ _)
    · exact (readLiteral_leaves _).of_suffix (List.suffix_cons _ _)
  · trivial

theorem skipSpace_suffix (cs : List Char) : skipSpace cs <:+ cs :=
  List.dropWhile_suffix isSpace

theorem suffix_of_skipSpace {cs rest : List Char} {c : Char} (found : skipSpace cs = c :: rest) :
    rest <:+ cs := by
  have suffix := skipSpace_suffix cs
  rw [found] at suffix
  exact (List.suffix_cons c rest).trans suffix

theorem skipComment_leaves (cs : List Char) : Finds (· <:+ cs) (skipComment cs) := by
  rw [skipComment.eq_def]
  split
  · next rest =>
    exact .ite trivial ((List.drop_suffix _ rest).trans (List.suffix_cons '#' rest))
  · exact List.suffix_rfl

theorem skipLines_leaves (fuel : Nat) (cs : List Char) :
    Finds (· <:+ cs) (skipLines fuel cs) := by
  induction fuel generalizing cs with
  | zero => exact List.suffix_rfl
  | succ fuel ih =>
    have blanks := List.dropWhile_suffix isSpaceOrNewline (l := cs)
    rw [skipLines]
    split
    · next rest found =>
      rw [found] at blanks
      refine (skipComment_leaves _).bind fun after left => ?_
      exact (ih after).mono fun _ further => (further.trans left).trans blanks
    · exact blanks

theorem readKeyPart_leaves (cs : List Char) : Leaves cs (readKeyPart cs) := by
  have after := span_suffix isKeyChar cs
  rw [readKeyPart]
  split
  · exact readText_leaves false cs
  · next part rest found =>
    rw [found] at after
    exact after

theorem readKey_leaves (fuel : Nat) (cs : List Char) : Leaves cs (readKey fuel cs) := by
  induction fuel generalizing cs with
  | zero => trivial
  | succ fuel ih =>
    rw [readKey]
    refine (readKeyPart_leaves cs).bind fun read left => ?_
    dsimp only
    split
    · next more dot =>
      refine (ih (skipSpace more)).bind fun parts further => ?_
      exact ((further.trans (skipSpace_suffix more)).trans (suffix_of_skipSpace dot)).trans left
    · exact (skipSpace_suffix _).trans left

theorem readAssigned_leaves (cs : List Char) : Leaves cs (readAssigned cs) := by
  rw [readAssigned]
  refine (readKey_leaves _ cs).bind fun read left => ?_
  obtain ⟨key, rest⟩ := read
  dsimp only
  split
  · next rest => exact ((skipSpace_suffix rest).trans (List.suffix_cons '=' rest)).trans left
  · trivial

theorem readPlain_leaves (cs : List Char) : Leaves cs (readPlain cs) := by
  rw [readPlain]
  refine .ite (List.drop_suffix 4 cs) (.ite (List.drop_suffix 5 cs) ?_)
  exact (readText_leaves true cs).map fun _ left => left

theorem lines_yield {β : Type} {P : β → Prop} {cs rest : List Char} {fuel : Nat}
    (left : rest <:+ cs) {next : List Char → Except Fault β}
    (after : ∀ more, more <:+ cs → Yields (Blames cs) P (next more)) :
    Yields (Blames cs) P (require (skipLines fuel rest) >>= next) :=
  (require_yields (skipLines_leaves fuel rest) cs).bind fun more further =>
    after more (further.trans left)

section

-- What the readers do with less fuel.
variable {fuel : Nat} (value : ∀ cs, Tracks cs (readValue fuel cs))
  (items : ∀ acc cs, Tracks cs (readItems fuel acc cs))
  (fields : ∀ es cs, Tracks cs (readFields fuel es cs))

include items fields in
theorem readValue_succ_tracks (cs : List Char) : Tracks cs (readValue (fuel + 1) cs) := by
  rw [readValue.eq_def]
  dsimp only
  split
  · next rest =>
    refine lines_yield (List.suffix_cons '[' rest) fun more left => ?_
    split
    · exact (List.suffix_cons ']' _).trans left
    · exact (items [] more).of_suffix left
  · next rest =>
    split
    · next found => exact (suffix_of_skipSpace found).trans (List.suffix_cons '\x7b' rest)
    · exact (fields [] _).of_suffix ((skipSpace_suffix rest).trans (List.suffix_cons _ rest))
  · split
    · next found => exact (readPlain_leaves cs).of_eq found
    · exact .ite trivial (readScalar_tracks cs)

include value items in
theorem readItems_succ_tracks (acc : List Value) (cs : List Char) :
    Tracks cs (readItems (fuel + 1) acc cs) := by
  rw [readItems.eq_def]
  refine (value cs).bind fun read left => lines_yield left fun more left' => ?_
  split
  · exact (List.suffix_cons ']' _).trans left'
  · next rest =>
    refine lines_yield ((List.suffix_cons ',' rest).trans left') fun more further => ?_
    split
    · exact (List.suffix_cons ']' _).trans further
    · exact (items _ more).of_suffix further
  · trivial

include value fields in
theorem readFields_succ_tracks (es : Entries) (cs : List Char) :
    Tracks cs (readFields (fuel + 1) es cs) := by
  rw [readFields.eq_def]
  refine (require_yields (readAssigned_leaves cs) cs).bind fun key left => ?_
  refine ((value key.2).of_suffix left).bind fun read left' => ?_
  refine (require_yields (P := fun _ => True) ?_ cs).bind fun after _ => ?_
  · cases es.assign 0 read.1 key.1 <;> trivial
  · split
    · next found => exact (suffix_of_skipSpace found).trans left'
    · next more found =>
      have further := (skipSpace_suffix more).trans (suffix_of_skipSpace found)
      exact (fields after _).of_suffix (further.trans left')
    · trivial

end

theorem readers_track (fuel : Nat) :
    (∀ cs, Tracks cs (readValue fuel cs)) ∧ (∀ acc cs, Tracks cs (readItems fuel acc cs)) ∧
      ∀ es cs, Tracks cs (readFields fuel es cs) := by
  -- The readers call each other with less fuel, so they are taken together.
  induction fuel with
  | zero => exact ⟨fun _ => trivial, fun _ _ => trivial, fun _ _ => trivial⟩
  | succ fuel ih =>
    obtain ⟨value, items, fields⟩ := ih
    exact ⟨readValue_succ_tracks items fields, readItems_succ_tracks value items,
      readFields_succ_tracks value fields⟩

/-- Whether the entries can be changed is no matter of numbers. -/
theorem change_yields (cs : List Char) (changed : Option Entries) :
    Yields (Blames cs) (fun _ => True) (require changed) := by
  cases changed <;> trivial

theorem header_yields {cs rest : List Char} (fuel : Nat) (left : rest <:+ cs) :
    Yields (Blames cs) (fun read => read.2 <:+ cs) (require (readKey fuel (skipSpace rest))) :=
  require_yields ((readKey_leaves fuel _).of_suffix ((skipSpace_suffix rest).trans left)) cs

/-- A statement blames its own text. -/
theorem Document.take_tracks (d : Document) (cs : List Char) : Tracks cs (d.take cs) := by
  rw [take.eq_def]
  dsimp only
  split
  · next rest =>
    refine (header_yields _ ⟨['[', '['], rfl⟩).bind fun key left => ?_
    refine (change_yields _ _).bind fun es _ => ?_
    split
    · next after found =>
      rw [found] at left
      exact (List.suffix_cons ']' after).trans ((List.suffix_cons ']' _).trans left)
    · trivial
  · next rest _ =>
    refine (header_yields _ (List.suffix_cons '[' rest)).bind fun key left => ?_
    refine (change_yields _ _).bind fun es _ => ?_
    split
    · next after found =>
      rw [found] at left
      exact (List.suffix_cons ']' after).trans left
    · trivial
  · refine (require_yields (readAssigned_leaves cs) cs).bind fun key left => ?_
    refine (((readers_track _).1 key.2).of_suffix left).bind fun read left' => ?_
    exact (change_yields _ _).bind fun es _ => left'

theorem endLine_yields (cs : List Char) : Yields (Blames cs) (· <:+ cs) (endLine cs) := by
  rw [endLine]
  refine (require_yields (skipComment_leaves _) cs).bind fun rest left => ?_
  split
  · exact List.nil_suffix
  · exact ((List.suffix_cons '\n' _).trans left).trans (skipSpace_suffix cs)
  · trivial

theorem Document.takeAll_blames (d : Document) (fuel : Nat) (cs : List Char) :
    Yields (Blames cs) (fun _ => True) (d.takeAll fuel cs) := by
  -- By induction on the lines; the first that is wrong is blamed.
  induction fuel generalizing d cs with
  | zero => trivial
  | succ fuel ih =>
    have later (d : Document) {rest : List Char} (left : rest <:+ cs) :
        Yields (Blames cs) (fun _ => True) (d.takeAll fuel rest) :=
      (ih d rest).mono (fun _ blamed => blamed.mono left) fun _ => id
    have ended {rest : List Char} (left : rest <:+ cs) :
        Yields (Blames cs) (· <:+ cs) (endLine rest) :=
      (endLine_yields rest).mono (fun _ blamed => blamed.mono left) fun _ more => more.trans left
    have start := skipSpace_suffix cs
    rw [takeAll]
    split
    · trivial
    · next found => exact later d (suffix_of_skipSpace found)
    · next rest found =>
      rw [found] at start
      exact (ended start).bind fun _ left => later d left
    · refine ((d.take_tracks _).of_suffix start).bind fun read left => ?_
      exact (ended left).bind fun _ left' => later read.1 left'

/-- Only a number that is too long is refused as one. -/
theorem readChars_blames (cs : List Char) : Yields (Blames cs) (fun _ => True) (readChars cs) :=
  (Document.takeAll_blames _ _ cs).bind fun _ _ => trivial

end TokenScopes.Toml
