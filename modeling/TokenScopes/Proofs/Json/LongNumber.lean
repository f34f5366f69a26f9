import TokenScopes.Json.Reader
import TokenScopes.Proofs.Outcome
import TokenScopes.Proofs.Text.Front

namespace TokenScopes.Json

/-- More digits in a row than a number may have. -/
def HasLongRun (cs : List Char) : Prop :=
  ∃ ds, ds <:+: cs ∧ (∀ d ∈ ds, d.isDigit = true) ∧ Decimal.digitLimit < ds.length

theorem HasLongRun.mono {cs ds : List Char} (h : HasLongRun cs) (within : cs <:+: ds) :
    HasLongRun ds := by
  obtain ⟨run, part, digits, long⟩ := h
  exact ⟨run, part.trans within, digits, long⟩

/-- What a fault tells of the text. -/
def Blames (cs : List Char) : Fault → Prop
  | .malformed _ _ => True
  | .numberTooLong _ => HasLongRun cs

/-- A reader leaves an end of the text it is given, and it finds a number too long only in a text
with a long run. -/
abbrev Tracks {α : Type} (cs : List Char) (r : Except Fault (α × List Char)) : Prop :=
  Yields (Blames cs) (fun read => read.2 <:+ cs) r

theorem Tracks.of_suffix {α : Type} {cs rest : List Char} {r : Except Fault (α × List Char)}
    (h : Tracks rest r) (left : rest <:+ cs) : Tracks cs r := by
  refine h.mono (fun f blamed => ?_) fun _ further => further.trans left
  cases f with
  | malformed => trivial
  | numberTooLong => exact blamed.mono left.isInfix

theorem problem_tracks {α : Type} (cs : List Char) (p : Problem) (rest : List Char) :
    Tracks cs (problem p rest : Except Fault (α × List Char)) :=
  trivial

theorem skipSpace_suffix (cs : List Char) : skipSpace cs <:+ cs :=
  List.dropWhile_suffix isSpace

theorem suffix_of_skipSpace {cs rest : List Char} {c : Char} (found : skipSpace cs = c :: rest) :
    rest <:+ cs := by
  have suffix := skipSpace_suffix cs
  rw [found] at suffix
  exact (List.suffix_cons c rest).trans suffix

theorem readText_tracks (opened : Nat) (acc : List CodePoint) (cs : List Char) :
    Tracks cs (readText opened acc cs) := by
  fun_induction readText opened acc cs
  case case2 => exact List.suffix_cons _ _
  case case6 ih =>
    -- The escape has six characters.
    exact ih.of_suffix ⟨_ :: _ :: _ :: _ :: _ :: [_], rfl⟩
  case case9 ih => exact ih.of_suffix ⟨_ :: [_], rfl⟩
  case case11 ih => exact ih.of_suffix (List.suffix_cons _ _)
  all_goals trivial

/-- A number begins with the digits before its point. -/
theorem readWhole_append (cs : List Char) :
    (readWhole cs).1 ++ (readWhole cs).2 = cs ∧ ∀ d ∈ (readWhole cs).1, d.isDigit = true := by
  fun_cases readWhole cs with
  | case1 =>
    refine ⟨rfl, fun d member => ?_⟩
    rw [List.mem_singleton] at member
    rw [member]
    rfl
  | case2 =>
    rw [List.span_eq_takeWhile_dropWhile]
    exact ⟨List.takeWhile_append_dropWhile, fun d member => List.mem_takeWhile_imp member⟩

theorem readFraction_suffix (cs : List Char) : (readFraction cs).2 <:+ cs := by
  fun_cases readFraction cs with
  | case1 rest => exact List.suffix_rfl
  | case2 rest => exact (span_suffix _ rest).trans (List.suffix_cons _ _)
  | case3 => exact List.suffix_rfl

theorem readExponent_suffix (cs : List Char) : (readExponent cs).2 <:+ cs := by
  fun_cases readExponent cs with
  | case1 => exact List.suffix_rfl
  | case2 c rest _ negative body sign ds left _ found =>
    have after := span_suffix Char.isDigit body
    have unsigned := Decimal.signed_suffix rest
    rw [found] at after
    rw [sign] at unsigned
    exact (after.trans unsigned).trans (List.suffix_cons _ _)
  | case3 => exact List.suffix_rfl
  | case4 => exact List.suffix_rfl

theorem unsigned_suffix {start body : List Char} {negative : Bool}
    (sign : (match start with
      | '-' :: rest => (true, rest)
      | cs => (false, cs)) = (negative, body)) : body <:+ start := by
  split at sign
  · cases sign
    exact List.suffix_cons _ _
  · cases sign
    exact List.suffix_rfl

theorem number_suffix (body : List Char) :
    (readExponent (readFraction (readWhole body).2).2).2 <:+ body := by
  have whole : (readWhole body).2 <:+ body := ⟨_, (readWhole_append body).1⟩
  exact ((readExponent_suffix _).trans (readFraction_suffix _)).trans whole

/-- A number that is refused stands in front with all its digits. -/
theorem readNumber_tracks (start : List Char) : Tracks start (readNumber start) := by
  fun_cases readNumber start with
  | case1 => exact problem_tracks _ _ _
  | case2 negative body sign whole rest split _ _ _ _ _ _ _ _ _ long =>
    have parts := readWhole_append body
    rw [split] at parts
    refine ⟨whole, ?_, parts.2, Nat.lt_of_lt_of_le long (List.length_filterMap_le _ _)⟩
    exact (List.IsPrefix.isInfix ⟨rest, parts.1⟩).trans (unsigned_suffix sign).isInfix
  | case3 negative body sign whole rest split _ fraction rest' point exponent left power =>
    have suffix := number_suffix body
    rw [split, point, power] at suffix
    exact suffix.trans (unsigned_suffix sign)
  | case4 negative body sign whole rest split _ fraction rest' point exponent left power =>
    have suffix := number_suffix body
    rw [split, point, power] at suffix
    exact suffix.trans (unsigned_suffix sign)

theorem readScalar_tracks (cs : List Char) : Tracks cs (readScalar cs) := by
  fun_cases readScalar cs with
  | case1 => exact List.drop_suffix _ _
  | case2 => exact readNumber_tracks cs

section

-- What the readers do with less fuel.
variable {fuel : Nat} (value : ∀ cs, Tracks cs (readValue fuel cs))
  (items : ∀ acc cs, Tracks cs (readItems fuel acc cs))
  (members : ∀ acc cs, Tracks cs (readMembers fuel acc cs))

include items members in
theorem readValue_succ_tracks (cs : List Char) : Tracks cs (readValue (fuel + 1) cs) := by
  rw [readValue.eq_def]
  simp only
  split
  · next rest =>
    have text := readText_tracks ('"' :: rest).length [] rest
    exact (text.of_suffix (List.suffix_cons _ _)).bind fun _ suffix => suffix
  · next rest =>
    split
    · next found => exact (suffix_of_skipSpace found).trans (List.suffix_cons _ _)
    · exact (members [] _).of_suffix ((skipSpace_suffix rest).trans (List.suffix_cons _ _))
  · next rest =>
    split
    · next found => exact (suffix_of_skipSpace found).trans (List.suffix_cons _ _)
    · exact (items [] _).of_suffix ((skipSpace_suffix rest).trans (List.suffix_cons _ _))
  · exact readScalar_tracks cs

include value items in
theorem readItems_succ_tracks (acc : List Value) (cs : List Char) :
    Tracks cs (readItems (fuel + 1) acc cs) := by
  rw [readItems.eq_def]
  refine (value cs).bind fun read left => ?_
  dsimp only
  split
  · next found => exact (suffix_of_skipSpace found).trans left
  · next more found =>
    have further := (skipSpace_suffix more).trans (suffix_of_skipSpace found)
    exact (items _ _).of_suffix (further.trans left)
  · exact problem_tracks _ _ _

include value members in
theorem readMembers_succ_tracks (acc : List (Value × Value)) (cs : List Char) :
    Tracks cs (readMembers (fuel + 1) acc cs) := by
  rw [readMembers.eq_def]
  dsimp only
  split
  · next rest =>
    have text := readText_tracks ('"' :: rest).length [] rest
    refine (text.of_suffix (List.suffix_cons _ _)).bind fun key suffix => ?_
    split
    · next colon found =>
      have ahead := (skipSpace_suffix colon).trans ((suffix_of_skipSpace found).trans suffix)
      refine ((value _).of_suffix ahead).bind fun read left => ?_
      split
      · next found => exact (suffix_of_skipSpace found).trans left
      · next more found =>
        have further := (skipSpace_suffix more).trans (suffix_of_skipSpace found)
        exact (members _ _).of_suffix (further.trans left)
      · exact problem_tracks _ _ _
    · exact problem_tracks _ _ _
  · exact problem_tracks _ _ _

end

theorem readers_track (fuel : Nat) :
    (∀ cs, Tracks cs (readValue fuel cs)) ∧ (∀ acc cs, Tracks cs (readItems fuel acc cs)) ∧
      ∀ acc cs, Tracks cs (readMembers fuel acc cs) := by
  -- The readers call each other with less fuel, so they are taken together.
  induction fuel with
  | zero =>
    exact ⟨fun cs => problem_tracks cs _ cs, fun _ cs => problem_tracks cs _ cs,
      fun _ cs => problem_tracks cs _ cs⟩
  | succ fuel ih =>
    obtain ⟨value, items, members⟩ := ih
    exact ⟨readValue_succ_tracks items members, readItems_succ_tracks value items,
      readMembers_succ_tracks value members⟩

theorem readChars_blames (cs : List Char) : Yields (Blames cs) (fun _ => True) (readChars cs) := by
  have value := (readers_track (2 * cs.length + 2)).1 (skipSpace cs)
  rw [readChars]
  refine .ite trivial ((value.of_suffix (skipSpace_suffix cs)).bind fun read _ => ?_)
  dsimp only
  split <;> trivial

end TokenScopes.Json
