import TokenScopes.Text.Blank

namespace TokenScopes.Text

def isParameter : CodePoint → Bool
  | .char c => c.isDigit || c == ';' || c == '?'
  | .half _ => false

/-- What follows a terminal control sequence in front, if there is one: an escape, a bracket,
parameters and a letter. -/
def afterSequence? : List CodePoint → Option (List CodePoint)
  | .char '\x1b' :: .char '[' :: rest =>
    match rest.dropWhile isParameter with
    | .char c :: after => if c.isAlpha then some after else none
    | _ => none
  | _ => none

theorem length_afterSequence? {cs after : List CodePoint} (h : afterSequence? cs = some after) :
    after.length < cs.length := by
  unfold afterSequence? at h
  split at h
  · next rest =>
    split at h
    · next c more hc =>
      split at h
      · have := length_dropWhile_le isParameter rest
        simp only [Option.some.injEq] at h
        subst h
        rw [hc] at this
        simp only [List.length_cons] at this ⊢
        omega
      · cases h
    · cases h
  · cases h

/-- A text without its control sequences, which are no part of one that is not written to a
terminal. -/
def dropSequences (cs : List CodePoint) : List CodePoint :=
  match _h : afterSequence? cs with
  | some after => dropSequences after
  | none =>
    match cs with
    | [] => []
    | c :: rest => c :: dropSequences rest
  termination_by cs.length
  decreasing_by
    · exact length_afterSequence? (by assumption)
    · simp

end TokenScopes.Text
