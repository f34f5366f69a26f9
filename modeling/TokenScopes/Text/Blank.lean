import TokenScopes.Text.Basic

namespace TokenScopes.Text

/-- The white space of the Unicode character database, with the four ASCII separators
U+001C to U+001F. -/
def isBlank (c : CodePoint) : Bool :=
  let n := c.toNat
  (9 ≤ n && n ≤ 13) || (28 ≤ n && n ≤ 32) || n == 0x85 || n == 0xA0 || n == 0x1680 ||
    (0x2000 ≤ n && n ≤ 0x200A) || n == 0x2028 || n == 0x2029 || n == 0x202F || n == 0x205F ||
    n == 0x3000

/-- Every code point is blank; so the empty text is. -/
def allBlank (cs : List CodePoint) : Bool :=
  cs.all isBlank

/-- A list without what satisfies a predicate at its two ends. -/
def trimBy {α : Type} (p : α → Bool) (as : List α) : List α :=
  ((as.dropWhile p).reverse.dropWhile p).reverse

def trimChars (cs : List CodePoint) : List CodePoint :=
  trimBy isBlank cs

def trimmed (cs : List Char) : List Char :=
  trimBy (fun c => isBlank c) cs

def trim (s : Text) : Text :=
  ofList (trimChars s.toList)

theorem length_dropWhile_le {α : Type} (p : α → Bool) (cs : List α) :
    (cs.dropWhile p).length ≤ cs.length :=
  (List.dropWhile_sublist p).length_le

/-- The maximal runs of code points that are not blank, in order. -/
def wordsOf : List CodePoint → List (List CodePoint)
  | [] => []
  | c :: cs =>
    if isBlank c then wordsOf cs
    else (c :: cs.takeWhile (fun d => !isBlank d)) :: wordsOf (cs.dropWhile (fun d => !isBlank d))
  termination_by cs => cs.length
  decreasing_by
    · simp
    · have := length_dropWhile_le (fun d => !isBlank d) cs
      simp only [List.length_cons]
      omega

def words (s : Text) : List Text :=
  (wordsOf s.toList).map ofList

end TokenScopes.Text
