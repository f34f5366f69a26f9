import Mathlib.Data.List.TakeWhile
import TokenScopes.Proofs.Text.Front
import TokenScopes.Scope.Name

namespace TokenScopes

namespace Text

/-- A text that is not empty and has no blank. -/
structure IsWord (s : Text) : Prop where
  nonempty : s ≠ ""
  solid : ∀ c ∈ s.toList, isBlank c = false

instance (s : Text) : Decidable (IsWord s) :=
  decidable_of_iff (s ≠ "" ∧ s.toList.all (!isBlank ·) = true)
    ⟨fun ⟨nonempty, solid⟩ => ⟨nonempty, by simpa using solid⟩,
      fun ⟨nonempty, solid⟩ => ⟨nonempty, by simpa using solid⟩⟩

/-- A word with the white space before it, which may be empty. -/
structure SpacedWord where
  space : Text
  word : Text
  blank : allBlank space.toList = true
  isWord : IsWord word

/-- Words that do not run together, with the white space that follows the last of them. -/
structure Spelling where
  row : List SpacedWord
  back : Text
  parted : ∀ w ∈ row.tail, w.space ≠ ""
  blank : allBlank back.toList = true

def spell (back : Text) : List SpacedWord → Text
  | [] => back
  | w :: rest => w.space ++ w.word ++ spell back rest

def Spelling.text (p : Spelling) : Text :=
  spell p.back p.row

def Spelling.words (p : Spelling) : List Text :=
  p.row.map (·.word)

def StartsBlank (cs : List CodePoint) : Prop :=
  ∀ c ∈ cs.head?, isBlank c = true

theorem IsWord.exists_cons {s : Text} (h : IsWord s) :
    ∃ c cs, s.toList = c :: cs ∧ isBlank c = false ∧ ∀ d ∈ cs, isBlank d = false := by
  cases chars : s.toList with
  | nil => exact absurd (Text.toList_eq_nil_iff.mp chars) h.nonempty
  | cons c cs =>
    have solid := h.solid
    rw [chars, List.forall_mem_cons] at solid
    exact ⟨c, cs, rfl, solid⟩

theorem startsBlank_of_allBlank {cs : List CodePoint} (blank : allBlank cs = true) : StartsBlank cs :=
  fun c first => List.all_eq_true.mp blank c (List.mem_of_mem_head? first)

theorem SpacedWord.startsBlank_iff (w : SpacedWord) (rest : Text) :
    StartsBlank (w.space ++ w.word ++ rest).toList ↔ w.space ≠ "" := by
  rw [Text.toList_append, Text.toList_append, ne_eq, ← Text.toList_eq_nil_iff]
  have blank := w.blank
  cases chars : w.space.toList with
  | nil =>
    obtain ⟨d, ds, word, solid, -⟩ := w.isWord.exists_cons
    rw [word]
    simp [StartsBlank, solid]
  | cons c cs =>
    rw [chars, allBlank, List.all_cons, Bool.and_eq_true] at blank
    simp [StartsBlank, blank.1]

/-- A spelling starts with no word when all its words have white space before them. -/
theorem Spelling.startsBlank_iff (p : Spelling) :
    StartsBlank p.text.toList ↔ ∀ w ∈ p.row, w.space ≠ "" := by
  obtain ⟨row, back, parted, blank⟩ := p
  cases row with
  | nil => exact iff_of_true (startsBlank_of_allBlank blank) (by simp)
  | cons w rest =>
    have first : StartsBlank (spell back (w :: rest)).toList ↔ w.space ≠ "" :=
      w.startsBlank_iff _
    rw [Spelling.text, first, List.forall_mem_cons]
    exact (and_iff_left parted).symm

theorem startsBlank_dropWhile (cs : List CodePoint) :
    StartsBlank (cs.dropWhile fun d => !isBlank d) := by
  intro c first
  have stopped := List.head?_dropWhile_not (fun d => !isBlank d) cs
  rw [Option.mem_def.mp first] at stopped
  simpa using stopped

theorem wordsOf_nil : wordsOf [] = [] := by
  rw [wordsOf.eq_def]

theorem wordsOf_cons (c : CodePoint) (cs : List CodePoint) : wordsOf (c :: cs) =
    if isBlank c then wordsOf cs
    else (c :: cs.takeWhile (fun d => !isBlank d)) ::
      wordsOf (cs.dropWhile (fun d => !isBlank d)) := by
  rw [wordsOf.eq_def]

/-- White space in front makes no difference. -/
theorem wordsOf_blank_append {front : List CodePoint} (blank : allBlank front = true)
    (cs : List CodePoint) : wordsOf (front ++ cs) = wordsOf cs := by
  induction front with
  | nil => rfl
  | cons c front ih =>
    rw [allBlank, List.all_cons, Bool.and_eq_true] at blank
    rw [List.cons_append, wordsOf_cons, if_pos blank.1, ih blank.2]

theorem wordsOf_eq_nil {cs : List CodePoint} (blank : allBlank cs = true) : wordsOf cs = [] := by
  have all := wordsOf_blank_append blank []
  rwa [List.append_nil, wordsOf_nil] at all

/-- A word ends where the text does or a blank follows. -/
theorem wordsOf_word_append {s : Text} (word : IsWord s) {rest : List CodePoint}
    (stops : StartsBlank rest) : wordsOf (s.toList ++ rest) = s.toList :: wordsOf rest := by
  obtain ⟨c, cs, chars, first, later⟩ := word.exists_cons
  have inside : ∀ d ∈ cs, (!isBlank d) = true := fun d member => by simp [later d member]
  obtain ⟨taken, left⟩ := cut_append inside fun d head => by simp [stops d head]
  rw [chars, List.cons_append, wordsOf_cons, if_neg (by simp [first]), taken, left]

theorem Spelling.wordsOf_text (p : Spelling) :
    wordsOf p.text.toList = p.words.map Text.toList := by
  obtain ⟨row, back, parted, blank⟩ := p
  -- By induction on the words of a spelling; each of them is read up to the space of the next.
  induction row with
  | nil => exact wordsOf_eq_nil blank
  | cons w rest ih =>
    -- What follows the first word is a spelling too. It starts blank, so the word ends there.
    let later : Spelling :=
      ⟨rest, back, fun v member => parted v (List.mem_of_mem_tail member), blank⟩
    have stops : StartsBlank later.text.toList := later.startsBlank_iff.mpr parted
    have read : wordsOf later.text.toList = later.words.map Text.toList := ih later.parted
    change wordsOf (w.space ++ w.word ++ later.text).toList =
      w.word.toList :: later.words.map Text.toList
    rw [Text.toList_append, Text.toList_append, List.append_assoc,
      wordsOf_blank_append w.blank, wordsOf_word_append w.isWord stops, read]

theorem Spelling.words_text (p : Spelling) : Text.words p.text = p.words := by
  have same : Text.ofList ∘ Text.toList = id := funext Text.ofList_toList
  rw [Text.words, wordsOf_text, List.map_map, same, List.map_id]

/-- A text behind white space is a spelling. -/
theorem exists_spelling_append (cs : List CodePoint) {front : List CodePoint}
    (blank : allBlank front = true) : ∃ p : Spelling, p.text.toList = front ++ cs := by
  -- Blanks are gathered in front until a word takes them as its space.
  fun_induction wordsOf cs generalizing front with
  | case1 =>
    refine ⟨⟨[], Text.ofList front, by simp, by rwa [Text.toList_ofList]⟩, ?_⟩
    rw [List.append_nil]
    exact Text.toList_ofList _
  | case2 c cs space ih =>
    have longer : allBlank (front ++ [c]) = true := by
      rw [allBlank] at blank
      simp [allBlank, blank, space]
    obtain ⟨p, text⟩ := ih longer
    exact ⟨p, by rw [text, List.append_assoc, List.singleton_append]⟩
  | case3 c cs solid ih =>
    obtain ⟨p, text⟩ := ih (rfl : allBlank [] = true)
    have gaps : ∀ w ∈ p.row, w.space ≠ "" := by
      rw [← p.startsBlank_iff, text]
      exact startsBlank_dropWhile cs
    have word : IsWord (Text.ofList (c :: cs.takeWhile fun d => !isBlank d)) := by
      refine ⟨fun none => List.cons_ne_nil _ _ (congrArg Text.toList none), ?_⟩
      rw [Text.toList_ofList, List.forall_mem_cons]
      exact ⟨by simpa using solid, fun d member => by simpa using List.mem_takeWhile_imp member⟩
    let first : SpacedWord := ⟨Text.ofList front, _, by rwa [Text.toList_ofList], word⟩
    refine ⟨⟨first :: p.row, p.back, gaps, p.blank⟩, ?_⟩
    change (first.space ++ first.word ++ p.text).toList = _
    rw [Text.toList_append, Text.toList_append, text]
    simp [first, List.takeWhile_append_dropWhile]

/-- Every text is spelled somehow. -/
theorem exists_spelling (s : Text) : ∃ p : Spelling, p.text = s := by
  obtain ⟨p, text⟩ := exists_spelling_append s.toList (rfl : allBlank [] = true)
  exact ⟨p, Text.toList_inj.mp text⟩

/-- The words of a text are those it is spelled from. -/
theorem words_eq_iff {s : Text} {ws : List Text} :
    words s = ws ↔ ∃ p : Spelling, p.text = s ∧ p.words = ws := by
  constructor
  · rintro rfl
    obtain ⟨p, rfl⟩ := exists_spelling s
    exact ⟨p, rfl, p.words_text.symm⟩
  · rintro ⟨p, rfl, rfl⟩
    exact p.words_text

end Text

namespace Scope

open Text (Spelling IsWord allBlank words_eq_iff)

/-- A tag string is read as its tags but the first, whatever white space stands between and around
them. One of white space alone has no tags, and no tag that is read is empty or has a blank. -/
theorem ofTagString_spelling :
    (∀ p : Spelling, ofTagString p.text = p.words.tail) ∧
      (∀ s, allBlank s.toList = true → ofTagString s = []) ∧
      ∀ s, ∀ tag ∈ ofTagString s, IsWord tag := by
  refine ⟨fun p => ?_, fun s blank => ?_, fun s tag member => ?_⟩
  · rw [ofTagString, words_eq_iff.mpr ⟨p, rfl, rfl⟩, List.drop_one]
  · have none : Text.words s = [] := words_eq_iff.mpr ⟨⟨[], s, by simp, blank⟩, rfl, rfl⟩
    rw [ofTagString, none, List.drop_nil]
  · obtain ⟨p, -, words⟩ := words_eq_iff.mp (rfl : Text.words s = _)
    rw [ofTagString, ← words] at member
    obtain ⟨w, -, rfl⟩ := List.mem_map.mp (List.mem_of_mem_drop member)
    exact w.isWord

def raggedTags : Spelling where
  row := [⟨"\t ", "source", by decide, by decide⟩, ⟨"\u3000", "meta.block", by decide, by decide⟩,
    ⟨" \u2003\n", "keyword", by decide, by decide⟩]
  back := "\u001c"
  parted := by decide
  blank := by decide

/-- A root marker and two tags, spaced by a tab, a wide blank, a run of blanks and a separator. -/
theorem raggedTags_read :
    raggedTags.text = "\t source\u3000meta.block \u2003\nkeyword\u001c" ∧
      ofTagString raggedTags.text = (["meta.block", "keyword"] : List Text) ∧
      allBlank (" \u2029" : Text).toList = true ∧ ofTagString " \u2029" = [] ∧
      ("keyword" : Text) ∈ ofTagString raggedTags.text ∧ IsWord "keyword" := by
  have read : ofTagString raggedTags.text = (["meta.block", "keyword"] : List Text) :=
    ofTagString_spelling.1 raggedTags
  have blank : allBlank (" \u2029" : Text).toList = true := by decide
  have member : ("keyword" : Text) ∈ ofTagString raggedTags.text := by simp [read]
  exact ⟨by decide, read, blank, ofTagString_spelling.2.1 _ blank, member,
    ofTagString_spelling.2.2 _ _ member⟩

end Scope
end TokenScopes
