import Mathlib.Data.List.Infix
import TokenScopes.Proofs.Scope.Stack

namespace TokenScopes

/-- One change of the stack. A pop names the scope it means to take off. -/
inductive StackMove where
  | push (name : Text)
  | pop (name : Text)

inductive StackCall where
  | opens (names : List Text)
  | closes (names : List Text)

/-- The single changes of a call: scopes are opened in order and closed from the last one on. -/
def StackCall.moves : StackCall → List StackMove
  | .opens names => names.map .push
  | .closes names => names.reverse.map .pop

def StackCall.word (calls : List StackCall) : List StackMove :=
  calls.flatMap moves

/-- Words in which every pop names the most recent push without one, and no push is left over. -/
inductive Balanced : List StackMove → Prop
  | nil : Balanced []
  | bracket (name : Text) {inner rest : List StackMove} (within : Balanced inner)
    (after : Balanced rest) : Balanced (.push name :: (inner ++ .pop name :: rest))

/-- Words that pop pending scopes in turn, with balanced words before, between and behind. -/
inductive Unwinds : List Text → List StackMove → Prop
  | done {word : List StackMove} (balanced : Balanced word) : Unwinds [] word
  | pop (name : Text) {pending : List Text} {front rest : List StackMove}
    (balanced : Balanced front) (later : Unwinds pending rest) :
    Unwinds (name :: pending) (front ++ .pop name :: rest)

namespace Unwinds

/-- A balanced word between a push and its pop may stand in front. -/
theorem bracket (name : Text) {pending : List Text} {inner rest : List StackMove}
    (within : Balanced inner) (after : Unwinds pending rest) :
    Unwinds pending (.push name :: (inner ++ .pop name :: rest)) := by
  cases after with
  | done balanced => exact .done (.bracket name within balanced)
  | @pop other pending front rest balanced later =>
    have joined := Unwinds.pop other (.bracket name within balanced) later
    rw [List.cons_append, List.append_assoc] at joined
    exact joined

theorem of_push {name : Text} {pending : List Text} {rest : List StackMove}
    (h : Unwinds (name :: pending) rest) : Unwinds pending (.push name :: rest) := by
  cases h with
  | pop _ balanced later => exact later.bracket name balanced

theorem of_pop {name : Text} {pending : List Text} {rest : List StackMove}
    (h : Unwinds pending rest) : Unwinds (name :: pending) (.pop name :: rest) :=
  .pop name .nil h

/-- Without pending scopes only balanced words unwind. -/
theorem balanced {word : List StackMove} (h : Unwinds [] word) : Balanced word := by
  cases h with
  | done balanced => exact balanced

end Unwinds

namespace ScopeStack

section Steps

variable {α : Type} (step : ScopeStack → α → ScopeStack × List CloseMismatch)

/-- Takes steps one after the other; what they report is kept in order. -/
def steps (s : ScopeStack) : List α → ScopeStack × List CloseMismatch
  | [] => (s, [])
  | a :: rest =>
    ((steps (step s a).1 rest).1, (step s a).2 ++ (steps (step s a).1 rest).2)

theorem steps_append (s : ScopeStack) (before after : List α) :
    s.steps step (before ++ after) =
      (((s.steps step before).1.steps step after).1,
        (s.steps step before).2 ++ ((s.steps step before).1.steps step after).2) := by
  induction before generalizing s with
  | nil => rfl
  | cons a rest ih => simp only [List.cons_append, steps, ih, List.append_assoc]

end Steps

def move (s : ScopeStack) : StackMove → ScopeStack × List CloseMismatch
  | .push name => (s.push name, [])
  | .pop name => (s.pop, (s.mismatch? name).toList)

def call (s : ScopeStack) : StackCall → ScopeStack × List CloseMismatch
  | .opens names => (s.opened names, [])
  | .closes names => s.close names

/-- Makes the changes of a word. -/
def follow (s : ScopeStack) (word : List StackMove) : ScopeStack × List CloseMismatch :=
  s.steps move word

def callAll (s : ScopeStack) (calls : List StackCall) : ScopeStack × List CloseMismatch :=
  s.steps call calls

variable (s : ScopeStack)

@[simp] theorem follow_nil : s.follow [] = (s, []) := rfl

@[simp] theorem follow_push (name : Text) (word : List StackMove) :
    s.follow (.push name :: word) = (s.push name).follow word := rfl

@[simp] theorem follow_pop (name : Text) (word : List StackMove) :
    s.follow (.pop name :: word) =
      ((s.pop.follow word).1, (s.mismatch? name).toList ++ (s.pop.follow word).2) := rfl

theorem follow_append (before after : List StackMove) :
    s.follow (before ++ after) =
      (((s.follow before).1.follow after).1,
        (s.follow before).2 ++ ((s.follow before).1.follow after).2) :=
  steps_append move s before after

theorem follow_pushes (names : List Text) :
    s.follow (names.map .push) = (s.opened names, []) := by
  induction names generalizing s with
  | nil => rfl
  | cons name rest ih => exact ih (s.push name)

theorem follow_pops (names : List Text) : s.follow (names.map .pop) = s.closeEach names := by
  induction names generalizing s with
  | nil => rfl
  | cons name rest ih => rw [List.map_cons, follow_pop, ih, closeEach]

/-- A call makes its single changes. -/
theorem follow_moves (call : StackCall) : s.follow call.moves = s.call call := by
  cases call with
  | opens names => exact s.follow_pushes names
  | closes names => exact s.follow_pops names.reverse

/-- A sequence of calls makes the changes of its word. -/
theorem follow_word (calls : List StackCall) :
    s.follow (StackCall.word calls) = s.callAll calls := by
  induction calls generalizing s with
  | nil => rfl
  | cons call rest ih =>
    have first := s.follow_moves call
    rw [StackCall.word] at ih ⊢
    rw [List.flatMap_cons, follow_append, first, ih]
    rfl

@[simp] theorem pop_push (name : Text) : (s.push name).pop = s := rfl

theorem mismatch?_eq_none_iff (name : Text) :
    s.mismatch? name = none ↔ s.fromTop.head? = some name := by
  rw [mismatch?, top?]
  split_ifs with top <;> simp [top]

@[simp] theorem mismatch?_push (name : Text) : (s.push name).mismatch? name = none :=
  (mismatch?_eq_none_iff _ name).mpr rfl

end ScopeStack

namespace Balanced

variable {word : List StackMove}

theorem follow (h : Balanced word) (s : ScopeStack) : s.follow word = (s, []) := by
  -- By induction on the word: it leaves the stack as it was, and silently.
  induction h generalizing s with
  | nil => rfl
  | bracket name _ _ within after =>
    simp [ScopeStack.follow_append, within (s.push name), after s]

/-- No part of a balanced word reaches below the stack it starts on. -/
theorem keeps (h : Balanced word) (s : ScopeStack) {part : List StackMove}
    (initial : part <+: word) : s.path <+: (s.follow part).1.path := by
  induction h generalizing s part with
  | nil =>
    rw [List.prefix_nil.mp initial]
    exact List.prefix_rfl
  | @bracket name inner rest balanced _ within after =>
    have above : s.path <+: (s.push name).path := by
      rw [ScopeStack.path_push]
      exact List.prefix_append _ _
    rcases List.prefix_cons_iff.mp initial with rfl | ⟨part, rfl, shorter⟩
    · exact List.prefix_rfl
    -- The part ends within the bracket, or it goes on behind the inner word.
    rcases List.prefix_or_prefix_of_prefix shorter (List.prefix_append inner _) with
      inside | ⟨part, rfl⟩
    · exact above.trans (within (s.push name) inside)
    · have behind := (List.prefix_append_right_inj inner).mp shorter
      rw [ScopeStack.follow_push, ScopeStack.follow_append, balanced.follow]
      rcases List.prefix_cons_iff.mp behind with rfl | ⟨part, rfl, shortest⟩
      · exact above
      · exact after s shortest

end Balanced

/-- The scopes pushed by a word and not popped yet stand above those it started on. While nothing is
reported each pop takes the first of them, and the word ends when they are used up. -/
theorem ScopeStack.unwinds_of_silent (pending base : List Text) (word : List StackMove)
    (silent : (follow ⟨pending ++ base⟩ word).2 = [])
    (deep : ∀ part, part <+: word →
      base.length ≤ (follow ⟨pending ++ base⟩ part).1.fromTop.length)
    (ends : (follow ⟨pending ++ base⟩ word).1.fromTop.length = base.length) :
    Unwinds pending word := by
  induction word generalizing pending with
  | nil =>
    have nothing : pending = [] := by simpa using ends
    rw [nothing]
    exact .done .nil
  | cons first rest ih =>
    have later (part : List StackMove) (initial : part <+: rest) :=
      deep (first :: part) (List.cons_prefix_cons.mpr ⟨rfl, initial⟩)
    cases first with
    | push name => exact .of_push (ih (name :: pending) silent later ends)
    | pop name =>
      rw [follow_pop, List.append_eq_nil_iff, Option.toList_eq_nil_iff,
        mismatch?_eq_none_iff] at silent
      obtain ⟨top, silent⟩ := silent
      cases pending with
      | nil =>
        -- The pop would take an entry that the word started on.
        have short := later [] List.nil_prefix
        obtain ⟨below, rfl⟩ := List.head?_eq_some_iff.mp top
        exact absurd short (by simp [pop])
      | cons pushed pending =>
        obtain rfl : pushed = name := by simpa using top
        exact .of_pop (ih pending silent later ends)

namespace ScopeStack

/-- Calls make the single changes of their word. If it is balanced they leave a stack as it was,
report nothing and touch nothing that was there. If they report nothing, never reach below the depth
they start at and end there, it is balanced. -/
theorem callAll_lifo (s : ScopeStack) (calls : List StackCall) :
    s.callAll calls = s.follow (StackCall.word calls) ∧
      (Balanced (StackCall.word calls) →
        s.callAll calls = (s, []) ∧
          ∀ part, part <+: StackCall.word calls → s.path <+: (s.follow part).1.path) ∧
      ((s.callAll calls).2 = [] →
        (∀ part, part <+: StackCall.word calls →
          s.path.length ≤ (s.follow part).1.path.length) →
        (s.callAll calls).1.path.length = s.path.length →
        Balanced (StackCall.word calls)) := by
  refine ⟨(s.follow_word calls).symm, fun balanced => ?_, ?_⟩
  · refine ⟨?_, fun part initial => balanced.keeps s initial⟩
    rw [← follow_word, balanced.follow]
  · intro silent deep ends
    rw [← follow_word] at silent ends
    simp only [path, List.length_reverse] at deep ends
    exact (unwinds_of_silent [] s.fromTop _ silent deep ends).balanced

def nestedCalls : List StackCall :=
  [.opens ["block", "parens"], .closes ["parens"], .opens ["string"], .closes ["block", "string"]]

/-- A block with parentheses and a string; what opens together is closed apart. -/
theorem nestedCalls_lifo :
    Balanced (StackCall.word nestedCalls) ∧
      (ofRoot "source").callAll nestedCalls = (ofRoot "source", []) := by
  have deep : ∀ part ∈ (StackCall.word nestedCalls).inits,
      (ofRoot "source").path.length ≤ ((ofRoot "source").follow part).1.path.length := by decide
  obtain ⟨-, leaves, balances⟩ := callAll_lifo (ofRoot "source") nestedCalls
  have balanced : Balanced (StackCall.word nestedCalls) :=
    balances rfl (fun part initial => deep part ((List.mem_inits _ _).mpr initial)) rfl
  exact ⟨balanced, (leaves balanced).1⟩

end ScopeStack

end TokenScopes
