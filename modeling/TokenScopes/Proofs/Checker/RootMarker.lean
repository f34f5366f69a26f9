import TokenScopes.Proofs.Checker.Recording

namespace TokenScopes

/-- Paths that differ by copies of the root marker. -/
inductive RootEdit (root : Text) : List Text → List Text → Prop
  | nil : RootEdit root [] []
  | keep (name : Text) {ns ms : List Text} (rest : RootEdit root ns ms) :
    RootEdit root (name :: ns) (name :: ms)
  | insert {ns ms : List Text} (rest : RootEdit root ns ms) : RootEdit root ns (root :: ms)
  | delete {ns ms : List Text} (rest : RootEdit root ns ms) : RootEdit root (root :: ns) ms

/-- Tokens at one place whose scopes differ by copies of the root marker. -/
structure Token.RootEdited (root : Text) (t u : Token) : Prop where
  start : u.start = t.start
  stop : u.stop = t.stop
  scopes : RootEdit root t.scopes u.scopes

namespace Config

/-- The root marker has no decoration, so it is still there when root markers are dropped. -/
def HasPlainRoot (config : Config) : Prop :=
  Scope.stripDecoration config.suffixes config.rootScope = config.rootScope

variable {config : Config}

theorem compared_cons (name : Text) (path : List Text) :
    config.compared (name :: path) =
      if Scope.stripDecoration config.suffixes name = config.rootScope then config.compared path
      else Scope.stripDecoration config.suffixes name :: config.compared path := by
  simp only [compared, Scope.withoutRoot, Scope.stripDecorations, List.map_cons, List.filter_cons,
    bne_iff_ne, ne_eq, ite_not]

/-- A root marker without decoration is dropped. -/
theorem compared_root_cons (plain : config.HasPlainRoot) (path : List Text) :
    config.compared (config.rootScope :: path) = config.compared path := by
  rw [HasPlainRoot] at plain
  rw [compared_cons, if_pos plain]

/-- A decorated root marker leaves a name behind. -/
theorem length_compared_root_cons (decorated : ¬config.HasPlainRoot) (path : List Text) :
    (config.compared (config.rootScope :: path)).length = (config.compared path).length + 1 := by
  rw [HasPlainRoot] at decorated
  rw [compared_cons, if_neg decorated, List.length_cons]

theorem compared_congr (plain : config.HasPlainRoot) {path edited : List Text}
    (edit : RootEdit config.rootScope path edited) :
    config.compared path = config.compared edited := by
  -- By induction on the edit: each copy of a plain root marker is dropped.
  induction edit with
  | nil => rfl
  | keep name _ ih => rw [compared_cons, compared_cons, ih]
  | insert _ ih => rw [ih, compared_root_cons plain]
  | delete _ ih => rw [compared_root_cons plain, ih]

end Config

namespace Cursor

variable (config : Config) (c : Cursor) {x y : Lexeme}

theorem readText_congr (text : x.text = y.text)
    (scopes : config.compared x.scopes = config.compared y.scopes) :
    c.readText config x = c.readText config y := by
  simp only [readText, text, scopes]

/-- The scopes of a token count only as far as they are compared. -/
theorem read_congr (text : x.text = y.text)
    (scopes : config.compared x.scopes = config.compared y.scopes) :
    c.read config x = c.read config y := by
  have blank : x.isBlank = y.isBlank := by rw [Lexeme.isBlank, Lexeme.isBlank, text]
  rw [read, read, blank, c.flush.1.readText_congr config text scopes]

/-- A token with the text of the front span is accepted if its scopes are those of the span. -/
theorem read_accepted_iff {span : Span} {rest : List Span} (front : c.remaining = span :: rest)
    (visible : span.isZeroWidth = false) (text : span.source = x.text)
    (nonblank : x.isBlank = false) :
    (c.read config x).accepted = true ↔
      config.compared (visit c.stack.path span).path = config.compared x.scopes := by
  rw [read, if_neg (by simp [nonblank]), c.flush_of_text front visible, Reading.append_accepted,
    readText, front]
  simp only [text, if_true]
  split_ifs with same
  · simp [passing, same]
  · simp [same]

end Cursor

namespace Verifier

/-- A token is checked alike however many plain root markers are among its scopes. -/
theorem check_congr (v : Verifier) (line : Text) {t u : Token} (plain : v.config.HasPlainRoot)
    (edited : t.RootEdited v.config.rootScope u) : v.check line t = v.check line u := by
  have text : (t.lexeme line).text = (u.lexeme line).text := by
    simp only [Token.lexeme, Token.textOn, edited.start, edited.stop]
  have scopes := v.config.compared_congr plain edited.scopes
  rw [check_eq, check_eq, v.cursor.read_congr v.config text scopes]

/-- Copies of the root marker among the scopes of a token change nothing, in any state a verifier
comes to, exactly where the root marker carries no decoration. -/
theorem check_rootEdited_iff (config : Config) :
    (∀ (spans : List Span) (echoes : Bool) (calls : List Call) (line : Text) (t u : Token),
        t.RootEdited config.rootScope u →
        ((start config spans echoes).performAll calls).check line t =
          ((start config spans echoes).performAll calls).check line u) ↔
      config.HasPlainRoot := by
  constructor
  · intro unnoticed
    by_contra decorated
    -- A text without scopes of its own stands on the root marker alone.
    let fresh := start config [{ source := "a" }] false
    have accepted (scopes : List Text) :
        (fresh.check "a" (.covering 0 1 scopes)).1 = true ↔
          config.compared [config.rootScope] = config.compared scopes := by
      have front : fresh.cursor.remaining = [{ source := "a" }] := rfl
      have visible : Lexeme.isBlank ⟨"a", scopes⟩ = false := by
        change Text.allBlank "a".toList = false
        decide
      have verdict := fresh.cursor.read_accepted_iff config front rfl rfl visible
      rw [check_eq]
      exact verdict
    have edited : (Token.covering 0 1 [config.rootScope]).RootEdited config.rootScope
        (.covering 0 1 [config.rootScope, config.rootScope]) :=
      ⟨rfl, rfl, .keep _ (.insert .nil)⟩
    have same := unnoticed [{ source := "a" }] false [] "a" _ _ edited
    have first := (accepted [config.rootScope]).mpr rfl
    have second := (accepted [config.rootScope, config.rootScope]).mp (same ▸ first)
    have lengths := congrArg List.length second
    rw [config.length_compared_root_cons decorated [config.rootScope]] at lengths
    omega
  · intro plain spans echoes calls line t u edited
    have same := performAll_config (v := start config spans echoes) calls rfl
    apply check_congr
    · rw [same]
      exact plain
    · rw [same]
      exact edited

/-- A root marker that ends like a decoration is counted. -/
theorem decorated_root_counts :
    let config : Config := { rootScope := "source.cpp" }
    let v := start config [{ source := "a" }] false
    RootEdit config.rootScope ["source.cpp"] ["source.cpp", "source.cpp"] ∧
      (v.check "a" (.covering 0 1 ["source.cpp"])).1 = true ∧
      (v.check "a" (.covering 0 1 ["source.cpp", "source.cpp"])).1 = false :=
  ⟨.keep _ (.insert .nil), by decide, by decide⟩

end Verifier

end TokenScopes
