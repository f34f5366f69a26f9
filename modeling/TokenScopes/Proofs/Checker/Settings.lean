import TokenScopes.Checker.ConfigFile
import TokenScopes.Proofs.Toml.LongNumber

namespace TokenScopes

namespace Value

theorem sameKey_text_right {v : Value} {key : Text} :
    sameKey v (.text key) = true ↔ v = .text key := by
  cases v <;> simp [sameKey, sameScalar, numeric?]

theorem sameKey_text_left {v : Value} {key : Text} :
    sameKey (.text key) v = true ↔ v = .text key := by
  cases v with
  | text s => simp [sameKey, sameScalar, numeric?, @eq_comm _ s]
  | _ => simp [sameKey, sameScalar, numeric?]

theorem field?_cons_self (rest : List (Value × Value)) (v : Value) (key : Text) :
    field? ((.text key, v) :: rest) key = some v := by
  rw [field?, if_pos rfl]

theorem field?_cons_ne {k : Value} {key : Text} (other : k ≠ .text key) (v : Value)
    (rest : List (Value × Value)) : field? ((k, v) :: rest) key = field? rest key := by
  cases k with
  | text s => rw [field?, if_neg fun same => other (congrArg _ same)]
  | _ => rfl

theorem field?_append (entries more : List (Value × Value)) (key : Text) :
    field? (entries ++ more) key = (field? entries key).or (field? more key) := by
  induction entries with
  | nil => rfl
  | cons e entries ih =>
    obtain ⟨k, v⟩ := e
    by_cases here : k = .text key
    · rw [here, List.cons_append, field?_cons_self, field?_cons_self]
      rfl
    · rw [List.cons_append, field?_cons_ne here, field?_cons_ne here, ih]

/-- Under its key the value is found that was put there, and under the others what was there. -/
theorem field?_insert (k v : Value) (entries : List (Value × Value)) (key : Text) :
    field? (insert k v entries) key = (field? [(k, v)] key).or (field? entries key) := by
  induction entries with
  | nil => exact (Option.or_none).symm
  | cons e entries ih =>
    obtain ⟨old, w⟩ := e
    rw [insert]
    by_cases here : old = .text key
    · rw [here, field?_cons_self]
      by_cases same : k = .text key
      · rw [same, if_pos (sameKey_text_right.mpr rfl), field?_cons_self, field?_cons_self]
        rfl
      · rw [if_neg (mt sameKey_text_left.mp same), field?_cons_self, field?_cons_ne same]
        rfl
    · rw [field?_cons_ne here]
      split
      · next same =>
        have other : k ≠ .text key := fun equal => here (sameKey_text_right.mp (equal ▸ same))
        rw [field?_cons_ne here, field?_cons_ne other]
        rfl
      · rw [field?_cons_ne here, ih]

/-- What is put in later is found first. -/
theorem field?_insertAll (entries more : List (Value × Value)) (key : Text) :
    field? (insertAll entries more) key =
      (field? more.reverse key).or (field? entries key) := by
  induction more generalizing entries with
  | nil => rfl
  | cons e more ih =>
    obtain ⟨k, v⟩ := e
    have later : insertAll entries ((k, v) :: more) = insertAll (insert k v entries) more := rfl
    rw [later, ih, field?_insert, List.reverse_cons, field?_append, Option.or_assoc]

end Value

namespace Config

/-- The last override of a field by something else than null. -/
def lastGiven (overrides : List (Value × Value)) (key : Text) : Option Value :=
  Value.field? (overrides.filter fun (_, v) => !v.isNull).reverse key

/-- The last override that is given wins over the file. -/
theorem field?_merge (overrides entries : List (Value × Value)) (key : Text) :
    Value.field? (merge overrides entries) key =
      (lastGiven overrides key).or (Value.field? entries key) :=
  Value.field?_insertAll entries _ key

/-- The root scope that remains after overriding a section. -/
def effectiveRoot (overrides entries : List (Value × Value)) : Text :=
  rootOf ((lastGiven overrides rootKey).or (Value.field? entries rootKey))

/-- A section that is overridden is refused only for a blank root scope. -/
theorem ofSection_merge (overrides entries : List (Value × Value)) :
    ofSection (.map (merge overrides entries)) =
      if Text.allBlank (effectiveRoot overrides entries).toList then
        .error (.blankRoot (.text (effectiveRoot overrides entries)))
      else
        .ok ⟨Text.trim (effectiveRoot overrides entries),
          suffixesOf ((lastGiven overrides suffixesKey).or (Value.field? entries suffixesKey)),
          switch ((lastGiven overrides stopKey).or (Value.field? entries stopKey)) true,
          switch ((lastGiven overrides failKey).or (Value.field? entries failKey)) true⟩ := by
  simp only [ofSection, field?_merge]
  rfl

end Config

namespace ConfigPlace

/-- What a configuration file says, by what is found in its place. -/
inductive Tells : Except PathProblem FileNode →
    Except ConfigFileFault (List (Value × Value)) → Prop
  | missing (problem : PathProblem) : Tells (.error problem) (.ok [])
  | directory (children : List (String × FileNode)) : Tells (.ok (.directory children)) (.ok [])
  | undecodable {bytes : List UInt8} {f : Text.Utf8Fault}
    (encoding : Text.decodeUtf8 bytes = .error f) : Tells (.ok (.file bytes)) (.error (.encoding f))
  | malformed {bytes : List UInt8} {cs : List Char} (encoding : Text.decodeUtf8 bytes = .ok cs)
    (malformed : Toml.readChars (Text.foldLineEnds cs) = .error .malformed) :
    Tells (.ok (.file bytes)) (.ok [])
  | numberTooLong {bytes : List UInt8} {cs : List Char} {digits : Nat}
    (encoding : Text.decodeUtf8 bytes = .ok cs)
    (refused : Toml.readChars (Text.foldLineEnds cs) = .error (.numberTooLong digits))
    (long : Toml.HasLongNumber (Text.foldLineEnds cs)) :
    Tells (.ok (.file bytes)) (.error (.numberTooLong digits))
  | table {bytes : List UInt8} {cs : List Char} {entries : List (Value × Value)}
    (encoding : Text.decodeUtf8 bytes = .ok cs)
    (read : Toml.readChars (Text.foldLineEnds cs) = .ok entries) :
    Tells (.ok (.file bytes)) (.ok entries)

/-- What is found in the place of the file decides what it says. -/
theorem load_tells (place : ConfigPlace) (fs : FileSystem) :
    Tells (fs.find place.path) (place.load fs) := by
  rw [load, FileSystem.readText]
  cases fs.find place.path with
  | error problem => exact .missing problem
  | ok node =>
    cases node with
    | directory children => exact .directory children
    | file bytes =>
      dsimp only
      cases encoding : Text.decodeUtf8 bytes with
      | error f => exact .undecodable encoding
      | ok cs =>
        dsimp only
        have chars : Toml.read (String.ofList (Text.foldLineEnds cs)) =
            Toml.readChars (Text.foldLineEnds cs) := by
          rw [Toml.read, String.toList_ofList]
        rw [chars]
        cases read : Toml.readChars (Text.foldLineEnds cs) with
        | ok entries => exact .table encoding read
        | error fault =>
          cases fault with
          | malformed => exact .malformed encoding read
          | numberTooLong digits =>
            exact .numberTooLong encoding read ((Toml.readChars_blames _).fault read)

def sectionIn (entries : List (Value × Value)) : List (Value × Value) :=
  match Value.field? entries sectionKey with
  | some (.map inner) => inner
  | _ => []

theorem loadSection_eq (place : ConfigPlace) (fs : FileSystem) :
    place.loadSection fs = (place.load fs).map sectionIn := by
  rw [loadSection]
  cases place.load fs with
  | error f => rfl
  | ok entries =>
    have found : (pure (sectionIn entries) : Except ConfigFileFault (List (Value × Value))) =
        match Value.field? entries sectionKey with
        | some (.map inner) => pure inner
        | _ => pure [] := by
      rw [sectionIn]
      split <;> rfl
    exact found.symm

theorem resolve_of_fault {place : ConfigPlace} {fs : FileSystem} {f : ConfigFileFault}
    (refused : place.load fs = .error f) (overrides : List (Value × Value)) :
    place.resolve fs overrides = .error (.file f) := by
  rw [resolve, loadSection_eq, refused]
  rfl

theorem resolve_of_load {place : ConfigPlace} {fs : FileSystem} {entries : List (Value × Value)}
    (loaded : place.load fs = .ok entries) (overrides : List (Value × Value)) :
    place.resolve fs overrides =
      (Config.ofSection (.map (Config.merge overrides (sectionIn entries)))).mapError .config := by
  rw [resolve, loadSection_eq, loaded]
  rfl

/-- What a configuration file says follows from what is found in its place. It says nothing where it
is missing or malformed, and only bytes that encode no text and numbers that are too long are faults.
The section on checking is what it says under that name, and nothing where that is no table. From the
section and what overrides it a configuration follows, unless the file is at fault or the root scope
that remains is blank. -/
theorem resolve_refuses_only (place : ConfigPlace) (fs : FileSystem) :
    Tells (fs.find place.path) (place.load fs) ∧
      place.loadSection fs = (place.load fs).map sectionIn ∧
      ∀ overrides fault, place.resolve fs overrides = .error fault ↔
        (∃ f, place.load fs = .error f ∧ fault = .file f) ∨
          ∃ entries, place.loadSection fs = .ok entries ∧
            Text.allBlank (Config.effectiveRoot overrides entries).toList = true ∧
            fault = .config (.blankRoot (.text (Config.effectiveRoot overrides entries))) := by
  refine ⟨place.load_tells fs, place.loadSection_eq fs, fun overrides fault => ?_⟩
  rw [loadSection_eq]
  cases loaded : place.load fs with
  | error f =>
    rw [resolve_of_fault loaded]
    constructor
    · intro refused
      exact .inl ⟨f, rfl, (Except.error.inj refused).symm⟩
    · rintro (⟨g, same, rfl⟩ | ⟨entries, given, -⟩)
      · rw [Except.error.inj same]
      · cases given
  | ok entries =>
    rw [resolve_of_load loaded, Config.ofSection_merge]
    constructor
    · intro refused
      split at refused
      · next blank => exact .inr ⟨_, rfl, blank, (Except.error.inj refused).symm⟩
      · cases refused
    · rintro (⟨g, same, -⟩ | ⟨inner, given, blank, rfl⟩)
      · cases same
      · rw [Except.ok.inj given, if_pos blank]
        rfl

def strayByte : FileSystem where
  top := .directory [(fileName, .file [0xff])]

/-- A file with one byte that begins no character ends every way to a configuration. -/
theorem strayByte_tells_nothing :
    (¬∃ entries, ({} : ConfigPlace).load strayByte = .ok entries) ∧
      (¬∃ entries, ({} : ConfigPlace).loadSection strayByte = .ok entries) ∧
      ∃ f, ({} : ConfigPlace).resolve strayByte [] = .error (.file f) := by
  have refused : (({} : ConfigPlace).load strayByte).isOk = false := by decide +kernel
  cases loaded : ({} : ConfigPlace).load strayByte with
  | ok entries =>
    rw [loaded] at refused
    cases refused
  | error f =>
    refine ⟨nofun, ?_, f, resolve_of_fault loaded []⟩
    rw [loadSection_eq, loaded]
    exact nofun

def blankRootFile : FileSystem where
  top := .directory [(fileName,
    .file ("checker.root_scope = ' '".toList.map fun c => UInt8.ofNat c.toNat))]

/-- The file is read, and the root scope in it is blank. -/
theorem blankRootFile_refused :
    ∃ entries, ({} : ConfigPlace).loadSection blankRootFile = .ok entries ∧
      Text.allBlank (Config.effectiveRoot [] entries).toList = true := by
  have loaded : (({} : ConfigPlace).load blankRootFile).isOk = true := by decide +kernel
  have refused : (({} : ConfigPlace).resolve blankRootFile []).isOk = false := by decide +kernel
  cases resolved : ({} : ConfigPlace).resolve blankRootFile [] with
  | ok config =>
    rw [resolved] at refused
    cases refused
  | error fault =>
    obtain ⟨f, stopped, -⟩ | ⟨entries, told, blank, -⟩ :=
      ((resolve_refuses_only {} blankRootFile).2.2 [] fault).mp resolved
    · rw [stopped] at loaded
      cases loaded
    · exact ⟨entries, told, blank⟩

example :
    (({} : ConfigPlace).resolve blankRootFile [(.text Config.rootKey, .text "text")]).isOk = true := by
  decide +kernel

end ConfigPlace

end TokenScopes
