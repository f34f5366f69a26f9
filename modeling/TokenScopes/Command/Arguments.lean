namespace TokenScopes

inductive UsageFault where
  | noCommand
  | unknownCommand (name : String)
  | unknownOption (name : String)
  | missingValue (option : String)
  /-- A value was given to an option that takes none. -/
  | unexpectedValue (option : String)
  | missingArgument
  | extraArgument (text : String)

def UsageFault.message : UsageFault → String
  | .noCommand => "Missing command."
  | .unknownCommand name => "No such command: " ++ name
  | .unknownOption name => "No such option: " ++ name
  | .missingValue option => "Option " ++ option ++ " requires a value."
  | .unexpectedValue option => "Option " ++ option ++ " does not take a value."
  | .missingArgument => "Missing argument."
  | .extraArgument text => "Unexpected extra argument: " ++ text

structure OptionName (α : Type) where
  long : String
  /-- The letter of the short name. -/
  short : Option Char := none
  takesValue : Bool := true
  meaning : α

/-- Options may stand anywhere between plain arguments. -/
inductive Argument (α : Type) where
  | flag (option : α)
  | value (option : α) (text : String)
  | plain (text : String)

namespace Argument

/-- A dash by itself is a plain argument. -/
def isOption (arg : String) : Bool :=
  match arg.toList with
  | '-' :: _ :: _ => true
  | _ => false

def afterMark : List Char → Option String
  | _ :: rest => some (String.ofList rest)
  | [] => none

/-- The name of a long option, and the value after an equals sign if there is one. -/
def splitValue (arg : String) : String × Option String :=
  match arg.toList.span (· != '=') with
  | (name, rest) => (String.ofList name, afterMark rest)

/-- Finds an option by its short name. What follows the letter is its value. -/
def findShort {α : Type} (options : List (OptionName α)) (arg : String) :
    Except UsageFault (OptionName α × Option String) :=
  match arg.toList with
  | _ :: letter :: rest =>
    match options.find? (·.short == some letter) with
    | some option => .ok (option, if rest.isEmpty then none else some (String.ofList rest))
    | none => .error (.unknownOption arg)
  | _ => .error (.unknownOption arg)

/-- Finds the option that an argument names, and the value that is attached to it. -/
def findOption {α : Type} (options : List (OptionName α)) (arg : String) :
    Except UsageFault (OptionName α × Option String) :=
  let (name, attached) := splitValue arg
  match options.find? (·.long == name) with
  | some option => .ok (option, attached)
  | none =>
    if "--".toList.isPrefixOf arg.toList then .error (.unknownOption name)
    else findShort options arg

/-- Reads arguments one by one. Two dashes end the options, and the value of an option may be
anything, even what looks like an option. -/
def readAll {α : Type} (options : List (OptionName α)) :
    List String → Except UsageFault (List (Argument α))
  | [] => .ok []
  | arg :: rest =>
    if arg = "--" then .ok (rest.map .plain)
    else if !isOption arg then do return .plain arg :: (← readAll options rest)
    else
      match findOption options arg with
      | .error f => .error f
      | .ok (option, some v) =>
        if option.takesValue then do return .value option.meaning v :: (← readAll options rest)
        else .error (.unexpectedValue option.long)
      | .ok (option, none) =>
        if option.takesValue then
          match rest with
          | [] => .error (.missingValue option.long)
          | v :: rest => do return .value option.meaning v :: (← readAll options rest)
        else do return .flag option.meaning :: (← readAll options rest)

end Argument

end TokenScopes
