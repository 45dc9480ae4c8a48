import RuleLedger.Fields

/-! The arguments of a command: options by long name or by letter, each giving a text to a key. -/
namespace RuleLedger.Command

/-- Why arguments are refused. -/
inductive UsageFault where
  | noSuchOption (name : Text)
  | missingValue (name : Text)
  | unexpectedValue (name : Text)
  | unexpectedArgument (text : Text)
  | missingOption (name : Text)
  | badChoice (name value : Text)
  | noSuchCommand (name : Text)
  | missingCommand
deriving Repr, DecidableEq

def UsageFault.message : UsageFault → Text
  | .noSuchOption name => "No such option: " ++ name
  | .missingValue name => "Option '" ++ name ++ "' requires an argument."
  | .unexpectedValue name => "Option '" ++ name ++ "' does not take a value."
  | .unexpectedArgument text => "Got unexpected extra argument (" ++ text ++ ")"
  | .missingOption name => "Missing option '" ++ name ++ "'."
  | .badChoice name value => "Invalid value for '" ++ name ++ "': '" ++ value ++ "'"
  | .noSuchCommand name => "No such command '" ++ name ++ "'."
  | .missingCommand => "Missing command."

structure OptionSpec where
  name : String
  letter : Option Char
  key : String
  /-- What the option gives when it stands alone; without it the text follows. -/
  alone : Option String

namespace OptionSpec

/-- An option that a text follows. -/
def value (name : String) (letter : Option Char) : OptionSpec := ⟨name, letter, name, none⟩

def flag (name : String) : OptionSpec := ⟨name, none, name, some "yes"⟩

end OptionSpec

/-- One argument as the options have it. -/
inductive Argument where
  | complete (key text : Text)
  | awaits (name key : Text)
  /-- What follows are no options. -/
  | last
  | positional
deriving Repr, DecidableEq

/-- An option by its long name, with the text after an equals sign if there is one. -/
def longArgument (specs : List OptionSpec) (name : Text) (text : Option Text) :
    Except UsageFault Argument :=
  match specs.find? (·.name == name) with
  | none => .error (.noSuchOption name)
  | some spec =>
    match spec.alone, text with
    | some _, some _ => .error (.unexpectedValue name)
    | some t, none => .ok (.complete spec.key t)
    | none, some t => .ok (.complete spec.key t)
    | none, none => .ok (.awaits name spec.key)

/-- An option by its letter; what is joined to the letter is its text. -/
def shortArgument (specs : List OptionSpec) (letter : Symbol) (joined : List Symbol) :
    Except UsageFault Argument :=
  let name := Text.ofList ['-', letter]
  match specs.find? fun spec => (spec.letter.any fun c => letter == c) with
  | none => .error (.noSuchOption name)
  | some spec =>
    match spec.alone, joined with
    | some t, [] => .ok (.complete spec.key t)
    | some _, _ => .error (.unexpectedValue name)
    | none, [] => .ok (.awaits name spec.key)
    | none, cs => .ok (.complete spec.key ⟨cs⟩)

def readArgument (specs : List OptionSpec) (arg : Text) : Except UsageFault Argument :=
  match arg.toList with
  | [.char '-', .char '-'] => .ok .last
  | .char '-' :: .char '-' :: cs =>
    let name := "--" ++ Text.ofList (cs.takeWhile fun c : Symbol => c ≠ '=')
    let text := match cs.dropWhile fun c : Symbol => c ≠ '=' with
      | _ :: rest => some (Text.ofList rest)
      | [] => none
    longArgument specs name text
  | .char '-' :: letter :: joined => shortArgument specs letter joined
  | _ => .ok .positional

/-- What the arguments give: texts for the keys of options, and what is no option. -/
structure Reading where
  options : Fields Text
  rest : List Text
deriving Repr, DecidableEq

/-- Put a text before those that are given later, which win. -/
def Reading.giveEarlier (key text : Text) (r : Reading) : Reading :=
  if r.options.has key then r else { r with options := (key, text) :: r.options }

/-- Read arguments; `mixed` says that options may also follow what is no option. -/
def readArguments (specs : List OptionSpec) (mixed : Bool) : List Text → Except UsageFault Reading
  | [] => .ok ⟨[], []⟩
  | arg :: rest =>
    match readArgument specs arg with
    | .error f => .error f
    | .ok (.complete key text) => (readArguments specs mixed rest).map (.giveEarlier key text)
    | .ok (.awaits name key) =>
      match rest with
      | [] => .error (.missingValue name)
      | text :: rest => (readArguments specs mixed rest).map (.giveEarlier key text)
    | .ok .last => .ok ⟨[], rest⟩
    | .ok .positional =>
      if mixed then
        (readArguments specs mixed rest).map fun r => { r with rest := arg :: r.rest }
      else .ok ⟨[], arg :: rest⟩

end RuleLedger.Command
