import RuleLedger.Primitive.Basic
import RuleLedger.Value.Access

/-! Checks bound to primitives by name. The table of bindings comes from outside and is not trusted:
malformed parts are dropped, and a check that nobody knows passes. -/
namespace RuleLedger

/-- A check looks at the rendered output. -/
abbrev Check := Fields Datum → Bool

/-- Checks by name. -/
abbrev Checks := Fields Check

namespace Checks

/-- Fails when the operation reported failure. -/
def stateProgress : Check := fun output =>
  match Fields.get? output "success" with
  | some (.bool false) => false
  | _ => true

/-- Fails when no new value was produced. -/
def consistency : Check := fun output => Fields.has output "newValue"

def builtin : Checks := [("stateProgress", stateProgress), ("consistencyCheck", consistency)]

def passes (cs : Checks) (name : Text) (output : Fields Datum) : Bool :=
  match Fields.get? cs name with
  | some check => check output
  | none => true

end Checks

/-- The names of the checks to run after each call of a primitive. -/
abbrev Bindings := Fields (List Text)

namespace Bindings

def checksFor (b : Bindings) (primitive : Text) : List Text :=
  (Fields.get? b primitive).getD []

/-- The texts of a bound list. -/
def boundNames? : Value → Option (List Text)
  | .list xs => some (xs.filterMap Value.text?)
  | _ => none

/-- The bindings of a mapping that have lists. -/
def clean (fs : Fields Value) : Bindings :=
  fs.filterMap fun f => (boundNames? f.2).map fun names => (f.1, names)

/-- What is said about the bindings that are dropped. -/
def complaints (fs : Fields Value) : List LogLine :=
  fs.filterMap fun f => match boundNames? f.2 with
    | some _ => none
    | none => some ⟨.warning, "Ignoring malformed binding for " ++ Text.quoted f.1⟩

/-- A table as given, and what is said about it. -/
def ofTable : Value → Bindings × List LogLine
  | .map fs => (clean fs, complaints fs)
  | .null => ([], [])
  | v => ([], [⟨.warning, "Ignoring primitive bindings of type " ++ v.kindName⟩])

def tableKey : String := "primitiveBindings"

/-- The table of a document: inside its contracts, else at its top, else the document itself when it
has no contracts. -/
def tableOf (doc : Value) : Value :=
  match (doc.field? "contracts").bind (·.field? tableKey) with
  | some table => table
  | none =>
    match doc.field? tableKey with
    | some table => table
    | none =>
      match doc, doc.field? "contracts" with
      | .map fs, none => .map fs
      | _, _ => .null

def ofDocument (doc : Value) : Bindings × List LogLine := ofTable (tableOf doc)

end Bindings
end RuleLedger
