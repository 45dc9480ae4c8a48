import RuleLedger.Command.Line
import Std.Time.DateTime.Timestamp

/-! The program: scripts carried out on the files of the system. -/
namespace RuleLedger.Command

/-- Whether a system error has a number; some calls report it negated. -/
def hasNumber (number code : UInt32) : Bool := code = number || code = 0 - number

/-- The outcome of a call on a path; failures that no script knows of are passed on. Every file here
has a name of characters. -/
def attemptFile {α : Type} (path : Text) (act : String → IO α) : IO (Except FileFault α) := do
  match path.string? with
  | none => return .error .notFound
  | some path =>
    match ← (act path).toBaseIO with
    | .ok a => return .ok a
    | .error e =>
      match e with
      | .noFileOrDirectory .. => return .error .notFound
      | .alreadyExists .. => return .error .occupied
      | .inappropriateType _ code _ =>
        return .error (if hasNumber 20 code then .notFolder else .isFolder)
      | .invalidArgument _ code _ => if hasNumber 36 code then return .error .tooLong else throw e
      | e => throw e

/-- A folder is what cannot be read because it is one. -/
def isFolder (path : Text) : IO Bool := do
  match path.string? with
  | none => return false
  | some path =>
    match ← (IO.FS.readFile path).toBaseIO with
    | .error (.inappropriateType _ code _) => return !hasNumber 20 code
    | _ => return false

/-- Carry out a script on the files of the system; the log goes to the error stream. -/
def perform {α : Type} : Script α → IO α
  | .done a => pure a
  | .read path next => do perform (next (← attemptFile path fun p => IO.FS.readFile p))
  | .makeFolder path next => do perform (next (← attemptFile path fun p => IO.FS.createDir p))
  | .isFolder path next => do perform (next (← isFolder path))
  | .write path text next => do
    perform (next (← attemptFile path fun p => IO.FS.writeFile p text))
  | .note line next => do
    match line.string? with
    | some line => IO.eprintln line
    | none => pure ()
    perform next

def variableNames : List String := ["KERN_AUDIT_DIR", "KERN_LOG_LEVEL", "KERN_LOG_FORMAT"]

def readVariables : List String → IO Variables
  | [] => return []
  | name :: names => do
    let rest ← readVariables names
    match ← IO.getEnv name with
    | some text => return (name, text) :: rest
    | none => return rest

def readSurroundings : IO Surroundings := do
  let now ← Std.Time.Timestamp.now
  let bytes ← IO.getRandomBytes 16
  let columns ← IO.getEnv "COLUMNS"
  return {
    environment := ← readVariables variableNames
    clock := ⟨now.toMillisecondsSinceUnixEpoch.toInt⟩
    seed := ⟨bytes.toList.map UInt8.toNat⟩
    width := (columns.bind String.toNat?).getD 80 }

end RuleLedger.Command

open RuleLedger.Command in
def main (args : List String) : IO UInt32 := do
  let (report, _) ← perform (Session.start.script (← readSurroundings) (args.map .ofString))
  IO.print report.output
  return report.status.toUInt32
