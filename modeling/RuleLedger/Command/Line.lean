import RuleLedger.Command.Audit
import RuleLedger.Command.Execute

/-! The command line: the command that the arguments name, its script, and commands given one after
the other. -/
namespace RuleLedger.Command

def programName : String := "kern"

def programVersion : String := "3.1.0"

inductive Request where
  | run (r : RunRequest)
  | verify (r : VerifyRequest)
  | view (r : ShowRequest)
  | version
  | help

def helpOption : OptionSpec := .flag "--help"

/-- Read the arguments of a command, which are all options; a call for help wins over what else is
wrong with their texts. -/
def readRequest (specs : List OptionSpec) (args : List Text)
    (make : Fields Text → Except UsageFault Request) : Except UsageFault Request := do
  let r ← readArguments (helpOption :: specs) true args
  if r.options.has "--help" then return .help
  match r.rest with
  | [] => make r.options
  | text :: _ => .error (.unexpectedArgument text)

/-- Read the name of a command after the options of its group, and go on with its arguments. -/
def readCommand (args : List Text)
    (make : Text → List Text → Except UsageFault Request) : Except UsageFault Request := do
  let r ← readArguments [helpOption] false args
  if r.options.has "--help" then return .help
  match r.rest with
  | [] => .error .missingCommand
  | name :: args => make name args

def Request.ofLedgerCommand (name : Text) (args : List Text) : Except UsageFault Request :=
  if name = "verify" then
    readRequest VerifyRequest.options args fun fs => .ok (.verify (.ofFields fs))
  else if name = "show" then
    readRequest ShowRequest.options args fun fs => .ok (.view (.ofFields fs))
  else .error (.noSuchCommand name)

def Request.ofCommand (name : Text) (args : List Text) : Except UsageFault Request :=
  if name = "run" then
    readRequest RunRequest.optionSpecs args fun fs => (RunRequest.ofFields fs).map .run
  else if name = "ledger" then readCommand args ofLedgerCommand
  else if name = "version" then readRequest [] args fun _ => .ok .version
  else .error (.noSuchCommand name)

def Request.ofArguments (args : List Text) : Except UsageFault Request :=
  readCommand args ofCommand

def versionTable : Terminal.Table :=
  { title := none
    columns := [⟨"", .left⟩, ⟨"", .left⟩]
    headed := false
    framed := false
    rows := [["[bold]" ++ programName ++ " CLI[/bold]", "v" ++ programVersion],
      ["Engine", Tally.engineVersion]] }

def helpLines : List Text :=
  ["Usage: " ++ programName ++ " COMMAND [OPTIONS]",
    "  run --input FILE --plan FILE  Execute a plan against an input record.",
    "  ledger verify                 Recompute every entry hash and check the order of ticks.",
    "  ledger show                   Tabulate ledger entries.",
    "  version                       Show version information."]

def Request.script (w : Surroundings) : Request → Script Report
  | .run r => r.script w
  | .verify r => r.script w
  | .view r => r.script w
  | .version => pure (.ofBlocks w 0 [.table versionTable])
  | .help => pure { Report.ofBlocks w 0 (helpLines.map fun l => .text l) with printing := .unused }

/-! ### Sessions -/

/-- The commands that print on one console. -/
inductive Console where
  | run
  | ledger
  | program
deriving Repr, DecidableEq

def Request.console : Request → Console
  | .run _ => .run
  | .verify _ | .view _ => .ledger
  | .version | .help => .program

/-- Commands given one after the other. -/
structure Session where
  /-- The consoles that were given a text that cannot be encoded. -/
  stuck : List Console

namespace Session

def start : Session := ⟨[]⟩

/-- The report of a command that prints on a console, and the session after it. A console keeps a
text that cannot be encoded before all that it is given later, and fails with it again. -/
def report (s : Session) (c : Console) (r : Report) : Report × Session :=
  if r.printing = .unused then (r, s)
  else if s.stuck.contains c then (⟨1, "", .stuck⟩, s)
  else if r.printing = .stuck then (r, ⟨c :: s.stuck⟩)
  else (r, s)

/-- Answer a command line. Arguments that are refused are told in the log, with status two. -/
def script (s : Session) (w : Surroundings) (args : List Text) : Script (Report × Session) :=
  match Request.ofArguments args with
  | .ok r => do return s.report r.console (← r.script w)
  | .error f => .note ("Error: " ++ f.message) (.done (⟨2, "", .unused⟩, s))

/-- What a session with no command before has to say of a report is the report. -/
theorem report_start (c : Console) (r : Report) : (start.report c r).1 = r := by
  simp only [report, start, List.contains_nil, Bool.false_eq_true, ↓reduceIte]
  split
  · rfl
  · split <;> rfl

end Session

end RuleLedger.Command
