import RuleLedger.Command.Arguments
import RuleLedger.Command.Report
import RuleLedger.Ledger.Artifacts
import RuleLedger.Log.Settings
import RuleLedger.Metrics.Exposition
import RuleLedger.Run.Result

/-! The command that runs a plan on a record and leaves the documents of the run. Violations are
reported, but they do not make the command fail. -/
namespace RuleLedger.Command

structure RunRequest where
  input : Text
  plan : Text
  bindings : Option Text
  options : Options
  folder : Option Text
  metrics : Option Text
  /-- Where the metrics are also written for a collector. -/
  exposition : Option Text
  json : Bool

namespace RunRequest

def collectKey : String := "--collect-all-violations"

def optionSpecs : List OptionSpec :=
  [.value "--input" (some 'i'), .value "--plan" (some 'p'), .value "--bindings" (some 'b'),
    .flag "--halt-on-violation", ⟨collectKey, none, collectKey, some "yes"⟩,
    ⟨"--no-collect-all-violations", none, collectKey, some "no"⟩, .value "--log-level" none,
    .value "--audit-dir" none, .value "--metrics-out" none, .value "--prom-textfile" none,
    .flag "--json"]

def required (fs : Fields Text) (key : Text) : Except UsageFault Text :=
  match fs.get? key with
  | some text => .ok text
  | none => .error (.missingOption key)

def detail (fs : Fields Text) : Except UsageFault Detail :=
  match fs.get? "--log-level" with
  | none => .ok .normal
  | some name =>
    match Detail.ofName? name with
    | some d => .ok d
    | none => .error (.badChoice "--log-level" name)

def ofFields (fs : Fields Text) : Except UsageFault RunRequest := do
  let input ← required fs "--input"
  let plan ← required fs "--plan"
  let detail ← detail fs
  return {
    input := input
    plan := plan
    bindings := fs.get? "--bindings"
    options := ⟨fs.has "--halt-on-violation", fs.get? collectKey ≠ some "no", detail⟩
    folder := fs.get? "--audit-dir"
    metrics := fs.get? "--metrics-out"
    exposition := fs.get? "--prom-textfile"
    json := fs.has "--json" }

/-! ### Work -/

/-- A finished run and the paths of its documents. -/
structure Completed where
  result : RunResult
  written : Fields Text

/-- When the report is a document, only warnings are logged. -/
def logSettings (r : RunRequest) (w : Surroundings) : Log.Settings :=
  .choose (if r.json then some "WARNING" else none) none w.environment

def loggerName : String := "engine"

/-- Log lines under the name of a run. -/
def noteLines (r : RunRequest) (w : Surroundings) (trace : Option Text) : List LogLine → Work Unit
  | [] => pure ()
  | l :: ls => do
    match (r.logSettings w).line? ⟨w.clock.epochMs, l.severity, loggerName, l.message, trace⟩ with
    | some line => Work.note line
    | none => pure ()
    r.noteLines w trace ls

def readBindings (r : RunRequest) (w : Surroundings) : Work (Option Bindings) :=
  match given r.bindings with
  | none => pure none
  | some path => do
    let (bindings, lines) := Bindings.ofDocument (← Work.document path)
    r.noteLines w none lines
    return some bindings

/-- Run the plan, and log what the run says whether or not it comes to its end. -/
def execute (r : RunRequest) (w : Surroundings) (setup : Setup) (initial : Value) :
    Work RunResult :=
  match setup.execute w.seed initial with
  | .ok (result, lines) => do
    r.noteLines w (some setup.runId) lines
    return result
  | .error abort => do
    r.noteLines w (some setup.runId) abort.log
    throw abort.fault

/-- Write the metrics for a collector, if that is asked for. -/
def expose (r : RunRequest) (metrics : Value) : Work (Fields Text) :=
  match given r.exposition with
  | none => pure []
  | some path =>
    match Collectors.empty.record metrics with
    | (_, some f) => throw f
    | (collectors, none) => do
      Work.write path (← Work.ofExcept collectors.content)
      return [("prometheus", path)]

def work (r : RunRequest) (w : Surroundings) : Work Completed := do
  let initial ← Work.document r.input
  let plan ← Work.ofExcept (Plan.ofValue (← Work.document r.plan))
  let bindings ← r.readBindings w
  let result ← r.execute w (Setup.ofPlan plan bindings r.options w.clock) initial
  let artifacts := Artifacts.choose r.folder r.metrics w.environment
  artifacts.save result.toValue
  return ⟨result, artifacts.toFields ++ (← r.expose result.metrics)⟩

/-! ### Report -/

def Completed.toValue (c : Completed) : Value :=
  .map [("state", c.result.state), ("proof", c.result.proof.toValue),
    ("violationsByType", Tally.counters c.result.tally.byLabel),
    ("haltedEarly", .bool c.result.halted), ("artifacts", .map (Fields.mapValues .str c.written))]

def proofTable (p : Proof) : Terminal.Table :=
  { title := some "Verification Proof"
    columns := [⟨"Field", .left⟩, ⟨"Value", .left⟩]
    headed := false
    framed := true
    rows := [["ticks", toString p.ticks], ["finalHash", p.finalHash],
      ["ledgerEntries", toString p.ledgerEntries], ["violations", toString p.violations],
      ["outcome", p.outcome]] }

def labelTable (t : Tally) : Terminal.Table :=
  { title := none
    columns := [⟨"Type", .left⟩, ⟨"Count", .right⟩]
    headed := true
    framed := true
    rows := t.byLabel.map fun c => [c.1, toString c.2] }

def violationBlocks (t : Tally) : List Block :=
  if t.violations = 0 then [.text "\n[green]No invariant violations detected[/green]"]
  else
    [.text ("\n[red]Detected " ++ toString t.violations ++ " invariant violations:[/red]"),
      .table (labelTable t)]

def haltBlocks (r : RunResult) : List Block :=
  if r.halted then
    [.text ("[yellow]Halted early at tick " ++ toString r.proof.ticks ++ "[/yellow]")]
  else []

def blocks (c : Completed) : List Block :=
  let written (name : Text) : Text := (c.written.get? name).getD ""
  [.text "\n[bold]Final State:[/bold]", .document c.result.state,
    .table (proofTable c.result.proof),
    .text ("\nMetrics snapshot written to " ++ written "metrics"),
    .text ("Violations audit written to " ++ written "violations")] ++
    haltBlocks c.result ++ violationBlocks c.result.tally

def report (r : RunRequest) (w : Surroundings) : Except Fault Completed → Report
  | .ok c => if r.json then .ofDocument 0 .shown c.toValue else .ofBlocks w 0 (blocks c)
  | .error f => .ofFault w r.json "File not found" f

def script (r : RunRequest) (w : Surroundings) : Script Report := do
  return r.report w (← (r.work w).run)

end RunRequest
end RuleLedger.Command
