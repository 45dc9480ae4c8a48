import RuleLedger.Run.Engine

/-! Whole runs: what a run on a record produces. -/
namespace RuleLedger

/-- The summary that certifies a run. -/
structure Proof where
  ticks : Nat
  finalHash : String
  ledgerEntries : Nat
  violations : Nat
deriving Repr

namespace Proof

def outcome (p : Proof) : String :=
  if p.violations > 0 then "violations_detected" else "clean_execution"

def toValue (p : Proof) : Value :=
  .map [("ticks", .nat p.ticks), ("finalHash", .str p.finalHash),
    ("ledgerEntries", .nat p.ledgerEntries), ("violations", .nat p.violations),
    ("outcome", .str p.outcome)]

end Proof

structure RunResult where
  record : Record
  ledger : Ledger
  trail : List Violation
  tally : Tally
  metrics : Value
  proof : Proof
  halted : Bool
  runId : String

namespace RunResult

/-- The final record as a plain value. -/
def state (r : RunResult) : Value := r.record.value

/-- The hashes of the step entries in order. -/
def stepHashes (l : Ledger) : List Value := l.steps.map Entry.hash

def trailValue (r : RunResult) : Value := .list (r.trail.map Violation.toValue)

def toValue (r : RunResult) : Value :=
  .map [("state", r.state), ("ledger", r.ledger.toValue), ("auditTrail", r.trailValue),
    ("metrics", r.metrics), ("proof", r.proof.toValue)]

end RunResult

namespace Setup

def runId (setup : Setup) : String := "run_" ++ toString setup.clock.epochMs

def modeText (o : Options) : String :=
  if o.halt then "HALT_ON_VIOLATION" else "CONTINUE_ON_VIOLATION"

/-- The first line of the log. -/
def opening (setup : Setup) : List LogLine :=
  if setup.options.detail = .quiet then []
  else [⟨.info, "Starting execution: " ++ toString setup.plan.steps.length ++ " steps, mode=" ++
    modeText setup.options ++ ", log_level=" ++ setup.options.detail.name⟩]

/-- The last line of the log. -/
def closing (p : Proof) : LogLine :=
  ⟨.info, "Execution complete in 0ms: " ++ toString p.ticks ++ " ticks, " ++
    toString p.violations ++ " violations (" ++ p.outcome ++ ")"⟩

/-- The result of a run from its last state. The clock stands still during a run, so it takes no
time. -/
def conclude (setup : Setup) (s : RunState) : Except Fault RunResult := do
  let timestamp ← setup.clock.timestamp.mapError .time
  let finalHash ← s.record.value.contentHash
  return {
    record := s.record
    ledger := s.ledger
    trail := s.violations
    tally := s.tally
    metrics :=
      s.tally.snapshot setup.runId timestamp (.int 0) s.tick s.halted setup.options.toFields
    proof := ⟨s.tick, finalHash, s.ledger.length, s.tally.violations⟩
    halted := s.halted
    runId := setup.runId }

/-- Run the plan on a record. -/
def executeFrom (setup : Setup) (seed : Seed) (record : Record) :
    Except Abort (RunResult × List LogLine) :=
  match setup.clock.monotonic with
  | .error f => .error ⟨.numeric f, []⟩
  | .ok _ =>
    let start := { RunState.start record with log := setup.opening }
    match start.runSteps setup seed setup.plan.steps with
    | .error a => .error a
    | .ok s =>
      match setup.conclude s with
      | .error f => s.abort f
      | .ok r => .ok (r, s.log ++ [closing r.proof])

/-- Run the plan on a value. -/
def execute (setup : Setup) (seed : Seed) (initial : Value) :
    Except Abort (RunResult × List LogLine) :=
  setup.executeFrom seed (Record.ofValue seed initial)

end Setup
end RuleLedger
