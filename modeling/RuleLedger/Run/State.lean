import RuleLedger.Invariant.Binding
import RuleLedger.Invariant.Violation
import RuleLedger.Ledger.Entry
import RuleLedger.Metrics.Tally
import RuleLedger.Plan.Basic
import RuleLedger.Plan.Options
import RuleLedger.Primitive.Registry

/-! The state of a run between two steps, and the one way in which violations enter it. -/
namespace RuleLedger

/-- What a run is carried out with. -/
structure Setup where
  plan : Plan
  registry : Registry
  bindings : Bindings
  checks : Checks
  options : Options
  clock : Clock

namespace Setup

/-- A plan with the built-in primitives and checks. Bindings that are not given are those in the
contracts of the plan. -/
def ofPlan (plan : Plan) (bindings? : Option Bindings) (options : Options) (clock : Clock) :
    Setup :=
  { plan := plan
    registry := Registry.builtin
    bindings := bindings?.getD (Bindings.ofDocument (.map [("contracts", .map plan.contracts)])).1
    checks := Checks.builtin
    options := options
    clock := clock }

end Setup

structure RunState where
  record : Record
  /-- The number of steps attempted. -/
  tick : Nat
  ledger : Ledger
  violations : List Violation
  tally : Tally
  log : List LogLine
  halted : Bool

/-- A fault that ends a run, with what was logged up to it. -/
structure Abort where
  fault : Fault
  log : List LogLine

namespace RunState

def start (record : Record) : RunState := ⟨record, 0, [], [], Tally.empty, [], false⟩

def say (s : RunState) (severity : Severity) (message : Text) : RunState :=
  { s with log := s.log ++ [⟨severity, message⟩] }

def abort {α : Type} (s : RunState) (f : Fault) : Except Abort α := .error ⟨f, s.log⟩

/-- Go on with a result, or end the run. -/
def demand {α β : Type} (s : RunState) (r : Except Fault α) (next : α → Except Abort β) :
    Except Abort β :=
  match r with
  | .ok a => next a
  | .error f => s.abort f

/-- Append an entry at the current tick. Seeds go with the position in the ledger. -/
def append (s : RunState) (clock : Clock) (seed : Seed) (operation : Text) (payload : Value) :
    Except Abort RunState :=
  s.demand (Entry.stamp clock (seed.fork s.ledger.length) (.nat s.tick) operation payload) fun e =>
    .ok { s with ledger := s.ledger ++ [e] }

/-- Record a violation in the trail, the counters, the ledger and the log. -/
def violate (s : RunState) (clock : Clock) (seed : Seed) (primitive : Text)
    (inputs output : Value) (message : Text) : Except Abort RunState :=
  s.demand (clock.timestamp.mapError .time) fun timestamp =>
    let v : Violation := {
      tick := s.tick
      primitive := primitive
      message := message
      inputSample := Violation.sample inputs
      outputSample := Violation.sample output
      timestamp := timestamp }
    let s := { s with violations := s.violations ++ [v], tally := s.tally.violated v.label }
    match s.append clock seed Entry.violationOperation v.toValue with
    | .error a => .error a
    | .ok s =>
      .ok (s.say .warning
        ("Tick " ++ toString s.tick ++ ": " ++ message ++ " (" ++ primitive ++ ")"))

/-- Record violations one after another. -/
def violateAll (s : RunState) (clock : Clock) (seed : Seed) (primitive : Text)
    (inputs output : Value) : List Text → Except Abort RunState
  | [] => .ok s
  | m :: ms =>
    match s.violate clock seed primitive inputs output m with
    | .error a => .error a
    | .ok s => violateAll s clock seed primitive inputs output ms

end RunState
end RuleLedger
