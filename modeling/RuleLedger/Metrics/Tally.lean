import RuleLedger.Value.Basic

/-! The counters of one run and the document that they are reported in. -/
namespace RuleLedger

structure Tally where
  /-- Calls by primitive, in the order of their first call. -/
  invocations : Fields Nat
  violations : Nat
  /-- Violations by label, in the order of their first violation. -/
  byLabel : Fields Nat
  checksPassed : Nat
deriving Repr

namespace Tally

def empty : Tally := ⟨[], 0, [], 0⟩

def invoked (t : Tally) (primitive : Text) : Tally :=
  { t with invocations := t.invocations.increment primitive }

def violated (t : Tally) (label : Text) : Tally :=
  { t with violations := t.violations + 1, byLabel := t.byLabel.increment label }

def passed (t : Tally) : Tally := { t with checksPassed := t.checksPassed + 1 }

def engineVersion : String := "3.1.0-hardened"

def outcome (t : Tally) : String := if t.violations > 0 then "violation_detected" else "success"

def counters (fs : Fields Nat) : Value := .map (Fields.mapValues Value.nat fs)

/-- The counters in a document, beside what is known of the run. -/
def snapshot (t : Tally) (runId timestamp : Text) (duration : Value) (ticks : Int) (halted : Bool)
    (options : Fields Value) : Value :=
  .map [("snapshot", .map [
    ("runId", .str runId),
    ("timestamp", .str timestamp),
    ("engineVersion", .str engineVersion),
    ("timing", .map [("durationMs", duration)]),
    ("primitives", counters t.invocations),
    ("invariants", .map [("violations", .nat t.violations),
      ("violationsByType", counters t.byLabel), ("checksPassed", .nat t.checksPassed)]),
    ("execution", .map [("totalTicks", .int ticks), ("haltedEarly", .bool halted),
      ("options", .map options)]),
    ("outcome", .str t.outcome)])]

end Tally
end RuleLedger
