import RuleLedger.Text.Blank
import RuleLedger.Value.Access

/-! Violations: what is recorded when a check fires. -/
namespace RuleLedger

structure Violation where
  tick : Nat
  primitive : Text
  message : Text
  inputSample : Value
  outputSample : Value
  timestamp : String
deriving Repr

namespace Violation

def typeName : String := "InvariantViolation"

/-- How many members a sample keeps. -/
def sampleSize : Nat := 3

/-- The first members of a mapping; any other value whole. -/
def sample : Value → Value
  | .map fs => .map (fs.take sampleSize)
  | v => v

/-- The text before the first colon, trimmed. -/
def labelOf (message : Text) : Text :=
  Text.strip ⟨message.toList.takeWhile fun c : Symbol => c ≠ ':'⟩

def label (v : Violation) : Text := labelOf v.message

def toFields (v : Violation) : Fields Value :=
  [("tick", .nat v.tick), ("primitive", .str v.primitive), ("type", .str typeName),
    ("message", .str v.message), ("inputSample", v.inputSample), ("outputSample", v.outputSample),
    ("timestamp", .str v.timestamp)]

def toValue (v : Violation) : Value := .map v.toFields

/-- The fields of a stored violation in their order. The samples and the type may be absent. -/
def fieldsOf (doc : Value) : Except Fault (Fields Value) := do
  let tick ← doc.require "tick"
  let primitive ← doc.require "primitive"
  let message ← doc.require "message"
  let timestamp ← doc.require "timestamp"
  return [("tick", tick), ("primitive", primitive), ("type", doc.fieldOr "type" (.str typeName)),
    ("message", message), ("inputSample", doc.fieldOr "inputSample" .null),
    ("outputSample", doc.fieldOr "outputSample" .null), ("timestamp", timestamp)]

/-- The label of a message that was never checked. -/
def labelOfValue : Value → Except Fault Text
  | .str s => .ok (labelOf s)
  | v => .error (.kind (.noMember v.kindName "split"))

end Violation
end RuleLedger
