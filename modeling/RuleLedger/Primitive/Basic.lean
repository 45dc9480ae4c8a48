import RuleLedger.Clock
import RuleLedger.Digest.Seed
import RuleLedger.Log.Line
import RuleLedger.Primitive.Output

/-! Primitives: the operations that the steps of a plan name. -/
namespace RuleLedger

/-- What a call comes back with: an output, a value of another kind, or a fault. -/
inductive Answer where
  | output (o : Output)
  | stray (kind : String)
  | raised (f : Fault)
deriving Repr

/-- The answer of a call, the record it leaves, and the lines it logs. -/
structure Outcome where
  answer : Answer
  record : Record
  log : List LogLine

/-- What a primitive sees: its inputs, the record, the clock, and a seed for identifiers. -/
structure Call where
  inputs : Fields Datum
  record : Record
  clock : Clock
  seed : Seed

abbrev Primitive := Call → Outcome

namespace Call

/-- An input; an absent one is null. -/
def input (c : Call) (k : Text) : Datum := (Fields.get? c.inputs k).getD .null

def inputValue (c : Call) (k : Text) : Value := (c.input k).value

/-- The record stays as it is. -/
def answer (c : Call) (o : Output) : Outcome := ⟨.output o, c.record, []⟩

def raise (c : Call) (f : Fault) : Outcome := ⟨.raised f, c.record, []⟩

end Call

/-- Primitives by name. -/
abbrev Registry := Fields Primitive

end RuleLedger
