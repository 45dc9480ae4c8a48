import RuleLedger.Ledger.Entry

/-! Verification of ledgers: every hash is that of its payload, and ticks never go back. The first
entry that fails decides. -/
namespace RuleLedger

variable {α : Type}

/-- What is wrong with an entry. -/
inductive Defect where
  | malformed (cause : Fault)
  | hash (expected : Text) (actual : Value)
  | tick (expected actual : Text)
deriving Repr

namespace Defect

def message : Defect → Text
  | .malformed cause => "malformed entry: " ++ cause.message
  | .hash _ _ => "payload hash mismatch"
  | .tick _ _ => "tick out of order"

def expected : Defect → Value
  | .malformed _ => .null
  | .hash expected _ => .str expected
  | .tick expected _ => .str expected

def actual : Defect → Value
  | .malformed _ => .null
  | .hash _ actual => actual
  | .tick _ actual => .str actual

end Defect

/-- The number of entries that verified, and the defect of the next one if there is one. -/
structure Verdict where
  checked : Nat
  defect : Option Defect
deriving Repr

namespace Verdict

def valid (v : Verdict) : Bool := v.defect.isNone

/-- The verdict as a document; the entry with the defect is the one after those that verified. -/
def toValue (v : Verdict) : Value :=
  .map [("valid", .bool v.valid), ("checked", .nat v.checked),
    ("error", ((v.defect.map fun d => .str d.message)).getD .null),
    ("mismatchIndex", ((v.defect.map fun _ => .nat v.checked)).getD .null),
    ("expected", ((v.defect.map Defect.expected)).getD .null),
    ("actual", ((v.defect.map Defect.actual)).getD .null)]

end Verdict

/-- A tick as a number; truth values count as one and zero. -/
def tickNumber? : Value → Option Number
  | .num n => some n
  | .bool b => some (.int (if b then 1 else 0))
  | _ => none

/-- Whether a tick is before the last one. Ticks that are no numbers have no order. -/
def tickBefore (tick last : Value) : Except Fault Bool :=
  match tickNumber? tick, tickNumber? last with
  | some a, some b => .ok (a.lt b)
  | _, _ => .error (.kind (.notOrdered tick.kindName last.kindName))

/-- Whether a value is this text. -/
def Value.isText (v : Value) (t : Text) : Bool :=
  match v with
  | .str s => s = t
  | _ => false

/-- The defect of an entry that follows a tick. -/
def Entry.defect? (e : Entry) (last : Value) : Except Fault (Option Defect) := do
  let computed ← e.payload.contentHash
  if !e.hash.isText computed then return some (.hash computed e.hash)
  if ← tickBefore e.tick last then
    let limit ← last.plain.mapError .numeric
    let actual ← e.tick.plain.mapError .numeric
    return some (.tick (">= " ++ limit) actual)
  return none

/-- Faults of a value that is no entry. -/
def Fault.isMalformed : Fault → Bool
  | .missingKey _ | .kind _ => true
  | _ => false

/-- Verify the rest of a ledger, given how many entries verified and the last tick. -/
def verifyFrom (read : α → Except Fault Entry) (checked : Nat) (last : Value) :
    List α → Except Fault Verdict
  | [] => .ok ⟨checked, none⟩
  | x :: xs =>
    match read x with
    | .error f => if f.isMalformed then .ok ⟨checked, some (.malformed f)⟩ else .error f
    | .ok e =>
      match e.defect? last with
      | .error f => .error f
      | .ok (some d) => .ok ⟨checked, some d⟩
      | .ok none => verifyFrom read (checked + 1) e.tick xs

/-- Verify entries. -/
def Ledger.verify (l : Ledger) : Except Fault Verdict := verifyFrom .ok 0 (.int 0) l

/-- Verify a document that should be a list of entries. -/
def verifyDocument (doc : Value) : Except Fault Verdict := do
  verifyFrom Entry.ofValue 0 (.int 0) (← doc.elements)

/-- Refuse a verdict that is not valid. -/
def Verdict.demand (v : Verdict) : Except Fault Verdict :=
  match v.defect with
  | some d => .error (.integrity v.checked d.message)
  | none => .ok v

end RuleLedger
