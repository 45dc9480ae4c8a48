import RuleLedger.Canonical
import RuleLedger.Clock
import RuleLedger.Digest.Seed
import RuleLedger.Value.Access

/-! Entries of the audit ledger. An entry carries the digest of its payload; the identifier, the
tick and the timestamp are not covered by it. -/
namespace RuleLedger

/-- An entry. Stored ledgers are not trusted, so a field may hold any value. -/
structure Entry where
  id : Value
  tick : Value
  timestamp : Value
  operation : Value
  payload : Value
  hash : Value
deriving Repr

namespace Entry

def violationOperation : String := "VIOLATION_RECORDED"

/-- Whether an entry records a violation; every other entry records a step. -/
def isViolation (e : Entry) : Bool :=
  match e.operation with
  | .str s => s = violationOperation
  | _ => false

def toFields (e : Entry) : Fields Value :=
  [("id", e.id), ("tick", e.tick), ("timestamp", e.timestamp), ("operation", e.operation),
    ("payload", e.payload), ("hash", e.hash)]

def toValue (e : Entry) : Value := .map e.toFields

/-- An entry as stored. Identifier, operation and hash must be there. -/
def ofValue (doc : Value) : Except Fault Entry := do
  let id ← doc.require "id"
  let operation ← doc.require "operation"
  let hash ← doc.require "hash"
  return {
    id := id
    tick := doc.fieldOr "tick" (.int 0)
    timestamp := doc.fieldOr "timestamp" (.str "")
    operation := operation
    payload := doc.fieldOr "payload" (.map [])
    hash := hash }

/-- A new entry with a canonical copy of its payload. -/
def stamp (clock : Clock) (seed : Seed) (tick : Value) (operation : Text) (payload : Value) :
    Except Fault Entry := do
  let snapshot := payload.canonical
  let timestamp ← clock.timestamp.mapError .time
  let hash ← snapshot.contentHash
  return {
    id := .str seed.identifier
    tick := tick
    timestamp := .str timestamp
    operation := .str operation
    payload := snapshot
    hash := .str hash }

/-- The payload of a step. -/
def stepPayload (inputs output : Value) : Value := .map [("input", inputs), ("output", output)]

end Entry

/-- Entries in the order in which they were appended. -/
abbrev Ledger := List Entry

def Ledger.steps (l : Ledger) : Ledger := l.filter fun e => !e.isViolation

def Ledger.toValue (l : Ledger) : Value := .list (l.map Entry.toValue)

/-- A stored ledger: the list of entries, or a run result that carries it. -/
def Ledger.ofValue (doc : Value) : Except Fault Ledger := do
  let entries := match doc with
    | .map _ => doc.fieldOr "ledger" (.list [])
    | v => v
  (← entries.elements).mapM Entry.ofValue

end RuleLedger
