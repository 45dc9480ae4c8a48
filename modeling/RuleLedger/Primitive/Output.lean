import RuleLedger.Record.Basic
import RuleLedger.Value.Display

/-! What a primitive answers. -/
namespace RuleLedger

/-- The answer of a primitive: how the call ended, the fields it produced, and what the primitive
says about a call that did not complete, null when it says nothing. -/
inductive Output where
  | completed (fields : Fields Datum)
  | skipped (reason : Value) (fields : Fields Datum)
  | failed (error : Value) (fields : Fields Datum)
  | flagged (violation : Value) (fields : Fields Datum)
deriving Repr

namespace Output

def violationKey : String := "_violation"

def kindName : Output → String
  | .completed _ => "completed"
  | .skipped _ _ => "skipped"
  | .failed _ _ => "error"
  | .flagged _ _ => "violation"

def isFailed : Output → Bool
  | .failed _ _ => true
  | _ => false

def isFlagged : Output → Bool
  | .flagged _ _ => true
  | _ => false

/-- The fields as they are stored and read by later stages. A reason and an error stand in front and
give way to fields of their names; a violation does not give way. -/
def rendered : Output → Fields Datum
  | .completed fs => fs
  | .skipped reason fs =>
    Fields.putAll [("skipped", .bool true), ("reason", .plain reason)] fs
  | .failed error fs => Fields.putAll [("error", .plain error)] fs
  | .flagged violation fs => Fields.put fs violationKey (.plain violation)

/-- The rendered fields as a plain mapping. -/
def toValue (o : Output) : Value := .map (Fields.mapValues Datum.value o.rendered)

end Output

/-- A value in a message. -/
def Value.shown (v : Value) : Text :=
  match v.plain with
  | .ok s => s
  | .error f => f.message

/-- A value in a message, a text between quotes. -/
def Value.shownQuoted (v : Value) : Text :=
  match v.display with
  | .ok s => s
  | .error f => f.message

end RuleLedger
