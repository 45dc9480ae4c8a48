import RuleLedger.Number.Numeral
import RuleLedger.Text.Split
import RuleLedger.Value.Basic

/-! Paths into nested values: dotted texts such as "applicant.income.monthly". The path without
segments, written "*", addresses the whole record. -/
namespace RuleLedger

structure KeyPath where
  segments : List Text
deriving Repr, DecidableEq

namespace KeyPath

def wildcardText : Text := "*"

/-- Read a dotted text that has no empty segment. -/
def ofText (text : Text) : Except PathFault KeyPath :=
  if text = "" then .error .invalid
  else if text = wildcardText then .ok ⟨[]⟩
  else
    let parts := Text.splitAt '.' text
    if parts.contains "" then .error (.emptySegment text) else .ok ⟨parts⟩

/-- Only a text can spell a path. -/
def parse : Value → Except PathFault KeyPath
  | .str s => ofText s
  | _ => .error .invalid

def isWildcard (p : KeyPath) : Bool := p.segments.isEmpty

/-- The last segment, or the wildcard. -/
def leaf (p : KeyPath) : Text := p.segments.getLast?.getD wildcardText

def text (p : KeyPath) : Text :=
  if p.isWildcard then wildcardText else Text.intercalate "." p.segments

/-- The place in a list of the given length that a segment denotes. A segment of digits is a number
in any script; an ornamental digit counts as a digit and then fails to be read. -/
def index? (segment : Text) (length : Nat) : Except NumericFault (Option Nat) :=
  let cs := segment.toList
  if cs.isEmpty || !cs.all Text.isDigit then .ok none
  else do
    let n ← Numeral.readWhole segment
    return if n < length then some n else none

/-- The value that segments lead to, none when one of them is absent. -/
def getIn : List Text → Value → Except NumericFault (Option Value)
  | [], v => .ok (some v)
  | seg :: segs, .map fs =>
    match Fields.get? fs seg with
    | some v => getIn segs v
    | none => .ok none
  | seg :: segs, .list xs =>
    match index? seg xs.length with
    | .error f => .error f
    | .ok none => .ok none
    | .ok (some i) =>
      match xs[i]? with
      | some v => getIn segs v
      | none => .ok none
  | _ :: _, _ => .ok none

def get? (p : KeyPath) (root : Value) : Except NumericFault (Option Value) := getIn p.segments root

/-- Why nothing is written into a value of a kind at a segment, with those after it. -/
def refusal (p : KeyPath) (kind : String) (seg : Text) (rest : List Text) : PathFault :=
  if rest.isEmpty then .cannotAssign kind seg p.text else .cannotDescend kind seg p.text

/-- Write below a value. Absent and null members of mappings become mappings on the way; nothing
else that is not a container is passed through. -/
def setIn (p : KeyPath) (new : Value) : List Text → Value → Except Fault Value
  | [], _ => .ok new
  | seg :: segs, .map fs => do
    let child := match Fields.get? fs seg with
      | none | some .null => .map []
      | some v => v
    return .map (Fields.put fs seg (← setIn p new segs child))
  | seg :: segs, .list xs =>
    match index? seg xs.length with
    | .error f => .error (.numeric f)
    | .ok none => .error (.path (p.refusal "list" seg segs))
    | .ok (some i) => do return .list (xs.set i (← setIn p new segs (xs.getD i .null)))
  | seg :: segs, v => .error (.path (p.refusal v.kindName seg segs))

/-- Write at a path. The whole of a mapping is only replaced by a mapping. -/
def set (p : KeyPath) (root new : Value) : Except Fault Value :=
  if p.isWildcard then
    match new with
    | .map fs =>
      match root with
      | .map _ => .ok (.map fs)
      | .list _ => .error (.kind (.noMember "list" "update"))
      | v => .error (.kind (.noMember v.kindName "clear"))
    | _ => .error (.path .wholeRecord)
  else p.setIn new p.segments root

/-! ### Writing in place -/

/-- Write below a value in place, at a segment and those after it: what the walk leaves of the
value, and the fault that stops it. Absent and null members of mappings are mappings before the walk
goes on in them, and what is left below a value stays in it, also after a fault. -/
def writeIn (p : KeyPath) (new : Value) : Text → List Text → Value → Value × Option Fault
  | seg, [], .map fs => (.map (Fields.put fs seg new), none)
  | seg, next :: rest, .map fs =>
    let child := match Fields.get? fs seg with
      | none | some .null => .map []
      | some v => v
    let (left, fault) := writeIn p new next rest child
    (.map (Fields.put fs seg left), fault)
  | seg, rest, .list xs =>
    match index? seg xs.length with
    | .error f => (.list xs, some (.numeric f))
    | .ok none => (.list xs, some (.path (p.refusal "list" seg rest)))
    | .ok (some i) =>
      match rest with
      | [] => (.list (xs.set i new), none)
      | next :: rest =>
        let (left, fault) := writeIn p new next rest (xs.getD i .null)
        (.list (xs.set i left), fault)
  | seg, rest, v => (v, some (.path (p.refusal v.kindName seg rest)))

/-- Put a mapping in the place of the whole. A list is emptied before the mapping is refused. -/
def replaceWhole (root new : Value) : Value × Option Fault :=
  match new with
  | .map fs =>
    match root with
    | .map _ => (.map fs, none)
    | .list _ => (.list [], some (.kind (.noMember "list" "update")))
    | v => (v, some (.kind (.noMember v.kindName "clear")))
  | _ => (root, some (.path .wholeRecord))

/-- The root after an attempt to write, and the fault if there is one. -/
def write (p : KeyPath) (root new : Value) : Value × Option Fault :=
  match p.segments with
  | [] => replaceWhole root new
  | seg :: rest => p.writeIn new seg rest root

end KeyPath
end RuleLedger
