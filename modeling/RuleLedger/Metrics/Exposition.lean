import RuleLedger.Value.Access

/-! Counters over many runs, and their text for a collector of metrics. -/
namespace RuleLedger

/-- Running totals by label, in the order in which labels were first seen. -/
abbrev Totals := Fields Float

/-- The upper bounds of the duration buckets in seconds; the last one holds every duration. -/
def bucketBounds : List Float :=
  [0.001, 0.005, 0.01, 0.05, 0.1, 0.5, 1.0, 5.0, 10.0, Binary64.infinity]

structure Collectors where
  steps : Totals
  violations : Totals
  /-- How many durations fell into each bucket and no earlier one. -/
  buckets : List Float
  durationSum : Float
deriving Repr

namespace Collectors

def empty : Collectors := ⟨[], [], bucketBounds.map fun _ => 0.0, 0.0⟩

/-- A value that can be counted with: a number, or a truth value as one or zero. -/
def amount? : Value → Option Number
  | .num n => some n
  | .bool b => some (.int (if b then 1 else 0))
  | _ => none

/-- Add an amount to a label. The label is known from then on, even when the amount is refused. -/
def add (totals : Totals) (label : Text) (amount : Value) : Totals × Option Fault :=
  let current := (Fields.get? totals label).getD 0.0
  let known := totals.put label current
  match amount? amount with
  | none => (known, some (.kind (.notOrdered amount.kindName "int")))
  | some n =>
    if n.lt (.int 0) then (known, some .negativeCount)
    else
      match n.toFloat with
      | .error f => (known, some (.numeric f))
      | .ok x => (known.put label (current + x), none)

/-- Add the amounts of a mapping until one is refused. -/
def addAll (totals : Totals) : List (Text × Value) → Totals × Option Fault
  | [] => (totals, none)
  | (label, amount) :: rest =>
    match add totals label amount with
    | (totals, none) => addAll totals rest
    | (totals, some f) => (totals, some f)

def noMember (v : Value) (member : String) : Fault := .kind (.noMember v.kindName member)

/-- A member of a document, with an empty mapping for an absent one. -/
def section? (doc : Value) (k : Text) : Except Fault Value := doc.section? k (.map [])

def rows (v : Value) : Except Fault (List (Text × Value)) :=
  match v with
  | .map fs => .ok fs
  | v => .error (noMember v "items")

/-- Put one duration into the first bucket that can hold it. -/
def bump (x : Float) : List Float → List Float → List Float
  | bound :: bounds, n :: ns =>
    if x ≤ bound then (n + 1.0) :: ns else n :: bump x bounds ns
  | _, ns => ns

def observe (c : Collectors) (seconds : Float) : Collectors :=
  { c with buckets := bump seconds bucketBounds c.buckets, durationSum := c.durationSum + seconds }

/-- A duration in seconds. -/
def seconds (v : Value) : Except Fault Float :=
  match amount? v with
  | none => .error (.kind (.operands "/" v.kindName "float"))
  | some n => (n.toFloat.mapError .numeric).map (· / 1000.0)

/-- The duration of a run in seconds, if it is given. -/
def duration? (snapshot : Value) : Except Fault (Option Float) := do
  match ← section? snapshot "timing" with
  | .map fs =>
    match (Fields.get? fs "durationMs").getD .null with
    | .null => return none
    | v => return some (← seconds v)
  | v => .error (noMember v "get")

def recordDuration (c : Collectors) (snapshot : Value) : Collectors × Option Fault :=
  match duration? snapshot with
  | .ok (some x) => (c.observe x, none)
  | .ok none => (c, none)
  | .error f => (c, some f)

/-- Add the snapshot of a run. What was added before a fault stays. -/
def record (c : Collectors) (metrics : Value) : Collectors × Option Fault :=
  match section? metrics "snapshot" with
  | .error f => (c, some f)
  | .ok snapshot =>
    match (section? snapshot "primitives").bind rows with
    | .error f => (c, some f)
    | .ok counts =>
      match addAll c.steps counts with
      | (steps, some f) => ({ c with steps := steps }, some f)
      | (steps, none) =>
        let c := { c with steps := steps }
        match ((section? snapshot "invariants").bind (section? · "violationsByType")).bind rows with
        | .error f => (c, some f)
        | .ok counts =>
          match addAll c.violations counts with
          | (violations, some f) => ({ c with violations := violations }, some f)
          | (violations, none) => { c with violations := violations }.recordDuration snapshot

end Collectors

/-! ### Text -/

/-- A sample: whole numbers keep a zero after the point, and numbers from a million on have one
digit before the point and a power of ten. -/
def sampleText (x : Float) : String :=
  if x.isNaN then "NaN"
  else if x.isInf then (if Binary64.isNegative x then "-Inf" else "+Inf")
  else
    let cs := (floatText x).toList
    let whole := cs.takeWhile (· ≠ '.')
    if 0.0 < x && cs.contains '.' && whole.length > 6 then
      let digits := whole.drop 1 ++ cs.drop (whole.length + 1)
      let mantissa := (whole.take 1 ++ '.' :: digits).reverse.dropWhile fun c => c = '0' || c = '.'
      String.ofList mantissa.reverse ++ "e+0" ++ toString (whole.length - 1)
    else String.ofList cs

/-- A label value between quotes. -/
def labelText (s : Text) : Text :=
  let escaped (c : Symbol) : List Symbol :=
    if c = '\\' then ['\\', '\\']
    else if c = '\n' then ['\\', 'n']
    else if c = '"' then ['\\', '"']
    else [c]
  "\"" ++ Text.ofList (s.toList.flatMap escaped) ++ "\""

def sampleLine (name label : String) (labelValue : Text) (x : Float) : Text :=
  name ++ "\x7b" ++ label ++ "=" ++ labelText labelValue ++ "\x7d " ++ sampleText x

def counterLines (name help label : String) (totals : Totals) : List Text :=
  ("# HELP " ++ name ++ " " ++ help) :: ("# TYPE " ++ name ++ " counter") ::
    totals.map fun t => sampleLine name label t.1 t.2

/-- Each bucket with the durations of it and of those below. -/
def cumulative (acc : Float) : List Float → List Float
  | [] => []
  | n :: ns => (acc + n) :: cumulative (acc + n) ns

namespace Collectors

/-- How many durations there are. -/
def count (c : Collectors) : Float := (cumulative 0.0 c.buckets).getLast?.getD 0.0

def durationLines (c : Collectors) : List Text :=
  let name := "kern_run_duration_seconds"
  let counts := cumulative 0.0 c.buckets
  let bucketLines : List Text := (bucketBounds.zip counts).map fun b =>
    sampleLine (name ++ "_bucket") "le" (sampleText b.1) b.2
  let totalLines : List Text := [name ++ "_count " ++ sampleText c.count,
    name ++ "_sum " ++ sampleText c.durationSum]
  ("# HELP " ++ name ++ " Duration of engine runs in seconds") ::
    ("# TYPE " ++ name ++ " histogram") :: (bucketLines ++ totalLines)

/-- The lines of the text file. -/
def lines (c : Collectors) : List Text :=
  counterLines "kern_steps_total" "Total number of primitive invocations" "primitive" c.steps ++
    counterLines "kern_violations_total" "Total number of invariant violations recorded"
      "violation_type" c.violations ++
    c.durationLines

/-- The content of the text file. -/
def content (c : Collectors) : Except Fault String :=
  (Text.joinLines c.lines).encode.mapError .encoding

end Collectors
end RuleLedger
