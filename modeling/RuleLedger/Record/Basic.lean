import RuleLedger.Record.Datum

/-! The record of a run. It is a mapping, though a run may also be started on a value that is no
mapping. A write into a thing shows wherever the thing stands, in other members as well. Beside the
record stand the lists that methods in it were read from. Such a list changes with the record as
long as it is part of it. -/
namespace RuleLedger

inductive Root where
  | fields (members : Fields Datum)
  | other (datum : Datum)
deriving Repr

structure Record where
  root : Root
  held : List Datum
deriving Repr

namespace Record

def empty : Record := ⟨.fields [], []⟩

/-- A value as a record whose things are made at a seed. -/
def ofValue (seed : Seed) : Value → Record
  | .map fs => ⟨.fields (Datum.ofFields seed [] fs), []⟩
  | v => ⟨.other (.ofValue seed [] v), []⟩

def value (r : Record) : Value :=
  match r.root with
  | .fields ms => .map (Datum.fieldValues ms)
  | .other d => d.value

/-- The whole record as one datum. -/
def whole (r : Record) (seed : Seed) : Datum :=
  match r.root with
  | .fields ms => .map (.part seed []) ms
  | .other d => d

def get? (r : Record) (seed : Seed) (p : KeyPath) : Except NumericFault (Option Datum) :=
  match r.root, p.segments with
  | .fields ms, seg :: segs =>
    match Fields.get? ms seg with
    | some d => d.getIn segs
    | none => .ok none
  | .other d, seg :: segs => d.getIn (seg :: segs)
  | _, [] => .ok (some (r.whole seed))

/-- The list of an identity, if a method holds it. -/
def held? (r : Record) (i : Identity) : Option Datum := r.held.find? (·.identity? == some i)

/-- What a method was read from, as it is now. -/
def current (r : Record) (receiver : Datum) : Datum :=
  (receiver.identity?.bind r.held?).getD receiver

/-- Hold one more list, unless it is held. -/
def holdList (held : List Datum) (l : Datum) : List Datum :=
  if held.any (·.identity? == l.identity?) then held else held ++ [l]

/-- The lists that are held once the methods of a datum are in the record. -/
def holding (r : Record) (d : Datum) : List Datum := d.receivers.foldl holdList r.held

/-- Write a datum that is not part of the record yet. -/
def set (r : Record) (p : KeyPath) (seed : Seed) (new : Datum) : Except Fault Record :=
  let held := r.holding new
  let new := new.anchor
  match r.root, p.segments with
  | .fields ms, [seg] => .ok ⟨.fields (Fields.put ms seg new), held⟩
  | .fields ms, seg :: next :: rest =>
    match Fields.get? ms seg with
    | none | some .null =>
      .ok ⟨.fields (Fields.put ms seg (.nest seed new [] (next :: rest))), held⟩
    | some d =>
      (Datum.change p seed new next rest d).map fun c =>
        ⟨.fields (Fields.mapValues (Datum.apply c) ms), held.map (Datum.apply c)⟩
  | .other d, seg :: rest =>
    (Datum.change p seed new seg rest d).map fun c =>
      ⟨.other (d.apply c), held.map (Datum.apply c)⟩
  | .fields _, [] =>
    match new with
    | .map _ fs => .ok ⟨.fields fs, held⟩
    | _ => .error (.path .wholeRecord)
  | .other d, [] => (p.set d.value new.value).map (ofValue seed)

/-- What a failed write leaves. -/
def remains (r : Record) (p : KeyPath) (new : Datum) : Record :=
  match p.segments, r.root, new with
  | [], .other (.list i _), .map _ _ => { r with root := .other (.list i []) }
  | _, _, _ => r

/-- Write the copy of a datum that is made at a seed. The record after the attempt, and the fault if
there is one. -/
def write (r : Record) (p : KeyPath) (seed : Seed) (new : Datum) : Record × Option Fault :=
  match r.set p seed (new.copy seed) with
  | .ok r' => (r', none)
  | .error f => (r.remains p new, some f)

end Record
end RuleLedger
