import RuleLedger.Expr.Coercion
import RuleLedger.Expr.MathFunctions
import RuleLedger.Record.Basic
import RuleLedger.Text.Search

/-! What an expression can reach: the members of a record, the helpers, and the members of values.
-/
namespace RuleLedger

/-- Things are equal when they are one and the same, the other data when their values are. -/
def Datum.strictEqual (a b : Datum) : Bool :=
  match a.identity?, b.identity? with
  | none, none => a.value.strictEqual false b.value
  | i, j => i == j

def Datum.looseEqual (a b : Datum) : Bool :=
  match a.identity?, b.identity? with
  | none, none => a.value.looseEqual false b.value
  | i, j => i == j

namespace Expr

/-- The clock and the seed of the generators that a template can call. -/
structure Generators where
  clock : Clock
  seed : Seed

/-- What names resolve to: the members of the record, then the helpers. Without generators an
expression has the other helpers. -/
structure Environment where
  record : Record
  generators : Option Generators

/-! ### Helpers -/

def mathConstants : List (Text × Value) := [("PI", .float piValue), ("E", .float eulerValue)]

def groupValues : Group → List (Text × Value)
  | .math =>
    (MathFunction.all.map fun f => (.ofString f.name, Value.helper (.math f))) ++ mathConstants
  | .number => NumberFunction.all.map fun f => (f.name, .helper (.number f))

/-- A helper that every expression can reach; a group comes with its members. -/
def shelved (h : Helper) : Datum :=
  match h with
  | .group g => .group (.shelf g.name) g ((groupValues g).map fun m =>
      (m.1, match m.2 with
        | .helper h => .helper (.shelf h.name) h
        | v => .plain v))
  | h => .helper (.shelf h.name) h

/-- A generator; it is one thing during the work of one seed. -/
def Generators.helper (g : Generators) (h : Helper) : Datum :=
  .helper (.part g.seed [.key h.name]) h

namespace Environment

def helper? (env : Environment) (n : Text) : Option Datum :=
  if n = "Math" then some (shelved (.group .math))
  else if n = "Number" then some (shelved (.group .number))
  else if n = "now" then env.generators.map fun g => g.helper (.now g.clock)
  else if n = "uuid" then env.generators.map fun g => g.helper .uuid
  else (Conversion.all.find? (·.name == n)).map fun f => shelved (.convert f)

/-- A name in the record; a record that is a list or a text has members but no names for them. -/
def recordName? (env : Environment) (n : Text) : Except Fault (Option Datum) :=
  match env.record.root with
  | .fields ms => .ok (Fields.get? ms n)
  | .other d =>
    match d.value with
    | .list xs =>
      if xs.any fun x => x.strictEqual false (.str n) then .error (.kind .listKey) else .ok none
    | .str s => if Text.occursIn n.toList s.toList then .error (.kind .textKey) else .ok none
    | v => .error (.kind (.notContainer v.kindName))

def name (env : Environment) (n : Text) : Except Fault Datum :=
  match env.recordName? n with
  | .error f => .error f
  | .ok (some d) => .ok d
  | .ok none =>
    match env.helper? n with
    | some d => .ok d
    | none => .error (.evaluation (.undefined n))

end Environment

/-! ### Members -/

/-- A method of a family by its name; other names are null. -/
def methodNamed (seed : Seed) (receiver : Datum) (family : List Method) (n : Text) : Datum :=
  match family.find? (·.name == n) with
  | some m => .method (.part seed []) receiver m
  | none => .null

/-- The member of a datum by name. Null has none to ask for; a missing one is null. Every reading of
a method gives a new one, the one of the seed. -/
def member (seed : Seed) (d : Datum) (n : Text) : Except Fault Datum :=
  match d with
  | .group _ g ms =>
    match Fields.get? ms n with
    | some m => .ok m
    | none => .error (.evaluation (.notAvailable g.name n))
  | .null => .error (.evaluation (.nullRead n))
  | .map _ fs => .ok ((Fields.get? fs n).getD .null)
  | .str s => .ok (if n = "length" then .nat s.length else methodNamed seed d Method.ofText n)
  | .list _ xs => .ok (if n = "length" then .nat xs.length else methodNamed seed d Method.ofList n)
  | .num _ => .ok (methodNamed seed d Method.ofNumber n)
  | _ => .ok .null

/-- An integer key within a length. -/
def position? (key : Value) (length : Nat) : Option Nat :=
  match key.toNumber with
  | .int n => if 0 ≤ n && n < length then some n.toNat else none
  | .float _ => none

/-- A text as key of a list or text is a member name when it is no position. -/
def memberByKey (seed : Seed) (d : Datum) (key : Value) : Except Fault Datum :=
  match key with
  | .str n => member seed d n
  | _ => .ok .null

def numeric {α : Type} (r : Except NumericFault α) : Except Fault α := r.mapError .numeric

def index (seed : Seed) (d : Datum) (key : Value) : Except Fault Datum :=
  match d with
  | .null => do .error (.evaluation (.nullRead (← numeric key.toText)))
  | .list _ xs =>
    match position? key xs.length with
    | some i => .ok (xs.getD i .null)
    | none => memberByKey seed d key
  | .str s =>
    match position? key s.length with
    | some i => .ok (.str ⟨(s.toList.drop i).take 1⟩)
    | none => memberByKey seed d key
  | .map _ _ => do member seed d (← numeric key.toText)
  | .group _ _ _ => do member seed d (← numeric key.toText)
  | _ => .ok .null

end Expr
end RuleLedger
