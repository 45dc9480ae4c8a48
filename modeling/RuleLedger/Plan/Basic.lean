import RuleLedger.Value.Access

/-! Plans: the ordered steps that a run executes, as read from a plan document. -/
namespace RuleLedger

/-- One unit of work: the primitive to call, the paths that feed it, the paths its output goes to,
and fixed parameters. -/
structure Step where
  id : Text
  primitive : Text
  inputs : List Text
  outputs : List Text
  params : Fields Value
deriving Repr

structure Plan where
  steps : List Step
  metadata : Fields Value
  contracts : Fields Value
deriving Repr

/-- A part of a document, or everything that is wrong with it, with the way to each misfit. -/
abbrev Fitted (α : Type) := Except (List (List Locus × Misfit)) α

namespace Fitted

variable {α β : Type}

def misfits : Fitted α → List (List Locus × Misfit)
  | .ok _ => []
  | .error ms => ms

def misfit (m : Misfit) : Fitted α := .error [([], m)]

/-- The same, seen from one level farther out. -/
def within (l : Locus) (r : Fitted α) : Fitted α :=
  r.mapError fun ms => ms.map fun m => (l :: m.1, m.2)

/-- Both parts, or the misfits of both. -/
def both (a : Fitted α) (b : Fitted β) : Fitted (α × β) :=
  match a, b with
  | .ok x, .ok y => .ok (x, y)
  | a, b => .error (a.misfits ++ b.misfits)

/-- All parts of a list, or the misfits of all. -/
def all (fit : Value → Fitted α) (i : Nat) : List Value → Fitted (List α)
  | [] => .ok []
  | v :: vs => (both (within (.item i) (fit v)) (all fit (i + 1) vs)).map fun p => p.1 :: p.2

def text : Value → Fitted Text
  | .str s => .ok s
  | _ => misfit .notText

def mapping : Value → Fitted (Fields Value)
  | .map fs => .ok fs
  | _ => misfit .notMapping

def texts : Value → Fitted (List Text)
  | .list xs => all text 0 xs
  | _ => misfit .notList

/-- A member that must be there. -/
def required (fit : Value → Fitted α) (fs : Fields Value) (k : Text) : Fitted α :=
  within (.key k) <| match Fields.get? fs k with
    | some v => fit v
    | none => misfit .missing

/-- A member with a value to stand for an absent one. -/
def optional (fit : Value → Fitted α) (absent : α) (fs : Fields Value) (k : Text) : Fitted α :=
  within (.key k) <| match Fields.get? fs k with
    | some v => fit v
    | none => .ok absent

end Fitted

open Fitted in
/-- A step is a mapping with a textual id and primitive; the rest of it may be absent. -/
def Step.ofValue : Value → Fitted Step
  | .map fs =>
    (both (required text fs "id") (both (required text fs "primitive")
      (both (optional texts [] fs "input_fields") (both (optional texts [] fs "output_fields")
        (optional mapping [] fs "params"))))).map
      fun (id, primitive, inputs, outputs, params) => ⟨id, primitive, inputs, outputs, params⟩
  | _ => misfit .notStep

namespace Plan

/-- A block beside the steps: a mapping, or nothing given. -/
def block (doc : Value) (k : Text) : Fitted (Fields Value) :=
  Fitted.within (.key k) <| match doc.field? k with
    | none => .ok []
    | some v => if v.isVoid then .ok [] else Fitted.mapping v

open Fitted in
/-- A plan from its list of steps and the document that holds the other blocks. -/
def ofSteps (steps : List Value) (doc : Value) : Except Fault Plan :=
  match both (within (.key "steps") (all Step.ofValue 0 steps))
    (both (block doc "metadata") (block doc "contracts")) with
  | .ok (steps, metadata, contracts) => .ok ⟨steps, metadata, contracts⟩
  | .error ms => .error (.plan (.invalid ms))

/-- A plan document is the list of steps, or a mapping that carries it. -/
def ofValue (doc : Value) : Except Fault Plan :=
  match doc with
  | .list steps => ofSteps steps .null
  | doc =>
    match doc.field? "transformation_pipeline" with
    | none => .error (.plan .noSteps)
    | some (.list steps) => ofSteps steps doc
    | some _ => .error (.plan .stepsNotList)

end Plan
end RuleLedger
