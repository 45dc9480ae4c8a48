import RuleLedger.KeyPath
import RuleLedger.Record.Identity

/-! Values whose things have identities. A list written by an expression may hold one thing at
several places; all of them carry its identity, and a later write into the thing shows at each. A
method that was read from a list keeps hold of that very list. -/
namespace RuleLedger

inductive Datum where
  | null
  | bool (b : Bool)
  | num (n : Number)
  | str (s : Text)
  | list (id : Identity) (items : List Datum)
  | map (id : Identity) (fields : List (Text × Datum))
  | group (id : Identity) (g : Group) (members : List (Text × Datum))
  | helper (id : Identity) (h : Helper)
  | method (id : Identity) (receiver : Datum) (m : Method)
deriving Inhabited, Repr

namespace Datum

def int (n : Int) : Datum := .num (.int n)

def nat (n : Nat) : Datum := .int n

/-- The identity of a thing; the other data are their content. -/
def identity? : Datum → Option Identity
  | .list i _ | .map i _ | .group i _ _ | .helper i _ | .method i _ _ => some i
  | _ => none

/-- The members of a mapping. -/
def members? : Datum → Option (Fields Datum)
  | .map _ fs => some fs
  | _ => none

mutual

/-- The value of a datum, its identities forgotten. -/
def value : Datum → Value
  | .null => .null
  | .bool b => .bool b
  | .num n => .num n
  | .str s => .str s
  | .list _ xs => .list (itemValues xs)
  | .map _ fs => .map (fieldValues fs)
  | .group _ g _ => .helper (.group g)
  | .helper _ h => .helper h
  | .method _ r m => .method r.value m

def itemValues : List Datum → List Value
  | [] => []
  | d :: ds => d.value :: itemValues ds

def fieldValues : List (Text × Datum) → List (Text × Value)
  | [] => []
  | (k, d) :: fs => (k, d.value) :: fieldValues fs

end

mutual

/-- A value in which every thing is one of its own: the thing at its place of a whole that is made
at a seed. -/
def ofValue (seed : Seed) (place : Place) : Value → Datum
  | .null => .null
  | .bool b => .bool b
  | .num n => .num n
  | .str s => .str s
  | .list xs => .list (.part seed place) (ofItems seed place 0 xs)
  | .map fs => .map (.part seed place) (ofFields seed place fs)
  | .helper (.group g) => .group (.part seed place) g []
  | .helper h => .helper (.part seed place) h
  | .method r m => .method (.part seed place) (ofValue seed (.item 0 :: place) r) m

def ofItems (seed : Seed) (place : Place) (i : Nat) : List Value → List Datum
  | [] => []
  | v :: vs => ofValue seed (.item i :: place) v :: ofItems seed place (i + 1) vs

def ofFields (seed : Seed) (place : Place) : List (Text × Value) → List (Text × Datum)
  | [] => []
  | (k, v) :: fs => (k, ofValue seed (.key k :: place) v) :: ofFields seed place fs

end

/-- A value that is about to be copied. -/
def plain (v : Value) : Datum := ofValue ⟨[]⟩ [] v

mutual

/-- A copy of a datum. What is one thing stays one thing; a copied method keeps its receiver. -/
def copy (seed : Seed) : Datum → Datum
  | .list i xs => .list (.copy seed i) (copyItems seed xs)
  | .map i fs => .map (.copy seed i) (copyFields seed fs)
  | .group i g ms => .group (.copy seed i) g (copyFields seed ms)
  | .helper i h => .helper (.copy seed i) h
  | .method i r m => .method (.copy seed i) r m
  | d => d

def copyItems (seed : Seed) : List Datum → List Datum
  | [] => []
  | d :: ds => copy seed d :: copyItems seed ds

def copyFields (seed : Seed) : List (Text × Datum) → List (Text × Datum)
  | [] => []
  | (k, d) :: fs => (k, copy seed d) :: copyFields seed fs

end

/-! ### Reading and writing below a datum -/

/-- The datum that segments lead to, none when one of them is absent. -/
def getIn : List Text → Datum → Except NumericFault (Option Datum)
  | [], d => .ok (some d)
  | seg :: segs, .map _ fs =>
    match Fields.get? fs seg with
    | some d => getIn segs d
    | none => .ok none
  | seg :: segs, .list _ xs =>
    match KeyPath.index? seg xs.length with
    | .error f => .error f
    | .ok none => .ok none
    | .ok (some i) =>
      match xs[i]? with
      | some d => getIn segs d
      | none => .ok none
  | _ :: _, _ => .ok none

/-- A slot of a container that gets new content. -/
structure Change where
  container : Identity
  slot : Slot
  content : Datum

/-- A datum inside new mappings, one for each segment. -/
def nest (seed : Seed) (new : Datum) (place : Place) : List Text → Datum
  | [] => new
  | seg :: segs => .map (.part seed place) [(seg, nest seed new (.key seg :: place) segs)]

/-- The change that writes below a datum, at a segment and those after it. Absent and null members
of mappings become mappings on the way; nothing else that is not a container is passed through. -/
def change (p : KeyPath) (seed : Seed) (new : Datum) (seg : Text) :
    List Text → Datum → Except Fault Change
  | [], .map i _ => .ok ⟨i, .key seg, new⟩
  | next :: rest, .map i fs =>
    match Fields.get? fs seg with
    | none | some .null => .ok ⟨i, .key seg, nest seed new [] (next :: rest)⟩
    | some d => change p seed new next rest d
  | rest, .list i xs =>
    match KeyPath.index? seg xs.length with
    | .error f => .error (.numeric f)
    | .ok none =>
      .error (.path (if rest.isEmpty then .cannotAssign "list" seg p.text
        else .cannotDescend "list" seg p.text))
    | .ok (some k) =>
      match rest with
      | [] => .ok ⟨i, .item k, new⟩
      | next :: rest => change p seed new next rest (xs.getD k .null)
  | rest, d =>
    .error (.path (if rest.isEmpty then .cannotAssign d.value.kindName seg p.text
      else .cannotDescend d.value.kindName seg p.text))

/-- Put content into a slot of a container. -/
def put (s : Slot) (content : Datum) : Datum → Datum
  | .map i fs =>
    match s with
    | .key name => .map i (Fields.put fs name content)
    | .item _ => .map i fs
  | .list i xs =>
    match s with
    | .item k => .list i (xs.set k content)
    | .key _ => .list i xs
  | d => d

mutual

/-- Make a change wherever its container is held. -/
def apply (c : Change) : Datum → Datum
  | .list i xs =>
    if i = c.container then put c.slot c.content (.list i xs) else .list i (applyItems c xs)
  | .map i fs =>
    if i = c.container then put c.slot c.content (.map i fs) else .map i (applyFields c fs)
  | d => d

def applyItems (c : Change) : List Datum → List Datum
  | [] => []
  | d :: ds => apply c d :: applyItems c ds

def applyFields (c : Change) : List (Text × Datum) → List (Text × Datum)
  | [] => []
  | (k, d) :: fs => (k, apply c d) :: applyFields c fs

end

/-! ### Receivers of methods -/

mutual

/-- The lists that methods inside a datum were read from, and those inside these. -/
def receivers : Datum → List Datum
  | .list _ xs => itemReceivers xs
  | .map _ fs => fieldReceivers fs
  | .method _ (.list i xs) _ => .list i (anchorItems xs) :: itemReceivers xs
  | _ => []

def itemReceivers : List Datum → List Datum
  | [] => []
  | d :: ds => receivers d ++ itemReceivers ds

def fieldReceivers : List (Text × Datum) → List Datum
  | [] => []
  | (_, d) :: fs => receivers d ++ fieldReceivers fs

/-- The same datum with methods that keep no more of their lists than the identity. -/
def anchor : Datum → Datum
  | .list i xs => .list i (anchorItems xs)
  | .map i fs => .map i (anchorFields fs)
  | .method i (.list r _) m => .method i (.list r []) m
  | d => d

def anchorItems : List Datum → List Datum
  | [] => []
  | d :: ds => anchor d :: anchorItems ds

def anchorFields : List (Text × Datum) → List (Text × Datum)
  | [] => []
  | (k, d) :: fs => (k, anchor d) :: anchorFields fs

end

end Datum
end RuleLedger
