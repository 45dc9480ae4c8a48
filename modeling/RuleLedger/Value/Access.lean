import RuleLedger.Value.Display

/-! Taking values apart that were never checked: members that must be there, and elements in turn.
-/
namespace RuleLedger.Value

/-- A member that must be there; only a mapping has members by name. -/
def require (v : Value) (k : Text) : Except Fault Value :=
  match v with
  | .map fs =>
    match Fields.get? fs k with
    | some x => .ok x
    | none => .error (.missingKey k)
  | .list _ => .error (.kind .listKey)
  | .str _ => .error (.kind .textKey)
  | v => .error (.kind (.notSubscriptable v.kindName))

/-- A member of a mapping, or the value that stands for an absent one. -/
def fieldOr (v : Value) (k : Text) (absent : Value) : Value := (v.field? k).getD absent

/-- The same for a value that has to be a mapping. -/
def section? (v : Value) (k : Text) (absent : Value) : Except Fault Value :=
  match v with
  | .map _ => .ok (v.fieldOr k absent)
  | v => .error (.kind (.noMember v.kindName "get"))

/-- The values met by going through a list, the keys of a mapping or the symbols of a text. -/
def elements : Value → Except Fault (List Value)
  | .list xs => .ok xs
  | .map fs => .ok (fs.map fun f => .str f.1)
  | .str s => .ok (s.toList.map fun c => .str (Text.singleton c))
  | v => .error (.kind (.notIterable v.kindName))

/-- The key and the value that an element of a list of pairs holds. -/
def pair (i : Nat) (v : Value) : Except Fault (Text × Value) := do
  match (← v.elements.mapError fun _ => .kind (.notPair i)) with
  | [k, x] =>
    match k with
    | .list _ | .map _ => .error (.kind (.notKey k.kindName))
    | k => return (← k.plain.mapError .numeric, x)
  | xs => .error (.pairLength i xs.length)

def pairsFrom (i : Nat) : List Value → Except Fault (List (Text × Value))
  | [] => .ok []
  | v :: vs => do
    let p ← pair i v
    return p :: (← pairsFrom (i + 1) vs)

/-- The fields of a mapping, or of a list of pairs. -/
def toFields : Value → Except Fault (Fields Value)
  | .map fs => .ok fs
  | v => do return Fields.ofPairs (← pairsFrom 0 (← v.elements))

/-- Null, false, zero, and the empty text, list and mapping stand for nothing given. -/
def isVoid : Value → Bool
  | .null => true
  | .bool b => !b
  | .num n => n.isZero
  | .str s => s = ""
  | .list xs => xs.isEmpty
  | .map fs => fs.isEmpty
  | _ => false

def text? : Value → Option Text
  | .str s => some s
  | _ => none

end RuleLedger.Value
