import RuleLedger.Fields
import RuleLedger.Value.Helper

/-! Values of records and expressions: the shapes of JSON, and the callables that an expression may
put into a list. -/
namespace RuleLedger

inductive Value where
  | null
  | bool (b : Bool)
  | num (n : Number)
  | str (s : Text)
  | list (items : List Value)
  | map (fields : List (Text × Value))
  | helper (h : Helper)
  | method (receiver : Value) (m : Method)
deriving Inhabited, Repr

namespace Value

def int (n : Int) : Value := .num (.int n)

def float (x : Float) : Value := .num (.float x)

def nat (n : Nat) : Value := .int n

/-- A text or null. -/
def ofText? : Option Text → Value
  | some s => .str s
  | none => .null

/-- The name of a value's kind, as messages give it. -/
def kindName : Value → String
  | .null => "NoneType"
  | .bool _ => "bool"
  | .num (.int _) => "int"
  | .num (.float _) => "float"
  | .str _ => "str"
  | .list _ => "list"
  | .map _ => "dict"
  | .helper (.group _) => "Namespace"
  | .helper _ => "Builtin"
  | .method _ _ => "Builtin"

/-- The family a method belongs to. -/
def receiverName : Value → String
  | .str _ => "String"
  | .list _ => "Array"
  | _ => "Number"

/-- The name of a callable. -/
def methodName (receiver : Value) (m : Method) : String := receiver.receiverName ++ "." ++ m.name

def helperText (h : Helper) : String :=
  (if h.isGroup then "<namespace " else "<builtin ") ++ h.name ++ ">"

def methodText (receiver : Value) (m : Method) : String :=
  "<builtin " ++ methodName receiver m ++ ">"

/-- Whether two of this value could be told apart: lists, mappings and callables are things, the
other values are their content. -/
def isThing : Value → Bool
  | .list _ | .map _ | .helper _ | .method _ _ => true
  | _ => false

def isNaN : Value → Bool
  | .num n => n.isNaN
  | _ => false

mutual

/-- Only null, truth values, numbers, texts, and lists and mappings of such. -/
def isData : Value → Bool
  | .list xs => isDataItems xs
  | .map fs => isDataFields fs
  | .helper _ | .method _ _ => false
  | _ => true

def isDataItems : List Value → Bool
  | [] => true
  | v :: vs => isData v && isDataItems vs

def isDataFields : List (Text × Value) → Bool
  | [] => true
  | (_, v) :: fs => isData v && isDataFields fs

end

/-- A member of a mapping; other values have none. -/
def field? : Value → Text → Option Value
  | .map fs, k => Fields.get? fs k
  | _, _ => none

end Value
end RuleLedger
