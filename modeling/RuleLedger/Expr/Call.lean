import RuleLedger.Expr.Scope
import RuleLedger.Text.Case

/-! Calls of helpers and methods. -/
namespace RuleLedger.Expr

/-- A fault of a helper's own work carries the helper's name. -/
def helperFault (name : String) (f : NumericFault) : Fault := .evaluation (.helper name f.message)

def attempt (name : String) (r : Except NumericFault Value) : Except Fault Value :=
  r.mapError (helperFault name)

/-- Refuse a number of arguments that does not fit. -/
def checkCount (name : String) (s : Signature) (given : Nat) : Except Fault Unit :=
  if s.admits given then .ok () else .error (.evaluation (.arity name (s.complaint given)))

/-- Whether a number is finite; an integer beyond the doubles cannot be asked. -/
def isFiniteNumber (v : Value) : Except NumericFault Bool :=
  match v with
  | .num n => do return (← n.toFloat).isFinite
  | _ => .ok false

def isWholeNumber (v : Value) : Except NumericFault Bool := do
  if !(← isFiniteNumber v) then return false
  match v with
  | .num (.float x) => return ((Dyadic.ofFloat? x).map Dyadic.isWhole).getD false
  | _ => return true

def NumberFunction.apply (f : NumberFunction) (v : Value) : Except NumericFault Value :=
  match f with
  | .isNaN => .ok (.bool v.isNaN)
  | .isFinite => (isFiniteNumber v).map .bool
  | .isInteger => (isWholeNumber v).map .bool
  | .parseFloat => v.parseFloat
  | .parseInt => v.parseInt

/-- The conversion of an argument, or of none. -/
def Conversion.apply (f : Conversion) (v? : Option Value) : Except NumericFault Value :=
  let v := v?.getD .null
  match f with
  | .string => (v?.getD (.str "")).toText.map .str
  | .boolean => .ok (.bool v.truthy)
  | .isNaN => .ok (.bool v.toNumber.isNaN)
  | .isFinite => (isFiniteNumber (.num v.toNumber)).map .bool
  | .parseFloat => v.parseFloat
  | .parseInt => v.parseInt

/-- Call a helper; the seed is that of the place of the call. -/
def callHelper (seed : Seed) (h : Helper) (args : List Value) : Except Fault Value :=
  match h with
  | .math f =>
    match f.apply (args.map Value.toNumber) with
    | .ok n => .ok (.num n)
    | .error complaint => .error (.evaluation (.arity h.name complaint))
  | .number f => do
    checkCount h.name h.signature args.length
    attempt h.name (NumberFunction.apply f (args.headD .null))
  | .convert f => do
    checkCount h.name h.signature args.length
    attempt h.name (Conversion.apply f args.head?)
  | .group _ => do
    checkCount h.name h.signature args.length
    return .num (args.headD (.int 0)).toNumber
  | .now clock => do
    checkCount h.name h.signature args.length
    match clock.timestamp with
    | .ok s => return .str s
    | .error .calendar => .error (.time .calendar)
    | .error f => .error (.evaluation (.helper h.name f.message))
  | .uuid => do
    checkCount h.name h.signature args.length
    return .str seed.identifier

/-- The greatest number of places that a number is written with. -/
def maxPlaces : Nat := 100

/-- A number with a fixed number of places; a fraction of a place is cut off. -/
def toFixed (n : Number) (places : Value) : Except Fault Value := do
  let d := places.toNumber
  let d := if d.isNaN then .int 0 else d
  if !(Number.le (.int 0) d && d.le (.int maxPlaces)) then .error (.evaluation .places)
  let count := match d.wholeBy? Dyadic.truncate with
    | some (.int k) => k.toNat
    | _ => 0
  let x ← n.toFloat.mapError (helperFault "Number.toFixed")
  match Dyadic.ofFloat? x with
  | some exact => return .str (fixedText exact count)
  | none => (numeric (Value.numberText n)).map fun s => .str s

/-- The position of the first item that is strictly equal. -/
def indexOf? (items : List Datum) (d : Datum) : Option Nat := items.findIdx? (·.strictEqual d)

def callText (name : String) (s : Text) (m : Method) (arg? : Option Value) : Except Fault Value :=
  let wanted : Except Fault (List Symbol) :=
    ((arg?.getD (.str "")).toText.mapError (helperFault name)).map Text.toList
  match m with
  | .includes => do return .bool (Text.occursIn (← wanted) s.toList)
  | .startsWith => do return .bool ((← wanted).isPrefixOf s.toList)
  | .endsWith => do return .bool ((← wanted).isSuffixOf s.toList)
  | .toLowerCase => .ok (.str (Text.lower s))
  | .toUpperCase => .ok (.str (Text.upper s))
  | .trim => .ok (.str (Text.strip s))
  | _ => .ok .null

def callList (name : String) (items : List Datum) (m : Method) (arg? : Option Datum) :
    Except Fault Value :=
  let found := indexOf? items (arg?.getD .null)
  match m with
  | .includes => .ok (.bool found.isSome)
  | .indexOf => .ok (match found with | some i => .nat i | none => .int (-1))
  | .join => do
    let separator ← ((arg?.map Datum.value).getD (.str ",")).toText.mapError (helperFault name)
    let texts ← (Value.itemTexts (Datum.itemValues items)).mapError (helperFault name)
    return .str (separator.intercalate texts)
  | _ => .ok .null

/-- Call a method on the receiver it was read from, as the receiver is now. -/
def callMethod (env : Environment) (receiver : Datum) (m : Method) (args : List Datum) :
    Except Fault Value := do
  let receiver := env.record.current receiver
  let name := Value.methodName receiver.value m
  checkCount name (m.signature receiver.value) args.length
  match receiver with
  | .str s => callText name s m (args.head?.map Datum.value)
  | .list _ xs => callList name xs m args.head?
  | .num n => toFixed n ((args.head?.map Datum.value).getD (.int 0))
  | _ => return .null

end RuleLedger.Expr
