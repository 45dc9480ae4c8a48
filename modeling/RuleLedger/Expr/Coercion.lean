import RuleLedger.Expr.Syntax
import RuleLedger.Number.Numeral
import RuleLedger.Value.Display

/-! Values as numbers, texts and truth values, and the operators on them. Operators on numbers
convert their operands and answer NaN where no number fits; a plus joins texts as soon as one side
is one. -/
namespace RuleLedger.Value

/-- The number that a text spells after trimming; a blank text is zero, any other text NaN. -/
def numberOfText (s : Text) : Number :=
  let cs := Text.trim s.toList
  if cs.isEmpty then .int 0
  else if ["Infinity", "+Infinity"].any (Text.ofList cs == ·) then Number.infinity
  else if cs = ("-Infinity" : Text).toList then Number.negativeInfinity
  else if Numeral.signedLength? cs = some cs.length then
    (Number.float (Numeral.signedFloat cs)).normalize
  else Number.nan

/-- A list of one item counts as that item, an empty list as zero. -/
def toNumber : Value → Number
  | .bool b => .int (if b then 1 else 0)
  | .num n => n
  | .str s => numberOfText s
  | .list [] => .int 0
  | .list [v] => toNumber v
  | _ => Number.nan

def numberText : Number → Except NumericFault String
  | .int n => integerText n
  | .float x =>
    if x.isNaN then .ok "NaN"
    else if x.isInf then .ok (if Binary64.isNegative x then "-Infinity" else "Infinity")
    else (Number.float x).normalize.text

mutual

/-- A value as text. Items of a list stand between commas, null among them as nothing. -/
def toText : Value → Except NumericFault Text
  | .null => .ok "null"
  | .bool b => .ok (if b then "true" else "false")
  | .num n => (numberText n).map .ofString
  | .str s => .ok s
  | .list xs => do return Text.intercalate "," (← itemTexts xs)
  | .map _ => .ok "[object Object]"
  | .helper h => .ok (helperText h)
  | .method r m => .ok (methodText r m)

def itemTexts : List Value → Except NumericFault (List Text)
  | [] => .ok []
  | .null :: vs => do return "" :: (← itemTexts vs)
  | v :: vs => do
    let s ← toText v
    return s :: (← itemTexts vs)

end

/-- False are null, false, zero, NaN and the empty text. -/
def truthy : Value → Bool
  | .null => false
  | .bool b => b
  | .num n => !(n.isZero || n.isNaN)
  | .str s => s ≠ ""
  | _ => true

/-- Equality without conversion. Things are equal when they are identical, which the caller knows.
-/
def strictEqual (identical : Bool) : Value → Value → Bool
  | .num a, .num b => a.eq b
  | .bool a, .bool b => a == b
  | .null, .null => true
  | .str a, .str b => a == b
  | a, b => a.isThing && b.isThing && identical

/-- Texts, numbers and truth values. -/
inductive ScalarKind where
  | bool | int | float | text
deriving DecidableEq

def scalarKind? : Value → Option ScalarKind
  | .bool _ => some .bool
  | .num (.int _) => some .int
  | .num (.float _) => some .float
  | .str _ => some .text
  | _ => none

/-- Equality that compares scalars of different kinds as numbers. -/
def looseEqual (identical : Bool) (a b : Value) : Bool :=
  match a, b with
  | .null, .null => true
  | .null, _ => false
  | _, .null => false
  | a, b =>
    match a.scalarKind?, b.scalarKind? with
    | some k, some l => if k = l then strictEqual identical a b else a.toNumber.eq b.toNumber
    | _, _ => strictEqual identical a b

/-- Two texts are ordered by their symbols, all else as numbers; NaN is in no order. -/
def compare (op : Expr.Ordering) (a b : Value) : Bool :=
  match a, b with
  | .str s, .str t =>
    match op with
    | .lt => Text.lt s t
    | .le => Text.le s t
    | .gt => Text.lt t s
    | .ge => Text.le t s
  | a, b =>
    let x := a.toNumber
    let y := b.toNumber
    if x.isNaN || y.isNaN then false else
      match op with
      | .lt => x.lt y
      | .le => x.le y
      | .gt => y.lt x
      | .ge => y.le x

/-- A null operand of arithmetic is NaN. -/
def operand (v : Value) : Number :=
  match v with
  | .null => Number.nan
  | v => v.toNumber

/-- Whether a plus with this operand joins texts. -/
def joins : Value → Bool
  | .str _ | .list _ | .map _ => true
  | _ => false

def arithNumbers (op : Expr.Arithmetic) (x y : Number) : Except NumericFault Number := do
  let r ← match op with
    | .add => x.add y
    | .sub => x.sub y
    | .mul => x.mul y
    | .div => x.quotient y
    | .rem => x.remainder y
  return r.normalize

def arith (op : Expr.Arithmetic) (a b : Value) : Except NumericFault Value :=
  if op = .add && (a.joins || b.joins) then do
    let s ← a.toText
    let t ← b.toText
    return .str (s ++ t)
  else (arithNumbers op a.operand b.operand).map .num

/-- The number at the start of a text, its sign and power of ten included. Blanks before it are
skipped, but no number is read after an information separator. -/
def parseFloat (v : Value) : Except NumericFault Value := do
  let all := (← v.toText).toList
  let blanks := all.takeWhile Text.isBlank
  let cs := all.dropWhile Text.isBlank
  match Numeral.signedLength? cs with
  | some n =>
    if blanks.any Text.isSeparator then
      .error (.notNumeral (Text.quoted ⟨blanks ++ cs.take n⟩))
    else return .num (Number.float (Numeral.signedFloat (cs.take n))).normalize
  | none => return .num Number.nan

/-- The digits at the start of a text after an optional sign. Blanks before them are skipped, but no
number is read after an information separator. -/
def parseInt (v : Value) : Except NumericFault Value := do
  let all := (← v.toText).toList
  let blanks := all.takeWhile Text.isBlank
  let cs := all.dropWhile Text.isBlank
  let signs := cs.take (Numeral.signLength cs)
  let digits := (cs.drop signs.length).takeWhile Text.isDecimal
  if digits.isEmpty then return .num Number.nan
  if blanks.any Text.isSeparator then
    .error (Numeral.notDecimal ⟨blanks ++ signs ++ digits⟩)
  else
    let n ← readDigits digits
    return .int (if signs = [.char '-'] then -(n : Int) else n)

end RuleLedger.Value
