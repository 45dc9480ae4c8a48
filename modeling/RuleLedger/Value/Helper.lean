import RuleLedger.Clock

/-! The callables an expression can reach: the numeric helpers, the conversions, and the two
generators of templates. -/
namespace RuleLedger

inductive MathFunction where
  | abs | ceil | floor | round | trunc | sign | max | min | pow | sqrt | log | exp
deriving Repr, DecidableEq

def MathFunction.name : MathFunction → String
  | .abs => "abs"
  | .ceil => "ceil"
  | .floor => "floor"
  | .round => "round"
  | .trunc => "trunc"
  | .sign => "sign"
  | .max => "max"
  | .min => "min"
  | .pow => "pow"
  | .sqrt => "sqrt"
  | .log => "log"
  | .exp => "exp"

def MathFunction.all : List MathFunction :=
  [.abs, .ceil, .floor, .round, .trunc, .sign, .max, .min, .pow, .sqrt, .log, .exp]

/-- Members of the group Number: they look at a value without converting it, or read text. -/
inductive NumberFunction where
  | isNaN | isFinite | isInteger | parseFloat | parseInt
deriving Repr, DecidableEq

def NumberFunction.name : NumberFunction → String
  | .isNaN => "isNaN"
  | .isFinite => "isFinite"
  | .isInteger => "isInteger"
  | .parseFloat => "parseFloat"
  | .parseInt => "parseInt"

def NumberFunction.all : List NumberFunction :=
  [.isNaN, .isFinite, .isInteger, .parseFloat, .parseInt]

/-- Helpers with a name of their own. -/
inductive Conversion where
  | string | boolean | isNaN | isFinite | parseFloat | parseInt
deriving Repr, DecidableEq

def Conversion.name : Conversion → String
  | .string => "String"
  | .boolean => "Boolean"
  | .isNaN => "isNaN"
  | .isFinite => "isFinite"
  | .parseFloat => "parseFloat"
  | .parseInt => "parseInt"

def Conversion.all : List Conversion :=
  [.string, .boolean, .isNaN, .isFinite, .parseFloat, .parseInt]

/-- A named group of helpers. The group Number can also be called. -/
inductive Group where
  | math | number
deriving Repr, DecidableEq

def Group.name : Group → String
  | .math => "Math"
  | .number => "Number"

inductive Helper where
  | group (g : Group)
  | math (f : MathFunction)
  | number (f : NumberFunction)
  | convert (f : Conversion)
  /-- The timestamp of a clock. -/
  | now (clock : Clock)
  /-- A new identifier. -/
  | uuid
deriving Repr, DecidableEq

namespace Helper

def name : Helper → String
  | .group g => g.name
  | .math f => "Math." ++ f.name
  | .number f => "Number." ++ f.name
  | .convert f => f.name
  | .now _ => "now"
  | .uuid => "uuid"

def isGroup : Helper → Bool
  | .group _ => true
  | _ => false

end Helper

/-- Callables bound to the text, list or number they were read from. -/
inductive Method where
  | includes | startsWith | endsWith | toLowerCase | toUpperCase | trim | indexOf | join | toFixed
deriving Repr, DecidableEq

def Method.name : Method → String
  | .includes => "includes"
  | .startsWith => "startsWith"
  | .endsWith => "endsWith"
  | .toLowerCase => "toLowerCase"
  | .toUpperCase => "toUpperCase"
  | .trim => "trim"
  | .indexOf => "indexOf"
  | .join => "join"
  | .toFixed => "toFixed"

def Method.ofText : List Method :=
  [.includes, .startsWith, .endsWith, .toLowerCase, .toUpperCase, .trim]

def Method.ofList : List Method := [.includes, .indexOf, .join]

def Method.ofNumber : List Method := [.toFixed]

end RuleLedger
