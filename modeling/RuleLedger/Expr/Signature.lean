import RuleLedger.Value.Basic

/-! What helpers and methods take, and what is said about a call with another number of
arguments. -/
namespace RuleLedger

/-- The arguments of a function, with the name under which it refuses other ones. -/
inductive Signature where
  | any
  | empty (function : String)
  /-- One argument, which may be left out. -/
  | optional (function : String)
  /-- One argument, which has a name. -/
  | named (function argument : String)
  | single (function : String)
  | pair (function : String)
deriving Repr, DecidableEq

namespace Signature

def admits : Signature → Nat → Bool
  | any, _ => true
  | empty _, n => n = 0
  | optional _, n => n ≤ 1
  | named _ _, n | single _, n => n = 1
  | pair _, n => n = 2

def given (n : Nat) : String := toString n ++ if n = 1 then " was given" else " were given"

/-- What is said about a number of arguments that is not admitted. -/
def complaint : Signature → Nat → String
  | any, _ => ""
  | empty f, n => f ++ "() takes 0 positional arguments but " ++ given n
  | optional f, n => f ++ "() takes from 0 to 1 positional arguments but " ++ given n
  | named f x, 0 => f ++ "() missing 1 required positional argument: '" ++ x ++ "'"
  | named f _, n => f ++ "() takes 1 positional argument but " ++ given n
  | single f, n => f ++ "() takes exactly one argument (" ++ toString n ++ " given)"
  | pair f, n => f ++ " expected 2 arguments, got " ++ toString n

end Signature

def MathFunction.signature : MathFunction → Signature
  | .abs => .single "abs"
  | .ceil => .single "math.ceil"
  | .floor => .single "math.floor"
  | .round => .named "_round" "x"
  | .trunc => .single "math.trunc"
  | .sign => .named "_sign" "x"
  | .max | .min => .any
  | .pow => .pair "pow"
  | .sqrt => .named "_sqrt" "x"
  | .log => .named "_log" "x"
  | .exp => .single "math.exp"

def NumberFunction.signature : NumberFunction → Signature
  | .isNaN => .named "_is_nan_strict" "v"
  | .isFinite => .named "_is_finite_strict" "v"
  | .isInteger => .named "_is_integer_strict" "v"
  | .parseFloat => .named "_parse_float" "v"
  | .parseInt => .named "_parse_int" "v"

def Conversion.signature : Conversion → Signature
  | .parseFloat => .named "_parse_float" "v"
  | .parseInt => .named "_parse_int" "v"
  | .string | .boolean | .isNaN | .isFinite => .optional "<lambda>"

def Helper.signature : Helper → Signature
  | .group _ => .optional "<lambda>"
  | .math f => f.signature
  | .number f => f.signature
  | .convert f => f.signature
  | .now _ => .empty "template_helpers.<locals>.<lambda>"
  | .uuid => .empty "new_id"

/-- The methods of a text, a list and a number are told apart by what they are bound to. -/
def Method.signature (receiver : Value) : Method → Signature
  | .toLowerCase | .toUpperCase | .trim => .empty "_string_member.<locals>.<lambda>"
  | .startsWith | .endsWith => .optional "_string_member.<locals>.<lambda>"
  | .indexOf | .join => .optional "_list_member.<locals>.<lambda>"
  | .toFixed => .optional "_number_member.<locals>.to_fixed"
  | .includes =>
    match receiver with
    | .list _ => .optional "_list_member.<locals>.<lambda>"
    | _ => .optional "_string_member.<locals>.<lambda>"

end RuleLedger
