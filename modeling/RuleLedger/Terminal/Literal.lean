import RuleLedger.Terminal.Lexeme
import RuleLedger.Text.Word

/-! Literal values, as the parameters of an action are written: numbers, texts between quotes, names
of constants, and groups of them in brackets. Here a value is only recognised, not read. -/
namespace RuleLedger.Terminal

/-- What matters of a literal value. -/
inductive Shape where
  | number (imaginary large signed : Bool)
  /-- Another value that can be an item of a set or a key. -/
  | key
  /-- A set or a mapping, or a group that holds one. -/
  | unkeyed
  /-- A name that is a value only when it is called. -/
  | maker
deriving Repr, DecidableEq

namespace Shape

def isValue (s : Shape) : Bool := s ≠ .maker

def isKey (s : Shape) : Bool := s ≠ .maker && s ≠ .unkeyed

def ofName (s : String) : Shape := if s = "set" then .maker else .key

/-- A sign stands before a number that has none. -/
def signed? : Shape → Option Shape
  | .number imaginary large false => some (.number imaginary large true)
  | _ => none

/-- A real number, which must be a double, with an imaginary one after a sign. -/
def complex? : Shape → Shape → Option Shape
  | .number false false _, .number true _ false => some .key
  | _, _ => none

/-- Items between commas. One item without a comma is itself. -/
def group? (items : List Shape) (comma : Bool) : Option Shape :=
  match items, comma with
  | [item], false => some item
  | items, _ =>
    if !items.all isValue then none else if items.all isKey then some .key else some .unkeyed

end Shape

namespace Literal

abbrev Parse (α : Type) := List Lexeme → Option (α × List Lexeme)

mutual

/-- A value, perhaps a sum of a real and an imaginary number. -/
def sum : (fuel : Nat) → Parse Shape
  | 0, _ => none
  | fuel + 1, ws => do
    let (left, rest) ← signed fuel ws
    match rest with
    | .mark '+' :: rest | .mark '-' :: rest =>
      let (right, rest) ← signed fuel rest
      return (← left.complex? right, rest)
    | rest => return (left, rest)

/-- A value, perhaps after a sign. -/
def signed : (fuel : Nat) → Parse Shape
  | 0, _ => none
  | fuel + 1, ws =>
    match ws with
    | .mark '+' :: rest | .mark '-' :: rest => do
      let (s, rest) ← made fuel rest
      return (← s.signed?, rest)
    | ws => made fuel ws

/-- A value, perhaps one that a name makes. -/
def made : (fuel : Nat) → Parse Shape
  | 0, _ => none
  | fuel + 1, ws => do
    let (s, rest) ← single fuel ws
    match s, rest with
    | .maker, .mark '(' :: .mark ')' :: rest => return (.unkeyed, rest)
    | s, rest => return (s, rest)

/-- One word, texts that follow one another, or a group in brackets. -/
def single : (fuel : Nat) → Parse Shape
  | 0, _ => none
  | fuel + 1, ws =>
    match ws with
    | .number imaginary large :: rest => some (.number imaginary large false, rest)
    | .name s :: rest => some (.ofName s, rest)
    | .text bytes :: rest =>
      match rest.dropWhile (· = .text bytes) with
      | .text _ :: _ => none
      | rest => some (.key, rest)
    | .mark '(' :: .mark ')' :: rest => some (.key, rest)
    | .mark '(' :: rest => do
      let ((items, comma), rest) ← items fuel ')' rest
      return (← Shape.group? items comma, rest)
    | .mark '\x7b' :: .mark '\x7d' :: rest => some (.unkeyed, rest)
    | .mark '\x7b' :: rest => do
      let (s, rest) ← sum fuel rest
      if rest.head? = some (.mark ':') then return (.unkeyed, ← pairsFrom fuel s rest)
      else
        let ((items, _), rest) ← itemsFrom fuel '\x7d' s rest
        if items.all Shape.isKey then return (.unkeyed, rest) else none
    | _ => none

/-- The items up to a closing bracket, of which there is at least one, and whether there is a comma
among them or after them. -/
def items : (fuel : Nat) → (close : Char) → Parse (List Shape × Bool)
  | 0, _, _ => none
  | fuel + 1, close, ws => do
    let (s, rest) ← sum fuel ws
    itemsFrom fuel close s rest

/-- The items of which the first has been read. -/
def itemsFrom : (fuel : Nat) → (close : Char) → Shape → Parse (List Shape × Bool)
  | 0, _, _, _ => none
  | fuel + 1, close, s, ws =>
    match ws with
    | .mark c :: rest =>
      if c = close then some (([s], false), rest)
      else if c ≠ ',' then none
      else if rest.head? = some (.mark close) then some (([s], true), rest.drop 1)
      else (items fuel close rest).map fun r => ((s :: r.1.1, true), r.2)
    | _ => none

/-- The pairs up to the closing brace of a mapping, of which the first key has been read. -/
def pairsFrom : (fuel : Nat) → Shape → List Lexeme → Option (List Lexeme)
  | 0, _, _ => none
  | fuel + 1, s, ws =>
    match ws with
    | .mark ':' :: rest => do
      let (t, rest) ← sum fuel rest
      if !(s.isKey && t.isValue) then none
      else
        match rest with
        | .mark '\x7d' :: rest | .mark ',' :: .mark '\x7d' :: rest => some rest
        | .mark ',' :: rest =>
          let (s, rest) ← sum fuel rest
          pairsFrom fuel s rest
        | _ => none
    | _ => none

end

/-- Whether words are a literal value, or several of them with commas between. -/
def isValue (ws : List Lexeme) : Bool :=
  match items (6 * ws.length + 12) ')' (ws ++ [.mark ')']) with
  | some ((items, comma), []) => (Shape.group? items comma).any Shape.isValue
  | _ => false

end Literal

def isLiteral (cs : List Char) : Bool := (Lexeme.ofText? cs).any Literal.isValue

/-- The name of a handler: characters of words, and points. -/
def isHandlerChar (c : Char) : Bool := Text.isWordSymbol c || c = '.'

/-- Whether an action can be read: the name of a handler, with or without parameters in brackets, or
a literal value. -/
def isAction (cs : List Char) : Bool :=
  let rest := cs.dropWhile isHandlerChar
  match rest with
  | [] => true
  | '(' :: _ =>
    isLiteral (if rest.getLast? = some ')' && !rest.contains '\n' then rest else cs)
  | _ => isLiteral cs

end RuleLedger.Terminal
