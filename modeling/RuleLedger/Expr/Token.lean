import RuleLedger.Fault
import RuleLedger.Number.Numeral

/-! Tokens of rule expressions. Blanks separate tokens and mean nothing else; every other character
belongs to a token, or the text is refused. -/
namespace RuleLedger.Expr

inductive TokenKind where
  | number | string | operator | name | keyword | finish
deriving Repr, DecidableEq

def TokenKind.label : TokenKind → String
  | .number => "NUMBER"
  | .string => "STRING"
  | .operator => "OP"
  | .name => "ID"
  | .keyword => "KW"
  | .finish => "EOF"

/-- A token with the text it stands for and its offset in characters. -/
structure Token where
  kind : TokenKind
  text : Text
  offset : Nat
deriving Repr, DecidableEq

def keywords : List Text := ["true", "false", "null", "undefined", "and", "or", "not"]

/-- The length of the rest of a text literal, closing quote included. A backslash takes the next
character with it, which must not end the line. -/
def bodyLength? (quote : Symbol) : List Symbol → Option Nat
  | [] => none
  | [.char '\\'] => none
  | .char '\\' :: c :: cs => if c = '\n' then none else (bodyLength? quote cs).map (· + 2)
  | c :: cs => if c = quote then some 1 else (bodyLength? quote cs).map (· + 1)

def stringLength? : List Symbol → Option Nat
  | c :: cs => if c = '"' || c = '\'' then (bodyLength? c cs).map (· + 1) else none
  | [] => none

/-- Operators, the longer ones first. -/
def operators : List (List Symbol) :=
  [['=', '=', '='], ['!', '=', '='], ['=', '='], ['!', '='], ['<', '='], ['>', '='], ['&', '&'],
    ['|', '|'], ['+'], ['-'], ['*'], ['/'], ['%'], ['<'], ['>'], ['!'], ['?'], [':'], ['('], [')'],
    ['['], [']'], [','], ['.']]

def operatorLength? (cs : List Symbol) : Option Nat :=
  (operators.find? (·.isPrefixOf cs)).map List.length

def isNameStart (c : Symbol) : Bool := c.isIn Char.isAlpha || c = '_' || c = '$'

def isNameRest (c : Symbol) : Bool := isNameStart c || c.isIn Char.isDigit

def nameLength? : List Symbol → Option Nat
  | c :: cs => if isNameStart c then some (1 + (cs.takeWhile isNameRest).length) else none
  | [] => none

/-- What a text begins with: its kind, none for blanks, and its length. -/
def lexeme? (cs : List Symbol) : Option (Option TokenKind × Nat) :=
  match Numeral.length? cs, stringLength? cs, operatorLength? cs, nameLength? cs with
  | some n, _, _, _ => some (some .number, n)
  | _, some n, _, _ => some (some .string, n)
  | _, _, some n, _ => some (some .operator, n)
  | _, _, _, some n =>
    some (some (if keywords.contains ⟨cs.take n⟩ then .keyword else .name), n)
  | _, _, _, _ =>
    let blanks := (cs.takeWhile Text.isBlank).length
    if blanks = 0 then none else some (none, blanks)

/-- The tokens of the text from an offset on. -/
def tokensFrom (offset : Nat) (cs : List Symbol) : Except ParseFault (List Token) :=
  match cs with
  | [] => .ok [⟨.finish, "", offset⟩]
  | c :: rest =>
    match lexeme? (c :: rest) with
    | none => .error (.unexpectedCharacter c offset)
    | some (none, n) => tokensFrom (offset + n) (rest.drop (n - 1))
    | some (some kind, n) => do
      let more ← tokensFrom (offset + n) (rest.drop (n - 1))
      return ⟨kind, ⟨(c :: rest).take n⟩, offset⟩ :: more
termination_by cs.length
decreasing_by all_goals simp only [List.length_drop, List.length_cons]; omega

def tokenize (source : Text) : Except ParseFault (List Token) := tokensFrom 0 source.toList

/-- The symbol that a backslash and this one stand for. -/
def unescape (c : Symbol) : Symbol :=
  if c = 'n' then '\n'
  else if c = 't' then '\t'
  else if c = 'r' then '\r'
  else if c = '0' then '\x00'
  else c

def unescapeAll : List Symbol → List Symbol
  | .char '\\' :: c :: cs => unescape c :: unescapeAll cs
  | c :: cs => c :: unescapeAll cs
  | [] => []

/-- The text that a literal between quotes stands for. -/
def unquote (literal : Text) : Text := ⟨unescapeAll ((literal.toList.drop 1).dropLast)⟩

end RuleLedger.Expr
