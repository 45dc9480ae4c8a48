import RuleLedger.Number.Binary64
import RuleLedger.Text.Split

/-! The words of literal values: numbers, texts between quotes, names and marks. An open bracket
lets a value go on in the next line; elsewhere the end of its line ends it. -/
namespace RuleLedger.Terminal

/-- A word of a literal value. Its content does not matter. -/
inductive Lexeme where
  /-- A number; a whole number may be too large to be a double. -/
  | number (imaginary large : Bool)
  | text (bytes : Bool)
  | name (s : String)
  | mark (c : Char)
deriving Repr, DecidableEq

namespace Lexeme

def isNameChar (c : Char) : Bool := c.isAlphanum || c = '_' || 0x80 ≤ c.toNat

/-! ### Numbers -/

/-- Digits in groups that single underscores part. -/
def isGrouped (isDigit : Char → Bool) (cs : List Char) : Bool :=
  (Text.splitList '_' cs).all fun g => !g.isEmpty && g.all isDigit

/-- How many digits a whole number in base ten may have. -/
def digitLimit : Nat := 4300

/-- Zeros alone, or digits of which the first is no zero. -/
def isWhole (cs : List Char) : Bool :=
  isGrouped Char.isDigit cs && (cs.all (fun c => c = '0' || c = '_') ||
    (cs.head? ≠ some '0' && (cs.filter Char.isDigit).length ≤ digitLimit))

/-- Digits on both sides of a point, or on one. -/
def isMantissa (cs : List Char) : Bool :=
  match Text.splitList '.' cs with
  | [whole] => isGrouped Char.isDigit whole
  | [whole, fraction] =>
    !(whole.isEmpty && fraction.isEmpty) && (whole.isEmpty || isGrouped Char.isDigit whole) &&
      (fraction.isEmpty || isGrouped Char.isDigit fraction)
  | _ => false

def isPower (cs : List Char) : Bool :=
  match cs with
  | '+' :: ds | '-' :: ds => isGrouped Char.isDigit ds
  | ds => isGrouped Char.isDigit ds

def isDecimal (cs : List Char) : Bool :=
  let low := cs.map Char.toLower
  match low.dropWhile (· ≠ 'e') with
  | [] => isMantissa low
  | _ :: power => isMantissa (low.takeWhile (· ≠ 'e')) && isPower power

def isFraction (cs : List Char) : Bool :=
  isDecimal cs && cs.any fun c => c = '.' || c = 'e' || c = 'E'

def digitValue (c : Char) : Nat :=
  if c.isDigit then c.toNat - 48 else if c.isLower then c.toNat - 87 else c.toNat - 55

def isDigitIn (base : Nat) (c : Char) : Bool := c.isAlphanum && digitValue c < base

/-- The bases with letters of their own. -/
def baseOf? (c : Char) : Option Nat :=
  match c.toLower with
  | 'x' => some 16
  | 'o' => some 8
  | 'b' => some 2
  | _ => none

def isLarge (base : Nat) (cs : List Char) : Bool :=
  (Binary64.ofInt? ((cs.filter (· ≠ '_')).foldl (fun n c => base * n + digitValue c) 0)).isNone

/-- Digits in a base, perhaps with an underscore before them. -/
def based? (base : Nat) (cs : List Char) : Option Lexeme :=
  let digits := if cs.head? = some '_' then cs.drop 1 else cs
  if isGrouped (isDigitIn base) digits then some (.number false (isLarge base digits)) else none

/-- A number in base ten, or one of imaginary units. -/
def decimal? (cs : List Char) : Option Lexeme :=
  if isWhole cs then some (.number false (isLarge 10 cs))
  else if isFraction cs then some (.number false false)
  else if (cs.getLast? = some 'j' || cs.getLast? = some 'J') && isDecimal cs.dropLast then
    some (.number true false)
  else none

/-- The characters of a number in base ten; a sign belongs to it after the letter of a power. -/
def decimalSpan : List Char → List Char
  | 'e' :: '+' :: cs => 'e' :: '+' :: decimalSpan cs
  | 'e' :: '-' :: cs => 'e' :: '-' :: decimalSpan cs
  | 'E' :: '+' :: cs => 'E' :: '+' :: decimalSpan cs
  | 'E' :: '-' :: cs => 'E' :: '-' :: decimalSpan cs
  | c :: cs => if isNameChar c || c = '.' then c :: decimalSpan cs else []
  | [] => []

def number? (cs : List Char) : Option (Lexeme × List Char) :=
  let base := if cs.head? = some '0' then cs[1]?.bind baseOf? else none
  match base with
  | some base => do
    let span := cs.takeWhile isNameChar
    return (← based? base (span.drop 2), cs.drop span.length)
  | none => do
    let span := decimalSpan cs
    return (← decimal? span, cs.drop span.length)

/-! ### Texts -/

/-- The letters before a quote: whether they announce bytes, and whether backslashes count as
themselves. -/
def announced? (marks : List Char) : Option (Bool × Bool) :=
  match marks.map Char.toLower with
  | [] | ['u'] => some (false, false)
  | ['r'] => some (false, true)
  | ['b'] => some (true, false)
  | ['b', 'r'] | ['r', 'b'] => some (true, true)
  | _ => none

/-- The body of a text up to the quote that ends it, on the same line unless quotes are threefold.
A backslash takes the next character with it. -/
def body? (quote : Char) (threefold : Bool) : List Char → Option (List Char × List Char)
  | [] => none
  | '\\' :: c :: cs => (body? quote threefold cs).map fun r => ('\\' :: c :: r.1, r.2)
  | c :: cs =>
    if c = quote && !threefold then some ([], cs)
    else if c = quote && [quote, quote].isPrefixOf cs then some ([], cs.drop 2)
    else if c = '\n' && !threefold then none
    else (body? quote threefold cs).map fun r => (c :: r.1, r.2)

/-- Whether as many digits in base sixteen are there, spelling a number up to a limit. -/
def spells (count limit : Nat) (cs : List Char) : Bool :=
  let digits := cs.take count
  digits.length = count && digits.all (isDigitIn 16) &&
    digits.foldl (fun n c => 16 * n + digitValue c) 0 ≤ limit

/-- Whether a character is named between braces. -/
def isNamed (cs : List Char) : Bool :=
  match cs with
  | '\x7b' :: cs =>
    let name := cs.takeWhile (· ≠ '\x7d')
    !name.isEmpty && name.length < cs.length &&
      name.all fun c => c.isAlphanum || c = ' ' || c = '-'
  | _ => false

/-- Whether the backslashes of a body can be read. -/
def escapesFit (bytes : Bool) : List Char → Bool
  | '\\' :: c :: cs =>
    (if c = 'x' then spells 2 0xFF cs
      else if bytes then true
      else if c = 'u' then spells 4 0xFFFF cs
      else if c = 'U' then spells 8 0x10FFFF cs
      else if c = 'N' then isNamed cs
      else true) && escapesFit bytes cs
  | _ :: cs => escapesFit bytes cs
  | [] => true

/-- A text between quotes, after letters that say what it holds. -/
def text? (cs : List Char) : Option (Lexeme × List Char) := do
  let marks := cs.takeWhile Char.isAlpha
  let (bytes, raw) ← announced? marks
  match cs.drop marks.length with
  | quote :: rest =>
    if quote ≠ '"' && quote ≠ '\'' then none
    else
      let threefold := [quote, quote].isPrefixOf rest
      let (body, rest) ← body? quote threefold (if threefold then rest.drop 2 else rest)
      if (raw || escapesFit bytes body) && (!bytes || body.all (·.toNat < 0x80)) then
        some (.text bytes, rest)
      else none
  | [] => none

/-! ### Words and lines -/

/-- The names that values may have, three points among them. -/
def names : List String := ["True", "False", "None", "...", "set"]

def name? (cs : List Char) : Option (Lexeme × List Char) :=
  let span := if cs.head? = some '.' then cs.take 3 else cs.takeWhile isNameChar
  let name := String.ofList span
  if names.contains name then some (.name name, cs.drop span.length) else none

def marks : List Char := ['(', ')', '\x7b', '\x7d', ',', ':', '+', '-']

/-- The word at the start of a text, and the text after it. -/
def first? (cs : List Char) : Option (Lexeme × List Char) :=
  match cs with
  | [] => none
  | c :: rest =>
    if marks.contains c then some (.mark c, rest)
    else ((number? cs).or (text? cs)).or (name? cs)

/-- The blanks inside a line. -/
def isBlank (c : Char) : Bool := c = ' ' || c = '\t' || c = '\x0c'

/-- Skip the blanks at the start of a line, and say whether the line is indented. A form feed takes
the indentation back, but not the one of a line that a backslash continues. -/
def indentation (indented kept : Bool) : List Char → Option (Bool × List Char)
  | '\\' :: '\n' :: cs => if cs.isEmpty then none else indentation indented (kept || indented) cs
  | c :: cs =>
    if c = ' ' || c = '\t' then indentation true kept cs
    else if c = '\x0c' then indentation false kept cs
    else some (indented || kept, c :: cs)
  | [] => some (indented || kept, [])

/-- Skip lines that are blank or hold a remark alone, and say whether the next line is indented. -/
def skipLines : (fuel : Nat) → List Char → Option (Bool × List Char)
  | 0, _ => none
  | fuel + 1, cs => do
    let (indented, rest) ← indentation false false cs
    match rest with
    | '\n' :: rest => skipLines fuel rest
    | '#' :: rest => skipLines fuel ((rest.dropWhile (· ≠ '\n')).drop 1)
    | [] => some (false, [])
    | rest => some (indented, rest)

/-- How many brackets may be open at once. -/
def bracketLimit : Nat := 200

/-- How many brackets are open after a word. -/
def depthAfter (depth : Nat) : Lexeme → Nat
  | .mark c =>
    if c = '(' || c = '\x7b' then depth + 1
    else if c = ')' || c = '\x7d' then depth - 1
    else depth
  | _ => depth

/-- The words of a text within open brackets. Nothing but remarks follows the line on which the last
bracket is closed. -/
def words : (fuel : Nat) → (depth : Nat) → List Char → Option (List Lexeme)
  | 0, _, _ => none
  | _ + 1, _, [] => some []
  | fuel + 1, depth, '\n' :: cs =>
    if depth = 0 then
      match skipLines fuel cs with
      | some (_, []) => some []
      | _ => none
    else words fuel depth cs
  | fuel + 1, depth, '\\' :: '\n' :: cs => if cs.isEmpty then none else words fuel depth cs
  | fuel + 1, depth, c :: cs =>
    if isBlank c then words fuel depth cs
    else if c = '#' then words fuel depth (cs.dropWhile (· ≠ '\n'))
    else do
      let (word, rest) ← first? (c :: cs)
      let depth := depthAfter depth word
      if bracketLimit < depth then none
      return word :: (← words fuel depth rest)

/-- The words of a text that starts without indentation. -/
def ofText? (cs : List Char) : Option (List Lexeme) :=
  if cs.contains '\x00' then none
  else
    let cs := Text.plainLines cs
    match skipLines (cs.length + 1) cs with
    | some (false, rest) => words (rest.length + 2) 0 rest
    | _ => none

end Lexeme
end RuleLedger.Terminal
