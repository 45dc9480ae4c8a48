import RuleLedger.Text.Split
import RuleLedger.Value.Basic

/-! Values from JSON text. Beside the grammar of JSON, the names NaN, Infinity and -Infinity are
read; of a key that comes again the last value counts. A document is made of characters, but an
escape in it may name half of a pair. -/
namespace RuleLedger.Json

/-- Why reading stops; a place is given by the number of characters from it to the end. -/
inductive Halt where
  | at (problem : String) (remaining : Nat)
  | numeric (cause : NumericFault)

abbrev Read (α : Type) := Except Halt (α × List Char)

def stop {α : Type} (problem : String) (rest : List Char) : Read α :=
  .error (.at problem rest.length)

def isSpace (c : Char) : Bool := c = ' ' || c = '\t' || c = '\n' || c = '\r'

def skipSpace (cs : List Char) : List Char := cs.dropWhile isSpace

def isAsciiDigit (c : Char) : Bool := '0' ≤ c && c ≤ '9'

def hexValue? (c : Char) : Option Nat :=
  if isAsciiDigit c then some (c.toNat - 48)
  else if 'a' ≤ c && c ≤ 'f' then some (c.toNat - 87)
  else if 'A' ≤ c && c ≤ 'F' then some (c.toNat - 55)
  else none

/-- The 16-bit unit that four hexadecimal digits spell. -/
def unit? (a b c d : Char) : Option Nat := do
  let a ← hexValue? a
  let b ← hexValue? b
  let c ← hexValue? c
  let d ← hexValue? d
  return ((a * 16 + b) * 16 + c) * 16 + d

def isHighSurrogate (n : Nat) : Bool := 0xD800 ≤ n && n < 0xDC00

def isLowSurrogate (n : Nat) : Bool := 0xDC00 ≤ n && n < 0xE000

def joinSurrogates (high low : Nat) : Symbol :=
  .ofCode (0x10000 + (high - 0xD800) * 0x400 + (low - 0xDC00))

def simpleEscape? : Char → Option Char
  | '"' => some '"'
  | '\\' => some '\\'
  | '/' => some '/'
  | 'b' => some '\x08'
  | 'f' => some '\x0c'
  | 'n' => some '\n'
  | 'r' => some '\r'
  | 't' => some '\t'
  | _ => none

/-- The code points of a text, surrogate escapes still apart; without a reason to halt, the text
is not closed. -/
abbrev ReadUnits := Except (Option Halt) (List Nat × List Char)

def consUnit (n : Nat) : ReadUnits → ReadUnits
  | .ok (ns, rest) => .ok (n :: ns, rest)
  | .error h => .error h

def badEscape (problem : String) (remaining : Nat) : ReadUnits :=
  .error (some (.at problem remaining))

/-- Read up to the closing quote. -/
def readUnits : List Char → ReadUnits
  | [] => .error none
  | '"' :: rest => .ok ([], rest)
  | ['\\'] => .error none
  | '\\' :: 'u' :: a :: b :: c :: d :: rest =>
    if rest.isEmpty then badEscape "Invalid \\uXXXX escape" 5 else
    match unit? a b c d with
    | none => badEscape "Invalid \\uXXXX escape" (rest.length + 5)
    | some n => consUnit n (readUnits rest)
  | '\\' :: 'u' :: rest => badEscape "Invalid \\uXXXX escape" (rest.length + 1)
  | '\\' :: c :: rest =>
    match simpleEscape? c with
    | some e => consUnit e.toNat (readUnits rest)
    | none => badEscape "Invalid \\escape" (rest.length + 2)
  | c :: rest =>
    if c.toNat < 0x20 then badEscape "Invalid control character at" (rest.length + 1)
    else consUnit c.toNat (readUnits rest)

/-- Two halves of a pair become one character. -/
def joinUnits : List Nat → List Symbol
  | high :: low :: ns =>
    if isHighSurrogate high && isLowSurrogate low then joinSurrogates high low :: joinUnits ns
    else .ofCode high :: joinUnits (low :: ns)
  | [n] => [.ofCode n]
  | [] => []

/-- A text after its opening quote; `opening` is that quote and all that follows it. -/
def readText (opening cs : List Char) : Read Text :=
  match readUnits cs with
  | .ok (ns, rest) => .ok (⟨joinUnits ns⟩, rest)
  | .error (some h) => .error h
  | .error none => stop "Unterminated string starting at" opening

/-- A point with at least one digit after it, and the digits. -/
def fractionPart : List Char → List Char × List Char
  | '.' :: rest =>
    let digits := rest.takeWhile isAsciiDigit
    if digits.isEmpty then ([], '.' :: rest) else (digits, rest.dropWhile isAsciiDigit)
  | cs => ([], cs)

def exponentDigits (negative : Bool) (all rest : List Char) : Option Int × List Char :=
  let digits := rest.takeWhile isAsciiDigit
  if digits.isEmpty then (none, all)
  else
    let n : Int := Text.digitsValue (digits.map .char)
    (some (if negative then -n else n), rest.dropWhile isAsciiDigit)

/-- The letter e with a power of ten; the letter alone is left where it is. -/
def exponentPart : List Char → Option Int × List Char
  | c :: rest =>
    if c = 'e' || c = 'E' then
      match rest with
      | '-' :: r => exponentDigits true (c :: rest) r
      | '+' :: r => exponentDigits false (c :: rest) r
      | r => exponentDigits false (c :: rest) r
    else (none, c :: rest)
  | [] => (none, [])

def signed (negative : Bool) (n : Nat) : Int := if negative then -(n : Int) else n

/-- A number, its sign and its whole digits being read: an integer, or a double when a fraction or a
power of ten follows. -/
def readNumberTail (negative : Bool) (whole rest : List Char) : Read Value :=
  let (fraction, rest) := fractionPart rest
  let (power, rest) := exponentPart rest
  if fraction.isEmpty && power.isNone then
    match readDigits (whole.map .char) with
    | .ok n => .ok (.int (signed negative n), rest)
    | .error f => .error (.numeric f)
  else
    let digits := Text.digitsValue ((whole ++ fraction).map .char)
    let d : Decimal := ⟨digits, power.getD 0 - fraction.length⟩
    .ok (.float (Binary64.withSign negative d.toFloat), rest)

def readNumber (all : List Char) : Read Value :=
  let (negative, cs) := match all with
    | '-' :: cs => (true, cs)
    | cs => (false, cs)
  match cs with
  | '0' :: rest => readNumberTail negative ['0'] rest
  | _ =>
    let whole := cs.takeWhile isAsciiDigit
    if whole.isEmpty then stop "Expecting value" all
    else readNumberTail negative whole (cs.dropWhile isAsciiDigit)

mutual

/-- One value; the fuel bounds the nesting and the number of items together. -/
def readValue : (fuel : Nat) → List Char → Read Value
  | 0, cs => stop "Expecting value" cs
  | fuel + 1, cs =>
    match cs with
    | '"' :: rest =>
      match readText cs rest with
      | .ok (s, rest) => .ok (.str s, rest)
      | .error h => .error h
    | '\x7b' :: rest =>
      match skipSpace rest with
      | '\x7d' :: rest => .ok (.map [], rest)
      | rest =>
        match readFields fuel rest with
        | .ok (fs, rest) => .ok (.map (Fields.ofPairs fs), rest)
        | .error h => .error h
    | '[' :: rest =>
      match skipSpace rest with
      | ']' :: rest => .ok (.list [], rest)
      | rest =>
        match readItems fuel rest with
        | .ok (xs, rest) => .ok (.list xs, rest)
        | .error h => .error h
    | 'n' :: 'u' :: 'l' :: 'l' :: rest => .ok (.null, rest)
    | 't' :: 'r' :: 'u' :: 'e' :: rest => .ok (.bool true, rest)
    | 'f' :: 'a' :: 'l' :: 's' :: 'e' :: rest => .ok (.bool false, rest)
    | 'N' :: 'a' :: 'N' :: rest => .ok (.num Number.nan, rest)
    | 'I' :: 'n' :: 'f' :: 'i' :: 'n' :: 'i' :: 't' :: 'y' :: rest =>
      .ok (.num Number.infinity, rest)
    | '-' :: 'I' :: 'n' :: 'f' :: 'i' :: 'n' :: 'i' :: 't' :: 'y' :: rest =>
      .ok (.num Number.negativeInfinity, rest)
    | _ => readNumber cs

/-- The items of a list that has at least one, and the closing bracket. -/
def readItems : (fuel : Nat) → List Char → Read (List Value)
  | 0, cs => stop "Expecting value" cs
  | fuel + 1, cs =>
    match readValue fuel cs with
    | .error h => .error h
    | .ok (v, rest) =>
      match skipSpace rest with
      | ']' :: rest => .ok ([v], rest)
      | ',' :: rest =>
        match readItems fuel (skipSpace rest) with
        | .ok (vs, rest) => .ok (v :: vs, rest)
        | .error h => .error h
      | rest => stop "Expecting ',' delimiter" rest

/-- The members of a mapping that has at least one, and the closing brace. -/
def readFields : (fuel : Nat) → List Char → Read (List (Text × Value))
  | 0, cs => stop "Expecting value" cs
  | fuel + 1, cs =>
    match cs with
    | '"' :: rest =>
      match readText cs rest with
      | .error h => .error h
      | .ok (k, rest) =>
        match skipSpace rest with
        | ':' :: rest =>
          match readValue fuel (skipSpace rest) with
          | .error h => .error h
          | .ok (v, rest) =>
            match skipSpace rest with
            | '\x7d' :: rest => .ok ([(k, v)], rest)
            | ',' :: rest =>
              match readFields fuel (skipSpace rest) with
              | .ok (fs, rest) => .ok ((k, v) :: fs, rest)
              | .error h => .error h
            | rest => stop "Expecting ',' delimiter" rest
        | rest => stop "Expecting ':' delimiter" rest
    | rest => stop "Expecting property name enclosed in double quotes" rest

end

/-- A whole document: one value between blanks. -/
def readDocument (cs : List Char) : Except Halt Value :=
  match cs with
  | '\ufeff' :: _ => .error (.at "Unexpected UTF-8 BOM (decode using utf-8-sig)" cs.length)
  | _ =>
    match readValue (2 * cs.length + 2) (skipSpace cs) with
    | .error h => .error h
    | .ok (v, rest) =>
      match skipSpace rest with
      | [] => .ok v
      | rest => .error (.at "Extra data" rest.length)

/-- A place in a text by line and column. -/
def locate (text : List Char) (problem : String) (remaining : Nat) : JsonFault :=
  let before := text.take (text.length - remaining)
  { problem := problem
    line := before.count '\n' + 1
    column := (before.reverse.takeWhile (· ≠ '\n')).length + 1
    offset := before.length }

def read (text : String) : Except Fault Value :=
  match readDocument text.toList with
  | .ok v => .ok v
  | .error (.at problem remaining) => .error (.json (locate text.toList problem remaining))
  | .error (.numeric f) => .error (.numeric f)

/-- Read a stored document. -/
def readStored (text : String) : Except Fault Value :=
  read (String.ofList (Text.plainLines text.toList))

end RuleLedger.Json
