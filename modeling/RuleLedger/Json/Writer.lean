import RuleLedger.Value.Basic

/-! JSON text of values in several layouts. A text is written in pieces; a piece that cannot be
written is a fault, and the pieces before it are still there. The marks before an item of a list
belong to the piece of the item, unless that is a list or a mapping of its own. -/
namespace RuleLedger.Json

structure Layout where
  /-- Between two items. -/
  comma : List Symbol
  /-- Between a key and its value. -/
  colon : List Symbol
  /-- The width of a level, when every item has a line of its own. -/
  indent : Option Nat
  /-- Whether characters beyond ASCII are escaped. -/
  ascii : Bool
  /-- Whether a callable is written as the text that shows it. -/
  callables : Bool

/-- Nothing between the marks; the form that is hashed. -/
def Layout.compact : Layout := ⟨[','], [':'], none, false, true⟩

/-- An item a line, two spaces a level; the form of stored documents. -/
def Layout.stored : Layout := ⟨[','], [':', ' '], some 2, false, false⟩

/-- The form of documents on the terminal. -/
def Layout.shown : Layout := ⟨[','], [':', ' '], some 2, true, false⟩

/-- One line with a blank after every mark. -/
def Layout.line : Layout := ⟨[',', ' '], [':', ' '], none, true, false⟩

def Layout.newline (l : Layout) (depth : Nat) : List Symbol :=
  match l.indent with
  | some width => '\n' :: List.replicate (width * depth) ' '
  | none => []

def unitEscape (n : Nat) : List Symbol := ('\\' :: 'u' :: Text.hex 4 n).map .char

/-- A character beyond the 16-bit range is escaped as a pair of units. -/
def unicodeEscape (n : Nat) : List Symbol :=
  if n < 0x10000 then unitEscape n
  else unitEscape (0xD800 + (n - 0x10000) / 0x400) ++ unitEscape (0xDC00 + (n - 0x10000) % 0x400)

def writeSymbol (ascii : Bool) (c : Symbol) : List Symbol :=
  if c = '"' then ['\\', '"']
  else if c = '\\' then ['\\', '\\']
  else if c = '\n' then ['\\', 'n']
  else if c = '\r' then ['\\', 'r']
  else if c = '\t' then ['\\', 't']
  else if c = '\x08' then ['\\', 'b']
  else if c = '\x0c' then ['\\', 'f']
  else if c.code < 0x20 then unitEscape c.code
  else if ascii && 0x7f ≤ c.code then unicodeEscape c.code
  else [c]

def writeText (ascii : Bool) (s : Text) : List Symbol :=
  .char '"' :: s.toList.flatMap (writeSymbol ascii) ++ [.char '"']

/-- Doubles are written as elsewhere, with names of their own for the values that are not finite. -/
def writeFloat (x : Float) : String :=
  if x.isNaN then "NaN"
  else if x.isInf then if Binary64.isNegative x then "-Infinity" else "Infinity"
  else floatText x

abbrev Piece := Except Fault (List Symbol)

/-- Characters that are written as they are. -/
def word (s : String) : List Symbol := s.toList.map .char

def numberPiece : Number → Piece
  | .int n =>
    match integerText n with
    | .ok s => .ok (word s)
    | .error f => .error (.numeric f)
  | .float x => .ok (word (writeFloat x))

def callablePiece (l : Layout) (v : Value) (shown : Text) : Piece :=
  if l.callables then .ok (writeText l.ascii shown) else .error (.kind (.notData v.kindName))

/-- A piece after the marks that belong to it. -/
def Piece.after (lead : List Symbol) (p : Piece) : Piece := p.map (lead ++ ·)

mutual

/-- The pieces of a value whose first line stands at a depth, with the marks before it. -/
def pieces (l : Layout) (lead : List Symbol) (depth : Nat) : Value → List Piece
  | .null => [.ok (lead ++ word "null")]
  | .bool true => [.ok (lead ++ word "true")]
  | .bool false => [.ok (lead ++ word "false")]
  | .num n => [(numberPiece n).after lead]
  | .str s => [.ok (lead ++ writeText l.ascii s)]
  | .list [] => [.ok (lead ++ word "[]")]
  | .list (x :: xs) =>
    .ok lead :: pieces l ('[' :: l.newline (depth + 1)) (depth + 1) x ++
      itemPieces l (depth + 1) xs ++ [.ok (l.newline depth ++ word "]")]
  | .map [] => [.ok (lead ++ word "\x7b\x7d")]
  | .map ((k, v) :: fs) =>
    .ok (lead ++ word "\x7b" ++ l.newline (depth + 1)) :: .ok (writeText l.ascii k) ::
      .ok l.colon :: pieces l [] (depth + 1) v ++ fieldPieces l (depth + 1) fs ++
      [.ok (l.newline depth ++ word "\x7d")]
  | .helper h => [.ok lead, callablePiece l (.helper h) (Value.helperText h)]
  | .method r m => [.ok lead, callablePiece l (.method r m) (Value.methodText r m)]

/-- The items after the first. -/
def itemPieces (l : Layout) (depth : Nat) : List Value → List Piece
  | [] => []
  | x :: xs => pieces l (l.comma ++ l.newline depth) depth x ++ itemPieces l depth xs

/-- The members after the first. -/
def fieldPieces (l : Layout) (depth : Nat) : List (Text × Value) → List Piece
  | [] => []
  | (k, v) :: fs =>
    .ok (l.comma ++ l.newline depth) :: .ok (writeText l.ascii k) :: .ok l.colon ::
      pieces l [] depth v ++ fieldPieces l depth fs

end

/-- All pieces, or the first fault. -/
def joined : List Piece → Except Fault (List Symbol)
  | [] => .ok []
  | p :: ps => do
    let cs ← p
    return cs ++ (← joined ps)

/-- The text of a value. -/
def write (l : Layout) (v : Value) : Except Fault Text := (joined (pieces l [] 0 v)).map .ofList

/-- The characters of pieces that are encoded each on its own, and the fault that ends them if there
is one. -/
def encoded : List Piece → List Char × Option Fault
  | [] => ([], none)
  | p :: ps =>
    match p.bind fun cs => (Text.characters cs).mapError .encoding with
    | .error f => ([], some f)
    | .ok cs =>
      let rest := encoded ps
      (cs ++ rest.1, rest.2)

end RuleLedger.Json
