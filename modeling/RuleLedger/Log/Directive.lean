import RuleLedger.Text.Basic

/-! Directives of message templates. A directive starts with a percent sign and ends with a letter
that says how an argument is shown; between the two stand a name, flags, a width and a precision. -/
namespace RuleLedger.Log

/-- A width or a precision. -/
inductive Size where
  | unset
  | fixed (n : Nat)
  /-- Taken from the arguments. -/
  | drawn
deriving Repr, DecidableEq

structure Directive where
  /-- The name of an argument in a mapping. -/
  key : Option (List Symbol)
  /-- Shown at the left of its field. -/
  left : Bool
  /-- A number that is not negative gets a plus sign. -/
  plus : Bool
  /-- The same with a blank. -/
  blank : Bool
  /-- The marked form of a number. -/
  marked : Bool
  /-- A number is filled up with zeros. -/
  zeros : Bool
  width : Size
  precision : Size
  letter : Symbol
deriving Repr, DecidableEq

/-- Where the reading of a directive stands. -/
inductive Stage where
  | start
  /-- Inside that many open brackets. -/
  | key (depth : Nat)
  | flags
  | width
  /-- After a width that is drawn. -/
  | widthEnd
  | point
  | precision
  | precisionEnd
  | letter
deriving Repr, DecidableEq

structure Draft where
  stage : Stage
  directive : Directive

namespace Draft

/-- The start of a directive. -/
def start : Draft := ⟨.start, ⟨none, false, false, false, false, false, .unset, .unset, '%'⟩⟩

end Draft

/-- A draft that goes on, or the directive that a character completes. -/
inductive Reading where
  | more (draft : Draft)
  | done (d : Directive)

namespace Directive

def digit? (c : Symbol) : Option Nat :=
  if '0'.toNat ≤ c.code && c.code ≤ '9'.toNat then some (c.code - '0'.toNat) else none

/-- One more digit of a size. -/
def Size.push : Size → Nat → Size
  | .fixed n, k => .fixed (10 * n + k)
  | _, k => .fixed k

/-- A letter for the size of a machine number may stand before the last letter and says nothing. -/
def readModifier (d : Directive) (c : Symbol) : Reading :=
  if c = 'h' || c = 'l' || c = 'L' then .more ⟨.letter, d⟩ else .done { d with letter := c }

def readPoint (d : Directive) (c : Symbol) : Reading :=
  if c = '.' then .more ⟨.point, { d with precision := .fixed 0 }⟩ else d.readModifier c

def readWidth (d : Directive) (c : Symbol) : Reading :=
  match digit? c with
  | some k => .more ⟨.width, { d with width := Size.push d.width k }⟩
  | none => d.readPoint c

def readFlag (d : Directive) (c : Symbol) : Reading :=
  let go (d : Directive) : Reading := .more ⟨.flags, d⟩
  match c with
  | .char '-' => go { d with left := true }
  | .char '+' => go { d with plus := true }
  | .char ' ' => go { d with blank := true }
  | .char '#' => go { d with marked := true }
  | .char '0' => go { d with zeros := true }
  | .char '*' => .more ⟨.widthEnd, { d with width := .drawn }⟩
  | c => d.readWidth c

def readPrecision (d : Directive) (c : Symbol) : Reading :=
  match digit? c with
  | some k => .more ⟨.precision, { d with precision := Size.push d.precision k }⟩
  | none => d.readModifier c

def pushKey (d : Directive) (c : Symbol) : Directive :=
  { d with key := d.key.map (· ++ [c]) }

/-- Brackets inside a name are balanced. -/
def readKey (d : Directive) (depth : Nat) (c : Symbol) : Reading :=
  if c = ')' then
    if depth = 1 then .more ⟨.flags, d⟩ else .more ⟨.key (depth - 1), d.pushKey c⟩
  else .more ⟨.key (if c = '(' then depth + 1 else depth), d.pushKey c⟩

end Directive

open Directive in
/-- The next character of a directive. -/
def Draft.read (draft : Draft) (c : Symbol) : Reading :=
  let d := draft.directive
  match draft.stage with
  | .start => if c = '(' then .more ⟨.key 1, { d with key := some [] }⟩ else d.readFlag c
  | .key depth => d.readKey depth c
  | .flags => d.readFlag c
  | .width => d.readWidth c
  | .widthEnd => d.readPoint c
  | .point =>
    if c = '*' then .more ⟨.precisionEnd, { d with precision := .drawn }⟩ else d.readPrecision c
  | .precision => d.readPrecision c
  | .precisionEnd => d.readModifier c
  | .letter => .done { d with letter := c }

/-- A piece of a template. -/
inductive Piece where
  | text (c : Symbol)
  | directive (d : Directive)
deriving Repr, DecidableEq

/-- The pieces of a template, a directive being read if there is a draft; none if the last one is
not completed. A doubled percent sign is a single one. -/
def piecesFrom : Option Draft → List Symbol → Option (List Piece)
  | none, [] => some []
  | some _, [] => none
  | none, .char '%' :: .char '%' :: cs => (piecesFrom none cs).map (.text (.char '%') :: ·)
  | none, c :: cs =>
    if c = '%' then piecesFrom (some .start) cs else (piecesFrom none cs).map (.text c :: ·)
  | some draft, c :: cs =>
    match draft.read c with
    | .more draft => piecesFrom (some draft) cs
    | .done d => (piecesFrom none cs).map (.directive d :: ·)

def pieces (template : Text) : Option (List Piece) := piecesFrom none template.toList

end RuleLedger.Log
