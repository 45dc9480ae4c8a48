import RuleLedger.Expr.Syntax
import RuleLedger.Expr.Token

/-! Trees of rule expressions. From loosest to tightest: the conditional, or, and, equality, order,
sum, product, the prefix operators, and member, index and call. The binary operators group to the
left, the conditional and the prefix operators to the right. -/
namespace RuleLedger.Expr

/-- Read something from the front of the tokens. -/
abbrev Parse (α : Type) := List Token → Except Fault (α × List Token)

def finishToken : Token := ⟨.finish, "", 0⟩

def peek (ts : List Token) : Token := ts.headD finishToken

def isOperator (symbol : String) (t : Token) : Bool := t.kind == .operator && t.text == symbol

def isKeyword (word : String) (t : Token) : Bool := t.kind == .keyword && t.text == word

def refuse {α : Type} (f : ParseFault) : Except Fault α := .error (.parse f)

def expectedFault (wanted : String) (t : Token) : ParseFault :=
  .expected wanted t.offset t.kind.label t.text

def unexpectedFault (t : Token) : ParseFault := .unexpectedToken t.offset t.kind.label t.text

/-- Step over an operator that must come next. -/
def expectOperator (symbol : String) (ts : List Token) : Except Fault (List Token) :=
  if isOperator symbol (peek ts) then .ok ts.tail
  else refuse (expectedFault ("OP:" ++ symbol) (peek ts))

/-! ### Binary operators -/

/-- A level of binary operators: what a token that belongs to it builds of its operands. -/
abbrev Level (α : Type) := Token → Option (α → α → α)

def logicalLevel (op : LogicalOp) (word : String) : Level Tree := fun t =>
  if isOperator op.symbol t || isKeyword word t then some (.logical op) else none

def binaryLevel (ops : List BinaryOp) : Level Tree := fun t =>
  if t.kind == .operator then (ops.find? (·.symbol == t.text)).map .binary else none

/-- The levels from the loosest to the tightest. -/
def levels : List (Level Tree) :=
  [logicalLevel .either "or",
    logicalLevel .both "and",
    binaryLevel [.equal, .notEqual, .strictEqual, .strictNotEqual],
    binaryLevel [.order .lt, .order .le, .order .gt, .order .ge],
    binaryLevel [.arith .add, .arith .sub],
    binaryLevel [.arith .mul, .arith .div, .arith .rem]]

/-- Operators of a level and their right operands, added to what stands on the left. -/
def chain {α : Type} (level : Level α) (operand : Parse α) : (fuel : Nat) → α → Parse α
  | 0, left, ts => .ok (left, ts)
  | fuel + 1, left, ts =>
    match level (peek ts) with
    | none => .ok (left, ts)
    | some build =>
      match operand ts.tail with
      | .error f => .error f
      | .ok (right, ts) => chain level operand fuel (build left right) ts

def atLevel {α : Type} (level : Level α) (operand : Parse α) : Parse α := fun ts =>
  match operand ts with
  | .error f => .error f
  | .ok (left, rest) => chain level operand rest.length left rest

/-- Trees of all binary levels over the given operands. -/
def ladder (operand : Parse Tree) : Parse Tree := levels.foldr atLevel operand

/-- What holds of operands and is kept by every level holds of trees of all levels. -/
theorem ladder_keeps {motive : Parse Tree → Prop} {operand : Parse Tree} (h : motive operand)
    (hlevel : ∀ level ∈ levels, ∀ p, motive p → motive (atLevel level p)) :
    motive (ladder operand) :=
  List.foldrRecOn levels atLevel h fun p hp level hmem => hlevel level hmem p hp

/-! ### Lists and suffixes -/

/-- Trees between commas up to a closing bracket; there is at least one. -/
def listTail (inner : Parse Tree) (close : String) : (fuel : Nat) → Parse (List Tree)
  | 0, _ => .error .nesting
  | fuel + 1, ts =>
    match inner ts with
    | .error f => .error f
    | .ok (item, ts) =>
      if isOperator close (peek ts) then .ok ([item], ts.tail)
      else
        match expectOperator "," ts with
        | .error f => .error f
        | .ok ts =>
          match listTail inner close fuel ts with
          | .error f => .error f
          | .ok (items, ts) => .ok (item :: items, ts)

def listUpTo (inner : Parse Tree) (close : String) : Parse (List Tree) := fun ts =>
  if isOperator close (peek ts) then .ok ([], ts.tail) else listTail inner close ts.length ts

/-- Members, indices and calls, added to the tree on the left. -/
def suffixes (inner : Parse Tree) : (fuel : Nat) → Tree → Parse Tree
  | 0, left, ts => .ok (left, ts)
  | fuel + 1, left, ts =>
    if isOperator "." (peek ts) then
      let t := peek ts.tail
      if t.kind == .name then suffixes inner fuel (.member left t.text) ts.tail.tail
      else refuse (expectedFault "ID" t)
    else if isOperator "[" (peek ts) then
      match inner ts.tail with
      | .error f => .error f
      | .ok (key, ts) =>
        match expectOperator "]" ts with
        | .error f => .error f
        | .ok ts => suffixes inner fuel (.index left key) ts
    else if isOperator "(" (peek ts) then
      match listUpTo inner ")" ts.tail with
      | .error f => .error f
      | .ok (arguments, ts) => suffixes inner fuel (.call left arguments) ts
    else .ok (left, ts)

/-! ### Operands -/

/-- The value of a numeral: a double when it has a point or a power of ten. -/
def numeralValue (text : Text) : Except NumericFault Value :=
  let cs := text.toList
  if cs.any fun c => c = '.' || c = 'e' || c = 'E' then .ok (.float (Numeral.decimal cs).toFloat)
  else (readDigits cs).map fun n => .int n

/-- The value of a keyword that stands for one. -/
def keywordValue? (word : Text) : Option Value :=
  if word = "true" then some (.bool true)
  else if word = "false" then some (.bool false)
  else if word = "null" || word = "undefined" then some .null
  else none

/-- Literals, names, trees in parentheses, and arrays. -/
def primary (inner : Parse Tree) : Parse Tree := fun ts =>
  let t := peek ts
  match t.kind with
  | .number =>
    match numeralValue t.text with
    | .ok v => .ok (.literal v, ts.tail)
    | .error f => .error (.numeric f)
  | .string => .ok (.literal (.str (unquote t.text)), ts.tail)
  | .keyword =>
    match keywordValue? t.text with
    | some v => .ok (.literal v, ts.tail)
    | none => refuse (unexpectedFault t)
  | .name => .ok (.name t.text, ts.tail)
  | .operator =>
    if t.text == "(" then
      match inner ts.tail with
      | .error f => .error f
      | .ok (e, ts) =>
        match expectOperator ")" ts with
        | .error f => .error f
        | .ok ts => .ok (e, ts)
    else if t.text == "[" then
      match listUpTo inner "]" ts.tail with
      | .error f => .error f
      | .ok (items, ts) => .ok (.array items, ts)
    else refuse (unexpectedFault t)
  | .finish => refuse (unexpectedFault t)

/-- The prefix operator of a token. -/
def unaryOp? (t : Token) : Option UnaryOp :=
  if t.kind == .operator then [UnaryOp.not, .minus, .plus].find? (·.symbol == t.text)
  else if isKeyword "not" t then some .not
  else none

mutual

/-- A whole expression; the budget bounds how deep brackets and prefix operators nest. -/
def conditional : (budget : Nat) → Parse Tree
  | 0, _ => .error .nesting
  | budget + 1, ts =>
    match ladder (unary budget) ts with
    | .error f => .error f
    | .ok (test, ts) =>
      if isOperator "?" (peek ts) then
        match conditional budget ts.tail with
        | .error f => .error f
        | .ok (yes, ts) =>
          match expectOperator ":" ts with
          | .error f => .error f
          | .ok ts =>
            match conditional budget ts with
            | .error f => .error f
            | .ok (no, ts) => .ok (.conditional test yes no, ts)
      else .ok (test, ts)

/-- An operand with its prefix operators and suffixes. -/
def unary : (budget : Nat) → Parse Tree
  | 0, _ => .error .nesting
  | budget + 1, ts =>
    match unaryOp? (peek ts) with
    | some op =>
      match unary budget ts.tail with
      | .error f => .error f
      | .ok (operand, ts) => .ok (.unary op operand, ts)
    | none =>
      match primary (enclosed budget) ts with
      | .error f => .error f
      | .ok (e, ts) => suffixes (enclosed budget) ts.length e ts

/-- An expression in brackets; the levels of operators on the way to it count as well. -/
def enclosed : (budget : Nat) → Parse Tree
  | budget + 8, ts => conditional budget ts
  | _, _ => .error .nesting

end

/-- How deep brackets and prefix operators may nest. -/
def nestingBudget : Nat := 945

/-- The tree of a whole list of tokens. -/
def parseTokens (budget : Nat) (ts : List Token) : Except Fault Tree :=
  if (peek ts).kind == .finish then refuse .empty
  else
    match conditional budget ts with
    | .error f => .error f
    | .ok (e, rest) =>
      let t := peek rest
      if t.kind == .finish then .ok e else refuse (.trailing t.offset t.text)

def parse (source : Text) : Except Fault Tree :=
  match tokenize source with
  | .error f => refuse f
  | .ok ts => parseTokens nestingBudget ts

end RuleLedger.Expr
