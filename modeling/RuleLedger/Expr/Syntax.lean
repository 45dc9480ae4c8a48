import RuleLedger.Value.Basic

/-! Syntax trees of rule expressions. -/
namespace RuleLedger.Expr

inductive UnaryOp where
  | not | minus | plus
deriving Repr, DecidableEq

def UnaryOp.symbol : UnaryOp → String
  | .not => "!"
  | .minus => "-"
  | .plus => "+"

inductive Ordering where
  | lt | le | gt | ge
deriving Repr, DecidableEq

inductive Arithmetic where
  | add | sub | mul | div | rem
deriving Repr, DecidableEq

/-- Operators that evaluate both sides. -/
inductive BinaryOp where
  | equal | notEqual | strictEqual | strictNotEqual
  | order (op : Ordering)
  | arith (op : Arithmetic)
deriving Repr, DecidableEq

def Ordering.symbol : Ordering → String
  | .lt => "<"
  | .le => "<="
  | .gt => ">"
  | .ge => ">="

def Arithmetic.symbol : Arithmetic → String
  | .add => "+"
  | .sub => "-"
  | .mul => "*"
  | .div => "/"
  | .rem => "%"

def BinaryOp.symbol : BinaryOp → String
  | .equal => "=="
  | .notEqual => "!="
  | .strictEqual => "==="
  | .strictNotEqual => "!=="
  | .order op => op.symbol
  | .arith op => op.symbol

/-- Operators that answer with one of their operands. -/
inductive LogicalOp where
  | both | either
deriving Repr, DecidableEq

def LogicalOp.symbol : LogicalOp → String
  | .both => "&&"
  | .either => "||"

inductive Tree where
  | literal (v : Value)
  | name (n : Text)
  | member (object : Tree) (n : Text)
  | index (object key : Tree)
  | call (callee : Tree) (arguments : List Tree)
  | unary (op : UnaryOp) (operand : Tree)
  | binary (op : BinaryOp) (left right : Tree)
  | logical (op : LogicalOp) (left right : Tree)
  | conditional (test yes no : Tree)
  | array (items : List Tree)
deriving Inhabited, Repr

/-- How a message names what was to be called. -/
def Tree.callName : Tree → Text
  | .name n => n
  | .member object n => object.callName ++ "." ++ n
  | _ => "expression"

end RuleLedger.Expr
