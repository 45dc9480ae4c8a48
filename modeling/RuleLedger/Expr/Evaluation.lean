import RuleLedger.Expr.Call
import RuleLedger.Expr.Parser

/-! Evaluation of rule expressions against a record. Names resolve to members of the record or to
helpers, and only helpers can be called, so an expression reaches nothing else. -/
namespace RuleLedger.Expr

def isCallable : Datum → Bool
  | .group _ .math _ => false
  | .group .. | .helper .. | .method .. => true
  | _ => false

/-- Call what a callee evaluated to. -/
def callDatum (env : Environment) (seed : Seed) (callee : Datum) (args : List Datum) :
    Except Fault Value :=
  match callee with
  | .group _ g _ => callHelper seed (.group g) (args.map Datum.value)
  | .helper _ h => callHelper seed h (args.map Datum.value)
  | .method _ r m => callMethod env r m args
  | _ => .ok .null

def unaryResult (op : UnaryOp) (v : Value) : Value :=
  match op with
  | .not => .bool !v.truthy
  | .minus => .num v.operand.neg.normalize
  | .plus => .num v.operand

def binaryResult (op : BinaryOp) (a b : Datum) : Except Fault Value :=
  match op with
  | .equal => .ok (.bool (a.looseEqual b))
  | .notEqual => .ok (.bool !(a.looseEqual b))
  | .strictEqual => .ok (.bool (a.strictEqual b))
  | .strictNotEqual => .ok (.bool !(a.strictEqual b))
  | .order op => .ok (.bool (a.value.compare op b.value))
  | .arith op => numeric (a.value.arith op b.value)

/-- Whether a logical operator evaluates its right side. -/
def LogicalOp.goesOn : LogicalOp → Value → Bool
  | .both, v => v.truthy
  | .either, v => !v.truthy

mutual

/-- The datum of a tree; the budget bounds the depth of the tree, a call counting twice. -/
def eval (env : Environment) (seed : Seed) (budget : Nat) : Tree → Except Fault Datum
  | .literal v =>
    if budget = 0 then .error (.evaluation .tooDeep) else .ok (.plain v)
  | .name n =>
    if budget = 0 then .error (.evaluation .tooDeep) else env.name n
  | .member object n =>
    match eval env (seed.fork 0) (budget - 1) object with
    | .error f => .error f
    | .ok d => member seed d n
  | .index object key =>
    match eval env (seed.fork 0) (budget - 1) object with
    | .error f => .error f
    | .ok d =>
      match eval env (seed.fork 1) (budget - 1) key with
      | .error f => .error f
      | .ok k => index seed d k.value
  | .call callee arguments =>
    match eval env (seed.fork 0) (budget - 2) callee with
    | .error f => .error f
    | .ok d =>
      if isCallable d then
        match evalAll env seed 1 (budget - 2) arguments with
        | .error f => .error f
        | .ok args => (callDatum env seed d args).map .plain
      else .error (.evaluation (.notAFunction callee.callName))
  | .unary op operand =>
    match eval env seed (budget - 1) operand with
    | .error f => .error f
    | .ok d => .ok (.plain (unaryResult op d.value))
  | .logical op left right =>
    match eval env (seed.fork 0) (budget - 1) left with
    | .error f => .error f
    | .ok d => if op.goesOn d.value then eval env (seed.fork 1) (budget - 1) right else .ok d
  | .binary op left right =>
    match eval env (seed.fork 0) (budget - 1) left with
    | .error f => .error f
    | .ok a =>
      match eval env (seed.fork 1) (budget - 1) right with
      | .error f => .error f
      | .ok b => (binaryResult op a b).map .plain
  | .conditional test yes no =>
    match eval env (seed.fork 0) (budget - 1) test with
    | .error f => .error f
    | .ok d =>
      if d.value.truthy then eval env (seed.fork 1) (budget - 1) yes
      else eval env (seed.fork 2) (budget - 1) no
  | .array items =>
    if budget = 0 then .error (.evaluation .tooDeep) else
    match evalAll env seed 0 (budget - 1) items with
    | .error f => .error f
    | .ok ds => .ok (.list (.part seed []) ds)

/-- The data of trees from left to right, seeds being numbered from `i`. -/
def evalAll (env : Environment) (seed : Seed) (i budget : Nat) :
    List Tree → Except Fault (List Datum)
  | [] => .ok []
  | t :: ts =>
    match eval env (seed.fork i) budget t with
    | .error f => .error f
    | .ok d =>
      match evalAll env seed (i + 1) budget ts with
      | .error f => .error f
      | .ok ds => .ok (d :: ds)

end

/-- How deep a tree may be. -/
def depthBudget : Nat := 950

/-- A fault of arithmetic is one of the evaluation. -/
def wrapNumeric : Fault → Fault
  | .numeric f => .evaluation (.numeric f)
  | f => f

/-- The datum of a tree, nothing of it shared with the record; a callable is none. -/
def evaluateTree (env : Environment) (seed : Seed) (t : Tree) : Except Fault Datum :=
  match eval env seed depthBudget t with
  | .error f => .error (wrapNumeric f)
  | .ok d =>
    match d with
    | .group _ g _ => .error (.evaluation (.helperResult (Value.helperText (.group g))))
    | .helper _ h => .error (.evaluation (.helperResult (Value.helperText h)))
    | .method _ r m => .error (.evaluation (.helperResult (Value.methodText r.value m)))
    | d => .ok (d.copy seed)

/-- The datum of expression text. -/
def evaluateText (env : Environment) (seed : Seed) (source : Text) : Except Fault Datum :=
  match parse source with
  | .error f => .error f
  | .ok t => evaluateTree env seed t

def evaluate (env : Environment) (seed : Seed) (source : Value) : Except Fault Datum :=
  match source with
  | .str s => evaluateText env seed s
  | v => refuse (.notText v.kindName)

end RuleLedger.Expr
