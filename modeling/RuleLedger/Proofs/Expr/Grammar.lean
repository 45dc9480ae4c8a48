import RuleLedger.Expr.Parser

/-! The grammar of rule expressions: its operators by level, the forms that its productions build of
tokens, and the tree that a form stands for. -/
namespace RuleLedger.Expr

/-! ### Operators -/

/-- A binary operator: how loosely it binds, how it is written, and the node that it makes. -/
structure BinaryRule where
  level : Nat
  kind : TokenKind
  symbol : String
  node : Tree → Tree → Tree

/-- The binary operators, those that bind loosest at level 0. -/
def binaryRules : List BinaryRule :=
  [⟨0, .operator, "||", .logical .either⟩, ⟨0, .keyword, "or", .logical .either⟩,
    ⟨1, .operator, "&&", .logical .both⟩, ⟨1, .keyword, "and", .logical .both⟩,
    ⟨2, .operator, "==", .binary .equal⟩, ⟨2, .operator, "!=", .binary .notEqual⟩,
    ⟨2, .operator, "===", .binary .strictEqual⟩, ⟨2, .operator, "!==", .binary .strictNotEqual⟩,
    ⟨3, .operator, "<", .binary (.order .lt)⟩, ⟨3, .operator, "<=", .binary (.order .le)⟩,
    ⟨3, .operator, ">", .binary (.order .gt)⟩, ⟨3, .operator, ">=", .binary (.order .ge)⟩,
    ⟨4, .operator, "+", .binary (.arith .add)⟩, ⟨4, .operator, "-", .binary (.arith .sub)⟩,
    ⟨5, .operator, "*", .binary (.arith .mul)⟩, ⟨5, .operator, "/", .binary (.arith .div)⟩,
    ⟨5, .operator, "%", .binary (.arith .rem)⟩]

def binaryRule? (t : Token) : Option BinaryRule :=
  binaryRules.find? fun r => t.kind == r.kind && t.text == r.symbol

/-- The number of levels of binary operators. -/
def levelCount : Nat := 6

/-- The operators that stand before their operand. -/
def unaryRules : List (TokenKind × String × UnaryOp) :=
  [(.operator, "!", .not), (.operator, "-", .minus), (.operator, "+", .plus),
    (.keyword, "not", .not)]

def unaryRule? (t : Token) : Option UnaryOp :=
  (unaryRules.find? fun r => t.kind == r.1 && t.text == r.2.1).map fun r => r.2.2

/-- The tree of a token that stands for itself: a literal or a name. -/
def leaf? (t : Token) : Option Tree :=
  match t.kind with
  | .number => (numeralValue t.text).toOption.map .literal
  | .string => some (.literal (.str (unquote t.text)))
  | .keyword => (keywordValue? t.text).map .literal
  | .name => some (.name t.text)
  | .operator | .finish => none

/-! ### Forms -/

/-- What a derivation makes of tokens, with every token in it. The last three build the items of an
array or a call, closing bracket included. -/
inductive Form where
  | leaf (t : Token)
  | group (opening : Token) (inner : Form) (closing : Token)
  | array (opening : Token) (items : Form)
  | member (object : Form) (dot name : Token)
  | index (object : Form) (opening : Token) (key : Form) (closing : Token)
  | call (callee : Form) (opening : Token) (arguments : Form)
  | unary (op : Token) (operand : Form)
  | binary (left : Form) (op : Token) (right : Form)
  | conditional (test : Form) (mark : Token) (yes : Form) (colon : Token) (no : Form)
  | none (closing : Token)
  | last (item : Form) (closing : Token)
  | more (item : Form) (comma : Token) (rest : Form)

def Tree.items : Tree → List Tree
  | .array ts => ts
  | _ => []

namespace Form

/-- The tokens of a form from left to right. -/
def tokens : Form → List Token
  | leaf t => [t]
  | group opening inner closing => opening :: (inner.tokens ++ [closing])
  | array opening items => opening :: items.tokens
  | member object dot name => object.tokens ++ [dot, name]
  | index object opening key closing => object.tokens ++ opening :: (key.tokens ++ [closing])
  | call callee opening arguments => callee.tokens ++ opening :: arguments.tokens
  | unary op operand => op :: operand.tokens
  | binary left op right => left.tokens ++ op :: right.tokens
  | conditional test mark yes colon no =>
    test.tokens ++ mark :: (yes.tokens ++ colon :: no.tokens)
  | none closing => [closing]
  | last item closing => item.tokens ++ [closing]
  | more item comma rest => item.tokens ++ comma :: rest.tokens

/-- The tree of a form; items are an array. -/
def tree : Form → Tree
  | leaf t => (leaf? t).getD default
  | group _ inner _ => inner.tree
  | array _ items => .array items.tree.items
  | member object _ name => .member object.tree name.text
  | index object _ key _ => .index object.tree key.tree
  | call callee _ arguments => .call callee.tree arguments.tree.items
  | unary op operand => ((unaryRule? op).map fun o => .unary o operand.tree).getD default
  | binary left op right =>
    ((binaryRule? op).map fun r => r.node left.tree right.tree).getD default
  | conditional test _ yes _ no => .conditional test.tree yes.tree no.tree
  | none _ => .array []
  | last item _ => .array [item.tree]
  | more item _ rest => .array (item.tree :: rest.tree.items)

end Form

/-! ### Productions -/

/-- What the grammar derives; items end with a closing bracket. -/
inductive Phrase where
  | expression
  | level (n : Nat)
  | operand
  | suffixed
  | primary
  | arguments (close : String)
  | items (close : String)

/-- The productions. Binary operators stand to the right of operators of their own level, and the
conditional and the operators before an operand to the left of their own kind. -/
inductive Form.Derives : Phrase → Form → Prop
  | conditional {test yes no : Form} {mark colon : Token} :
    Derives (.level 0) test → isOperator "?" mark = true → Derives .expression yes →
    isOperator ":" colon = true → Derives .expression no →
    Derives .expression (.conditional test mark yes colon no)
  | expression {f : Form} : Derives (.level 0) f → Derives .expression f
  | binary {left right : Form} {op : Token} {r : BinaryRule} :
    Derives (.level r.level) left → binaryRule? op = some r →
    Derives (.level (r.level + 1)) right → Derives (.level r.level) (.binary left op right)
  | level {n : Nat} {f : Form} : n < levelCount → Derives (.level (n + 1)) f → Derives (.level n) f
  | operand {f : Form} : Derives .operand f → Derives (.level levelCount) f
  | unary {f : Form} {op : Token} :
    (unaryRule? op).isSome = true → Derives .operand f → Derives .operand (.unary op f)
  | suffixed {f : Form} : Derives .suffixed f → Derives .operand f
  | member {f : Form} {dot name : Token} :
    Derives .suffixed f → isOperator "." dot = true → name.kind = .name →
    Derives .suffixed (.member f dot name)
  | index {f key : Form} {opening closing : Token} :
    Derives .suffixed f → isOperator "[" opening = true → Derives .expression key →
    isOperator "]" closing = true → Derives .suffixed (.index f opening key closing)
  | call {f arguments : Form} {opening : Token} :
    Derives .suffixed f → isOperator "(" opening = true → Derives (.arguments ")") arguments →
    Derives .suffixed (.call f opening arguments)
  | primary {f : Form} : Derives .primary f → Derives .suffixed f
  | leaf {t : Token} : (leaf? t).isSome = true → Derives .primary (.leaf t)
  | group {f : Form} {opening closing : Token} :
    isOperator "(" opening = true → Derives .expression f → isOperator ")" closing = true →
    Derives .primary (.group opening f closing)
  | array {items : Form} {opening : Token} :
    isOperator "[" opening = true → Derives (.arguments "]") items →
    Derives .primary (.array opening items)
  | none {close : String} {closing : Token} :
    isOperator close closing = true → Derives (.arguments close) (.none closing)
  | arguments {close : String} {f : Form} :
    Derives (.items close) f → Derives (.arguments close) f
  | last {close : String} {f : Form} {closing : Token} :
    Derives .expression f → isOperator close closing = true →
    Derives (.items close) (.last f closing)
  | more {close : String} {f rest : Form} {comma : Token} :
    Derives .expression f → isOperator "," comma = true → Derives (.items close) rest →
    Derives (.items close) (.more f comma rest)

end RuleLedger.Expr
