import RuleLedger.Log.Field

/-! Messages of the log: a template, with the arguments of its directives. -/
namespace RuleLedger.Log

/-- What directives draw their arguments from. -/
structure Supply where
  /-- The arguments that were not drawn yet, in order. -/
  waiting : List Value
  /-- Arguments by name. -/
  named : Option (Fields Value)

namespace Supply

/-- A lone mapping that is not empty gives its members by name. -/
def ofArguments : List Value → Supply
  | [.map (f :: fs)] => ⟨[.map (f :: fs)], some (f :: fs)⟩
  | vs => ⟨vs, none⟩

def draw? (s : Supply) : Option (Value × Supply) :=
  match s.waiting with
  | v :: vs => some (v, { s with waiting := vs })
  | [] => none

/-- The argument of a name becomes the only one that waits. -/
def select? (s : Supply) : Option (List Symbol) → Option Supply
  | none => some s
  | some key => do
    let v ← Fields.get? (← s.named) ⟨key⟩
    return { s with waiting := [v] }

/-- A size, drawn if it has to be. -/
def size? (s : Supply) : Size → Option (Option Int × Supply)
  | .unset => some (none, s)
  | .fixed n => some (some n, s)
  | .drawn => do
    let (v, s) ← s.draw?
    match v with
    | .bool b => return (some (if b then 1 else 0), s)
    | .num (.int n) => return (some n, s)
    | _ => none

/-- Arguments may only be left over when they have names. -/
def isSpent (s : Supply) : Bool := s.named.isSome || s.waiting.isEmpty

end Supply

/-- The text of a directive. A negative width that is drawn turns the field to the left, a negative
precision counts as zero. -/
def render? (s : Supply) (d : Directive) : Option (List Symbol × Supply) := do
  let s ← s.select? d.key
  let (width?, s) ← s.size? d.width
  let (precision?, s) ← s.size? d.precision
  let width := width?.getD 0
  let f : Field := {
    directive := { d with left := d.left || decide (width < 0) }
    width := width.natAbs
    precision := precision?.map Int.toNat }
  let (v, s) ← s.draw?
  if f.width > sizeLimit || (f.precision.getD 0) > sizeLimit then none
  else return (← f.show? v, s)

/-- Fill the pieces of a template in order. -/
def fill? : Supply → List Piece → Option (List Symbol)
  | s, [] => if s.isSpent then some [] else none
  | s, .text c :: ps => (fill? s ps).map (c :: ·)
  | s, .directive d :: ps => do
    let (cs, s) ← render? s d
    return cs ++ (← fill? s ps)

/-- The text of a message. A template without arguments is the text itself; there is no text unless
every directive finds an argument that it can show. -/
def message? (template : Text) (args : List Value) : Option Text :=
  if args.isEmpty then some template
  else ((pieces template).bind (fill? (.ofArguments args))).map Text.ofList

end RuleLedger.Log
