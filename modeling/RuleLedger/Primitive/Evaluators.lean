import RuleLedger.Expr.Evaluation
import RuleLedger.Primitive.Basic

/-! The primitives that evaluate an expression and leave the record alone. -/
namespace RuleLedger

namespace Call

/-- The scope of an evaluation: the input "context" when it is a mapping, else the whole record when
it was asked for, else nothing. -/
def scope (c : Call) : Record :=
  match (c.input "context").members? with
  | some ms => ⟨.fields ms, c.record.held⟩
  | none =>
    match (c.input KeyPath.wildcardText).members? with
    | some ms => ⟨.fields ms, c.record.held⟩
    | none => ⟨.fields [], c.record.held⟩

end Call

/-- Whether a condition holds. A condition that cannot be evaluated does not. -/
def conditionEvaluator : Primitive := fun c =>
  match Expr.evaluate ⟨c.scope, none⟩ c.seed (c.inputValue "condition") with
  | .ok d => c.answer (.completed [("result", .bool d.value.truthy)])
  | .error f =>
    if f.ofExpression then
      c.answer (.failed (.str f.message) [("result", .bool false)])
    else c.raise f

/-- The value of an expression; a NaN is flagged. -/
def expressionEvaluator : Primitive := fun c =>
  match Expr.evaluate ⟨c.scope, none⟩ c.seed (c.inputValue "expression") with
  | .ok d =>
    c.answer <| if d.value.isNaN then .flagged (.str "NaN_detected") [("value", d)]
      else .completed [("value", d)]
  | .error f => if f.ofExpression then c.answer (.failed (.str f.message) []) else c.raise f

end RuleLedger
