import RuleLedger.Primitive.CompositeScorer
import RuleLedger.Primitive.Evaluators
import RuleLedger.Primitive.RuleApplicator
import RuleLedger.Primitive.StateMutator

/-! The built-in primitives by name. -/
namespace RuleLedger

namespace Registry

def builtin : Registry :=
  [("CONDITION_EVALUATOR", conditionEvaluator),
    ("EXPRESSION_EVALUATOR", expressionEvaluator),
    ("STATE_MUTATOR", stateMutator),
    ("COMPOSITE_SCORER", compositeScorer),
    ("RULE_APPLICATOR", ruleApplicator)]

/-- The registered names in ascending order. -/
def names (r : Registry) : List Text := (Fields.keys r).mergeSort Text.le

end Registry
end RuleLedger
