import RuleLedger.Primitive.CompositeScorer

/-! Checks on every output, whatever is bound to the primitive. -/
namespace RuleLedger

/-- The violation that a primitive reports itself. -/
def syntheticViolations : Output → List Text
  | .flagged violation _ => ["Synthetic violation: " ++ violation.shown]
  | _ => []

/-- A NaN score that the primitive did not flag, an output without fields, and an error. -/
def structuralViolations (o : Output) : List Text :=
  let score := ((Fields.get? o.rendered Score.field).map fun l => l.value.isNaN).getD false
  let found : List (Option Text) :=
    [if score && !o.isFlagged then some "NaN normalized_score detected" else none,
      if o.rendered.isEmpty then some "Empty output object" else none,
      match o with
      | .failed error _ => some ("Primitive error: " ++ error.shown)
      | _ => none]
  found.filterMap id

end RuleLedger
