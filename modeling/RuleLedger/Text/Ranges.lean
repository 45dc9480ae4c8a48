import RuleLedger.Text.Symbol

/-! Sets of symbols given as inclusive ranges of their numbers. -/
namespace RuleLedger.Text

/-- Inclusive ranges of numbers. -/
abbrev Ranges := Array (Nat × Nat)

def Ranges.has (rs : Ranges) (c : Symbol) : Bool :=
  rs.any fun r => r.1 ≤ c.code && c.code ≤ r.2

/-- The form in which ranges are searched fastest in a proof: along a list, without indices. -/
theorem Ranges.has_eq_any_toList (rs : Ranges) (c : Symbol) :
    rs.has c = rs.toList.any fun r => r.1 ≤ c.code && c.code ≤ r.2 :=
  Array.any_toList.symm

end RuleLedger.Text
