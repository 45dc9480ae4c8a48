import RuleLedger.Text.Symbol

/-! Finding a text inside another. -/
namespace RuleLedger.Text

/-- Whether the first text stands somewhere in the second. -/
def occursIn (part : List Symbol) : List Symbol → Bool
  | [] => part.isEmpty
  | c :: cs => part.isPrefixOf (c :: cs) || occursIn part cs

theorem occursIn_iff (part cs : List Symbol) : occursIn part cs = true ↔ part <:+: cs := by
  induction cs with
  | nil => simp [occursIn]
  | cons c cs ih => simp [occursIn, ih, List.infix_cons_iff]

end RuleLedger.Text
