import RuleLedger.Fields

/-! Settings by name: what is given wins over the environment, and the environment over the
default. -/
namespace RuleLedger

/-- The variables of the environment. -/
abbrev Variables := Fields Text

def Variables.getD (vars : Variables) (name absent : Text) : Text :=
  (Fields.get? vars name).getD absent

/-- What is given; the empty text gives nothing. -/
def given (s : Option Text) : Option Text := s.filter (· ≠ "")

def setting (s : Option Text) (vars : Variables) (name absent : Text) : Text :=
  (given s).getD (vars.getD name absent)

end RuleLedger
