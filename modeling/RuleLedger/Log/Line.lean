import RuleLedger.Text.Basic

/-! Lines of the log. -/
namespace RuleLedger

inductive Severity where
  | debug | info | warning | error | critical
deriving Repr, DecidableEq

def Severity.name : Severity → String
  | .debug => "DEBUG"
  | .info => "INFO"
  | .warning => "WARNING"
  | .error => "ERROR"
  | .critical => "CRITICAL"

/-- Severities grow with their rank. -/
def Severity.rank : Severity → Nat
  | .debug => 10
  | .info => 20
  | .warning => 30
  | .error => 40
  | .critical => 50

structure LogLine where
  severity : Severity
  message : Text
deriving Repr, DecidableEq

end RuleLedger
