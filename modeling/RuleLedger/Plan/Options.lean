import RuleLedger.Value.Basic

/-! How a run is carried out. -/
namespace RuleLedger

/-- How much of each step is logged. -/
inductive Detail where
  | verbose | normal | quiet
deriving Repr, DecidableEq

def Detail.name : Detail → String
  | .verbose => "verbose"
  | .normal => "normal"
  | .quiet => "quiet"

def Detail.all : List Detail := [.verbose, .normal, .quiet]

def Detail.ofName? (s : Text) : Option Detail := all.find? (·.name == s)

structure Options where
  /-- Stop at the end of the first step with a violation. -/
  halt : Bool
  /-- Violations are always collected; the choice is only reported. -/
  collect : Bool
  detail : Detail
deriving Repr, DecidableEq

def Options.standard : Options := ⟨false, true, .normal⟩

def Options.toFields (o : Options) : Fields Value :=
  [("haltOnError", .bool o.halt), ("collectAllViolations", .bool o.collect),
    ("logLevel", .str o.detail.name)]

end RuleLedger
