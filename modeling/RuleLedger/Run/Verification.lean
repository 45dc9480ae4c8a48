import RuleLedger.Ledger.Verification
import RuleLedger.Run.Result

/-! Verification of a run by replay: the plan is run again on the same value, and the final hash,
the number of violations and the hashes of the steps have to come out the same. -/
namespace RuleLedger

/-- A result as it is presented for verification. Nothing about it is trusted. -/
structure Claimed where
  state : Value
  ledger : Ledger
  ticks : Value
  finalHash : Value
  ledgerEntries : Value
  violations : Value

def RunResult.claimed (r : RunResult) : Claimed :=
  { state := r.state
    ledger := r.ledger
    ticks := .nat r.proof.ticks
    finalHash := .str r.proof.finalHash
    ledgerEntries := .nat r.proof.ledgerEntries
    violations := .nat r.proof.violations }

/-- A way in which a replay differs from what was recorded. -/
inductive Mismatch where
  | ledger (defect : Defect) (index : Nat)
  | finalHash (recorded : Value) (replayed : String)
  | violations (recorded : Value) (replayed : Nat)
  | stepCount (recorded replayed : Nat)
  | step (number : Nat) (recorded replayed : Value)
deriving Repr

def versus (recorded replayed : Text) : Text :=
  " mismatch: expected " ++ recorded ++ ", got " ++ replayed

def Mismatch.message : Mismatch → Text
  | .ledger defect index => "ledger: " ++ defect.message ++ " at entry " ++ toString index
  | .finalHash a b => "finalHash" ++ versus a.shown b
  | .violations a b => "violation count" ++ versus a.shown (toString b)
  | .stepCount a b => "step count" ++ versus (toString a) (toString b)
  | .step n a b => "step " ++ toString n ++ " payload hash" ++ versus a.shown b.shown

/-- Whether a value is this count. -/
def Value.isCount (v : Value) (n : Nat) : Bool := ((tickNumber? v).map (·.eq (.int n))).getD false

/-- Whether two hashes are one and the same text. -/
def sameHash (a b : Value) : Bool :=
  match b with
  | .str t => a.isText t
  | _ => false

/-- The first pair of hashes that differ; pairs are numbered from `n`. -/
def firstDifference (n : Nat) : List Value → List Value → Option Mismatch
  | a :: as, b :: bs => if sameHash a b then firstDifference (n + 1) as bs else some (.step n a b)
  | _, _ => none

/-- Where a replay differs from a claimed result, the ledger's own verdict first. -/
def compareReplay (verdict : Verdict) (claimed : Claimed) (replay : RunResult) : List Mismatch :=
  let recorded := RunResult.stepHashes claimed.ledger
  let replayed := RunResult.stepHashes replay.ledger
  (verdict.defect.map fun d => Mismatch.ledger d verdict.checked).toList ++
    (if claimed.finalHash.isText replay.proof.finalHash then []
      else [.finalHash claimed.finalHash replay.proof.finalHash]) ++
    (if claimed.violations.isCount replay.proof.violations then []
      else [.violations claimed.violations replay.proof.violations]) ++
    (if recorded.length = replayed.length then []
      else [.stepCount recorded.length replayed.length]) ++
    (firstDifference 1 recorded replayed).toList

/-- Verify a claimed result of a run on a value. A result without mismatches is valid. -/
def Setup.verify (setup : Setup) (seed : Seed) (initial : Value) (claimed : Claimed) :
    Except Fault (List Mismatch) := do
  let verdict ← claimed.ledger.verify
  match setup.execute seed initial with
  | .error a => .error a.fault
  | .ok (replay, _) => return compareReplay verdict claimed replay

end RuleLedger
