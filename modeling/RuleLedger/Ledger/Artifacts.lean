import RuleLedger.Files.Script
import RuleLedger.Json.Reader
import RuleLedger.Json.Writer
import RuleLedger.Ledger.Entry
import RuleLedger.Setting

/-! The documents that a run leaves behind: the ledger and the violations in a folder for audits,
and the metrics. -/
namespace RuleLedger

namespace Artifacts

def ledgerName : String := "mneme_ledger.json"

def violationsName : String := "violations_audit.json"

def metricsName : String := "metrics_snapshot.json"

/-- The folder for audits. -/
def folderSetting (given? : Option Text) (vars : Variables) : Text :=
  setting given? vars "KERN_AUDIT_DIR" "audit"

/-- The path of the ledger when none is given. -/
def ledgerPath (vars : Variables) : Text := folderSetting none vars ++ "/" ++ ledgerName

end Artifacts

/-- Where the documents of a run are kept. -/
structure Artifacts where
  folder : FilePath
  metrics : FilePath
deriving Repr, DecidableEq

namespace Artifacts

def choose (folder? metrics? : Option Text) (vars : Variables) : Artifacts :=
  { folder := FilePath.ofText (folderSetting folder? vars)
    metrics := FilePath.ofText ((given metrics?).getD metricsName) }

def ledger (a : Artifacts) : FilePath := a.folder.child ledgerName

def violations (a : Artifacts) : FilePath := a.folder.child violationsName

/-- Write a document. When a part of it cannot be written, the text before that part is left. -/
def store (path : FilePath) (doc : Value) : Work Unit :=
  match Json.encoded (Json.pieces .stored [] 0 doc) with
  | (cs, none) => Work.write path.text (String.ofList (cs ++ ['\n']))
  | (cs, some f) => do
    Work.write path.text (String.ofList cs)
    throw f

/-- Make the folder of a file, unless it is the working folder. -/
def makeParent (path : FilePath) : Work Unit :=
  if path.parent = ⟨"", []⟩ then pure () else Work.makeFolders path.parent

/-- Write the documents of a rendered run. -/
def save (a : Artifacts) (result : Value) : Work Unit := do
  Work.makeFolders a.folder
  makeParent a.metrics
  store a.ledger (← Work.ofExcept (result.section? "ledger" (.list [])))
  store a.violations (← Work.ofExcept (result.section? "auditTrail" (.list [])))
  store a.metrics (← Work.ofExcept (result.section? "metrics" (.map [])))

/-- The paths by the names of the documents. -/
def toFields (a : Artifacts) : Fields Text :=
  [("ledger", a.ledger.text), ("violations", a.violations.text), ("metrics", a.metrics.text)]

end Artifacts

/-- Read a stored document. -/
def Work.document (path : Text) : Work Value := do
  let text ← Work.read path
  Work.ofExcept (Json.readStored text)

/-- Read a stored ledger. -/
def Ledger.load (path : Text) : Work Ledger := do
  let doc ← Work.document path
  Work.ofExcept (Ledger.ofValue doc)

end RuleLedger
