import RuleLedger.Command.Arguments
import RuleLedger.Command.Report
import RuleLedger.Ledger.Artifacts
import RuleLedger.Ledger.Verification

/-! Commands on a stored ledger: verify it, and show its entries. -/
namespace RuleLedger.Command

def absentLedger : String := "Ledger file not found"

def ledgerOption : OptionSpec := .value "--ledger" (some 'l')

/-! ### Verification -/

structure VerifyRequest where
  ledger : Option Text
  json : Bool

namespace VerifyRequest

def options : List OptionSpec := [ledgerOption, .flag "--json"]

def ofFields (fs : Fields Text) : VerifyRequest := ⟨fs.get? "--ledger", fs.has "--json"⟩

/-- What a defect is told as. -/
def defectBlocks (v : Verdict) (d : Defect) : Except NumericFault (List Block) := do
  return [.text ("[red]Ledger verification failed:[/red] " ++ d.message),
    .text ("  Entry: " ++ toString v.checked), .text ("  Expected: " ++ (← d.expected.plain)),
    .text ("  Actual: " ++ (← d.actual.plain))]

/-- Status zero for an intact ledger, one for any other. -/
def status (v : Verdict) : Nat := if v.valid then 0 else 1

def reportVerdict (w : Surroundings) (json : Bool) (v : Verdict) : Report :=
  if json then .ofDocument (status v) .shown v.toValue
  else
    match v.defect with
    | none =>
      .ofBlocks w 0
        [.text ("[green]Ledger intact:[/green] " ++ toString v.checked ++ " entries verified")]
    | some d =>
      match defectBlocks v d with
      | .ok blocks => .ofBlocks w 1 blocks
      | .error _ => ⟨1, "", .unused⟩

/-- Status two for a ledger that cannot be read. -/
def report (w : Surroundings) (json : Bool) : Except Fault Verdict → Report
  | .ok v => reportVerdict w json v
  | .error f => .ofFault w json absentLedger f

def work (r : VerifyRequest) (w : Surroundings) : Work Verdict := do
  let ledger ← Ledger.load ((given r.ledger).getD (Artifacts.ledgerPath w.environment))
  Work.ofExcept ledger.verify

def script (r : VerifyRequest) (w : Surroundings) : Script Report := do
  return report w r.json (← (r.work w).run)

end VerifyRequest

/-! ### Entries -/

structure ShowRequest where
  ledger : Option Text
  operation : Option Text
  violations : Bool
  payload : Bool
  json : Bool

namespace ShowRequest

def options : List OptionSpec :=
  [ledgerOption, .value "--operation" (some 'o'), .flag "--violations", .flag "--payload",
    .flag "--json"]

def ofFields (fs : Fields Text) : ShowRequest :=
  { ledger := fs.get? "--ledger"
    operation := fs.get? "--operation"
    violations := fs.has "--violations"
    payload := fs.has "--payload"
    json := fs.has "--json" }

/-- Whether an entry is asked for. -/
def admits (r : ShowRequest) (e : Entry) : Bool :=
  (match given r.operation with
    | some operation => e.operation.isText operation
    | none => true) && (!r.violations || e.isViolation)

/-- The entry as a document; the payload is only shown when it is asked for. -/
def document (r : ShowRequest) (e : Entry) : Value :=
  (if r.payload then e else { e with payload := .str "<hidden>" }).toValue

def reportJson (r : ShowRequest) (l : Ledger) : Report :=
  .ofDocument 0 .shown (.map [("entries", .list (l.map r.document)), ("count", .nat l.length)])

/-- A cell of the table holds a text, or nothing. -/
def cell? : Value → Option Text
  | .str s => some s
  | .null => some ""
  | _ => none

/-- The colour that marks violations. -/
def colour (e : Entry) : String := if e.isViolation then "red" else "green"

/-- The row of an entry, with the start of its hash. Only texts are cut, and ticks are shown as any
value is. -/
def row? (e : Entry) : Option (List Text) := do
  let tick ← e.tick.plain.toOption
  let operation ← e.operation.plain.toOption
  let timestamp ← cell? e.timestamp
  let hash ← e.hash.text?
  return [tick, "[" ++ colour e ++ "]" ++ operation ++ "[/" ++ colour e ++ "]", timestamp,
    ⟨hash.toList.take 16⟩]

def table (path : Text) (rows : List (List Text)) : Terminal.Table :=
  { title := some ("Ledger: " ++ path)
    columns := [⟨"Tick", .right⟩, ⟨"Operation", .left⟩, ⟨"Timestamp", .left⟩,
      ⟨"Hash (prefix)", .left⟩]
    headed := true
    framed := true
    rows := rows }

def payloadBlocks (e : Entry) : Except NumericFault (List Block) := do
  return [.text ("\n[bold cyan]Tick " ++ (← e.tick.plain) ++ "[/bold cyan] " ++
    (← e.operation.plain)), .document e.payload]

def reportText (r : ShowRequest) (w : Surroundings) (path : Text) (l : Ledger) : Report :=
  if l.isEmpty then .ofBlocks w 0 [.text "[yellow]No ledger entries match the filters[/yellow]"]
  else
    match l.mapM row?, l.mapM payloadBlocks with
    | some rows, .ok payloads =>
      .ofBlocks w 0 (.table (table path rows) :: (if r.payload then payloads.flatten else []) ++
        [.text ("\n[bold]Total entries:[/bold] " ++ toString l.length)])
    | _, _ => ⟨1, "", .unused⟩

def path (r : ShowRequest) (w : Surroundings) : Text :=
  (given r.ledger).getD (Artifacts.ledgerPath w.environment)

def report (r : ShowRequest) (w : Surroundings) : Except Fault Ledger → Report
  | .ok l =>
    let chosen := l.filter r.admits
    if r.json then r.reportJson chosen else r.reportText w (r.path w) chosen
  | .error f => .ofFault w r.json absentLedger f

def script (r : ShowRequest) (w : Surroundings) : Script Report := do
  return r.report w (← (Ledger.load (r.path w)).run)

end ShowRequest
end RuleLedger.Command
