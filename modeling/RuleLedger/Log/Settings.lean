import RuleLedger.Clock
import RuleLedger.Json.Writer
import RuleLedger.Log.Line
import RuleLedger.Setting
import RuleLedger.Text.Case

/-! How the log is written: which lines are let through, and their form. -/
namespace RuleLedger

def Severity.all : List Severity := [.debug, .info, .warning, .error, .critical]

def Severity.ofName? (s : Text) : Option Severity := all.find? (·.name == s)

namespace Log

inductive Form where
  | text | json
deriving Repr, DecidableEq

/-- The parts of a line before it is put into its form. -/
structure Event where
  /-- In milliseconds. -/
  time : Int
  severity : Severity
  logger : Text
  message : Text
  /-- Tells the lines of one run from those of another. -/
  trace : Option Text

structure Settings where
  /-- The least severity that is let through. -/
  threshold : Severity
  form : Form
deriving Repr, DecidableEq

namespace Settings

/-- Names that are not known stand for lines of text from `info` up. -/
def choose (level? form? : Option Text) (vars : Variables) : Settings :=
  let level := Text.upper (setting level? vars "KERN_LOG_LEVEL" "INFO")
  let form := Text.lower (setting form? vars "KERN_LOG_FORMAT" "text")
  { threshold := (Severity.ofName? level).getD .info
    form := if form = "json" then .json else .text }

def admits (s : Settings) (severity : Severity) : Bool := s.threshold.rank ≤ severity.rank

end Settings

namespace Event

def traceText (e : Event) : Text :=
  match e.trace with
  | some t => if t = "" then "N/A" else t
  | none => "N/A"

/-- The logger without a name is the root of all loggers. -/
def loggerName (e : Event) : Text := if e.logger = "" then "root" else e.logger

/-- Date and time of day; a year that wraps around has none. -/
def timeText? (e : Event) : Option Text := do
  let second := (← seconds? e.time).floor
  let year ← (calendarYear second).toOption
  let c := Civil.ofSecond second 0
  if c.date.year = year then return c.dateText ++ " " ++ c.timeText else none

def textLine? (e : Event) : Option Text := do
  return (← e.timeText?) ++ " - " ++ e.loggerName ++ " - " ++ e.severity.name ++ " - " ++
    e.message ++ " [trace_id=" ++ e.traceText ++ "]"

/-- The parts by name, with milliseconds after a comma. -/
def toFields? (e : Event) : Option (Fields Text) := do
  return [("timestamp", (← e.timeText?) ++ "," ++ padded 3 (e.time % 1000).toNat),
    ("logger", e.loggerName), ("level", e.severity.name), ("message", e.message),
    ("trace_id", e.traceText)]

def jsonLine? (e : Event) : Option Text := do
  let member (f : Text × Text) : Text :=
    ⟨Json.writeText true f.1 ++ Json.word ": " ++ Json.writeText true f.2⟩
  return "\x7b" ++ Text.intercalate ", " ((← e.toFields?).map member) ++ "\x7d"

end Event

/-- The line of an event, if it is let through and its time can be told. -/
def Settings.line? (s : Settings) (e : Event) : Option Text :=
  if s.admits e.severity then
    match s.form with
    | .text => e.textLine?
    | .json => e.jsonLine?
  else none

end Log
end RuleLedger
