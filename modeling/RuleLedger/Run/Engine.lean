import RuleLedger.Invariant.Structural
import RuleLedger.Run.State

/-! Execution of a plan, one step at a time. What goes wrong inside a step becomes a violation; a
run ends early only by the halt option, which is looked at after each step. -/
namespace RuleLedger
namespace RunState

/-- The inputs of a step by path, copied, those absent from the record left out; `i` numbers the
seeds of the copies. -/
def readInputs (record : Record) (seed : Seed) (i : Nat) (inputs : Fields Datum) :
    List Text → Except NumericFault (Fields Datum)
  | [] => .ok inputs
  | text :: texts =>
    match KeyPath.ofText text with
    | .error _ => readInputs record seed (i + 1) inputs texts
    | .ok p =>
      match record.get? seed p with
      | .error f => .error f
      | .ok none => readInputs record seed (i + 1) inputs texts
      | .ok (some d) =>
        readInputs record seed (i + 1) (inputs.put text (d.copy (seed.fork i))) texts

/-- The inputs of a step and its parameters, which win over inputs of the same name. -/
def combineInputs (record : Record) (seed : Seed) (step : Step) : Except Fault (Fields Datum) :=
  match readInputs record seed 0 [] step.inputs with
  | .error f => .error (.numeric f)
  | .ok inputs => .ok (Fields.putAll inputs (Datum.ofFields seed [] step.params))

/-- A fault as a primitive's error. -/
def faultText (f : Fault) : Text := f.label ++ ": " ++ f.message

/-- The output that an answer stands for. -/
def settle (primitive : Text) : Answer → Output
  | .output o => o
  | .stray kind =>
    .failed (.str (primitive ++ " returned " ++ kind ++ ", expected PrimitiveOutput")) []
  | .raised f => .failed (.str (faultText f)) []

/-- Call the primitive of a step. -/
def invoke (s : RunState) (setup : Setup) (seed : Seed) (step : Step) (primitive : Primitive)
    (inputs : Fields Datum) : RunState × Output :=
  let o := primitive ⟨inputs, s.record, setup.clock, seed⟩
  let s := { s with record := o.record, log := s.log ++ o.log }
  match o.answer with
  | .raised f =>
    (s.say .error ("Primitive " ++ step.primitive ++ " raised at tick " ++ toString s.tick),
      settle step.primitive (.raised f))
  | a => (s, settle step.primitive a)

/-- Write an output field to the path that is named after it; the last segment names the field. A
path that cannot be written is a violation. -/
def applyOutput (s : RunState) (setup : Setup) (seed : Seed) (step : Step) (inputs : Value)
    (rendered : Fields Datum) (field : Text) : Except Abort RunState :=
  let failed (f : PathFault) (s : RunState) :=
    s.violate setup.clock seed step.primitive inputs (.map (Fields.mapValues Datum.value rendered))
      ("Output application failed: " ++ field ++ ": " ++ f.message)
  match KeyPath.ofText field with
  | .error f => failed f s
  | .ok p =>
    match Fields.get? rendered p.leaf with
    | none => .ok s
    | some new =>
      match s.record.write p seed new with
      | (record, none) => .ok { s with record := record }
      | (record, some (.path f)) => failed f { s with record := record }
      | (_, some f) => s.abort f

/-- The same for the output fields in order; `i` numbers the seeds of the writes. -/
def applyOutputs (s : RunState) (setup : Setup) (seed : Seed) (i : Nat) (step : Step)
    (inputs : Value) (rendered : Fields Datum) : List Text → Except Abort RunState
  | [] => .ok s
  | field :: fields =>
    match s.applyOutput setup (seed.fork i) step inputs rendered field with
    | .error a => .error a
    | .ok s => applyOutputs s setup seed (i + 1) step inputs rendered fields

/-- Run one bound check. -/
def runCheck (s : RunState) (setup : Setup) (seed : Seed) (step : Step) (inputs : Value)
    (rendered : Fields Datum) (check : Text) : Except Abort RunState :=
  if setup.checks.passes check rendered then .ok { s with tally := s.tally.passed }
  else
    s.violate setup.clock seed step.primitive inputs (.map (Fields.mapValues Datum.value rendered))
      ("Schema invariant failed: " ++ check)

def runChecks (s : RunState) (setup : Setup) (seed : Seed) (step : Step) (inputs : Value)
    (rendered : Fields Datum) : List Text → Except Abort RunState
  | [] => .ok s
  | check :: checks =>
    match s.runCheck setup seed step inputs rendered check with
    | .error a => .error a
    | .ok s => runChecks s setup seed step inputs rendered checks

/-- How a step ended, in the log. -/
def statusText (o : Output) : Text :=
  match o with
  | .flagged violation _ => "VIOLATION: " ++ violation.shown
  | o => o.kindName

def logStep (s : RunState) (setup : Setup) (step : Step) (inputs : Value) (o : Output) : RunState :=
  let head := "Tick " ++ toString s.tick ++ ": " ++ step.id ++ " (" ++ step.primitive ++ ")"
  match setup.options.detail with
  | .quiet => s
  | .normal => s.say .info (head ++ " -> " ++ statusText o)
  | .verbose =>
    ((s.say .info head).say .info ("  input: " ++ inputs.shown)).say .info
      ("  output: " ++ o.toValue.shown)

/-- What follows a call: violations of the output, its application to the record, the bound checks,
and the entry of the step. -/
def finishStep (s : RunState) (setup : Setup) (seed : Seed) (step : Step) (inputs : Value)
    (o : Output) : Except Abort RunState := do
  let rendered := o.rendered
  let output := o.toValue
  let s ← s.violateAll setup.clock seed step.primitive inputs output
    (syntheticViolations o ++ structuralViolations o)
  let s ← s.applyOutputs setup seed 0 step inputs rendered step.outputs
  let s := { s with tally := s.tally.invoked step.primitive }
  let s ← s.runChecks setup seed step inputs rendered (setup.bindings.checksFor step.primitive)
  let s ← s.append setup.clock seed step.primitive (Entry.stepPayload inputs output)
  return s.logStep setup step inputs o

/-- One step. An unknown primitive is a violation and nothing else. -/
def runStep (s : RunState) (setup : Setup) (seed : Seed) (step : Step) : Except Abort RunState :=
  let s := { s with tick := s.tick + 1 }
  match Fields.get? setup.registry step.primitive with
  | none =>
    s.violate setup.clock seed step.primitive (.map []) .null
      ("Unknown primitive: " ++ step.primitive)
  | some primitive =>
    s.demand (combineInputs s.record (seed.fork 2) step) fun inputs =>
      let (s, o) := s.invoke setup (seed.fork 0) step primitive inputs
      s.finishStep setup (seed.fork 1) step (.map (Fields.mapValues Datum.value inputs)) o

/-- Whether the run stops after a step. -/
def mustHalt (s : RunState) (setup : Setup) : Bool := setup.options.halt && s.tally.violations > 0

def halt (s : RunState) : RunState :=
  { s with halted := true }.say .warning
    ("Halting execution at tick " ++ toString s.tick ++ " due to violation")

/-- The steps from the current tick on. -/
def runSteps (s : RunState) (setup : Setup) (seed : Seed) : List Step → Except Abort RunState
  | [] => .ok s
  | step :: steps =>
    match s.runStep setup (seed.fork s.tick) step with
    | .error a => .error a
    | .ok s => if s.mustHalt setup then .ok s.halt else runSteps s setup seed steps

end RunState
end RuleLedger
