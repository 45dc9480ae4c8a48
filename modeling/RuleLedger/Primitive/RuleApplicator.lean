import RuleLedger.Expr.Evaluation
import RuleLedger.Primitive.Basic

/-! The primitive that applies a rule: when its condition holds, its assignments are resolved and
written one after another, each seeing what the earlier ones wrote. -/
namespace RuleLedger

def templateOpening : List Symbol := ['\x7b', '\x7b']

def templateClosing : List Symbol := ['\x7d', '\x7d']

/-- The expression inside double braces. -/
def templateBody? (s : Text) : Option Text :=
  let cs := s.toList
  if templateOpening.isPrefixOf cs && templateClosing.isSuffixOf cs then
    some (Text.strip ⟨(cs.drop 2).take (cs.length - 4)⟩)
  else none

/-- The value of a text that is no template: a truth value, a number, or the text itself. -/
def literalOfText (s : Text) : Value :=
  if s = "true" then .bool true
  else if s = "false" then .bool false
  else if Text.isBlankText s then .str s
  else
    let n := Value.numberOfText s
    if n.isNaN then .str s else .num n

/-- The right side of an assignment, resolved. -/
def resolveAssignment (record : Record) (generators : Expr.Generators) (seed : Seed)
    (right : Datum) : Except Fault Datum :=
  match right with
  | .str s =>
    match templateBody? s with
    | some body => Expr.evaluateText ⟨record, some generators⟩ seed body
    | none => .ok (.plain (literalOfText s))
  | d => .ok (d.copy seed)

/-- The faults that end a rule with a failed output. -/
def Fault.isAssignmentFault : Fault → Bool
  | .path _ => true
  | f => f.ofExpression

/-- Resolve a right side and write it. -/
def assign (record : Record) (generators : Expr.Generators) (seed : Seed) (field : Text)
    (right : Datum) : Record × Except Fault Datum :=
  match resolveAssignment record generators seed right with
  | .error f => (record, .error f)
  | .ok new =>
    match KeyPath.ofText field with
    | .error f => (record, .error (.path f))
    | .ok p =>
      match record.write p seed new with
      | (record, none) => (record, .ok new)
      | (record, some f) => (record, .error f)

/-- How far a list of assignments came: those that were made, with their values, and the one that
failed. -/
structure Progress where
  record : Record
  made : List (Text × Datum)
  failure : Option (Text × Datum × Fault)

/-- Make assignments in order until one fails; `i` numbers their seeds. -/
def assignAll (generators : Expr.Generators) (seed : Seed) (record : Record) (i : Nat) :
    List (Text × Datum) → Progress
  | [] => ⟨record, [], none⟩
  | (field, right) :: rest =>
    match assign record generators (seed.fork i) field right with
    | (record, .error f) => ⟨record, [], some (field, right, f)⟩
    | (record, .ok new) =>
      let p := assignAll generators seed record (i + 1) rest
      { p with made := (field, new) :: p.made }

/-- The assignments that were made, as they are reported. -/
def updatesReport (seed : Seed) (made : List (Text × Datum)) : Datum :=
  .list (.part seed [.key "updates"]) (made.mapIdx fun i u =>
    .map (.part seed [.item i, .key "updates"]) [("field", .str u.1), ("value", u.2)])

/-- The values that were assigned, by field. -/
def resultsReport (seed : Seed) (made : List (Text × Datum)) : Datum :=
  .map (.part seed [.key "results"]) (Fields.ofPairs made)

/-- The outcome of the assignments. -/
def appliedRule (c : Call) (p : Progress) : Outcome :=
  let answer : Answer := match p.failure with
    | some (field, right, f) =>
      if f.isAssignmentFault then
        .output (.failed (.str ("Assignment failed for " ++ field ++ ": " ++ f.message))
          [("expression", right), ("fieldPath", .str field), ("ruleId", c.input "ruleId")])
      else .raised f
    | none =>
      .output (.completed [("success", .bool true), ("ruleId", c.input "ruleId"),
        ("priority", c.input "priority"), ("updatesApplied", .nat p.made.length),
        ("updates", updatesReport c.seed p.made), ("results", resultsReport c.seed p.made)])
  ⟨answer, p.record, []⟩

/-- Whether the condition of a rule lets it go on; only a text other than "true" is evaluated. -/
def ruleCondition (c : Call) : Except Fault Bool :=
  match c.input "condition" with
  | .str s =>
    if s = "" || s = "true" then .ok true
    else (Expr.evaluateText ⟨c.record, none⟩ (c.seed.fork 0) s).map fun d => d.value.truthy
  | _ => .ok true

def ruleApplicator : Primitive := fun c =>
  let ruleId : Text × Datum := ("ruleId", c.input "ruleId")
  let condition : Text × Datum := ("condition", c.input "condition")
  if !(c.inputValue "enabled").truthy then c.answer (.skipped (.str "Rule disabled") [ruleId])
  else
    match ruleCondition c with
    | .error f =>
      if f.ofExpression then
        c.answer (.failed (.str ("Condition evaluation failed: " ++ f.message)) [condition, ruleId])
      else c.raise f
    | .ok false => c.answer (.skipped (.str "Condition not met") [condition, ruleId])
    | .ok true =>
      let apply := assignAll ⟨c.clock, c.seed⟩ c.seed c.record 1
      match c.input "assignments" with
      | .null => appliedRule c (apply [])
      | .map _ fs => appliedRule c (apply fs)
      | _ => c.answer (.failed (.str "Assignments must be a mapping") [ruleId])

end RuleLedger
