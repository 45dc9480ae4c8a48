import RuleLedger.Primitive.Basic

/-! The primitive that writes one value into the record. -/
namespace RuleLedger

/-- A write that was refused, with the reason in the log. -/
def refusedWrite (c : Call) (message line : Text) : Outcome :=
  { answer := .output (.completed
      [("success", .bool false), ("message", .str message)])
    record := c.record
    log := [⟨.warning, line⟩] }

/-- Write an input value at an input path. Null is never written. -/
def stateMutator : Primitive := fun c =>
  let path := c.inputValue "path"
  let new := c.input "value"
  let invalid := refusedWrite c PathFault.invalid.message
    ("STATE_MUTATOR: missing or invalid path " ++ path.shownQuoted)
  let unwritable (f : PathFault) := refusedWrite c f.message
    ("STATE_MUTATOR: cannot write " ++ path.shownQuoted ++ ": " ++ f.message)
  match path with
  | .str text =>
    if text = "" then invalid
    else if new matches .null then
      c.answer (.flagged (.str "empty_output_detected") [("success", .bool false)])
    else
      match KeyPath.ofText text with
      | .error f => unwritable f
      | .ok p =>
        match c.record.write p c.seed new with
        | (_, some (.path f)) => unwritable f
        | (record, some f) => ⟨.raised f, record, []⟩
        | (record, none) =>
          { answer := .output (.completed [("success", .bool true), ("updatedPath", .str text),
              ("newValue", new)])
            record := record
            log := [] }
  | _ => invalid

end RuleLedger
