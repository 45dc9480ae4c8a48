import RuleLedger.Ledger.Verification
import RuleLedger.Proofs.Counters
import RuleLedger.Proofs.Run.Blocks

/-! The books of a run. Main statement: the audit trail, the ledger, the proof and the metrics of a
run that comes to its end agree with one another. -/
namespace RuleLedger

variable {setup : Setup} {run : Seed} {initial : Value} {b : Block} {bs : List Block}
  {r : RunResult} {tally : Tally}

/-! ### Ledgers -/

/-- An entry is that of a violation or of a step. -/
theorem Ledger.length_eq (l : Ledger) :
    l.length = (l.filter Entry.isViolation).length + l.steps.length := by
  rw [steps, ← List.countP_eq_length_filter, ← List.countP_eq_length_filter]
  simpa using List.length_eq_countP_add_countP Entry.isViolation (l := l)

/-- Entries by their operation. -/
theorem Ledger.countP_operation {l : Ledger} {names : List Text}
    (h : l.map Entry.operation = names.map Value.str) (name : Text) :
    l.countP (fun e => e.operation.isText name) = names.count name := by
  have hl : l.countP (fun e => e.operation.isText name) =
      (l.map Entry.operation).countP (Value.isText · name) := by
    rw [List.countP_map]
    rfl
  rw [hl, h, List.countP_map]
  rfl

/-! ### Blocks -/

namespace Block

/-- Whether the primitive of the step is known. -/
def isKnown (setup : Setup) (s : Step) : Bool := (Fields.get? setup.registry s.primitive).isSome

theorem Sound.recorded_isViolation (h : b.Sound setup run) :
    ∀ e ∈ b.recorded, e.isViolation = true := by
  intro e he
  obtain ⟨v, -, hv⟩ := exists_of_mem_right h.recorded he
  rw [Entry.isViolation, hv.operation]
  exact decide_eq_true rfl

theorem Sound.recorded_payloads (h : b.Sound setup run) :
    b.recorded.map Entry.payload = b.violations.map fun v => v.toValue.canonical :=
  (map_eq_map_iff.2 (h.recorded.imp fun _ _ hv => hv.payload.symm)).symm

/-- A known step has its own entry under the name of its primitive; any other step has none. -/
theorem Sound.own_operation (h : b.Sound setup run) :
    b.own.toList.map Entry.operation = b.calls.map Value.str := by
  cases hp : Fields.get? setup.registry b.step.primitive with
  | none => rw [calls, (h.unknown hp).1]; rfl
  | some primitive =>
    obtain ⟨inputs, e, -, ho, hs⟩ := h.known primitive hp
    rw [calls, ho]
    exact congrArg (fun o => [o]) hs.operation

theorem Sound.calls_eq (h : b.Sound setup run) :
    b.calls = ([b.step].filter (isKnown setup)).map Step.primitive := by
  cases hp : Fields.get? setup.registry b.step.primitive with
  | none =>
    rw [calls, (h.unknown hp).1]
    simp [isKnown, hp]
  | some primitive =>
    obtain ⟨inputs, e, -, ho, hs⟩ := h.known primitive hp
    rw [calls, ho]
    simp [isKnown, hp]

end Block

section Ledger

variable (hname : Fields.get? setup.registry Entry.violationOperation = none)
include hname

/-- A step whose primitive has another name than violations is no violation. -/
theorem Block.Sound.own_not_isViolation (h : b.Sound setup run) :
    ∀ e ∈ b.own.toList, e.isViolation = false := by
  intro e he
  cases hp : Fields.get? setup.registry b.step.primitive with
  | none =>
    rw [(h.unknown hp).1] at he
    cases he
  | some primitive =>
    obtain ⟨inputs, e', -, ho, hs⟩ := h.known primitive hp
    rw [ho] at he
    obtain rfl := List.mem_singleton.1 he
    rw [Entry.isViolation, hs.operation]
    refine decide_eq_false fun hv => ?_
    rw [hv, hname] at hp
    cases hp

theorem filter_isViolation (h : ∀ b ∈ bs, b.Sound setup run) :
    (bs.flatMap Block.entries).filter Entry.isViolation = bs.flatMap Block.recorded := by
  rw [List.filter_flatMap]
  refine List.flatMap_congr fun b hb => ?_
  have ho : b.own.toList.filter Entry.isViolation = [] :=
    List.filter_eq_nil_iff.2 fun e he => by simp [(h b hb).own_not_isViolation hname e he]
  rw [Block.entries, List.filter_append, List.filter_eq_self.2 (h b hb).recorded_isViolation, ho,
    List.append_nil]

theorem steps_flatMap (h : ∀ b ∈ bs, b.Sound setup run) :
    Ledger.steps (bs.flatMap Block.entries) = bs.flatMap fun b => b.own.toList := by
  rw [Ledger.steps, List.filter_flatMap]
  refine List.flatMap_congr fun b hb => ?_
  have hr : b.recorded.filter (fun e => !e.isViolation) = [] :=
    List.filter_eq_nil_iff.2 fun e he => by simp [(h b hb).recorded_isViolation e he]
  have ho : b.own.toList.filter (fun e => !e.isViolation) = b.own.toList :=
    List.filter_eq_self.2 fun e he => by simp [(h b hb).own_not_isViolation hname e he]
  rw [Block.entries, List.filter_append, hr, ho, List.nil_append]

theorem operations_steps (h : ∀ b ∈ bs, b.Sound setup run) :
    (Ledger.steps (bs.flatMap Block.entries)).map Entry.operation =
      (bs.flatMap Block.calls).map Value.str := by
  rw [steps_flatMap hname h, List.map_flatMap, List.map_flatMap]
  exact List.flatMap_congr fun b hb => (h b hb).own_operation

end Ledger

theorem payloads_recorded (h : ∀ b ∈ bs, b.Sound setup run) :
    (bs.flatMap Block.recorded).map Entry.payload =
      (bs.flatMap Block.violations).map fun v => v.toValue.canonical := by
  rw [List.map_flatMap, List.map_flatMap]
  exact List.flatMap_congr fun b hb => (h b hb).recorded_payloads

theorem calls_steps (h : ∀ b ∈ bs, b.Sound setup run) :
    bs.flatMap Block.calls =
      ((bs.map Block.step).filter (Block.isKnown setup)).map Step.primitive := by
  induction bs with
  | nil => rfl
  | cons b bs ih =>
    rw [List.flatMap_cons, (h b List.mem_cons_self).calls_eq,
      ih fun a ha => h a (List.mem_cons_of_mem b ha), List.map_cons, ← List.map_append,
      ← List.filter_append, List.singleton_append]

/-! ### Results -/

namespace RunResult

/-- A member of the metrics document. -/
def metric? (r : RunResult) (path : List Text) : Option Value :=
  path.foldl (fun v k => v.bind (·.field? k)) (some r.metrics)

/-- The steps that were attempted and whose primitive is known. -/
def called (setup : Setup) (r : RunResult) : List Step :=
  (setup.plan.steps.take r.proof.ticks).filter (Block.isKnown setup)

namespace MadeOf

theorem calls_eq (h : r.MadeOf setup run initial bs tally) :
    bs.flatMap Block.calls = (r.called setup).map Step.primitive := by
  rw [calls_steps h.sound, h.steps, called]

theorem checks_eq (h : r.MadeOf setup run initial bs tally) :
    bs.flatMap (Block.checks setup) =
      (r.called setup).flatMap fun s => setup.bindings.checksFor s.primitive := by
  rw [← List.flatMap_map Step.primitive, ← h.calls_eq, List.flatMap_assoc]
  rfl

theorem count_label (h : r.MadeOf setup run initial bs tally) (label : Text) :
    (r.trail.map Violation.label).count label = (tally.byLabel.get? label).getD 0 := by
  rw [h.byLabel, Fields.counter_increments]
  exact (Nat.zero_add _).symm

theorem total_byLabel (h : r.MadeOf setup run initial bs tally) :
    tally.byLabel.total = r.trail.length := by
  rw [h.byLabel, Fields.total_increments, List.length_map]
  exact Nat.zero_add _

theorem mem_labels (h : r.MadeOf setup run initial bs tally) :
    ∀ label ∈ tally.byLabel.keys, label ∈ Violation.labels := by
  intro label hl
  rw [h.byLabel] at hl
  rcases Fields.mem_keys_increments hl with hl | hl
  · cases hl
  · obtain ⟨v, hv, rfl⟩ := List.mem_map.1 hl
    rw [h.trail] at hv
    obtain ⟨b, hb, hv⟩ := List.mem_flatMap.1 hv
    exact (h.sound b hb).labels v hv

section

variable (hname : Fields.get? setup.registry Entry.violationOperation = none)
include hname

theorem payloads (h : r.MadeOf setup run initial bs tally) :
    (r.ledger.filter Entry.isViolation).map Entry.payload =
      r.trail.map fun v => v.toValue.canonical := by
  rw [h.ledger, filter_isViolation hname h.sound, h.trail, payloads_recorded h.sound]

theorem length_violations (h : r.MadeOf setup run initial bs tally) :
    (r.ledger.filter Entry.isViolation).length = r.trail.length := by
  rw [← List.length_map Entry.payload, h.payloads hname, List.length_map]

theorem operations (h : r.MadeOf setup run initial bs tally) :
    r.ledger.steps.map Entry.operation = (bs.flatMap Block.calls).map Value.str := by
  rw [h.ledger, operations_steps hname h.sound]

theorem length_steps (h : r.MadeOf setup run initial bs tally) :
    r.ledger.steps.length = tally.invocations.total := by
  rw [← List.length_map Entry.operation, h.operations hname, List.length_map, h.invocations,
    Fields.total_increments]
  exact (Nat.zero_add _).symm

theorem countP_steps (h : r.MadeOf setup run initial bs tally) (name : Text) :
    r.ledger.steps.countP (fun e => e.operation.isText name) =
      (tally.invocations.get? name).getD 0 := by
  rw [Ledger.countP_operation (h.operations hname), h.invocations, Fields.counter_increments]
  exact (Nat.zero_add _).symm

end

end MadeOf

/-- The books agree, with the counters of the metrics document by name. -/
structure Balanced (setup : Setup) (r : RunResult) (calls byLabel : Fields Nat) (passed : Nat) :
    Prop where
  metrics_calls : r.metric? ["snapshot", "primitives"] = some (Tally.counters calls)
  metrics_violations :
    r.metric? ["snapshot", "invariants", "violations"] = some (.nat r.proof.violations)
  metrics_byLabel :
    r.metric? ["snapshot", "invariants", "violationsByType"] = some (Tally.counters byLabel)
  metrics_passed : r.metric? ["snapshot", "invariants", "checksPassed"] = some (.nat passed)
  violations_trail : r.proof.violations = r.trail.length
  violations_byLabel : r.proof.violations = byLabel.total
  violations_ledger : r.proof.violations = (r.ledger.filter Entry.isViolation).length
  payloads : (r.ledger.filter Entry.isViolation).map Entry.payload =
    r.trail.map fun v => v.toValue.canonical
  steps : r.ledger.steps.length = calls.total
  steps_byName : ∀ name,
    r.ledger.steps.countP (fun e => e.operation.isText name) = (calls.get? name).getD 0
  entries : r.proof.ledgerEntries = r.ledger.length
  entries_split : r.proof.ledgerEntries = r.proof.violations + r.ledger.steps.length
  labels : ∀ label ∈ byLabel.keys, label ∈ Violation.labels
  trail_byLabel : ∀ label,
    (r.trail.map Violation.label).count label = (byLabel.get? label).getD 0
  checks : passed + (byLabel.get? Violation.checkLabel).getD 0 =
    ((r.called setup).flatMap fun s => setup.bindings.checksFor s.primitive).length

end RunResult

/-- The books of every run that comes to its end agree, if no primitive has the name of
violations. -/
theorem Setup.execute_balanced {initial : Value} {r : RunResult} {log : List LogLine}
    (hname : Fields.get? setup.registry Entry.violationOperation = none)
    (h : setup.execute run initial = .ok (r, log)) :
    ∃ calls byLabel passed, r.Balanced setup calls byLabel passed := by
  obtain ⟨bs, tally, hr⟩ := execute_eq_ok h
  obtain ⟨timestamp, hm⟩ := hr.metrics
  have hledger : r.proof.violations = (r.ledger.filter Entry.isViolation).length :=
    hr.violations.trans (hr.length_violations hname).symm
  refine ⟨tally.invocations, tally.byLabel, tally.checksPassed, ?_⟩
  exact {
    metrics_calls := by
      rw [RunResult.metric?, hm]
      rfl
    metrics_violations := by
      rw [RunResult.metric?, hm, hr.violations, ← hr.total]
      rfl
    metrics_byLabel := by
      rw [RunResult.metric?, hm]
      rfl
    metrics_passed := by
      rw [RunResult.metric?, hm]
      rfl
    violations_trail := hr.violations
    violations_byLabel := hr.violations.trans hr.total_byLabel.symm
    violations_ledger := hledger
    payloads := hr.payloads hname
    steps := hr.length_steps hname
    steps_byName := hr.countP_steps hname
    entries := hr.entries
    entries_split := by rw [hr.entries, r.ledger.length_eq, hledger]
    labels := hr.mem_labels
    trail_byLabel := hr.count_label
    checks := by rw [← hr.count_label, ← hr.checks_eq, hr.checked] }

theorem Setup.sample_balanced :
    Fields.get? sample.registry Entry.violationOperation = none ∧
    ∃ r log, sample.execute ⟨[]⟩ (.map []) = .ok (r, log) ∧
      ∃ calls byLabel passed, r.Balanced sample calls byLabel passed := by
  have hname : Fields.get? sample.registry Entry.violationOperation = none := rfl
  obtain ⟨r, log, h⟩ := sample_runs
  exact ⟨hname, r, log, h, execute_balanced hname h⟩

end RuleLedger
