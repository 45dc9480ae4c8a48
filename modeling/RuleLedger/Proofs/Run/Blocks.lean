import Mathlib.Data.List.Range
import RuleLedger.Proofs.Pointwise
import RuleLedger.Proofs.Run.Step
import RuleLedger.Run.Result

/-! The ledger of a run in blocks. Main statement: the ledger and the audit trail of a run are those
of its steps one after another, a block for each tick. -/
namespace RuleLedger

/-- Every step starts on the record that the one before it left. -/
def Linked : Record → List Block → Record → Prop
  | r, [], r' => r = r'
  | r, b :: bs, r' => b.before = r ∧ Linked b.after bs r'

/-- The steps of blocks lead from one state to another. -/
structure Leads (setup : Setup) (run : Seed) (bs : List Block) (s s' : RunState) : Prop where
  sound : ∀ b ∈ bs, b.Sound setup run
  ticks : bs.map Block.tick = List.range' (s.tick + 1) bs.length
  tick : s'.tick = s.tick + bs.length
  linked : Linked s.record bs s'.record
  halted : s'.halted = s.halted
  violations : s'.violations = s.violations ++ bs.flatMap Block.violations
  ledger : s'.ledger = s.ledger ++ bs.flatMap Block.entries
  total : s'.tally.violations = s.tally.violations + (bs.flatMap Block.violations).length
  byLabel : s'.tally.byLabel =
    ((bs.flatMap Block.violations).map Violation.label).foldl Fields.increment s.tally.byLabel
  invocations : s'.tally.invocations =
    (bs.flatMap Block.calls).foldl Fields.increment s.tally.invocations
  checked : s'.tally.checksPassed +
      ((bs.flatMap Block.violations).map Violation.label).count Violation.checkLabel =
    s.tally.checksPassed + (bs.flatMap (Block.checks setup)).length

variable {setup : Setup} {run : Seed} {b : Block} {bs : List Block} {s s' t : RunState}

theorem Leads.nil (s : RunState) : Leads setup run [] s s where
  sound := nofun
  ticks := rfl
  tick := rfl
  linked := rfl
  halted := rfl
  violations := (List.append_nil _).symm
  ledger := (List.append_nil _).symm
  total := rfl
  byLabel := rfl
  invocations := rfl
  checked := rfl

theorem Leads.cons (h : b.Joins setup run s t) (hs : Leads setup run bs t s') :
    Leads setup run (b :: bs) s s' where
  sound := List.forall_mem_cons.2 ⟨h.sound, hs.sound⟩
  ticks := by
    rw [List.map_cons, hs.ticks, h.ends, h.starts, List.length_cons, List.range'_succ]
  tick := by
    rw [hs.tick, h.ends, h.starts, List.length_cons]
    omega
  linked := ⟨h.before, h.after ▸ hs.linked⟩
  halted := hs.halted.trans h.halted
  violations := by rw [hs.violations, h.violations, List.flatMap_cons, List.append_assoc]
  ledger := by rw [hs.ledger, h.ledger, List.flatMap_cons, List.append_assoc]
  total := by
    rw [hs.total, h.total, List.flatMap_cons, List.length_append, Nat.add_assoc]
  byLabel := by
    rw [hs.byLabel, h.byLabel, List.flatMap_cons, List.map_append, List.foldl_append]
  invocations := by rw [hs.invocations, h.invocations, List.flatMap_cons, List.foldl_append]
  checked := by
    have hc := h.checked
    have hcs := hs.checked
    rw [List.flatMap_cons, List.flatMap_cons, List.map_append, List.count_append,
      List.length_append]
    omega

/-- Whether a block is what a step left that was run. -/
def Block.Ran (setup : Setup) (run : Seed) (b : Block) : Prop :=
  ∃ s s' : RunState, s.runStep setup (run.fork s.tick) b.step = .ok s' ∧ b.Joins setup run s s'

namespace RunState

/-- A run goes through the steps in order, to the end or until it halts. -/
theorem runSteps_eq_ok {steps : List Step} (h : s.runSteps setup run steps = .ok s') :
    ∃ bs u, Leads setup run bs s u ∧ (∀ b ∈ bs, b.Ran setup run) ∧
      bs.map Block.step = steps.take bs.length ∧
      (s' = u ∧ bs.length = steps.length ∨ s' = u.halt) := by
  induction steps generalizing s with
  | nil =>
    obtain rfl := Except.ok.inj h
    exact ⟨[], s, .nil s, nofun, rfl, .inl ⟨rfl, rfl⟩⟩
  | cons step steps ih =>
    unfold runSteps at h
    split at h
    · cases h
    · rename_i t ht
      obtain ⟨b, rfl, hb⟩ := runStep_eq_ok ht
      have hran : b.Ran setup run := ⟨s, t, ht, hb⟩
      split at h
      · obtain rfl := Except.ok.inj h
        exact ⟨[b], t, .cons hb (.nil t), List.forall_mem_singleton.2 hran, rfl, .inr rfl⟩
      · obtain ⟨bs, u, hu, hrans, hsteps, hend⟩ := ih h
        refine ⟨b :: bs, u, .cons hb hu, List.forall_mem_cons.2 ⟨hran, hrans⟩, ?_,
          hend.imp_left fun ⟨he, hl⟩ => ⟨he, ?_⟩⟩
        · rw [List.map_cons, List.length_cons, List.take_succ_cons, hsteps]
        · rw [List.length_cons, List.length_cons, hl]

end RunState

/-- A result reports the books of a last state. -/
structure RunResult.Reports (setup : Setup) (r : RunResult) (s : RunState) : Prop where
  record : r.record = s.record
  ledger : r.ledger = s.ledger
  trail : r.trail = s.violations
  metrics : ∃ timestamp : String, r.metrics = s.tally.snapshot setup.runId timestamp (.int 0) s.tick
    r.halted setup.options.toFields
  finalHash : s.record.value.contentHash = .ok r.proof.finalHash
  ticks : r.proof.ticks = s.tick
  entries : r.proof.ledgerEntries = s.ledger.length
  violations : r.proof.violations = s.tally.violations

namespace Setup

theorem conclude_eq_ok {r : RunResult} (h : setup.conclude s = .ok r) :
    r.Reports setup s ∧ r.halted = s.halted := by
  simp only [conclude, bind_eq_ok, pure_eq_ok] at h
  obtain ⟨timestamp, -, hash, hh, rfl⟩ := h
  exact ⟨⟨rfl, rfl, rfl, ⟨timestamp, rfl⟩, hh, rfl, rfl, rfl⟩, rfl⟩

/-- The state that a run starts in. -/
def start (setup : Setup) (seed : Seed) (initial : Value) : RunState :=
  { RunState.start (Record.ofValue seed initial) with log := setup.opening }

end Setup

/-- A result is made of blocks and of the counters that they leave. -/
structure RunResult.MadeOf (setup : Setup) (run : Seed) (initial : Value) (r : RunResult)
    (bs : List Block) (tally : Tally) : Prop where
  sound : ∀ b ∈ bs, b.Sound setup run
  ticks : bs.map Block.tick = List.range' 1 r.proof.ticks
  steps : bs.map Block.step = setup.plan.steps.take r.proof.ticks
  finished : r.halted = false → r.proof.ticks = setup.plan.steps.length
  linked : Linked (Record.ofValue run initial) bs r.record
  ledger : r.ledger = bs.flatMap Block.entries
  trail : r.trail = bs.flatMap Block.violations
  finalHash : r.record.value.contentHash = .ok r.proof.finalHash
  entries : r.proof.ledgerEntries = r.ledger.length
  violations : r.proof.violations = r.trail.length
  metrics : ∃ timestamp : String, r.metrics =
    tally.snapshot setup.runId timestamp (.int 0) r.proof.ticks r.halted setup.options.toFields
  total : tally.violations = r.trail.length
  byLabel : tally.byLabel = (r.trail.map Violation.label).foldl Fields.increment []
  invocations : tally.invocations = (bs.flatMap Block.calls).foldl Fields.increment []
  checked : tally.checksPassed + (r.trail.map Violation.label).count Violation.checkLabel =
    (bs.flatMap (Block.checks setup)).length

namespace Setup

/-- The blocks that lead from the start to a state make up the result that reports it. -/
theorem madeOf_of_leads {initial : Value} {r : RunResult}
    (hs : Leads setup run bs (setup.start run initial) s) (hr : r.Reports setup s)
    (hsteps : bs.map Block.step = setup.plan.steps.take bs.length)
    (hend : r.halted = false → bs.length = setup.plan.steps.length) :
    r.MadeOf setup run initial bs s.tally := by
  have hticks : r.proof.ticks = bs.length := by
    rw [hr.ticks, hs.tick]
    exact Nat.zero_add _
  have htrail : r.trail = bs.flatMap Block.violations := hr.trail.trans hs.violations
  have htotal : s.tally.violations = r.trail.length := by
    rw [hs.total, htrail]
    exact Nat.zero_add _
  obtain ⟨timestamp, hm⟩ := hr.metrics
  exact {
    sound := hs.sound
    ticks := by
      rw [hticks, hs.ticks]
      rfl
    steps := by rw [hticks, hsteps]
    finished := by
      rw [hticks]
      exact hend
    linked := by
      rw [hr.record]
      exact hs.linked
    ledger := hr.ledger.trans hs.ledger
    trail := htrail
    finalHash := by rw [hr.record, hr.finalHash]
    entries := by rw [hr.entries, hr.ledger]
    violations := hr.violations.trans htotal
    metrics := ⟨timestamp, by rw [hm, hr.ticks]⟩
    total := htotal
    byLabel := by
      rw [hs.byLabel, htrail]
      rfl
    invocations := hs.invocations
    checked := by
      have hc := hs.checked
      rw [← htrail] at hc
      rw [hc]
      exact Nat.zero_add _ }

/-- A run that comes to its end has a result made of blocks, each of a step that was run. -/
theorem execute_ran {initial : Value} {r : RunResult} {log : List LogLine}
    (h : setup.execute run initial = .ok (r, log)) :
    ∃ bs tally, r.MadeOf setup run initial bs tally ∧ ∀ b ∈ bs, b.Ran setup run := by
  rw [execute, executeFrom] at h
  split at h
  · cases h
  · dsimp only at h
    split at h
    · cases h
    · rename_i s hs
      split at h
      · cases h
      · rename_i r' hr
        obtain ⟨rfl, -⟩ := Prod.mk.inj (Except.ok.inj h)
        obtain ⟨hr, hhalted⟩ := conclude_eq_ok hr
        obtain ⟨bs, u, hu, hrans, hsteps, hend⟩ := RunState.runSteps_eq_ok hs
        rcases hend with ⟨rfl, hl⟩ | rfl
        · exact ⟨bs, _, madeOf_of_leads hu hr hsteps fun _ => hl, hrans⟩
        · have hr : r'.Reports setup u := ⟨hr.record, hr.ledger, hr.trail, hr.metrics, hr.finalHash,
            hr.ticks, hr.entries, hr.violations⟩
          refine ⟨bs, u.tally, madeOf_of_leads hu hr hsteps fun hf => ?_, hrans⟩
          rw [hhalted] at hf
          cases hf

theorem execute_eq_ok {initial : Value} {r : RunResult} {log : List LogLine}
    (h : setup.execute run initial = .ok (r, log)) :
    ∃ bs tally, r.MadeOf setup run initial bs tally := by
  obtain ⟨bs, tally, hr, -⟩ := execute_ran h
  exact ⟨bs, tally, hr⟩

end Setup

/-- Every entry of a block is stamped at its tick. -/
theorem Block.Sound.entries_isStamp (h : b.Sound setup run) :
    ∀ e ∈ b.entries, ∃ operation payload, e.IsStamp b.tick operation payload := by
  intro e he
  rcases List.mem_append.1 he with he | he
  · obtain ⟨v, -, hv⟩ := exists_of_mem_right h.recorded he
    exact ⟨_, _, hv⟩
  · cases hp : Fields.get? setup.registry b.step.primitive with
    | none =>
      rw [(h.unknown hp).1] at he
      cases he
    | some primitive =>
      obtain ⟨inputs, e', -, ho, hs⟩ := h.known primitive hp
      rw [ho] at he
      obtain rfl := List.mem_singleton.1 he
      exact ⟨_, _, hs⟩

theorem Block.Sound.entries_tick (h : b.Sound setup run) :
    ∀ e ∈ b.entries, e.tick = .nat b.tick := by
  intro e he
  obtain ⟨operation, payload, hs⟩ := h.entries_isStamp e he
  exact hs.tick

/-- The digests of a run are those of its payloads. -/
theorem Setup.execute_hashes {initial : Value} {r : RunResult} {log : List LogLine}
    (h : setup.execute run initial = .ok (r, log)) :
    ∀ e ∈ r.ledger, ∃ d, e.payload.contentHash = .ok d ∧ e.hash = .str d := by
  obtain ⟨bs, tally, hr⟩ := execute_eq_ok h
  intro e he
  rw [hr.ledger] at he
  obtain ⟨b, hb, he⟩ := List.mem_flatMap.1 he
  obtain ⟨operation, payload, hs⟩ := (hr.sound b hb).entries_isStamp e he
  exact hs.hash

/-- The ledger of a run is made of one block for each step attempted, in the order of ticks. A step
with a known primitive leaves its violations and then its own entry; any other step leaves one
violation and the record as it was. -/
theorem Setup.execute_blocks {initial : Value} {r : RunResult} {log : List LogLine}
    (h : setup.execute run initial = .ok (r, log)) :
    ∃ bs : List Block,
      r.ledger = bs.flatMap Block.entries ∧
      r.trail = bs.flatMap Block.violations ∧
      bs.map Block.tick = List.range' 1 r.proof.ticks ∧
      bs.map Block.step = setup.plan.steps.take r.proof.ticks ∧
      (r.halted = false → r.proof.ticks = setup.plan.steps.length) ∧
      Linked (Record.ofValue run initial) bs r.record ∧
      ∀ b ∈ bs, b.Sound setup run ∧ ∀ e ∈ b.entries, e.tick = .nat b.tick := by
  obtain ⟨bs, tally, hr⟩ := execute_eq_ok h
  refine ⟨bs, hr.ledger, hr.trail, hr.ticks, hr.steps, hr.finished, hr.linked, fun b hb => ?_⟩
  exact ⟨hr.sound b hb, (hr.sound b hb).entries_tick⟩

namespace Setup

/-- A run of two steps: the first fails its check, the second names no primitive. -/
def sample : Setup where
  plan :=
    { steps := [⟨"one", "EXPRESSION_EVALUATOR", [], ["result"], [("expression", .str "1")]⟩,
        ⟨"two", "NOPE", [], [], []⟩]
      metadata := []
      contracts := [] }
  registry := Registry.builtin
  bindings := [("EXPRESSION_EVALUATOR", ["consistencyCheck"])]
  checks := Checks.builtin
  options := ⟨false, true, .quiet⟩
  clock := ⟨0⟩

/-- A run and what can be computed from its result. -/
theorem exists_run (setup : Setup) (run : Seed) (initial : Value) (p : RunResult → Bool)
    (h : (setup.execute run initial).toOption.any (fun r => p r.1) = true) :
    ∃ r log, setup.execute run initial = .ok (r, log) ∧ p r = true := by
  cases he : setup.execute run initial with
  | error a =>
    rw [he] at h
    cases h
  | ok r =>
    rw [he] at h
    exact ⟨r.1, r.2, rfl, h⟩

theorem sample_runs : ∃ r log, sample.execute ⟨[]⟩ (.map []) = .ok (r, log) := by
  obtain ⟨r, log, h, -⟩ := exists_run sample ⟨[]⟩ (.map []) (fun _ => true) (by decide +kernel)
  exact ⟨r, log, h⟩

theorem sample_blocks : ∃ r log, sample.execute ⟨[]⟩ (.map []) = .ok (r, log) ∧
    ∃ bs : List Block,
      r.ledger = bs.flatMap Block.entries ∧
      r.trail = bs.flatMap Block.violations ∧
      bs.map Block.tick = List.range' 1 r.proof.ticks ∧
      bs.map Block.step = sample.plan.steps.take r.proof.ticks ∧
      (r.halted = false → r.proof.ticks = sample.plan.steps.length) ∧
      Linked (Record.ofValue ⟨[]⟩ (.map [])) bs r.record ∧
      ∀ b ∈ bs, b.Sound sample ⟨[]⟩ ∧ ∀ e ∈ b.entries, e.tick = .nat b.tick := by
  obtain ⟨r, log, h⟩ := sample_runs
  exact ⟨r, log, h, execute_blocks h⟩

end Setup
end RuleLedger
