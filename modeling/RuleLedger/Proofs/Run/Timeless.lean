import RuleLedger.Proofs.Run.Execution

/-! Runs at different times. Main statement: a run of the built-in primitives whose templates ask
for neither the time nor an identifier verifies under any other clock, and the time shows nowhere
but in timestamps. -/
namespace RuleLedger

/-! ### The built-in checks -/

theorem Checks.steady_builtin (name : Text) (check : Check)
    (h : Fields.get? builtin name = some check) : check.Steady := by
  intro P fs gs hfs
  exact like_builtin h (Pairing.twinFields_iff.2 hfs)

/-! ### Plans -/

/-- A step that, if it applies a rule, carries the assignments in its parameters, with no template
that looks up the time or the generator of identifiers. -/
def Step.Timeless (step : Step) : Prop :=
  step.primitive = "RULE_APPLICATOR" →
    ∃ v, Fields.get? step.params "assignments" = some v ∧
      ∀ fs, v = .map fs → ∀ f ∈ fs, ∀ s, f.2 = .str s →
        ¬templateMentions s "now" ∧ ¬templateMentions s "uuid"

/-- A timeless step does the same at any two times. -/
theorem Step.Timeless.steady {step : Step} (h : step.Timeless)
    (hparams : (Value.map step.params).isJson = true) (A B : Clock) :
    step.Steady Registry.builtin A B := by
  refine ⟨hparams, fun f hf => Registry.steady_builtin hf fun hrule => ?_⟩
  obtain ⟨v, hv, hquiet⟩ := h hrule
  refine ⟨v, hv, fun fs hfs f hf s hs => ?_⟩
  obtain ⟨hnow, huuid⟩ := hquiet fs hfs f hf s hs
  exact ⟨huuid, .inr hnow⟩

namespace Setup

variable {plan : Plan} {bindings? : Option Bindings} {options : Options} {A B : Clock}
  {seed : Seed} {initial : Value} {r : RunResult} {log : List LogLine}

/-- A timeless run that comes to its end does so under every clock that has a timestamp, with the
same state, hashes of steps and violations, and the replay accepts the result of the first run. -/
theorem replay_timeless (hB : ∃ ts, B.timestamp = .ok ts)
    (hparams : ∀ step ∈ plan.steps, (Value.map step.params).isJson = true)
    (htimeless : ∀ step ∈ plan.steps, step.Timeless) (hv : initial.isJson = true)
    (h : (ofPlan plan bindings? options A).execute seed initial = .ok (r, log)) (seed' : Seed) :
    (ofPlan plan bindings? options B).verify seed' initial r.claimed = .ok [] ∧
      ∃ r' log', (ofPlan plan bindings? options B).execute seed' initial = .ok (r', log') ∧
        r'.state = r.state ∧
        RunResult.stepHashes r'.ledger = RunResult.stepHashes r.ledger ∧
        r'.trail.map (fun v => (v.tick, v.message)) =
          r.trail.map (fun v => (v.tick, v.message)) := by
  obtain ⟨ts, hA⟩ := timestamp_of_execute h
  obtain ⟨ts', hB⟩ := hB
  have hset : TwinSetups ts ts' (ofPlan plan bindings? options A)
      (ofPlan plan bindings? options B) :=
    ⟨rfl, rfl, rfl, hA, hB, Checks.steady_builtin⟩
  have hsteady : ∀ step ∈ plan.steps, step.Steady Registry.builtin A B := fun step hs =>
    (htimeless step hs).steady (hparams step hs) A B
  obtain ⟨s, hs, hr, -, -⟩ := execute_state h
  obtain ⟨s', hs', htwins⟩ :=
    (runSteps_sameStart _ hset rfl hsteady hv seed seed').exists_right hs
  have hvalue := htwins.record.value_eq
  have hd : s'.record.value.contentHash = .ok r.proof.finalHash := by
    rw [← hvalue]
    exact hr.finalHash
  obtain ⟨r', log', h'⟩ := execute_of_state hset.right hs' hd
  obtain ⟨u, hu, hr', -, -⟩ := execute_state h'
  obtain rfl := Except.ok.inj (hs'.symm.trans hu)
  obtain ⟨es, hes, hmoved⟩ := htwins.ledger
  have hstate : r'.state = r.state := by
    rw [RunResult.state, RunResult.state, hr'.record, hr.record, hvalue]
  have hhash : RunResult.stepHashes r'.ledger = RunResult.stepHashes r.ledger := by
    rw [hr'.ledger, hr.ledger, stepHashes_eq hmoved, hes]
    rfl
  have hcount : r'.proof.violations = r.proof.violations := by
    rw [hr'.violations, hr.violations, htwins.tally.violations]
    exact Nat.zero_add _
  refine ⟨verify_of_replay h h' hstate hhash hcount, r', log', h', hstate, hhash, ?_⟩
  rw [hr'.trail, hr.trail, htwins.violations, List.map_append, List.map_map]
  rfl

/-- A rule with a template, and a step that names no primitive. -/
def ruling : Plan where
  steps := [⟨"one", "RULE_APPLICATOR", [], [], [("enabled", .bool true),
      ("assignments", .map [("a", .str "\x7b\x7b 1 + 1 \x7d\x7d")])]⟩,
    ⟨"two", "NOPE", [], [], []⟩]
  metadata := []
  contracts := []

theorem ruling_timeless : ∀ step ∈ ruling.steps, step.Timeless := by
  refine List.forall_mem_cons.2 ⟨fun _ => ⟨_, rfl, ?_⟩, List.forall_mem_singleton.2 nofun⟩
  rintro _ ⟨⟩ f hf s hs
  obtain rfl := List.mem_singleton.1 hf
  obtain rfl := Value.str.inj hs
  decide +kernel

theorem ruling_replayed :
    (∃ ts, (Clock.mk 86400000).timestamp = .ok ts) ∧
    (∀ step ∈ ruling.steps, (Value.map step.params).isJson = true) ∧
    (∀ step ∈ ruling.steps, step.Timeless) ∧ (Value.map []).isJson = true ∧
    ∃ r log, (ofPlan ruling none .standard ⟨0⟩).execute ⟨[]⟩ (.map []) = .ok (r, log) ∧
      (ofPlan ruling none .standard ⟨86400000⟩).verify ⟨[1]⟩ (.map []) r.claimed = .ok [] ∧
      ∃ r' log', (ofPlan ruling none .standard ⟨86400000⟩).execute ⟨[1]⟩ (.map []) =
          .ok (r', log') ∧
        r'.state = r.state ∧
        RunResult.stepHashes r'.ledger = RunResult.stepHashes r.ledger ∧
        r'.trail.map (fun v => (v.tick, v.message)) =
          r.trail.map (fun v => (v.tick, v.message)) := by
  have hB : ∃ ts, (Clock.mk 86400000).timestamp = .ok ts := ⟨_, rfl⟩
  have hparams : ∀ step ∈ ruling.steps, (Value.map step.params).isJson = true := by decide +kernel
  obtain ⟨r, log, h, -⟩ := exists_run (ofPlan ruling none .standard ⟨0⟩) ⟨[]⟩ (.map [])
    (fun _ => true) (by decide +kernel)
  exact ⟨hB, hparams, ruling_timeless, rfl, r, log, h,
    replay_timeless hB hparams ruling_timeless rfl h ⟨[1]⟩⟩

end Setup
end RuleLedger
