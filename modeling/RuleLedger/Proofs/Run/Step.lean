import Mathlib.Data.List.Forall2
import RuleLedger.Proofs.Except
import RuleLedger.Run.Engine

/-! What one step of a run adds to its state. Every operation of a step either records violations at
the current tick or passes checks; a stretch collects what a part of a step has added, and a block
what a whole step has. -/
namespace RuleLedger

/-- An entry with a canonical copy of its payload and the digest of that. -/
structure Entry.IsStamp (e : Entry) (tick : Nat) (operation : Text) (payload : Value) : Prop where
  tick : e.tick = .nat tick
  operation : e.operation = .str operation
  payload : e.payload = payload.canonical
  hash : ∃ h, e.payload.contentHash = .ok h ∧ e.hash = .str h

/-- The entry of a violation at a tick. -/
def Entry.Records (tick : Nat) (v : Violation) (e : Entry) : Prop :=
  e.IsStamp tick Entry.violationOperation v.toValue

theorem Entry.isStamp_of_stamp {clock : Clock} {seed : Seed} {tick : Nat} {operation : Text}
    {payload : Value} {e : Entry}
    (h : Entry.stamp clock seed (.nat tick) operation payload = .ok e) :
    e.IsStamp tick operation payload := by
  simp only [Entry.stamp, bind_eq_ok, pure_eq_ok] at h
  obtain ⟨_, -, hash, hh, rfl⟩ := h
  exact ⟨rfl, rfl, rfl, hash, hh, rfl⟩

namespace Violation

/-- The labels of the engine's own violations. -/
def labels : List Text :=
  ["Unknown primitive", "Synthetic violation", "NaN normalized_score detected",
    "Empty output object", "Primitive error", "Output application failed",
    "Schema invariant failed"]

/-- The label of a check that failed. -/
def checkLabel : Text := "Schema invariant failed"

/-- Only the text up to the first colon counts. -/
theorem labelOf_append {p : Text} (h : .char ':' ∈ p.toList) (t : Text) :
    labelOf (p ++ t) = labelOf p := by
  have ht : ∀ cs : List Symbol, .char ':' ∈ cs →
      (cs ++ t.toList).takeWhile (fun c : Symbol => c ≠ ':') =
        cs.takeWhile fun c : Symbol => c ≠ ':' := by
    intro cs hc
    induction cs with
    | nil => cases hc
    | cons c cs ih =>
      by_cases he : c = ':'
      · simp [he]
      · have hm : .char ':' ∈ cs := (List.mem_cons.1 hc).resolve_left (Ne.symm he)
        simp only [List.cons_append, List.takeWhile_cons, ih hm]
  rw [labelOf, labelOf, Text.toList_append, ht p.toList h]

theorem labelOf_outputFailed (field reason : Text) :
    labelOf ("Output application failed: " ++ field ++ ": " ++ reason) =
      "Output application failed" := by
  have hc : .char ':' ∈ (Text.ofString "Output application failed: ").toList := by decide
  rw [labelOf_append (by simp [hc]), labelOf_append (by simp [hc]), labelOf_append hc]
  decide +kernel

theorem labelOf_checkFailed (check : Text) :
    labelOf ("Schema invariant failed: " ++ check) = checkLabel := by
  have hc : .char ':' ∈ (Text.ofString "Schema invariant failed: ").toList := by decide
  rw [labelOf_append hc]
  decide +kernel

theorem labelOf_unknown (primitive : Text) :
    labelOf ("Unknown primitive: " ++ primitive) = "Unknown primitive" := by
  have hc : .char ':' ∈ (Text.ofString "Unknown primitive: ").toList := by decide
  rw [labelOf_append hc]
  decide +kernel

/-- What the output itself is reported for has a label of its own. -/
theorem labelOf_output {o : Output} {m : Text}
    (h : m ∈ syntheticViolations o ++ structuralViolations o) :
    labelOf m ∈ labels ∧ labelOf m ≠ checkLabel := by
  have hprefix (p q : Text) (hc : .char ':' ∈ p.toList) (hq : labelOf p = q)
      (hl : q ∈ labels ∧ q ≠ checkLabel) (t : Text) :
      labelOf (p ++ t) ∈ labels ∧ labelOf (p ++ t) ≠ checkLabel := by
    rw [labelOf_append hc, hq]
    exact hl
  rcases List.mem_append.1 h with h | h
  · cases o with
    | flagged violation fields =>
      obtain rfl := List.mem_singleton.1 h
      exact hprefix _ "Synthetic violation" (by decide) (by decide +kernel) (by decide) _
    | _ => cases h
  · simp only [structuralViolations, List.mem_filterMap, List.mem_cons, List.not_mem_nil, or_false,
      id_eq, exists_eq_right] at h
    rcases h with h | h | h
    · split_ifs at h
      obtain rfl := Option.some.inj h
      have hq : labelOf "NaN normalized_score detected" = "NaN normalized_score detected" := by
        decide +kernel
      rw [hq]
      decide
    · split_ifs at h
      obtain rfl := Option.some.inj h
      have hq : labelOf "Empty output object" = "Empty output object" := by decide +kernel
      rw [hq]
      decide
    · cases o with
      | failed error fields =>
        obtain rfl := Option.some.inj h
        exact hprefix _ "Primitive error" (by decide) (by decide +kernel) (by decide) _
      | _ => cases h

end Violation

namespace RunState

theorem demand_eq_ok {α β : Type} {s : RunState} {r : Except Fault α} {next : α → Except Abort β}
    {b : β} : s.demand r next = .ok b ↔ ∃ a, r = .ok a ∧ next a = .ok b := by
  cases r <;> simp [demand, abort]

theorem append_eq_ok {s s' : RunState} {clock : Clock} {seed : Seed} {operation : Text}
    {payload : Value} (h : s.append clock seed operation payload = .ok s') :
    ∃ e, e.IsStamp s.tick operation payload ∧ s' = { s with ledger := s.ledger ++ [e] } := by
  rw [append, demand_eq_ok] at h
  obtain ⟨e, he, hs⟩ := h
  exact ⟨e, Entry.isStamp_of_stamp he, (Except.ok.inj hs).symm⟩

/-- What a part of a step adds: violations with their entries, and the checks that it runs, each of
which passes or is a violation. -/
structure Stretch (primitive : Text) (s s' : RunState) (vs : List Violation) (es : List Entry)
    (checks : Nat) : Prop where
  tick : s'.tick = s.tick
  halted : s'.halted = s.halted
  violations : s'.violations = s.violations ++ vs
  ledger : s'.ledger = s.ledger ++ es
  recorded : List.Forall₂ (Entry.Records s.tick) vs es
  source : ∀ v ∈ vs, v.tick = s.tick ∧ v.primitive = primitive
  labels : ∀ v ∈ vs, v.label ∈ Violation.labels
  total : s'.tally.violations = s.tally.violations + vs.length
  byLabel : s'.tally.byLabel = (vs.map Violation.label).foldl Fields.increment s.tally.byLabel
  invocations : s'.tally.invocations = s.tally.invocations
  checks : s'.tally.checksPassed + (vs.map Violation.label).count Violation.checkLabel =
    s.tally.checksPassed + checks

variable {primitive : Text} {s s' s'' : RunState}

theorem Stretch.refl (s : RunState) : Stretch primitive s s [] [] 0 where
  tick := rfl
  halted := rfl
  violations := (List.append_nil _).symm
  ledger := (List.append_nil _).symm
  recorded := .nil
  source := nofun
  labels := nofun
  total := rfl
  byLabel := rfl
  invocations := rfl
  checks := rfl

theorem Stretch.trans {vs vs' : List Violation} {es es' : List Entry} {n n' : Nat}
    (h : Stretch primitive s s' vs es n) (h' : Stretch primitive s' s'' vs' es' n') :
    Stretch primitive s s'' (vs ++ vs') (es ++ es') (n + n') where
  tick := h'.tick.trans h.tick
  halted := h'.halted.trans h.halted
  violations := by rw [h'.violations, h.violations, List.append_assoc]
  ledger := by rw [h'.ledger, h.ledger, List.append_assoc]
  recorded := List.rel_append h.recorded (h.tick ▸ h'.recorded)
  source := List.forall_mem_append.2 ⟨h.source, h.tick ▸ h'.source⟩
  labels := List.forall_mem_append.2 ⟨h.labels, h'.labels⟩
  total := by rw [h'.total, h.total, List.length_append, Nat.add_assoc]
  byLabel := by rw [h'.byLabel, h.byLabel, List.map_append, List.foldl_append]
  invocations := h'.invocations.trans h.invocations
  checks := by
    have hc := h.checks
    have hc' := h'.checks
    rw [List.map_append, List.count_append]
    omega

/-- A violation is recorded in the trail, the counters and the ledger, and the record stays. -/
theorem violate_eq_ok {clock : Clock} {seed : Seed} {inputs output : Value} {message label : Text}
    (h : s.violate clock seed primitive inputs output message = .ok s')
    (hm : Violation.labelOf message = label) (hl : label ∈ Violation.labels) :
    ∃ v e, Stretch primitive s s' [v] [e] (if label = Violation.checkLabel then 1 else 0) ∧
      v.message = message ∧ s'.record = s.record := by
  subst hm
  rw [violate, demand_eq_ok] at h
  obtain ⟨timestamp, -, h⟩ := h
  dsimp only at h
  split at h
  · cases h
  · rename_i t ht
    obtain ⟨e, he, rfl⟩ := append_eq_ok ht
    obtain rfl := Except.ok.inj h
    let v : Violation :=
      ⟨s.tick, primitive, message, Violation.sample inputs, Violation.sample output, timestamp⟩
    refine ⟨v, e, ?_, rfl, rfl⟩
    exact {
      tick := rfl
      halted := rfl
      violations := rfl
      ledger := rfl
      recorded := .cons he .nil
      source := List.forall_mem_singleton.2 ⟨rfl, rfl⟩
      labels := List.forall_mem_singleton.2 hl
      total := rfl
      byLabel := rfl
      invocations := rfl
      checks := by
        rw [List.map_singleton, List.count_singleton, beq_eq_decide]
        change s.tally.checksPassed +
          (if decide (Violation.labelOf message = Violation.checkLabel) then 1 else 0) = _
        simp only [decide_eq_true_eq] }

theorem violateAll_eq_ok {clock : Clock} {seed : Seed} {inputs output : Value} {ms : List Text}
    (h : s.violateAll clock seed primitive inputs output ms = .ok s')
    (hl : ∀ m ∈ ms, Violation.labelOf m ∈ Violation.labels)
    (hc : ∀ m ∈ ms, Violation.labelOf m ≠ Violation.checkLabel) :
    ∃ vs es, Stretch primitive s s' vs es 0 := by
  induction ms generalizing s with
  | nil =>
    obtain rfl := Except.ok.inj h
    exact ⟨[], [], .refl s⟩
  | cons m ms ih =>
    unfold violateAll at h
    split at h
    · cases h
    · rename_i t ht
      obtain ⟨v, e, hv, -, -⟩ := violate_eq_ok ht rfl (hl m List.mem_cons_self)
      rw [if_neg (hc m List.mem_cons_self)] at hv
      obtain ⟨vs, es, hs⟩ := ih h (fun a ha => hl a (List.mem_cons_of_mem _ ha))
        fun a ha => hc a (List.mem_cons_of_mem _ ha)
      exact ⟨_, _, hv.trans hs⟩

/-- The record and the log are not part of the books. -/
theorem Stretch.of_record {vs : List Violation} {es : List Entry} {n : Nat} {r : Record}
    {log : List LogLine} (h : Stretch primitive { s with record := r, log := log } s' vs es n) :
    Stretch primitive s s' vs es n :=
  ⟨h.tick, h.halted, h.violations, h.ledger, h.recorded, h.source, h.labels, h.total, h.byLabel,
    h.invocations, h.checks⟩

variable {setup : Setup} {seed : Seed} {step : Step} {inputs : Value} {rendered : Fields Datum}

theorem applyOutput_eq_ok {field : Text}
    (h : s.applyOutput setup seed step inputs rendered field = .ok s') :
    ∃ vs es, Stretch step.primitive s s' vs es 0 := by
  have hfailed (t : RunState) (f : PathFault) (ht : t.violate setup.clock seed step.primitive inputs
      (.map (Fields.mapValues Datum.value rendered))
      ("Output application failed: " ++ field ++ ": " ++ f.message) = .ok s') :
      ∃ vs es, Stretch step.primitive t s' vs es 0 := by
    obtain ⟨v, e, hv, -, -⟩ := violate_eq_ok ht (Violation.labelOf_outputFailed field f.message)
      (by decide)
    rw [if_neg (by decide)] at hv
    exact ⟨_, _, hv⟩
  rw [applyOutput] at h
  dsimp only at h
  split at h
  · exact hfailed s _ h
  · split at h
    · obtain rfl := Except.ok.inj h
      exact ⟨[], [], .refl s⟩
    · split at h
      · obtain rfl := Except.ok.inj h
        exact ⟨[], [], Stretch.of_record (.refl _)⟩
      · obtain ⟨vs, es, hs⟩ := hfailed _ _ h
        exact ⟨vs, es, hs.of_record⟩
      · cases h

theorem applyOutputs_eq_ok {i : Nat} {fields : List Text}
    (h : s.applyOutputs setup seed i step inputs rendered fields = .ok s') :
    ∃ vs es, Stretch step.primitive s s' vs es 0 := by
  induction fields generalizing s i with
  | nil =>
    obtain rfl := Except.ok.inj h
    exact ⟨[], [], .refl s⟩
  | cons field fields ih =>
    unfold applyOutputs at h
    split at h
    · cases h
    · rename_i t ht
      obtain ⟨vs, es, hs⟩ := applyOutput_eq_ok ht
      obtain ⟨vs', es', hs'⟩ := ih h
      exact ⟨_, _, hs.trans hs'⟩

/-- A check passes or is recorded under its own label. -/
theorem runCheck_eq_ok {check : Text}
    (h : s.runCheck setup seed step inputs rendered check = .ok s') :
    ∃ vs es, Stretch step.primitive s s' vs es 1 := by
  rw [runCheck] at h
  split at h
  · obtain rfl := Except.ok.inj h
    exact ⟨[], [], rfl, rfl, (List.append_nil _).symm, (List.append_nil _).symm, .nil, nofun, nofun,
      rfl, rfl, rfl, rfl⟩
  · obtain ⟨v, e, hv, -, -⟩ := violate_eq_ok h (Violation.labelOf_checkFailed check) (by decide)
    rw [if_pos rfl] at hv
    exact ⟨_, _, hv⟩

theorem runChecks_eq_ok {checks : List Text}
    (h : s.runChecks setup seed step inputs rendered checks = .ok s') :
    ∃ vs es, Stretch step.primitive s s' vs es checks.length := by
  induction checks generalizing s with
  | nil =>
    obtain rfl := Except.ok.inj h
    exact ⟨[], [], .refl s⟩
  | cons check checks ih =>
    unfold runChecks at h
    split at h
    · cases h
    · rename_i t ht
      obtain ⟨vs, es, hs⟩ := runCheck_eq_ok ht
      obtain ⟨vs', es', hs'⟩ := ih h
      rw [List.length_cons, Nat.add_comm]
      exact ⟨_, _, hs.trans hs'⟩

theorem logStep_eq (s : RunState) (setup : Setup) (step : Step) (inputs : Value) (o : Output) :
    ∃ log, s.logStep setup step inputs o = { s with log := log } := by
  rw [logStep]
  cases setup.options.detail <;> exact ⟨_, rfl⟩

/-- After a call come violations, the entry of the step, and every bound check once. -/
theorem finishStep_eq_ok {o : Output} (h : s.finishStep setup seed step inputs o = .ok s') :
    ∃ t vs es e, Stretch step.primitive
        { s with tally := s.tally.invoked step.primitive } t vs es
        (setup.bindings.checksFor step.primitive).length ∧
      e.IsStamp s.tick step.primitive (Entry.stepPayload inputs o.toValue) ∧
      ∃ log, s' = { t with ledger := t.ledger ++ [e], log := log } := by
  simp only [finishStep, bind_eq_ok, pure_eq_ok] at h
  obtain ⟨s₁, h₁, s₂, h₂, s₃, h₃, s₄, h₄, rfl⟩ := h
  obtain ⟨vs₁, es₁, hs₁⟩ := violateAll_eq_ok h₁ (fun m hm => (Violation.labelOf_output hm).1)
    fun m hm => (Violation.labelOf_output hm).2
  obtain ⟨vs₂, es₂, hs₂⟩ := applyOutputs_eq_ok h₂
  obtain ⟨vs₃, es₃, hs₃⟩ := runChecks_eq_ok h₃
  obtain ⟨e, he, rfl⟩ := append_eq_ok h₄
  have hs₁₂ := hs₁.trans hs₂
  have hinvoked : Stretch step.primitive { s with tally := s.tally.invoked step.primitive }
      { s₂ with tally := s₂.tally.invoked step.primitive } (vs₁ ++ vs₂) (es₁ ++ es₂) 0 :=
    { hs₁₂ with
      invocations := congrArg (Fields.increment · step.primitive) hs₁₂.invocations }
  have hs := hinvoked.trans hs₃
  rw [Nat.zero_add] at hs
  obtain ⟨log, hlog⟩ := logStep_eq { s₃ with ledger := s₃.ledger ++ [e] } setup step inputs o
  have ht : s₃.tick = s.tick := hs.tick
  exact ⟨s₃, _, _, e, hs, ht ▸ he, log, hlog⟩

theorem invoke_eq (s : RunState) (setup : Setup) (seed : Seed) (step : Step)
    (primitive : Primitive) (inputs : Fields Datum) :
    ∃ record log, s.invoke setup seed step primitive inputs =
      ({ s with record := record, log := log },
        settle step.primitive (primitive ⟨inputs, s.record, setup.clock, seed⟩).answer) := by
  rw [invoke]
  dsimp only
  split
  · rename_i f hf
    exact ⟨_, _, by rw [hf]; rfl⟩
  · exact ⟨_, _, rfl⟩

end RunState

/-! ### Blocks -/

/-- What one step leaves in the books. -/
structure Block where
  step : Step
  tick : Nat
  before : Record
  after : Record
  violations : List Violation
  /-- The entries of the violations. -/
  recorded : List Entry
  /-- The entry of the step, if its primitive is known. -/
  own : Option Entry

namespace Block

def entries (b : Block) : List Entry := b.recorded ++ b.own.toList

/-- The primitive of the step, if it was called. -/
def calls (b : Block) : List Text := b.own.toList.map fun _ => b.step.primitive

/-- The checks of the step. -/
def checks (setup : Setup) (b : Block) : List Text := b.calls.flatMap setup.bindings.checksFor

/-- The seed of the step. -/
def seed (run : Seed) (b : Block) : Seed := run.fork (b.tick - 1)

/-- The payload of a call on the record before the step. -/
def payload (setup : Setup) (run : Seed) (b : Block) (primitive : Primitive)
    (inputs : Fields Datum) : Value :=
  Entry.stepPayload (.map (Fields.mapValues Datum.value inputs))
    (RunState.settle b.step.primitive
      (primitive ⟨inputs, b.before, setup.clock, (b.seed run).fork 0⟩).answer).toValue

/-- The violations of a step come first. The step itself has an entry exactly when its primitive is
known; else its only violation says so, and the record stays. -/
structure Sound (setup : Setup) (run : Seed) (b : Block) : Prop where
  recorded : List.Forall₂ (Entry.Records b.tick) b.violations b.recorded
  source : ∀ v ∈ b.violations, v.tick = b.tick ∧ v.primitive = b.step.primitive
  labels : ∀ v ∈ b.violations, v.label ∈ Violation.labels
  known : ∀ primitive, Fields.get? setup.registry b.step.primitive = some primitive →
    ∃ inputs e, RunState.combineInputs b.before ((b.seed run).fork 2) b.step = .ok inputs ∧
      b.own = some e ∧ e.IsStamp b.tick b.step.primitive (b.payload setup run primitive inputs)
  unknown : Fields.get? setup.registry b.step.primitive = none →
    b.own = none ∧ b.after = b.before ∧
      b.violations.map Violation.message = ["Unknown primitive: " ++ b.step.primitive]

/-- The step of a block leads from one state to another. -/
structure Joins (setup : Setup) (run : Seed) (b : Block) (s s' : RunState) : Prop where
  sound : b.Sound setup run
  starts : b.tick = s.tick + 1
  ends : s'.tick = b.tick
  before : b.before = s.record
  after : b.after = s'.record
  halted : s'.halted = s.halted
  violations : s'.violations = s.violations ++ b.violations
  ledger : s'.ledger = s.ledger ++ b.entries
  total : s'.tally.violations = s.tally.violations + b.violations.length
  byLabel : s'.tally.byLabel =
    (b.violations.map Violation.label).foldl Fields.increment s.tally.byLabel
  invocations : s'.tally.invocations = b.calls.foldl Fields.increment s.tally.invocations
  checked : s'.tally.checksPassed +
      (b.violations.map Violation.label).count Violation.checkLabel =
    s.tally.checksPassed + (b.checks setup).length

end Block

namespace RunState

variable {setup : Setup} {run : Seed} {step : Step} {s s' : RunState}

theorem runStep_unknown (hnone : Fields.get? setup.registry step.primitive = none)
    (h : s.runStep setup (run.fork s.tick) step = .ok s') :
    ∃ b : Block, b.step = step ∧ b.Joins setup run s s' := by
  rw [runStep, hnone] at h
  obtain ⟨v, e, hs, hm, hr⟩ := violate_eq_ok h (Violation.labelOf_unknown step.primitive)
    (by decide)
  rw [if_neg (by decide)] at hs
  let b : Block := ⟨step, s.tick + 1, s.record, s'.record, [v], [e], none⟩
  have hsound : b.Sound setup run := {
    recorded := hs.recorded
    source := hs.source
    labels := hs.labels
    known := fun primitive hp => by
      rw [hnone] at hp
      cases hp
    unknown := fun _ => ⟨rfl, hr, congrArg (fun m => [m]) hm⟩ }
  refine ⟨b, rfl, ?_⟩
  exact {
    sound := hsound
    starts := rfl
    ends := hs.tick
    before := rfl
    after := rfl
    halted := hs.halted
    violations := hs.violations
    ledger := hs.ledger
    total := hs.total
    byLabel := hs.byLabel
    invocations := hs.invocations
    checked := hs.checks }

theorem runStep_known {primitive : Primitive}
    (hsome : Fields.get? setup.registry step.primitive = some primitive)
    (h : s.runStep setup (run.fork s.tick) step = .ok s') :
    ∃ b : Block, b.step = step ∧ b.Joins setup run s s' := by
  rw [runStep, hsome] at h
  dsimp only at h
  rw [demand_eq_ok] at h
  obtain ⟨inputs, hi, h⟩ := h
  obtain ⟨record, log, hinv⟩ := invoke_eq { s with tick := s.tick + 1 } setup
    ((run.fork s.tick).fork 0) step primitive inputs
  rw [hinv] at h
  obtain ⟨t, vs, es, e, hs, he, log', rfl⟩ := finishStep_eq_ok h
  let b : Block := ⟨step, s.tick + 1, s.record, t.record, vs, es, some e⟩
  have hsound : b.Sound setup run := {
    recorded := hs.recorded
    source := hs.source
    labels := hs.labels
    known := fun primitive' hp => by
      obtain rfl := Option.some.inj (hsome.symm.trans hp)
      exact ⟨inputs, e, hi, rfl, he⟩
    unknown := fun hp => by
      rw [hsome] at hp
      cases hp }
  have hchecks : b.checks setup = setup.bindings.checksFor step.primitive :=
    List.flatMap_singleton _ _
  refine ⟨b, rfl, ?_⟩
  exact {
    sound := hsound
    starts := rfl
    ends := hs.tick
    before := rfl
    after := rfl
    halted := hs.halted
    violations := hs.violations
    ledger := by
      change t.ledger ++ [e] = s.ledger ++ (es ++ [e])
      rw [hs.ledger, List.append_assoc]
    total := hs.total
    byLabel := hs.byLabel
    invocations := hs.invocations
    checked := by
      rw [hchecks]
      exact hs.checks }

/-- Every step leaves a block. -/
theorem runStep_eq_ok (h : s.runStep setup (run.fork s.tick) step = .ok s') :
    ∃ b : Block, b.step = step ∧ b.Joins setup run s s' := by
  cases hp : Fields.get? setup.registry step.primitive with
  | none => exact runStep_unknown hp h
  | some primitive => exact runStep_known hp h

theorem runStep_tick (h : s.runStep setup (run.fork s.tick) step = .ok s') :
    s'.tick = s.tick + 1 := by
  obtain ⟨b, -, hb⟩ := runStep_eq_ok h
  rw [hb.ends, hb.starts]

end RunState
end RuleLedger
