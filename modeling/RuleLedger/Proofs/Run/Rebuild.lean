import RuleLedger.Proofs.Primitive.Writes
import RuleLedger.Proofs.Run.Books
import RuleLedger.Proofs.Run.Execution

/-! The record of a run rebuilt from its ledger. Main statement: the writes that the step entries
tell of, made on the initial record, leave the final record up to the order of keys, provided that
calls which do not complete change nothing and no write shows at two places. -/
namespace RuleLedger

/-! ### What the ledger tells of -/

/-- The path of an output field, with what an output holds under its last segment. -/
def outputWrite? {α : Type} (output : Fields α) (field : Text) : Option (KeyPath × α) :=
  match KeyPath.ofText field with
  | .error _ => none
  | .ok p => (Fields.get? output p.leaf).map fun d => (p, d)

theorem path_of_outputWrite? {α : Type} {output : Fields α} {field : Text} {w : KeyPath × α}
    (h : outputWrite? output field = some w) : KeyPath.ofText field = .ok w.1 := by
  rw [outputWrite?] at h
  split at h
  · cases h
  · rename_i p hp
    obtain ⟨d, -, rfl⟩ := Option.map_eq_some_iff.1 h
    exact hp

/-- The writes of the output fields of a step that an output tells of. -/
def outputReport (fields : List Text) (output : Value) : List (Text × Value) :=
  match output with
  | .map fs => fields.filterMap fun field => (outputWrite? fs field).map fun w => (field, w.2)
  | _ => []

/-- The step of a plan at a tick. -/
def Plan.stepAt? (plan : Plan) (tick : Value) : Option Step :=
  match tick with
  | .num (.int (.ofNat (n + 1))) => plan.steps[n]?
  | _ => none

/-- The writes that a step entry tells of: those of the call, then those of the output fields. -/
def Entry.writes (plan : Plan) (e : Entry) : List (Text × Value) :=
  let output := (e.payload.field? "output").getD .null
  let call := match e.operation with
    | .str primitive => callReport primitive output
    | _ => []
  call ++ ((plan.stepAt? e.tick).map fun step => outputReport step.outputs output).getD []

/-- The record that the step entries of a ledger make of an initial one. -/
def Ledger.rebuild (plan : Plan) (l : Ledger) (initial : Value) : Value :=
  initial.rewritten (l.steps.flatMap (Entry.writes plan))

theorem Ledger.rebuild_append (plan : Plan) (l l' : Ledger) (v : Value) :
    Ledger.rebuild plan (l ++ l') v = Ledger.rebuild plan l' (Ledger.rebuild plan l v) := by
  rw [Ledger.rebuild, Ledger.steps, List.filter_append, List.flatMap_append,
    Value.rewritten_append]
  rfl

/-! ### Output fields -/

namespace Record

/-- The record after an attempt to write an output field. -/
def output (r : Record) (seed : Seed) (rendered : Fields Datum) (field : Text) : Record :=
  match outputWrite? rendered field with
  | none => r
  | some (p, new) => (r.write p seed new).1

def outputs (r : Record) (seed : Seed) (i : Nat) (rendered : Fields Datum) : List Text → Record
  | [] => r
  | field :: fields => outputs (r.output (seed.fork i) rendered field) seed (i + 1) rendered fields

/-- Whether the writes of output fields go into nothing that stands at two places. -/
def soleOutputs (r : Record) (seed : Seed) (i : Nat) (rendered : Fields Datum) : List Text → Bool
  | [] => true
  | field :: fields =>
    ((outputWrite? rendered field).all fun w => r.isSole w.1) &&
      soleOutputs (r.output (seed.fork i) rendered field) seed (i + 1) rendered fields

variable {r : Record} {seed : Seed} {rendered : Fields Datum}

theorem isMapping_output (hr : r.IsMapping) (seed : Seed) (rendered : Fields Datum) (field : Text) :
    (r.output seed rendered field).IsMapping := by
  rw [output]
  split
  · exact hr
  · exact isMapping_write hr _ _ _

theorem isMapping_outputs (hr : r.IsMapping) (seed : Seed) (i : Nat) (rendered : Fields Datum)
    (fields : List Text) : (r.outputs seed i rendered fields).IsMapping := by
  induction fields generalizing r i with
  | nil => exact hr
  | cons field fields ih => exact ih (isMapping_output hr (seed.fork i) rendered field) (i + 1)

theorem outputReport_canonical (fields : List Text) (rendered : Fields Datum) :
    outputReport fields (Value.map (Fields.mapValues Datum.value rendered)).canonical =
      fields.filterMap fun field =>
        (outputWrite? rendered field).map fun w => (field, w.2.value.canonical) := by
  rw [Value.canonical_map, outputReport]
  refine List.filterMap_congr fun field _ => ?_
  rw [outputWrite?, outputWrite?]
  cases KeyPath.ofText field with
  | error f => rfl
  | ok p =>
    dsimp only
    rw [get?_sortFields, Fields.get?_mapValues, Fields.get?_mapValues]
    cases Fields.get? rendered p.leaf <;> rfl

/-- Output fields are written as the stored output tells. -/
theorem outputs_told (hr : r.IsMapping) {i : Nat} {fields : List Text}
    (hs : r.soleOutputs seed i rendered fields = true) :
    (r.outputs seed i rendered fields).value.essence =
      (r.value.rewritten (outputReport fields
        (Value.map (Fields.mapValues Datum.value rendered)).canonical)).essence := by
  rw [outputReport_canonical]
  induction fields generalizing r i with
  | nil => rfl
  | cons field fields ih =>
    rw [soleOutputs, Bool.and_eq_true] at hs
    obtain ⟨hsole, hs⟩ := hs
    have ho := isMapping_output hr (seed.fork i) rendered field
    have hrest := ih ho hs
    rw [outputs, hrest]
    cases hw : outputWrite? rendered field with
    | none =>
      rw [List.filterMap_cons_none (by rw [hw]; rfl), output, hw]
    | some w =>
      have hvalue : (r.output (seed.fork i) rendered field).value.essence =
          (r.value.written field w.2.value).essence := by
        rw [Value.written_of_path (path_of_outputWrite? hw), output, hw]
        rw [hw] at hsole
        exact essence_write hr hsole (seed.fork i) w.2
      rw [List.filterMap_cons_some (by rw [hw]; rfl)]
      exact Value.rewritten_cons_congr (exists_value_eq hr) (exists_value_eq ho) hvalue _

end Record

/-! ### Steps -/

namespace RunState

variable {setup : Setup} {run seed : Seed} {step : Step} {s s' : RunState} {inputs output : Value}
  {rendered : Fields Datum} {primitive : Text}

theorem violate_record {clock : Clock} {message : Text}
    (h : s.violate clock seed primitive inputs output message = .ok s') :
    s'.record = s.record := by
  rw [violate, demand_eq_ok] at h
  obtain ⟨timestamp, -, h⟩ := h
  dsimp only at h
  split at h
  · cases h
  · rename_i t ht
    obtain ⟨e, -, rfl⟩ := append_eq_ok ht
    obtain rfl := Except.ok.inj h
    rfl

theorem violateAll_record {clock : Clock} {ms : List Text}
    (h : s.violateAll clock seed primitive inputs output ms = .ok s') : s'.record = s.record := by
  induction ms generalizing s with
  | nil =>
    obtain rfl := Except.ok.inj h
    rfl
  | cons m ms ih =>
    unfold violateAll at h
    split at h
    · cases h
    · rename_i t ht
      exact (ih h).trans (violate_record ht)

theorem runChecks_record {checks : List Text}
    (h : s.runChecks setup seed step inputs rendered checks = .ok s') : s'.record = s.record := by
  induction checks generalizing s with
  | nil =>
    obtain rfl := Except.ok.inj h
    rfl
  | cons check checks ih =>
    unfold runChecks at h
    split at h
    · cases h
    · rename_i t ht
      refine (ih h).trans ?_
      rw [runCheck] at ht
      split_ifs at ht
      · obtain rfl := Except.ok.inj ht
        rfl
      · exact violate_record ht

theorem applyOutput_record {field : Text}
    (h : s.applyOutput setup seed step inputs rendered field = .ok s') :
    s'.record = s.record.output seed rendered field := by
  rw [applyOutput] at h
  rw [Record.output, outputWrite?]
  cases hp : KeyPath.ofText field with
  | error f =>
    rw [hp] at h
    exact violate_record h
  | ok p =>
    rw [hp] at h
    dsimp only at h ⊢
    cases hn : Fields.get? rendered p.leaf with
    | none =>
      rw [hn] at h
      obtain rfl := Except.ok.inj h
      rfl
    | some new =>
      rw [hn] at h
      change s'.record = (s.record.write p seed new).1
      dsimp only at h
      split at h
      · rename_i record hw
        obtain rfl := Except.ok.inj h
        rw [hw]
      · rename_i record f hw
        rw [hw]
        exact violate_record h
      · cases h

theorem applyOutputs_record {i : Nat} {fields : List Text}
    (h : s.applyOutputs setup seed i step inputs rendered fields = .ok s') :
    s'.record = s.record.outputs seed i rendered fields := by
  induction fields generalizing s i with
  | nil =>
    obtain rfl := Except.ok.inj h
    rfl
  | cons field fields ih =>
    unfold applyOutputs at h
    split at h
    · cases h
    · rename_i t ht
      rw [ih h, applyOutput_record ht, Record.outputs]

/-- After a call only the output fields are written. -/
theorem finishStep_record {o : Output} (h : s.finishStep setup seed step inputs o = .ok s') :
    s'.record = s.record.outputs seed 0 o.rendered step.outputs := by
  simp only [finishStep, bind_eq_ok, pure_eq_ok] at h
  obtain ⟨s₁, h₁, s₂, h₂, s₃, h₃, s₄, h₄, rfl⟩ := h
  obtain ⟨e, -, rfl⟩ := append_eq_ok h₄
  obtain ⟨log, hlog⟩ := logStep_eq { s₃ with ledger := s₃.ledger ++ [e] } setup step inputs o
  have hrecord := runChecks_record h₃
  rw [hlog]
  change s₃.record = _
  rw [hrecord]
  change s₂.record = _
  rw [applyOutputs_record h₂, violateAll_record h₁]

/-- The call of a step. -/
def call (s : RunState) (setup : Setup) (seed : Seed) (inputs : Fields Datum) : Call :=
  ⟨inputs, s.record, setup.clock, seed.fork 0⟩

theorem invoke_record (s : RunState) (setup : Setup) (seed : Seed) (step : Step)
    (primitive : Primitive) (inputs : Fields Datum) :
    (s.invoke setup seed step primitive inputs).1.record =
      (primitive ⟨inputs, s.record, setup.clock, seed⟩).record := by
  rw [invoke]
  dsimp only
  split <;> rfl

/-- A step calls its primitive and writes the output fields. -/
theorem runStep_record {f : Primitive} {inputs : Fields Datum}
    (hf : Fields.get? setup.registry step.primitive = some f)
    (hi : combineInputs s.record (seed.fork 2) step = .ok inputs)
    (h : s.runStep setup seed step = .ok s') :
    s'.record = (f (s.call setup seed inputs)).record.outputs (seed.fork 1) 0
      (settle step.primitive (f (s.call setup seed inputs)).answer).rendered step.outputs := by
  rw [runStep, hf] at h
  dsimp only at h
  rw [demand_eq_ok] at h
  obtain ⟨inputs', hi', h⟩ := h
  obtain rfl := Except.ok.inj (hi.symm.trans hi')
  have hrecord := invoke_record { s with tick := s.tick + 1 } setup (seed.fork 0) step f inputs
  obtain ⟨record, log, hinv⟩ := invoke_eq { s with tick := s.tick + 1 } setup (seed.fork 0) step f
    inputs
  rw [hinv] at h hrecord
  obtain rfl : record = (f (s.call setup seed inputs)).record := hrecord
  exact finishStep_record h

/-- Whether the ledger can tell what a step does to the record. -/
def isToldStep (s : RunState) (setup : Setup) (seed : Seed) (step : Step) : Bool :=
  match Fields.get? setup.registry step.primitive, combineInputs s.record (seed.fork 2) step with
  | some f, .ok inputs =>
    let o := f (s.call setup seed inputs)
    (s.call setup seed inputs).isTold step.primitive o &&
      o.record.soleOutputs (seed.fork 1) 0 (settle step.primitive o.answer).rendered step.outputs
  | _, _ => true

/-- Whether it can tell what every step does. -/
def isTold (s : RunState) (setup : Setup) (run : Seed) : List Step → Bool
  | [] => true
  | step :: steps =>
    s.isToldStep setup (run.fork s.tick) step &&
      match s.runStep setup (run.fork s.tick) step with
      | .error _ => true
      | .ok s => s.mustHalt setup || isTold s setup run steps

/-- The writes that the entry of a call tells of. -/
theorem writes_of_isStamp {plan : Plan} {e : Entry} {n : Nat} {inputs : Value} {o : Outcome}
    (hstep : plan.steps[n]? = some step)
    (he : e.IsStamp (n + 1) step.primitive
      (Entry.stepPayload inputs (settle step.primitive o.answer).toValue)) :
    e.writes plan = callReport step.primitive (Call.stored step.primitive o) ++
      outputReport step.outputs (Call.stored step.primitive o) := by
  have houtput : e.payload.field? "output" = some (Call.stored step.primitive o) := by
    rw [he.payload, Entry.stepPayload, Value.canonical_map, Value.field?, get?_sortFields]
    rfl
  have hat : plan.stepAt? (.nat (n + 1)) = some step := hstep
  rw [Entry.writes, houtput, he.operation, he.tick, hat]
  rfl

/-- A step that can be told does what its entry tells. -/
theorem runStep_told (hreg : setup.registry = Registry.builtin)
    (hstep : setup.plan.steps[s.tick]? = some step) (hr : s.record.IsMapping)
    (ht : s.isToldStep setup (run.fork s.tick) step = true)
    (h : s.runStep setup (run.fork s.tick) step = .ok s') :
    s'.record.IsMapping ∧ ∃ es : List Entry, s'.ledger = s.ledger ++ es ∧
      s'.record.value.essence = (Ledger.rebuild setup.plan es s.record.value).essence := by
  have hname : Fields.get? setup.registry Entry.violationOperation = none := by
    rw [hreg]
    rfl
  obtain ⟨b, rfl, hb⟩ := runStep_eq_ok h
  have hown : Ledger.steps b.entries = b.own.toList := by
    have hsteps := steps_flatMap hname (List.forall_mem_singleton.2 hb.sound)
    rwa [List.flatMap_singleton, List.flatMap_singleton] at hsteps
  cases hp : Fields.get? setup.registry b.step.primitive with
  | none =>
    obtain ⟨hnone, hafter, -⟩ := hb.sound.unknown hp
    have hrecord : s'.record = s.record := by rw [← hb.after, hafter, hb.before]
    refine ⟨hrecord ▸ hr, b.entries, hb.ledger, ?_⟩
    rw [Ledger.rebuild, hown, hnone, hrecord]
    rfl
  | some f =>
    obtain ⟨inputs, e, hi, he, hstamp⟩ := hb.sound.known f hp
    have hseed : b.seed run = run.fork s.tick := by rw [Block.seed, hb.starts, Nat.add_sub_cancel]
    rw [hb.before, hseed] at hi
    rw [Block.payload, hb.before, hseed, hb.starts] at hstamp
    have hrecord := runStep_record hp hi h
    rw [isToldStep, hp, hi] at ht
    obtain ⟨hcall, hsole⟩ := (Bool.and_eq_true _ _).mp ht
    have htells := Registry.tells_builtin (hreg ▸ hp)
    let c := s.call setup (run.fork s.tick) inputs
    have hmapping : (f c).record.IsMapping := htells.isMapping c hr
    have htold := htells.told c hr hcall
    have houtputs := Record.outputs_told hmapping hsole
    refine ⟨?_, b.entries, hb.ledger, ?_⟩
    · rw [hrecord]
      exact Record.isMapping_outputs hmapping _ _ _ _
    · have hmade := Value.rewritten_map (Record.exists_value_eq hr)
        (callReport b.step.primitive (Call.stored b.step.primitive (f c)))
      rw [Ledger.rebuild, hown, he, Option.toList_some, List.flatMap_singleton,
        writes_of_isStamp hstep hstamp, Value.rewritten_append, hrecord, houtputs]
      exact Value.rewritten_congr_left (Record.exists_value_eq hmapping) hmade htold _

/-- Steps that can be told do what the ledger tells. -/
theorem runSteps_told (hreg : setup.registry = Registry.builtin) {steps : List Step}
    (hsteps : setup.plan.steps.drop s.tick = steps) (hr : s.record.IsMapping)
    (ht : s.isTold setup run steps = true) (h : s.runSteps setup run steps = .ok s') :
    ∃ es : List Entry, s'.ledger = s.ledger ++ es ∧
      s'.record.value.essence = (Ledger.rebuild setup.plan es s.record.value).essence := by
  induction steps generalizing s with
  | nil =>
    obtain rfl := Except.ok.inj h
    exact ⟨[], (List.append_nil _).symm, rfl⟩
  | cons step steps ih =>
    have hstep : setup.plan.steps[s.tick]? = some step := by
      rw [← List.head?_drop, hsteps, List.head?_cons]
    rw [isTold, Bool.and_eq_true] at ht
    obtain ⟨hfirst, hlater⟩ := ht
    unfold runSteps at h
    split at h
    · cases h
    · rename_i t hrun
      rw [hrun] at hlater
      obtain ⟨ht, es, hes, hvalue⟩ := runStep_told hreg hstep hr hfirst hrun
      split at h
      · obtain rfl := Except.ok.inj h
        exact ⟨es, hes, hvalue⟩
      · rename_i hhalt
        have hdrop : setup.plan.steps.drop t.tick = steps := by
          rw [runStep_tick hrun, ← List.drop_drop, hsteps]
          rfl
        have hlater : t.isTold setup run steps = true :=
          (Bool.or_eq_true _ _ ▸ hlater : _ ∨ _).resolve_left hhalt
        obtain ⟨es', hes', hvalue'⟩ := ih hdrop ht hlater h
        refine ⟨es ++ es', by rw [hes', hes, List.append_assoc], ?_⟩
        rw [hvalue', Ledger.rebuild_append]
        exact Value.rewritten_congr_left (Record.exists_value_eq ht)
          (Value.rewritten_map (Record.exists_value_eq hr) _) hvalue _

end RunState

namespace Setup

variable {plan : Plan} {bindings? : Option Bindings} {options : Options} {clock : Clock}
  {run : Seed} {fs : Fields Value} {r : RunResult} {log : List LogLine}

/-- Whether the ledger of a run can tell what becomes of the record: a call that does not complete
leaves it with the text it had, and no write of any other call or of an output field goes into a
list or mapping that stands at two places. -/
def isTold (setup : Setup) (run : Seed) (initial : Value) : Bool :=
  (setup.start run initial).isTold setup run setup.plan.steps

/-- The final record of a run on a mapping is what the writes that the step entries tell of make of
the initial one, up to the order of keys and with every callable counted as the text that shows it.
-/
theorem execute_rebuilt
    (h : (ofPlan plan bindings? options clock).execute run (.map fs) = .ok (r, log))
    (ht : (ofPlan plan bindings? options clock).isTold run (.map fs) = true) :
    r.state.spelled.Alike (r.ledger.rebuild plan (.map fs)).spelled := by
  obtain ⟨s, hs, hr, -, -⟩ := execute_state h
  have hvalue : ((ofPlan plan bindings? options clock).start run (.map fs)).record.value =
      .map fs := congrArg Value.map (Datum.fieldValues_ofFields run [] fs)
  obtain ⟨es, hes, hrebuilt⟩ := RunState.runSteps_told rfl rfl ⟨_, rfl⟩ ht hs
  rw [hvalue] at hrebuilt
  have hledger : r.ledger = es := hr.ledger.trans hes
  rw [RunResult.state, hr.record, hledger]
  exact Value.alike_of_essence_eq hrebuilt

/-- A plan of one rule. -/
def ruleOnly (assignments : Fields Value) (outputs : List Text) : Plan where
  steps := [⟨"one", "RULE_APPLICATOR", [], outputs,
    [("enabled", .bool true), ("assignments", .map assignments)]⟩]
  metadata := []
  contracts := []

/-- A rule whose second assignment goes below what the first one makes, and an output field. -/
def tiering : Setup :=
  ofPlan (ruleOnly [("tier", .str "\x7b\x7b [score * 2] \x7d\x7d"), ("tier.0", .int 7)]
    ["report.updatesApplied"]) none Options.standard ⟨0⟩

theorem tiering_rebuilt :
    tiering.isTold ⟨[]⟩ (.map [("score", .int 3)]) = true ∧
    ∃ r log, tiering.execute ⟨[]⟩ (.map [("score", .int 3)]) = .ok (r, log) ∧
      r.state.spelled.Alike
        (r.ledger.rebuild tiering.plan (.map [("score", .int 3)])).spelled := by
  have ht : tiering.isTold ⟨[]⟩ (.map [("score", .int 3)]) = true := by decide +kernel
  obtain ⟨r, log, h, -⟩ := exists_run tiering ⟨[]⟩ (.map [("score", .int 3)]) (fun _ => true)
    (by decide +kernel)
  exact ⟨ht, r, log, h, execute_rebuilt h ht⟩

/-- A rule that fails after its first assignment. -/
def faltering : Plan := ruleOnly [("x", .int 1), ("*", .int 2)] []

/-- A rule that writes into one of two places at which one mapping stands. -/
def sharing : Plan :=
  ruleOnly [("l", .str "\x7b\x7b [a, a] \x7d\x7d"), ("l.0.k", .int 1)] []

/-- A rule that fails keeps what it assigned before, and its output does not tell of that; where one
mapping stands at two places, a write into it shows at both. -/
theorem rebuild_fails :
    (∃ r log, (ofPlan faltering none Options.standard ⟨0⟩).execute ⟨[]⟩ (.map []) = .ok (r, log) ∧
      ¬r.state.Alike (r.ledger.rebuild faltering (.map []))) ∧
    ∃ r log, (ofPlan sharing none Options.standard ⟨0⟩).execute ⟨[]⟩ (.map [("a", .map [])]) =
        .ok (r, log) ∧
      ¬r.state.Alike (r.ledger.rebuild sharing (.map [("a", .map [])])) := by
  have hdiffer (plan : Plan) (initial : Value)
      (h : ((ofPlan plan none Options.standard ⟨0⟩).execute ⟨[]⟩ initial).toOption.any (fun r =>
        r.1.state.all Value.hasDistinctKeys &&
          !r.1.state.sameText (r.1.ledger.rebuild plan initial)) = true) :
      ∃ r log, (ofPlan plan none Options.standard ⟨0⟩).execute ⟨[]⟩ initial = .ok (r, log) ∧
        ¬r.state.Alike (r.ledger.rebuild plan initial) := by
    obtain ⟨r, log, he, hp⟩ := exists_run (ofPlan plan none Options.standard ⟨0⟩) ⟨[]⟩ initial
      (fun r => r.state.all Value.hasDistinctKeys &&
        !r.state.sameText (r.ledger.rebuild plan initial)) h
    rw [Bool.and_eq_true, Bool.not_eq_true'] at hp
    exact ⟨r, log, he, Value.not_alike_of_sameText hp.1 hp.2⟩
  exact ⟨hdiffer _ _ (by decide +kernel), hdiffer _ _ (by decide +kernel)⟩

end Setup
end RuleLedger
