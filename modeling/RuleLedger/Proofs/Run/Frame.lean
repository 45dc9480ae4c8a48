import RuleLedger.Proofs.Record.Footprint
import RuleLedger.Proofs.Run.Rebuild

/-! What a run leaves alone. Main statement: a member of the record that no output field, no path of
a state mutator and no assignment of a rule leads to is at the end what it was at the start. -/
namespace RuleLedger

open Record (Writes)

/-! ### The paths of a call -/

/-- The paths that a call may write at before its output is applied. -/
def Call.paths (primitive : Text) (c : Call) : List Text :=
  if primitive = "STATE_MUTATOR" then
    match c.inputValue "path" with
    | .str path => [path]
    | _ => []
  else if primitive = "RULE_APPLICATOR" then Fields.keys c.assignments
  else []

/-- The same paths, read off the entry of a step. -/
def Entry.paths (e : Entry) : List Text :=
  let input (name : Text) := (e.payload.field? "input").bind fun inputs => inputs.field? name
  match e.operation with
  | .str primitive =>
    if primitive = "STATE_MUTATOR" then
      match input "path" with
      | some (.str path) => [path]
      | _ => []
    else if primitive = "RULE_APPLICATOR" then
      match input "assignments" with
      | some (.map fs) => Fields.keys fs
      | _ => []
    else []
  | _ => []

section Calls

variable {level : Nat} {c : Call} {record : Record} {seed : Seed}

theorem stateMutator_writes (c : Call) (hs : level < c.seed.path.length) :
    Writes level (c.paths "STATE_MUTATOR") c.record (stateMutator c).record := by
  obtain ⟨hr, -⟩ | ⟨path, p, hpath, hp, ho⟩ := stateMutator_cases c
  · rw [hr]
    exact .refl
  · have hpaths : c.paths "STATE_MUTATOR" = [path] := by rw [Call.paths, if_pos rfl, hpath]
    rw [hpaths]
    obtain ⟨-, ho⟩ | ⟨f, -, ho⟩ := ho <;> rw [ho] <;> exact .single c.record _ hp hs

theorem assign_writes (generators : Expr.Generators) (hs : level < seed.path.length) (field : Text)
    (right : Datum) :
    Writes level [field] record (assign record generators seed field right).1 := by
  rw [assign]
  split
  · exact .refl
  · rename_i new _
    split
    · exact .refl
    · rename_i p hp
      have hw := Writes.single (p := p) record new hp hs
      split <;> rename_i h <;> rw [h] at hw <;> exact hw

theorem assignAll_writes (generators : Expr.Generators) (hs : level ≤ seed.path.length) (i : Nat)
    (fs : Fields Datum) :
    Writes level (Fields.keys fs) record (assignAll generators seed record i fs).record := by
  induction fs generalizing record i with
  | nil => exact .refl
  | cons f fs ih =>
    obtain ⟨field, right⟩ := f
    have hfirst : Writes level (field :: Fields.keys fs) record
        (assign record generators (seed.fork i) field right).1 :=
      (assign_writes generators (Nat.lt_succ_of_le hs) field right).mono
        (List.forall_mem_singleton.2 List.mem_cons_self)
    rw [assignAll]
    split
    · rename_i h
      rw [h] at hfirst
      exact hfirst
    · rename_i h
      rw [h] at hfirst
      exact hfirst.trans ((ih (i + 1)).mono fun path => List.mem_cons_of_mem field)

theorem ruleApplicator_writes (c : Call) (hs : level < c.seed.path.length) :
    Writes level (c.paths "RULE_APPLICATOR") c.record (ruleApplicator c).record := by
  obtain ⟨hr, -⟩ | ⟨-, ho⟩ := ruleApplicator_cases c
  · rw [hr]
    exact .refl
  · rw [ho, Call.paths, if_neg (by decide), if_pos rfl]
    exact assignAll_writes ⟨c.clock, c.seed⟩ (Nat.le_of_lt hs) 1 c.assignments

/-- The built-in primitives that leave the record to the output fields of their steps. -/
theorem Registry.record_builtin {name : Text} {f : Primitive}
    (h : Fields.get? Registry.builtin name = some f) (hm : name ≠ "STATE_MUTATOR")
    (hr : name ≠ "RULE_APPLICATOR") (c : Call) : (f c).record = c.record := by
  simp only [Registry.builtin, Fields.get?_cons, Fields.get?_nil, hm, hr, if_false] at h
  split_ifs at h
  · obtain rfl := Option.some.inj h
    exact conditionEvaluator_record c
  · obtain rfl := Option.some.inj h
    exact expressionEvaluator_record c
  · obtain rfl := Option.some.inj h
    exact compositeScorer_record c

/-- A call of a built-in primitive writes at its paths only. -/
theorem Registry.writes_builtin {name : Text} {f : Primitive}
    (h : Fields.get? Registry.builtin name = some f) (c : Call) (hs : level < c.seed.path.length) :
    Writes level (c.paths name) c.record (f c).record := by
  by_cases hm : name = "STATE_MUTATOR"
  · subst hm
    obtain rfl := Option.some.inj h
    exact stateMutator_writes c hs
  · by_cases hr : name = "RULE_APPLICATOR"
    · subst hr
      obtain rfl := Option.some.inj h
      exact ruleApplicator_writes c hs
    · rw [record_builtin h hm hr]
      exact .refl

end Calls

namespace Record

variable {level : Nat} {r : Record} {seed : Seed}

theorem output_writes (r : Record) (hs : level < seed.path.length) (rendered : Fields Datum)
    (field : Text) : Writes level [field] r (r.output seed rendered field) := by
  rw [output]
  split
  · exact .refl
  · rename_i p new hw
    exact .single r new (path_of_outputWrite? hw) hs

theorem outputs_writes (hs : level ≤ seed.path.length) (i : Nat) (rendered : Fields Datum)
    (fields : List Text) : Writes level fields r (r.outputs seed i rendered fields) := by
  induction fields generalizing r i with
  | nil => exact .refl
  | cons field fields ih =>
    have hseed : level < (seed.fork i).path.length := Nat.lt_succ_of_le hs
    have hfield : ∀ p ∈ [field], p ∈ field :: fields :=
      List.forall_mem_singleton.2 List.mem_cons_self
    have hfirst := (output_writes r hseed rendered field).mono hfield
    exact hfirst.trans ((ih (i + 1)).mono fun path => List.mem_cons_of_mem field)

end Record

/-! ### Blocks -/

/-- Whether a block does no more to the record than its output fields say: they are written as the
entry tells, and where there is no entry nothing is written. -/
def Block.WritesOutputs (run : Seed) (b : Block) : Prop :=
  match b.own with
  | none => b.after = b.before
  | some e => ∃ rendered : Fields Datum,
    e.payload.field? "output" = some (Value.map (Fields.mapValues Datum.value rendered)).canonical ∧
    b.after = b.before.outputs ((b.seed run).fork 1) 0 rendered b.step.outputs

section Blocks

variable {setup : Setup} {run : Seed} {b : Block}

/-- The entry of a step shows its inputs. -/
theorem Entry.IsStamp.input? {e : Entry} {tick : Nat} {operation : Text} {inputs : Fields Datum}
    {output : Value} (he : e.IsStamp tick operation
      (Entry.stepPayload (.map (Fields.mapValues Datum.value inputs)) output)) (name : Text) :
    ((e.payload.field? "input").bind fun inputs => inputs.field? name) =
      (Fields.get? inputs name).map fun d => d.value.canonical := by
  rw [he.payload, Entry.stepPayload, Value.canonical_map, Value.field?, get?_sortFields]
  exact field?_canonical inputs name

/-- The entry of a step tells the paths of its call. -/
theorem mem_paths_of_isStamp {e : Entry} {tick : Nat} {c : Call} {output : Value} {primitive : Text}
    (he : e.IsStamp tick primitive
      (Entry.stepPayload (.map (Fields.mapValues Datum.value c.inputs)) output)) :
    ∀ path ∈ c.paths primitive, path ∈ e.paths := by
  intro path hpath
  rw [Entry.paths, he.operation]
  dsimp only
  rw [he.input?, he.input?]
  rw [Call.paths] at hpath
  split_ifs at hpath ⊢
  · rw [Call.inputValue, Call.input] at hpath
    cases hget : Fields.get? c.inputs "path" with
    | none =>
      rw [hget] at hpath
      exact hpath
    | some d =>
      rw [hget] at hpath
      cases d <;> exact hpath
  · rw [Call.assignments, Call.input] at hpath
    cases hget : Fields.get? c.inputs "assignments" with
    | none =>
      rw [hget] at hpath
      cases hpath
    | some d =>
      rw [hget] at hpath
      cases d with
      | map i fs =>
        rw [Option.map_some, Datum.value_map, Value.canonical_map]
        refine (keys_sortFields_perm _).mem_iff.2 ?_
        rw [keys_mapValues, keys_mapValues]
        exact hpath
      | _ => cases hpath
  · exact hpath

/-- What a step of known primitive makes of the record. -/
theorem Block.Ran.record {f : Primitive} (h : b.Ran setup run)
    (hf : Fields.get? setup.registry b.step.primitive = some f) :
    ∃ (c : Call) (e : Entry), c.record = b.before ∧ run.path.length < c.seed.path.length ∧
      b.own = some e ∧
      e.IsStamp b.tick b.step.primitive
        (Entry.stepPayload (.map (Fields.mapValues Datum.value c.inputs))
          (RunState.settle b.step.primitive (f c).answer).toValue) ∧
      b.after = (f c).record.outputs ((b.seed run).fork 1) 0
        (RunState.settle b.step.primitive (f c).answer).rendered b.step.outputs := by
  obtain ⟨s, s', h, hb⟩ := h
  have hseed : b.seed run = run.fork s.tick := by rw [Block.seed, hb.starts, Nat.add_sub_cancel]
  obtain ⟨inputs, e, hi, he, hstamp⟩ := hb.sound.known f hf
  rw [Block.payload, hb.before, hseed] at hstamp
  rw [hb.before, hseed] at hi
  have hrecord := RunState.runStep_record hf hi h
  refine ⟨s.call setup (run.fork s.tick) inputs, e, hb.before.symm, ?_, he, hstamp, ?_⟩
  · rw [RunState.call, Seed.length_fork, Seed.length_fork]
    omega
  · rw [hb.after, hseed]
    exact hrecord

/-- A step writes at the paths that its entry tells of and at its output fields. -/
theorem Block.Ran.writes (h : b.Ran setup run) (hreg : setup.registry = Registry.builtin) :
    Writes run.path.length (b.own.toList.flatMap Entry.paths ++ b.step.outputs) b.before
      b.after := by
  cases hf : Fields.get? setup.registry b.step.primitive with
  | none =>
    obtain ⟨s, s', -, hb⟩ := h
    rw [(hb.sound.unknown hf).2.1]
    exact .refl
  | some f =>
    obtain ⟨c, e, hc, hs, he, hstamp, hafter⟩ := h.record hf
    have hcall := Registry.writes_builtin (hreg ▸ hf) c hs
    have houtputs : Writes run.path.length b.step.outputs (f c).record b.after := by
      rw [hafter]
      refine Record.outputs_writes ?_ 0 _ _
      rw [Seed.length_fork, Block.seed, Seed.length_fork]
      omega
    rw [hc] at hcall
    rw [he, Option.toList_some, List.flatMap_singleton]
    refine (hcall.mono fun path hp => List.mem_append_left _ ?_).trans
      (houtputs.mono fun path => List.mem_append_right _)
    exact mem_paths_of_isStamp hstamp path hp

/-- All but state mutators and rules write output fields only. -/
theorem Block.Ran.writesOutputs (h : b.Ran setup run) (hreg : setup.registry = Registry.builtin)
    (hm : b.step.primitive ≠ "STATE_MUTATOR") (hr : b.step.primitive ≠ "RULE_APPLICATOR") :
    b.WritesOutputs run := by
  rw [Block.WritesOutputs]
  cases hf : Fields.get? setup.registry b.step.primitive with
  | none =>
    obtain ⟨s, s', -, hb⟩ := h
    obtain ⟨hown, hafter, -⟩ := hb.sound.unknown hf
    rw [hown]
    exact hafter
  | some f =>
    obtain ⟨c, e, hc, -, he, hstamp, hafter⟩ := h.record hf
    rw [Registry.record_builtin (hreg ▸ hf) hm hr, hc] at hafter
    rw [he]
    refine ⟨_, ?_, hafter⟩
    rw [hstamp.payload, Entry.stepPayload, Value.canonical_map, Value.field?, get?_sortFields]
    rfl

/-- A member that no step of a chain leads to stays. -/
theorem isolated_of_linked {bs : List Block} {r r' : Record} {k : Text} {d? : Option Datum}
    (hl : Linked r bs r')
    (hw : ∀ b ∈ bs, ∃ paths, Writes run.path.length paths b.before b.after ∧
      ∀ path ∈ paths, ¬Touches k path)
    (hr : r.Isolated run k d?) : r'.Isolated run k d? := by
  induction bs generalizing r with
  | nil => exact hl ▸ hr
  | cons b bs ih =>
    obtain ⟨hbefore, hrest⟩ := hl
    obtain ⟨⟨paths, hwrites, hk⟩, hw⟩ := List.forall_mem_cons.1 hw
    exact ih hrest hw (hwrites.isolated (hbefore ▸ hr) hk)

end Blocks

/-! ### Runs -/

namespace Setup

/-- A member of the record that nothing in a run leads to is there at the end exactly if it was
there at the start, with the same value; and steps other than state mutators and rules write nothing
but their output fields. -/
theorem execute_frame {plan : Plan} {bindings? : Option Bindings} {options : Options}
    {clock : Clock} {run : Seed} {fs : Fields Value} {r : RunResult} {log : List LogLine}
    (h : (ofPlan plan bindings? options clock).execute run (.map fs) = .ok (r, log)) :
    (∀ k : Text,
      (∀ step ∈ plan.steps.take r.proof.ticks, ∀ path ∈ step.outputs, ¬Touches k path) →
      (∀ e ∈ r.ledger.steps, ∀ path ∈ e.paths, ¬Touches k path) →
      r.state.field? k = Fields.get? fs k) ∧
    ∃ bs : List Block,
      bs.map Block.step = plan.steps.take r.proof.ticks ∧
      Linked (Record.ofValue run (.map fs)) bs r.record ∧
      r.ledger.steps = bs.flatMap (fun b => b.own.toList) ∧
      ∀ b ∈ bs, b.Sound (ofPlan plan bindings? options clock) run ∧
        (b.step.primitive ≠ "STATE_MUTATOR" → b.step.primitive ≠ "RULE_APPLICATOR" →
          b.WritesOutputs run) := by
  obtain ⟨bs, tally, hr, hran⟩ := execute_ran h
  have hsteps : bs.map Block.step = plan.steps.take r.proof.ticks := hr.steps
  have hledger : r.ledger.steps = bs.flatMap fun b => b.own.toList := by
    rw [hr.ledger]
    exact steps_flatMap rfl hr.sound
  refine ⟨fun k houtputs hpaths => ?_, bs, hsteps, hr.linked, hledger, fun b hb =>
    ⟨hr.sound b hb, (hran b hb).writesOutputs rfl⟩⟩
  have hquiet : ∀ b ∈ bs, ∃ paths, Writes run.path.length paths b.before b.after ∧
      ∀ path ∈ paths, ¬Touches k path := by
    intro b hb
    refine ⟨_, (hran b hb).writes rfl, List.forall_mem_append.2 ⟨fun path hp => ?_, ?_⟩⟩
    · obtain ⟨e, he, hp⟩ := List.mem_flatMap.1 hp
      refine hpaths e ?_ path hp
      rw [hledger]
      exact List.mem_flatMap.2 ⟨b, hb, he⟩
    · refine houtputs b.step ?_
      rw [← hsteps]
      exact List.mem_map_of_mem hb
  have hend := isolated_of_linked hr.linked hquiet (Record.isolated_ofValue run k fs)
  rw [RunResult.state, hend.field?, Option.map_map]
  cases Fields.get? fs k with
  | none => rfl
  | some v => exact congrArg some (Datum.value_ofValue run _ v)

theorem tiering_keeps :
    ∃ r log, tiering.execute ⟨[]⟩ (.map [("owner", .map [("tags", .list [])]), ("score", .int 3)]) =
        .ok (r, log) ∧ r.state.field? "owner" = some (.map [("tags", .list [])]) := by
  obtain ⟨r, log, h, hpaths⟩ := exists_run tiering ⟨[]⟩
    (.map [("owner", .map [("tags", .list [])]), ("score", .int 3)])
    (fun r => decide (∀ e ∈ r.ledger.steps, ∀ path ∈ e.paths, ¬Touches "owner" path))
    (by decide +kernel)
  have houtputs : ∀ step ∈ tiering.plan.steps, ∀ path ∈ step.outputs, ¬Touches "owner" path := by
    decide +kernel
  exact ⟨r, log, h, (execute_frame h).1 "owner"
    (fun step hstep => houtputs step (List.mem_of_mem_take hstep)) (of_decide_eq_true hpaths)⟩

end Setup
end RuleLedger
