import RuleLedger.Proofs.Record.ShuffledRecords
import RuleLedger.Proofs.Run.Frame
import RuleLedger.Proofs.Run.Timeless

/-! Runs on records that are equal up to the order of keys. Main statement: two runs of one timeless
plan on such records have the same final hash, the same hashes of steps and the same violations, as
long as the scorer shows no mapping of two members or more. -/
namespace RuleLedger

/-! ### Digests -/

theorem sameDigests_essence : SameDigests fun v w => v.essence = w.essence where
  refl _ := rfl
  map {fs gs} h := by
    have hfields : Fields.mapValues Value.essence fs = Fields.mapValues Value.essence gs :=
      map_eq_map_iff.2 (h.imp fun _ _ hfg => Prod.ext hfg.1 hfg.2)
    rw [Value.essence_map, Value.essence_map, hfields]
  hashed h d := by rw [← Value.contentHash_essence, h, Value.contentHash_essence]

theorem Pairing.shuffled_shows (P : Pairing) :
    P.shuffled.Shows fun v w => v.essence = w.essence :=
  { sameDigests_essence with value := Shuffled.essence_eq }

/-! ### What a scorer shows -/

/-- An input of a step, as its entry keeps it; an absent one is null. -/
def Entry.inputValue (e : Entry) (name : Text) : Value :=
  ((e.payload.field? "input").bind fun inputs => inputs.field? name).getD .null

theorem Entry.IsStamp.inputValue_eq {e : Entry} {tick : Nat} {operation : Text} {c : Call}
    {output : Value} (he : e.IsStamp tick operation
      (Entry.stepPayload (.map (Fields.mapValues Datum.value c.inputs)) output)) (name : Text) :
    e.inputValue name = (c.inputValue name).canonical := by
  rw [Entry.inputValue, he.input?, Call.inputValue, Call.input]
  cases Fields.get? c.inputs name <;> rfl

namespace Value

theorem isNarrow_canonical (v : Value) : v.canonical.isNarrow = v.isNarrow := by
  cases v with
  | map fs =>
    rw [canonical_map, isNarrow, isNarrow, (sortFields_perm _).length_eq, Fields.mapValues,
      List.length_map]
  | list xs => rw [canonical_list]; rfl
  | _ => rfl

theorem number?_canonical (v : Value) : v.canonical.number? = v.number? := by
  cases v <;> rfl

theorem truthy_canonical (v : Value) : v.canonical.truthy = v.truthy := by
  cases v <;> rfl

end Value

namespace Score

theorem misfit?_canonical (v : Value) : misfit? v.canonical = (misfit? v).map Value.canonical := by
  cases v with
  | list xs =>
    rw [Value.canonical_list, misfit?, misfit?, List.find?_map]
    exact congrArg (fun p => (xs.find? p).map Value.canonical)
      (funext fun v => congrArg Option.isNone v.number?_canonical)
  | _ => rfl

theorem shown?_canonical (v w : Value) :
    shown? v.canonical w.canonical = (shown? v w).map Value.canonical := by
  rw [shown?, shown?, Value.truthy_canonical, misfit?_canonical]
  split_ifs <;> rfl

variable {P : Pairing} {d e : Datum}

theorem misfit?_shuffled (h : P.Shuffled d e) :
    misfit? d.value = none ∧ misfit? e.value = none ∨ ∃ x y, misfit? d.value = some x.value ∧
      misfit? e.value = some y.value ∧ P.Shuffled x y := by
  cases h with
  | @list _ _ xs ys _ hxs =>
    have hfind (zs : List Datum) : misfit? (.list (zs.map Datum.value)) =
        (zs.find? fun z => z.value.number?.isNone).map Datum.value := List.find?_map
    have hfound : Option.Rel P.Shuffled (xs.find? fun x => x.value.number?.isNone)
        (ys.find? fun y => y.value.number?.isNone) :=
      forall₂_find? hxs fun x y hxy => by
        rw [← Value.number?_surface, Layer.surface_eq Pairing.Shuffled.layer hxy,
          Value.number?_surface]
    rw [Datum.value_list, Datum.value_list, hfind, hfind]
    obtain ⟨hx, hy⟩ | ⟨x, y, hx, hy, hxy⟩ := optionRel_cases hfound
    · rw [hx, hy]
      exact .inl ⟨rfl, rfl⟩
    · rw [hx, hy]
      exact .inr ⟨x, y, rfl, rfl, hxy⟩
  | _ => exact .inl ⟨rfl, rfl⟩

end Score

/-- Whether what a call of the scorer shows holds no mapping of two members or more. -/
def Call.IsNarrow (c : Call) : Prop := ∀ v, c.shownScore? = some v → v.all Value.isNarrow = true

theorem Call.IsNarrow.display_eq {P : Pairing} {c c' : Call} (hn : c.IsNarrow)
    (h : P.shuffled.LikeCalls c c') :
    c.shownScore?.map Value.display = c'.shownScore?.map Value.display := by
  have htrigger : (c.inputValue "trigger_nan_test").truthy =
      (c'.inputValue "trigger_nan_test").truthy := by
    rw [← Value.truthy_surface, h.inputValue_surface, Value.truthy_surface]
  rw [IsNarrow, shownScore?, Score.shown?] at hn
  rw [shownScore?, shownScore?, Score.shown?, Score.shown?, ← htrigger]
  split_ifs at hn ⊢
  · rfl
  · rw [inputValue] at hn
    rw [inputValue, inputValue]
    obtain ⟨hx, hy⟩ | ⟨x, y, hx, hy, hxy⟩ := Score.misfit?_shuffled (h.input "scores")
    · rw [hx, hy]
    · rw [hx, hy]
      exact congrArg some (hxy.display_eq (hn _ hx))

/-- Whether an entry of the scorer, if it is one, shows no mapping of two members or more. -/
def Entry.isNarrow (e : Entry) : Bool :=
  !e.operation.isText "COMPOSITE_SCORER" ||
    (Score.shown? (e.inputValue "trigger_nan_test") (e.inputValue "scores")).all
      fun v => v.all Value.isNarrow

theorem Entry.IsStamp.isNarrow {e : Entry} {tick : Nat} {c : Call} {output : Value}
    (he : e.IsStamp tick "COMPOSITE_SCORER"
      (Entry.stepPayload (.map (Fields.mapValues Datum.value c.inputs)) output))
    (hn : e.isNarrow = true) : c.IsNarrow := by
  intro v hv
  rw [Call.shownScore?] at hv
  rw [Entry.isNarrow, Value.isText_iff.2 he.operation, Bool.not_true, Bool.false_or,
    he.inputValue_eq, he.inputValue_eq, Score.shown?_canonical, hv] at hn
  exact (Value.all_canonical_iff Value.isNarrow_canonical v).1 hn

/-! ### Steps -/

namespace RunState

variable {setup : Setup} {run : Seed} {s s' : RunState} {steps : List Step}

/-- What stands in the ledger stays there. -/
theorem mem_ledger_of_runSteps (h : s.runSteps setup run steps = .ok s') {e : Entry}
    (he : e ∈ s.ledger) : e ∈ s'.ledger := by
  obtain ⟨bs, u, hu, -, -, hend⟩ := runSteps_eq_ok h
  have hm : e ∈ u.ledger := by
    rw [hu.ledger]
    exact List.mem_append_left _ he
  obtain ⟨rfl, -⟩ | rfl := hend
  · exact hm
  · exact hm

/-- Whether a step that calls the scorer shows no mapping of two members or more. -/
def IsNarrow (setup : Setup) (run : Seed) (s : RunState) (step : Step) : Prop :=
  step.primitive = "COMPOSITE_SCORER" → ∀ fs,
    combineInputs s.record ((run.fork s.tick).fork 2) step = .ok fs →
    Call.IsNarrow ⟨fs, s.record, setup.clock, (run.fork s.tick).fork 0⟩

/-- The ledger that a run leaves tells of all its calls. -/
theorem along_of_ledger (hregistry : setup.registry = Registry.builtin)
    (h : s.runSteps setup run steps = .ok s') (hn : ∀ e ∈ s'.ledger, e.isNarrow = true) :
    Along setup run (IsNarrow setup run) s steps := by
  induction steps generalizing s with
  | nil => trivial
  | cons step steps ih =>
    unfold runSteps at h
    split at h
    · cases h
    · rename_i t ht
      obtain ⟨b, rfl, hb⟩ := runStep_eq_ok ht
      have hkept {e : Entry} (he : e ∈ t.ledger) : e ∈ s'.ledger := by
        split_ifs at h
        · exact Except.ok.inj h ▸ he
        · exact mem_ledger_of_runSteps h he
      refine ⟨fun hname fs hfs => ?_, fun t' ht' hgo => ?_⟩
      · have hknown : Fields.get? setup.registry b.step.primitive = some compositeScorer := by
          rw [hregistry, hname]
          rfl
        obtain ⟨inputs, e, hinputs, hown, he⟩ := hb.sound.known compositeScorer hknown
        have hseed : b.seed run = run.fork s.tick := by
          rw [Block.seed, hb.starts, Nat.add_sub_cancel]
        rw [hseed, hb.before, hfs] at hinputs
        obtain rfl := Except.ok.inj hinputs
        rw [hname] at he
        refine he.isNarrow (c := ⟨fs, s.record, setup.clock, (run.fork s.tick).fork 0⟩)
          (hn e (hkept ?_))
        rw [hb.ledger, Block.entries, hown]
        exact List.mem_append_right _ (List.mem_append_right _ List.mem_cons_self)
      · obtain rfl := Except.ok.inj (ht.symm.trans ht')
        rw [if_neg (Bool.eq_false_iff.1 hgo)] at h
        exact ih h

end RunState

/-- A timeless step is answered alike in states that differ in the order of keys. -/
theorem Step.Timeless.like {P : Pairing} {step : Step} {setup : Setup} {run run' : Seed}
    {u u' : RunState} (h : step.Timeless) (hparams : (Value.map step.params).isJson = true)
    (hregistry : setup.registry = Registry.builtin) (hn : u.IsNarrow setup run step) :
    LikeStep P.shuffled setup setup (run.fork u.tick) (run'.fork u'.tick) u u' step := by
  refine ⟨hparams, fun f hf fs gs hfs hgs hcall => ?_⟩
  rw [hregistry] at hf
  refine Registry.like_builtin hf hcall rfl rfl (fun hname => ?_) fun hname => ?_
  · exact (hn hname fs hfs).display_eq hcall
  · obtain ⟨v, hv, hquiet⟩ := h hname
    have hvalue {r : Record} {s : Seed} {ms : Fields Datum}
        (hms : RunState.combineInputs r (s.fork 2) step = .ok ms) :
        Call.inputValue ⟨ms, r, setup.clock, s.fork 0⟩ "assignments" = v :=
      RunState.combineInputs_carries hms hparams setup.clock (s.fork 0) _ v hv
    refine ⟨(hvalue hfs).trans (hvalue hgs).symm, ?_⟩
    rw [hvalue hfs]
    exact fun ms hms m hm text htext => ⟨(hquiet ms hms m hm text htext).2, .inl rfl⟩

namespace Setup

variable {plan : Plan} {bindings? : Option Bindings} {options : Options} {clock : Clock}
  {seed : Seed} {vs ws : Fields Value} {r : RunResult} {log : List LogLine}

/-- The order of keys is no content: a timeless run that comes to its end does so on every record
that is equal up to that order, with the same final hash, hashes of steps and violations, unless the
scorer shows a mapping whose order could show. -/
theorem execute_keyOrder
    (hparams : ∀ step ∈ plan.steps, (Value.map step.params).isJson = true)
    (htimeless : ∀ step ∈ plan.steps, step.Timeless) (hv : (Value.map vs).isJson = true)
    (hw : (Value.map ws).isJson = true) (halike : (Value.map vs).Alike (.map ws))
    (h : (ofPlan plan bindings? options clock).execute seed (.map vs) = .ok (r, log))
    (hnarrow : ∀ e ∈ r.ledger, e.isNarrow = true) (seed' : Seed) :
    ∃ r' log', (ofPlan plan bindings? options clock).execute seed' (.map ws) = .ok (r', log') ∧
      r'.proof.finalHash = r.proof.finalHash ∧
      RunResult.stepHashes r'.ledger = RunResult.stepHashes r.ledger ∧
      r'.trail.map (fun v => (v.tick, v.message)) =
        r.trail.map (fun v => (v.tick, v.message)) := by
  obtain ⟨ts, hts⟩ := timestamp_of_execute h
  obtain ⟨s, hs, hr, -, -⟩ := execute_state h
  let setup := ofPlan plan bindings? options clock
  let w : Alignment := ⟨seed, seed', 0, plan.steps.length⟩
  let P := w.pairing w.foundation_fresh
  have hset : LikeSetups P.shuffled ts ts setup setup :=
    ⟨rfl, rfl, rfl, hts, hts, fun _ _ hc _ _ hfs => Checks.like_builtin hc hfs⟩
  have hrecord : P.ShuffledRecords (.ofValue seed (.map vs)) (.ofValue seed' (.map ws)) :=
    .ofValue w.things_fresh hv hw halike
  have hstart : LikeStates P.shuffled (fun v w => v.essence = w.essence) ts ts 0
      (setup.start seed' (.map ws)) (setup.start seed (.map vs)) (setup.start seed' (.map ws)) :=
    start_like hrecord rfl (.inl rfl)
  have halong := RunState.along_of_ledger rfl hs (hr.ledger ▸ hnarrow)
  have hsteps := RunState.runSteps_like P.shuffled_shows seed seed' hset rfl (fun _ => rfl) halong
    (fun step hm _ _ _ hn => (htimeless step hm).like (hparams step hm) rfl hn) hstart (.inl rfl)
    fun j hj => by
      have hj' : (setup.start seed (.map vs)).tick + j = j := Nat.zero_add j
      rw [hj']
      exact w.match_step hj
  obtain ⟨s', hs', hlike⟩ := hsteps.exists_right hs
  have hessence : s.record.value.essence = s'.record.value.essence := hlike.record.essence_eq
  have hd : s'.record.value.contentHash = .ok r.proof.finalHash :=
    (sameDigests_essence.hashed hessence _).1 hr.finalHash
  obtain ⟨r', log', h'⟩ := execute_of_state hts hs' hd
  obtain ⟨u, hu, hr', -, -⟩ := execute_state h'
  obtain rfl := Except.ok.inj (hs'.symm.trans hu)
  obtain ⟨vs', hvs, hviolations⟩ := hlike.violations
  obtain ⟨es, hes, hentries⟩ := hlike.ledger
  refine ⟨r', log', h', Except.ok.inj (hr'.finalHash.symm.trans hd), ?_, ?_⟩
  · rw [hr'.ledger, hr.ledger, stepHashes_like sameDigests_essence hentries, hes]
    rfl
  · rw [hr'.trail, hr.trail, hvs]
    exact (map_eq_map_iff.2 (hviolations.imp fun _ _ hv =>
      Prod.ext hv.tick.symm hv.message.symm)).symm

/-- A plan of one score. -/
def scoring : Plan where
  steps := [⟨"one", "COMPOSITE_SCORER", ["scores"], [], []⟩]
  metadata := []
  contracts := []

/-- Keys in another order at two levels. -/
theorem scoring_keyOrder :
    let vs : Fields Value :=
      [("a", .map [("x", .int 1), ("y", .int 2)]), ("scores", .list [.int 3])]
    let ws : Fields Value :=
      [("scores", .list [.int 3]), ("a", .map [("y", .int 2), ("x", .int 1)])]
    (∀ step ∈ scoring.steps, (Value.map step.params).isJson = true) ∧
    (∀ step ∈ scoring.steps, step.Timeless) ∧ (Value.map vs).isJson = true ∧
    (Value.map ws).isJson = true ∧ (Value.map vs).Alike (.map ws) ∧
    ∃ r log, (ofPlan scoring none .standard ⟨0⟩).execute ⟨[]⟩ (.map vs) = .ok (r, log) ∧
      (∀ e ∈ r.ledger, e.isNarrow = true) ∧
      ∃ r' log', (ofPlan scoring none .standard ⟨0⟩).execute ⟨[1]⟩ (.map ws) = .ok (r', log') ∧
        r'.proof.finalHash = r.proof.finalHash ∧
        RunResult.stepHashes r'.ledger = RunResult.stepHashes r.ledger ∧
        r'.trail.map (fun v => (v.tick, v.message)) =
          r.trail.map (fun v => (v.tick, v.message)) := by
  intro vs ws
  have hparams : ∀ step ∈ scoring.steps, (Value.map step.params).isJson = true := by
    decide +kernel
  have htimeless : ∀ step ∈ scoring.steps, step.Timeless :=
    List.forall_mem_singleton.2 fun hname => absurd hname (by decide)
  have hv : (Value.map vs).isJson = true := by decide +kernel
  have hw : (Value.map ws).isJson = true := by decide +kernel
  have halike : (Value.map vs).Alike (.map ws) := Value.alike_of_canonical_eq rfl
  obtain ⟨r, log, h, hnarrow⟩ := exists_run (ofPlan scoring none .standard ⟨0⟩) ⟨[]⟩ (.map vs)
    (fun r => r.ledger.all Entry.isNarrow) (by decide +kernel)
  rw [List.all_eq_true] at hnarrow
  exact ⟨hparams, htimeless, hv, hw, halike, r, log, h, hnarrow,
    execute_keyOrder hparams htimeless hv hw halike h hnarrow ⟨[1]⟩⟩

end Setup
end RuleLedger
