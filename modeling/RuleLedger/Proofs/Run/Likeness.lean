import RuleLedger.Proofs.Counters
import RuleLedger.Proofs.Primitive.Likeness
import RuleLedger.Proofs.Run.Moved
import RuleLedger.Run.Result

/-! Two runs side by side whose data are alike. The second run may read another clock, draw other
seeds and have books from earlier steps. Main statement: as long as calls of primitives are answered
alike, the steps of the two runs leave records that are alike and add the same to the books, as far
as the values in the books show. -/
namespace RuleLedger

/-! ### Books -/

/-- A relation of values that have the same digest, also as members of mappings. -/
structure SameDigests (same : Value → Value → Prop) : Prop where
  refl : ∀ v, same v v
  map : ∀ {fs gs : Fields Value}, Fields.Related same fs gs → same (.map fs) (.map gs)
  hashed : ∀ {v w : Value}, same v w → ∀ d, v.contentHash = .ok d ↔ w.contentHash = .ok d

/-- What the values of a likeness have in common. -/
structure Likeness.Shows {P : Pairing} (L : Likeness P) (same : Value → Value → Prop) : Prop
    extends SameDigests same where
  value : ∀ {d e : Datum}, L.data d e → same d.value e.value

/-- A violation of the one run and that of the other: it comes so many ticks later there, and its
samples are the same as far as they show. -/
structure Violation.Like (same : Value → Value → Prop) (n : Nat) (ts ts' : String)
    (v v' : Violation) : Prop where
  tick : v'.tick = v.tick + n
  primitive : v'.primitive = v.primitive
  message : v'.message = v.message
  inputSample : same v.inputSample v'.inputSample
  outputSample : same v.outputSample v'.outputSample
  left : v.timestamp = ts
  right : v'.timestamp = ts'

/-- An entry of the one run and the entry of the other that stands for the same. -/
inductive Entry.Like (same : Value → Value → Prop) (n : Nat) (ts ts' : String) :
    Entry → Entry → Prop
  | step {e e' : Entry} {tick : Nat} {operation : Text} {inputs inputs' output output' : Value} :
    same inputs inputs' → same output output' →
    e.IsStampAt ts tick operation (Entry.stepPayload inputs output) →
    e'.IsStampAt ts' (tick + n) operation (Entry.stepPayload inputs' output') →
    Entry.Like same n ts ts' e e'
  | violation {e e' : Entry} {v v' : Violation} : v.Like same n ts ts' v' →
    e.IsStampAt ts v.tick Entry.violationOperation v.toValue →
    e'.IsStampAt ts' v'.tick Entry.violationOperation v'.toValue →
    Entry.Like same n ts ts' e e'

/-- The counters of a run that had others before. -/
structure Tally.Adds (base t t' : Tally) : Prop where
  violations : t'.violations = base.violations + t.violations
  byLabel : ∀ label, (Fields.get? t'.byLabel label).getD 0 =
    (Fields.get? base.byLabel label).getD 0 + (Fields.get? t.byLabel label).getD 0
  invocations : ∀ primitive, (Fields.get? t'.invocations primitive).getD 0 =
    (Fields.get? base.invocations primitive).getD 0 + (Fields.get? t.invocations primitive).getD 0
  checksPassed : t'.checksPassed = base.checksPassed + t.checksPassed

namespace Tally.Adds

variable {base t t' : Tally}

theorem empty (base : Tally) : Adds base Tally.empty base := ⟨rfl, fun _ => rfl, fun _ => rfl, rfl⟩

theorem invoked (h : Adds base t t') (primitive : Text) :
    Adds base (t.invoked primitive) (t'.invoked primitive) where
  violations := h.violations
  byLabel := h.byLabel
  invocations := fun p => by
    rw [Tally.invoked, Tally.invoked, Fields.counter_increment, Fields.counter_increment,
      h.invocations, Nat.add_assoc]
  checksPassed := h.checksPassed

theorem violated (h : Adds base t t') (label : Text) :
    Adds base (t.violated label) (t'.violated label) where
  violations := congrArg (· + 1) h.violations
  byLabel := fun l => by
    rw [Tally.violated, Tally.violated, Fields.counter_increment, Fields.counter_increment,
      h.byLabel, Nat.add_assoc]
  invocations := h.invocations
  checksPassed := h.checksPassed

theorem passed (h : Adds base t t') : Adds base t.passed t'.passed where
  violations := h.violations
  byLabel := h.byLabel
  invocations := h.invocations
  checksPassed := congrArg (· + 1) h.checksPassed

end Tally.Adds

variable {same : Value → Value → Prop} {n : Nat} {ts ts' : String}

namespace SameDigests

variable (h : SameDigests same) {v w v' w' : Value}

include h

theorem isOk (hvw : same v w) : (∃ d, v.contentHash = .ok d) ↔ ∃ d, w.contentHash = .ok d :=
  exists_congr (h.hashed hvw)

theorem stepPayload (hi : same v v') (ho : same w w') :
    same (Entry.stepPayload v w) (Entry.stepPayload v' w') :=
  h.map (.cons ⟨rfl, hi⟩ (.cons ⟨rfl, ho⟩ .nil))

/-- Whether a violation can be stamped depends on neither tick nor timestamp. -/
theorem violation_isOk {v v' : Violation} (hv : v.Like same n ts ts' v') (hfits : Fits n v.tick) :
    (∃ d, v.toValue.contentHash = .ok d) ↔ ∃ d, v'.toValue.contentHash = .ok d := by
  have htick : (∃ d, (Value.nat v'.tick).contentHash = .ok d) ↔
      ∃ d, (Value.nat v.tick).contentHash = .ok d := by
    rw [contentHash_int_isOk, contentHash_int_isOk, hv.tick]
    rcases hfits with rfl | h
    · rfl
    · exact ⟨fun _ => Nat.lt_of_le_of_lt (Nat.le_add_right _ _) h, fun _ => h⟩
  have htext (s : String) : ∃ d, (Value.str s).contentHash = .ok d :=
    (Value.contentHash_isOk_iff _).2 (isPlain_ofString s)
  rw [Violation.toValue, Violation.toValue, Value.contentHash_map_isOk_iff,
    Value.contentHash_map_isOk_iff]
  simp only [Violation.toFields, List.forall_mem_cons, htick, htext, hv.primitive, hv.message,
    h.isOk hv.inputSample, h.isOk hv.outputSample]

end SameDigests

theorem Entry.Like.isViolation_eq {e e' : Entry} (h : e.Like same n ts ts' e') :
    e.isViolation = e'.isViolation := by
  cases h with
  | step _ _ he he' => rw [isViolation, isViolation, he.operation, he'.operation]
  | violation _ he he' => rw [isViolation, isViolation, he.operation, he'.operation]

/-- The digest of a step hangs on its payload alone. -/
theorem Entry.Like.hash_eq (hsame : SameDigests same) {e e' : Entry} (h : e.Like same n ts ts' e')
    (hstep : e'.isViolation = false) : e.hash = e'.hash := by
  cases h with
  | step hi ho he he' =>
    obtain ⟨d, hd, hh⟩ := he.hash
    obtain ⟨d', hd', hh'⟩ := he'.hash
    rw [he.payload, Value.contentHash_canonical, hsame.hashed (hsame.stepPayload hi ho)] at hd
    rw [he'.payload, Value.contentHash_canonical] at hd'
    obtain rfl := Except.ok.inj (hd.symm.trans hd')
    rw [hh, hh']
  | violation _ _ he' =>
    rw [isViolation, he'.operation] at hstep
    exact absurd rfl (of_decide_eq_false hstep)

/-- Entries that stand for the same have the same digest, unless they are violations. -/
theorem stepHashes_like (hsame : SameDigests same) {l l' : Ledger}
    (h : List.Forall₂ (Entry.Like same n ts ts') l l') :
    RunResult.stepHashes l = RunResult.stepHashes l' := by
  induction h with
  | nil => rfl
  | cons he _ ih =>
    rw [RunResult.stepHashes, RunResult.stepHashes, Ledger.steps, Ledger.steps] at ih ⊢
    rw [List.filter_cons, List.filter_cons, he.isViolation_eq]
    split_ifs with hv
    · rw [List.map_cons, List.map_cons, ih, he.hash_eq hsame (by simpa using hv)]
    · exact ih

/-! ### States -/

section States

variable {P : Pairing} (L : Likeness P) (same : Value → Value → Prop) (ts ts' : String)

/-- Setups of two runs over the same primitives and checks. -/
structure LikeSetups (setup setup' : Setup) : Prop where
  registry : setup'.registry = setup.registry
  bindings : setup'.bindings = setup.bindings
  checks : setup'.checks = setup.checks
  left : setup.clock.timestamp = .ok ts
  right : setup'.clock.timestamp = .ok ts'
  steady : ∀ name check, Fields.get? setup.checks name = some check →
    ∀ fs gs, L.LikeFields fs gs → check fs = check gs

/-- States of two runs: records that are alike, and books that differ by those before the second
run, by its ticks and its timestamps, and in what does not show. -/
structure LikeStates (n : Nat) (base s s' : RunState) : Prop where
  record : L.records s.record s'.record
  tick : s'.tick = s.tick + n
  fits : Fits n s.tick
  violations : ∃ vs, s'.violations = base.violations ++ vs ∧
    List.Forall₂ (Violation.Like same n ts ts') s.violations vs
  ledger : ∃ es, s'.ledger = base.ledger ++ es ∧
    List.Forall₂ (Entry.Like same n ts ts') s.ledger es
  tally : base.tally.Adds s.tally s'.tally

/-- A step whose parameters are JSON and whose call is answered alike in two states. -/
structure LikeStep (setup setup' : Setup) (seed seed' : Seed) (s s' : RunState) (step : Step) :
    Prop where
  params : (Value.map step.params).isJson = true
  call : ∀ f, Fields.get? setup.registry step.primitive = some f → ∀ fs gs,
    RunState.combineInputs s.record (seed.fork 2) step = .ok fs →
    RunState.combineInputs s'.record (seed'.fork 2) step = .ok gs →
    L.LikeCalls ⟨fs, s.record, setup.clock, seed.fork 0⟩
      ⟨gs, s'.record, setup'.clock, seed'.fork 0⟩ →
    L.LikeOutcomes (f ⟨fs, s.record, setup.clock, seed.fork 0⟩)
      (f ⟨gs, s'.record, setup'.clock, seed'.fork 0⟩)

end States

variable {P : Pairing} {L : Likeness P} {base s s' : RunState} {setup setup' : Setup}
  {seed seed' : Seed} {step : Step} {primitive message : Text}
  {inputs inputs' output output' : Value}

namespace LikeStates

variable (h : LikeStates L same ts ts' n base s s')

include h

theorem of_record {r r' : Record} {log log' : List LogLine} (hr : L.records r r') :
    LikeStates L same ts ts' n base { s with record := r, log := log }
      { s' with record := r', log := log' } :=
  ⟨hr, h.tick, h.fits, h.violations, h.ledger, h.tally⟩

theorem of_log (log log' : List LogLine) {halted halted' : Bool} :
    LikeStates L same ts ts' n base { s with log := log, halted := halted }
      { s' with log := log', halted := halted' } :=
  ⟨h.record, h.tick, h.fits, h.violations, h.ledger, h.tally⟩

theorem of_tally {t t' : Tally} (ht : base.tally.Adds t t') :
    LikeStates L same ts ts' n base { s with tally := t } { s' with tally := t' } :=
  ⟨h.record, h.tick, h.fits, h.violations, h.ledger, ht⟩

theorem of_entry {e e' : Entry} (he : e.Like same n ts ts' e') :
    LikeStates L same ts ts' n base { s with ledger := s.ledger ++ [e] }
      { s' with ledger := s'.ledger ++ [e'] } := by
  obtain ⟨es, hes, hlike⟩ := h.ledger
  refine ⟨h.record, h.tick, h.fits, h.violations, ⟨es ++ [e'], ?_, ?_⟩, h.tally⟩
  · rw [hes, List.append_assoc]
  · exact List.rel_append hlike (.cons he .nil)

theorem of_violation {v v' : Violation} (hv : v.Like same n ts ts' v') :
    LikeStates L same ts ts' n base
      { s with violations := s.violations ++ [v], tally := s.tally.violated v.label }
      { s' with violations := s'.violations ++ [v'], tally := s'.tally.violated v'.label } := by
  obtain ⟨vs, hvs, hlike⟩ := h.violations
  have hlabel : v'.label = v.label := congrArg Violation.labelOf hv.message
  rw [hlabel]
  refine ⟨h.record, h.tick, h.fits, ⟨vs ++ [v'], ?_, ?_⟩, h.ledger, h.tally.violated v.label⟩
  · rw [hvs, List.append_assoc]
  · exact List.rel_append hlike (.cons hv .nil)

end LikeStates

/-- The values of mappings that are alike. -/
theorem Likeness.Shows.fields (hshow : L.Shows same) {fs gs : Fields Datum}
    (h : Fields.Related L.data fs gs) :
    same (.map (Fields.mapValues Datum.value fs)) (.map (Fields.mapValues Datum.value gs)) :=
  hshow.map (forall₂_map h fun _ _ _ hfg => ⟨hfg.1, hshow.value hfg.2⟩)

/-- Samples of mappings that are alike. -/
theorem Likeness.Shows.sample (hshow : L.Shows same) {fs gs : Fields Datum}
    (h : Fields.Related L.data fs gs) :
    same (Violation.sample (.map (Fields.mapValues Datum.value fs)))
      (Violation.sample (.map (Fields.mapValues Datum.value gs))) := by
  rw [Violation.sample, Violation.sample, Fields.mapValues, Fields.mapValues, ← List.map_take,
    ← List.map_take]
  exact hshow.fields (List.forall₂_take _ h)

namespace RunState

theorem demand_both {α α' β β' : Type} {R : α → α' → Prop} {S : β → β' → Prop}
    {r : Except Fault α} {r' : Except Fault α'} {next : α → Except Abort β}
    {next' : α' → Except Abort β'} (h : Both R r r')
    (hnext : ∀ a a', R a a' → Both S (next a) (next' a')) :
    Both S (s.demand r next) (s'.demand r' next') := by
  cases h with
  | error => exact .error trivial
  | ok ha => exact hnext _ _ ha

theorem append_both (hset : LikeSetups L ts ts' setup setup')
    (h : LikeStates L same ts ts' n base s s') (seed seed' : Seed) {operation : Text} {p q : Value}
    (hpq : (∃ d, p.contentHash = .ok d) ↔ ∃ d, q.contentHash = .ok d)
    (hlike : ∀ e e' : Entry, e.IsStampAt ts s.tick operation p →
      e'.IsStampAt ts' s'.tick operation q → e.Like same n ts ts' e') :
    Both (LikeStates L same ts ts' n base) (s.append setup.clock seed operation p)
      (s'.append setup'.clock seed' operation q) :=
  demand_both (Entry.stamp_both hset.left hset.right hpq) fun e e' he =>
    .ok (h.of_entry (hlike e e' he.1 he.2))

/-- A violation is recorded in both runs, or neither run can stamp its entry. -/
theorem violate_both (hsame : SameDigests same) (hset : LikeSetups L ts ts' setup setup')
    (h : LikeStates L same ts ts' n base s s')
    (hi : same (Violation.sample inputs) (Violation.sample inputs'))
    (ho : same (Violation.sample output) (Violation.sample output')) :
    Both (LikeStates L same ts ts' n base)
      (s.violate setup.clock seed primitive inputs output message)
      (s'.violate setup'.clock seed' primitive inputs' output' message) := by
  let v : Violation :=
    ⟨s.tick, primitive, message, Violation.sample inputs, Violation.sample output, ts⟩
  let v' : Violation :=
    ⟨s'.tick, primitive, message, Violation.sample inputs', Violation.sample output', ts'⟩
  have hv : v.Like same n ts ts' v' := ⟨h.tick, rfl, rfl, hi, ho, rfl, rfl⟩
  have happend := append_both hset (h.of_violation hv) seed seed' (hsame.violation_isOk hv h.fits)
    fun e e' he he' => .violation hv he he'
  rw [violate, violate, hset.left, hset.right]
  dsimp only [Except.mapError, demand]
  exact happend.elim (fun _ _ _ => .error trivial) fun t t' ht => .ok (ht.of_log _ _)

theorem violateAll_both (hsame : SameDigests same) (hset : LikeSetups L ts ts' setup setup')
    (h : LikeStates L same ts ts' n base s s')
    (hi : same (Violation.sample inputs) (Violation.sample inputs'))
    (ho : same (Violation.sample output) (Violation.sample output')) (ms : List Text) :
    Both (LikeStates L same ts ts' n base)
      (s.violateAll setup.clock seed primitive inputs output ms)
      (s'.violateAll setup'.clock seed' primitive inputs' output' ms) := by
  induction ms generalizing s s' with
  | nil => exact .ok h
  | cons m ms ih =>
    unfold violateAll
    exact (violate_both hsame hset h hi ho).elim (fun _ _ _ => .error trivial) fun t t' ht => ih ht

variable {rendered rendered' : Fields Datum}

theorem applyOutput_both (hshow : L.Shows same) (hset : LikeSetups L ts ts' setup setup')
    (h : LikeStates L same ts ts' n base s s') (hseed : P.seeds seed seed')
    (hi : same (Violation.sample inputs) (Violation.sample inputs'))
    (hr : L.LikeFields rendered rendered') (field : Text) :
    Both (LikeStates L same ts ts' n base)
      (s.applyOutput setup seed step inputs rendered field)
      (s'.applyOutput setup' seed' step inputs' rendered' field) := by
  have hfailed {u u' : RunState} (hu : LikeStates L same ts ts' n base u u') (message : Text) :
      Both (LikeStates L same ts ts' n base)
        (u.violate setup.clock seed step.primitive inputs
          (.map (Fields.mapValues Datum.value rendered)) message)
        (u'.violate setup'.clock seed' step.primitive inputs'
          (.map (Fields.mapValues Datum.value rendered')) message) :=
    violate_both hshow.toSameDigests hset hu hi (hshow.sample hr.2)
  rw [applyOutput, applyOutput]
  dsimp only
  cases KeyPath.ofText field with
  | error f => exact hfailed h _
  | ok p =>
    dsimp only
    obtain ⟨hx, hy⟩ | ⟨new, new', hx, hy, hnew⟩ := optionRel_cases (hr.get? p.leaf)
    · rw [hx, hy]
      exact .ok h
    · rw [hx, hy]
      dsimp only
      obtain ⟨hrecord, hfault⟩ := L.write hseed h.record hnew p
      generalize s.record.write p seed new = w, s'.record.write p seed' new' = w' at hrecord hfault
      obtain ⟨u, f⟩ := w
      obtain ⟨u', f'⟩ := w'
      obtain rfl : f = f' := hfault
      rcases f with _ | f
      · exact .ok (h.of_record hrecord)
      · cases f with
        | path f => exact hfailed (h.of_record hrecord) _
        | _ => exact .error trivial

theorem applyOutputs_both (hshow : L.Shows same) (hset : LikeSetups L ts ts' setup setup')
    (h : LikeStates L same ts ts' n base s s') (hseed : P.seeds seed seed')
    (hi : same (Violation.sample inputs) (Violation.sample inputs'))
    (hr : L.LikeFields rendered rendered') (fields : List Text) (i : Nat) :
    Both (LikeStates L same ts ts' n base)
      (s.applyOutputs setup seed i step inputs rendered fields)
      (s'.applyOutputs setup' seed' i step inputs' rendered' fields) := by
  induction fields generalizing s s' i with
  | nil => exact .ok h
  | cons field fields ih =>
    rw [applyOutputs, applyOutputs]
    exact (applyOutput_both hshow hset h (P.fork i hseed) hi hr field).elim
      (fun _ _ _ => .error trivial) fun t t' ht => ih ht (i + 1)

theorem passes_eq (hset : LikeSetups L ts ts' setup setup')
    (hr : L.LikeFields rendered rendered') (name : Text) :
    setup.checks.passes name rendered = setup'.checks.passes name rendered' := by
  rw [Checks.passes, Checks.passes, hset.checks]
  cases hc : Fields.get? setup.checks name with
  | none => rfl
  | some check => exact hset.steady name check hc _ _ hr

theorem runCheck_both (hshow : L.Shows same) (hset : LikeSetups L ts ts' setup setup')
    (h : LikeStates L same ts ts' n base s s')
    (hi : same (Violation.sample inputs) (Violation.sample inputs'))
    (hr : L.LikeFields rendered rendered') (check : Text) :
    Both (LikeStates L same ts ts' n base)
      (s.runCheck setup seed step inputs rendered check)
      (s'.runCheck setup' seed' step inputs' rendered' check) := by
  rw [runCheck, runCheck, passes_eq hset hr]
  split_ifs
  · exact .ok (h.of_tally h.tally.passed)
  · exact violate_both hshow.toSameDigests hset h hi (hshow.sample hr.2)

theorem runChecks_both (hshow : L.Shows same) (hset : LikeSetups L ts ts' setup setup')
    (h : LikeStates L same ts ts' n base s s')
    (hi : same (Violation.sample inputs) (Violation.sample inputs'))
    (hr : L.LikeFields rendered rendered') (checks : List Text) :
    Both (LikeStates L same ts ts' n base)
      (s.runChecks setup seed step inputs rendered checks)
      (s'.runChecks setup' seed' step inputs' rendered' checks) := by
  induction checks generalizing s s' with
  | nil => exact .ok h
  | cons check checks ih =>
    rw [runChecks, runChecks]
    exact (runCheck_both hshow hset h hi hr check).elim (fun _ _ _ => .error trivial)
      fun t t' ht => ih ht

theorem violationsOf_eq {o o' : Output} (h : L.LikeOutputs o o') :
    syntheticViolations o ++ structuralViolations o =
      syntheticViolations o' ++ structuralViolations o' := by
  have hscore : ((Fields.get? o.rendered Score.field).map fun l => l.value.isNaN) =
      (Fields.get? o'.rendered Score.field).map fun l => l.value.isNaN := by
    obtain ⟨hx, hy⟩ | ⟨d, e, hx, hy, hd⟩ := optionRel_cases (h.rendered.get? Score.field)
    · rw [hx, hy]
    · rw [hx, hy, Option.map_some, Option.map_some, ← Value.isNaN_surface,
        Likeness.surface_eq hd, Value.isNaN_surface]
  have hempty : List.isEmpty o.rendered = List.isEmpty o'.rendered := by
    rw [Bool.eq_iff_iff, List.isEmpty_iff_length_eq_zero, List.isEmpty_iff_length_eq_zero,
      h.rendered.2.length_eq]
  simp only [structuralViolations, hscore, hempty]
  cases h <;> rfl

theorem finishStep_both (hshow : L.Shows same) (hset : LikeSetups L ts ts' setup setup')
    (h : LikeStates L same ts ts' n base s s') (hseed : P.seeds seed seed')
    (hin : same inputs inputs') (hi : same (Violation.sample inputs) (Violation.sample inputs'))
    {o o' : Output} (ho : L.LikeOutputs o o') :
    Both (LikeStates L same ts ts' n base)
      (s.finishStep setup seed step inputs o) (s'.finishStep setup' seed' step inputs' o') := by
  have hr := ho.rendered
  have hsame := hshow.toSameDigests
  rw [finishStep, finishStep, violationsOf_eq ho, hset.bindings]
  refine (violateAll_both hsame hset h hi (hshow.sample hr.2) _).bind fun t t' ht => ?_
  refine (applyOutputs_both hshow hset ht hseed hi hr _ 0).bind fun t t' ht => ?_
  refine (runChecks_both hshow hset (ht.of_tally (ht.tally.invoked step.primitive)) hi hr _).bind
    fun t t' ht => ?_
  have hout : same o.toValue o'.toValue := hshow.fields hr.2
  have happend : Both (LikeStates L same ts ts' n base)
      (t.append setup.clock seed step.primitive (Entry.stepPayload inputs o.toValue))
      (t'.append setup'.clock seed' step.primitive (Entry.stepPayload inputs' o'.toValue)) :=
    append_both hset ht seed seed' (hsame.isOk (hsame.stepPayload hin hout))
      fun e e' he he' => .step hin hout he (ht.tick ▸ he')
  refine happend.bind fun t t' ht => ?_
  obtain ⟨log, hlog⟩ := logStep_eq t setup step inputs o
  obtain ⟨log', hlog'⟩ := logStep_eq t' setup' step inputs' o'
  rw [hlog, hlog']
  exact .ok (ht.of_log log log')

/-! ### Calls -/

variable {r r' : Record}

theorem readInputs_like (h : L.records r r') (hs : P.seeds seed seed') {fs gs : Fields Datum}
    (hfs : L.LikeFields fs gs) (texts : List Text) (i : Nat) :
    Same L.LikeFields (readInputs r seed i fs texts) (readInputs r' seed' i gs texts) := by
  induction texts generalizing fs gs i with
  | nil => exact .ok hfs
  | cons text texts ih =>
    rw [readInputs, readInputs]
    cases KeyPath.ofText text with
    | error f => exact ih hfs (i + 1)
    | ok p =>
      dsimp only
      refine (L.get? hs h p).elim (fun f => .error rfl) fun d? e? hd => ?_
      cases hd with
      | none => exact ih hfs (i + 1)
      | some hd => exact ih (hfs.put text (L.copy (P.fork i hs) hd)) (i + 1)

theorem combineInputs_like (h : L.records r r') (hs : P.seeds seed seed')
    (hparams : (Value.map step.params).isJson = true) :
    Same L.LikeFields (combineInputs r seed step) (combineInputs r' seed' step) := by
  have hread := readInputs_like h hs .nil step.inputs 0
  have hmade := L.ofFields (fun q => P.part q hs) hparams []
  rw [combineInputs, combineInputs]
  exact hread.elim (fun f => .error rfl) fun fs gs hfs => .ok (hfs.putAll hmade)

/-- The parameters of a step are among its inputs. -/
theorem combineInputs_carries {fs : Fields Datum} (h : combineInputs r seed step = .ok fs)
    (hparams : (Value.map step.params).isJson = true) (clock : Clock) (seed' : Seed) :
    Call.Carries ⟨fs, r', clock, seed'⟩ step.params := by
  intro k v hv
  rw [combineInputs] at h
  split at h
  · cases h
  · obtain rfl := Except.ok.inj h
    rw [Value.isJson_map] at hparams
    rw [Call.inputValue, Call.input, Fields.get?_putAll _ _
      ((Datum.keys_ofFields _ _ _).symm ▸ hparams.1), Datum.get?_ofFields, hv]
    exact Datum.value_ofValue _ _ v

theorem settle_like {a a' : Answer} (h : L.LikeAnswers a a') (primitive : Text) :
    L.LikeOutputs (settle primitive a) (settle primitive a') := by
  cases h with
  | output ho => exact ho
  | stray kind => exact .failed rfl .nil
  | raised f => exact .failed rfl .nil

theorem invoke_like (step : Step) (h : LikeStates L same ts ts' n base s s') {f : Primitive}
    {fs gs : Fields Datum}
    (hcall : L.LikeOutcomes (f ⟨fs, s.record, setup.clock, seed⟩)
      (f ⟨gs, s'.record, setup'.clock, seed'⟩)) :
    LikeStates L same ts ts' n base (s.invoke setup seed step f fs).1
        (s'.invoke setup' seed' step f gs).1 ∧
      L.LikeOutputs (s.invoke setup seed step f fs).2 (s'.invoke setup' seed' step f gs).2 := by
  obtain ⟨hanswer, hrecord⟩ := hcall
  rw [invoke, invoke]
  generalize f ⟨fs, s.record, setup.clock, seed⟩ = o, f ⟨gs, s'.record, setup'.clock, seed'⟩ = o'
    at hanswer hrecord
  obtain ⟨a, u, log⟩ := o
  obtain ⟨a', u', log'⟩ := o'
  have hstate : LikeStates L same ts ts' n base { s with record := u, log := s.log ++ log }
      { s' with record := u', log := s'.log ++ log' } := h.of_record hrecord
  have hout := settle_like hanswer step.primitive
  dsimp only at hanswer
  cases hanswer with
  | raised => exact ⟨hstate.of_log _ _, hout⟩
  | output => exact ⟨hstate, hout⟩
  | stray => exact ⟨hstate, hout⟩

/-! ### Steps -/

/-- A step of the two runs: both go on, with records that are alike and the same added to their
books, or neither does. -/
theorem runStep_like (hshow : L.Shows same) (hset : LikeSetups L ts ts' setup setup')
    (hstep : LikeStep L setup setup' seed seed' s s' step)
    (h : LikeStates L same ts ts' n base s s') (hfits : Fits n (s.tick + 1))
    (hseed : P.seeds seed seed') :
    Both (LikeStates L same ts ts' n base) (s.runStep setup seed step)
      (s'.runStep setup' seed' step) := by
  have htick : LikeStates L same ts ts' n base { s with tick := s.tick + 1 }
      { s' with tick := s'.tick + 1 } :=
    ⟨h.record, by rw [h.tick, Nat.add_right_comm], hfits, h.violations, h.ledger, h.tally⟩
  rw [runStep, runStep, hset.registry]
  cases hp : Fields.get? setup.registry step.primitive with
  | none => exact violate_both hshow.toSameDigests hset htick (hshow.refl _) (hshow.refl _)
  | some f =>
    dsimp only
    obtain ⟨f, f', hx, hy, -⟩ | ⟨fs, gs, hx, hy, hfs⟩ :=
      (combineInputs_like h.record (P.fork 2 hseed) hstep.params).cases
    · rw [hx, hy]
      exact .error trivial
    · have hcall := hstep.call f hp fs gs hx hy ⟨hfs, h.record, P.fork 0 hseed⟩
      obtain ⟨hstate, hout⟩ := invoke_like step htick hcall
      rw [hx, hy, demand, demand]
      exact finishStep_both hshow hset hstate (P.fork 1 hseed) (hshow.fields hfs.2)
        (hshow.sample hfs.2) hout

/-- As long as no violation was counted before the second run, both runs halt after the same step;
otherwise neither may halt. -/
theorem mustHalt_eq (h : LikeStates L same ts ts' n base s s')
    (hhalt : setup'.options.halt = setup.options.halt)
    (hbase : setup.options.halt = true → base.tally.violations = 0) :
    s'.mustHalt setup' = s.mustHalt setup := by
  rw [mustHalt, mustHalt, hhalt, h.tally.violations]
  cases hgo : setup.options.halt with
  | false => rfl
  | true => rw [hbase hgo, Nat.zero_add]

/-- What holds before each step of a run. -/
def Along (setup : Setup) (run : Seed) (A : RunState → Step → Prop) : RunState → List Step → Prop
  | _, [] => True
  | s, step :: steps => A s step ∧ ∀ t, s.runStep setup (run.fork s.tick) step = .ok t →
    t.mustHalt setup = false → Along setup run A t steps

theorem along_of_forall {A : RunState → Step → Prop} {steps : List Step}
    (h : ∀ s, ∀ step ∈ steps, A s step) (setup : Setup) (run : Seed) (s : RunState) :
    Along setup run A s steps := by
  induction steps generalizing s with
  | nil => trivial
  | cons step steps ih =>
    refine ⟨h s step List.mem_cons_self, fun t _ _ => ?_⟩
    exact ih (fun s step hs => h s step (List.mem_cons_of_mem _ hs)) t

/-- The steps of the two runs, as long as each call is answered alike where a condition holds of the
first run. -/
theorem runSteps_like (hshow : L.Shows same) (run run' : Seed)
    (hset : LikeSetups L ts ts' setup setup')
    (hhalt : setup'.options.halt = setup.options.halt)
    (hbase : setup.options.halt = true → base.tally.violations = 0) {steps : List Step}
    {A : RunState → Step → Prop} (halong : Along setup run A s steps)
    (hsteps : ∀ step ∈ steps, ∀ u u', LikeStates L same ts ts' n base u u' → A u step →
      LikeStep L setup setup' (run.fork u.tick) (run'.fork u'.tick) u u' step)
    (h : LikeStates L same ts ts' n base s s') (hfits : Fits n (s.tick + steps.length))
    (hseeds : ∀ j < steps.length, P.seeds (run.fork (s.tick + j)) (run'.fork (s.tick + j + n))) :
    Both (LikeStates L same ts ts' n base) (s.runSteps setup run steps)
      (s'.runSteps setup' run' steps) := by
  induction steps generalizing s s' with
  | nil => exact .ok h
  | cons step steps ih =>
    obtain ⟨hstep, hsteps⟩ := List.forall_mem_cons.1 hsteps
    obtain ⟨hhere, halong⟩ := halong
    rw [List.length_cons] at hfits hseeds
    have hseed : P.seeds (run.fork s.tick) (run'.fork s'.tick) := by
      rw [h.tick]
      exact hseeds 0 (Nat.succ_pos _)
    have hfirst := runStep_like hshow hset (hstep s s' h hhere) h (hfits.mono (by omega)) hseed
    rw [runSteps, runSteps]
    obtain ⟨a, a', hx, hy, -⟩ | ⟨t, t', hx, hy, ht⟩ := hfirst.cases
    · rw [hx, hy]
      exact .error trivial
    · have htick := runStep_tick hx
      rw [hx, hy]
      dsimp only
      rw [mustHalt_eq ht hhalt hbase]
      split_ifs with hstop
      · exact .ok (ht.of_log _ _)
      · refine ih (halong t hx (Bool.eq_false_iff.2 hstop)) hsteps ht ?_ fun j hj => ?_
        · rw [htick, Nat.add_assoc, Nat.add_comm 1]
          exact hfits
        · have hs := hseeds (j + 1) (by omega)
          rw [htick]
          rwa [show s.tick + (j + 1) = s.tick + 1 + j by omega] at hs

end RunState
end RuleLedger
