import RuleLedger.Proofs.Primitive.Twins
import RuleLedger.Proofs.Run.Likeness

/-! Two runs side by side whose data differ in the names of things alone. Main statement: as long as
the primitives are steady, the steps of the two runs leave twins as records and add the same to the
books. -/
namespace RuleLedger

/-- A check that does not look at the names of things. -/
def Check.Steady (check : Check) : Prop :=
  ∀ (P : Pairing) (fs gs : Fields Datum), P.TwinFields fs gs → check fs = check gs

/-- A step whose parameters are JSON and whose primitive, if it is known, is steady on them. -/
structure Step.Steady (registry : Registry) (A B : Clock) (step : Step) : Prop where
  params : (Value.map step.params).isJson = true
  primitive : ∀ f, Fields.get? registry step.primitive = some f →
    Primitive.Steady f step.params A B

/-- Setups of two runs over the same primitives and checks. -/
structure TwinSetups (ts ts' : String) (setup setup' : Setup) : Prop where
  registry : setup'.registry = setup.registry
  bindings : setup'.bindings = setup.bindings
  checks : setup'.checks = setup.checks
  left : setup.clock.timestamp = .ok ts
  right : setup'.clock.timestamp = .ok ts'
  steady : ∀ name check, Fields.get? setup.checks name = some check → check.Steady

/-- States of two runs: twins as records, and books that differ by those before the second run, by
its ticks and by its timestamps. -/
structure TwinStates (P : Pairing) (n : Nat) (ts ts' : String) (base s s' : RunState) : Prop where
  record : P.TwinRecords s.record s'.record
  tick : s'.tick = s.tick + n
  fits : Fits n s.tick
  violations : s'.violations = base.violations ++ s.violations.map (Violation.moved n ts')
  stamped : ∀ v ∈ s.violations, v.timestamp = ts
  ledger : ∃ es, s'.ledger = base.ledger ++ es ∧ List.Forall₂ (Entry.Moved n ts ts') s.ledger es
  tally : base.tally.Adds s.tally s'.tally

variable {P : Pairing} {n : Nat} {ts ts' : String} {base s s' : RunState} {setup setup' : Setup}
  {seed seed' : Seed} {step : Step}

/-! ### Twins are alike -/

theorem sameDigests_eq : SameDigests Eq where
  refl _ := rfl
  map h := congrArg Value.map (List.forall₂_eq_eq_eq ▸ h.imp fun _ _ hfg => Prod.ext hfg.1 hfg.2)
  hashed h d := by rw [h]

/-- Twins have the same values. -/
theorem Pairing.twins_shows (P : Pairing) : P.twins.Shows Eq :=
  { sameDigests_eq with value := Twins.value_eq }

theorem Violation.like_iff {v v' : Violation} :
    v.Like Eq n ts ts' v' ↔ v' = v.moved n ts' ∧ v.timestamp = ts := by
  constructor
  · rintro ⟨htick, hprimitive, hmessage, hinput, houtput, hleft, hright⟩
    refine ⟨?_, hleft⟩
    rw [moved, ← htick, ← hright, hinput, houtput, ← hprimitive, ← hmessage]
  · rintro ⟨rfl, hleft⟩
    exact ⟨rfl, rfl, rfl, rfl, rfl, hleft, rfl⟩

theorem Entry.like_iff {e e' : Entry} : e.Like Eq n ts ts' e' ↔ e.Moved n ts ts' e' := by
  constructor
  · intro h
    cases h with
    | step hi ho he he' =>
      subst hi ho
      exact .step he he'
    | violation hv he he' =>
      obtain ⟨rfl, hts⟩ := Violation.like_iff.1 hv
      exact .violation hts he he'
  · intro h
    cases h with
    | step he he' => exact .step rfl rfl he he'
    | violation hts he he' => exact .violation (Violation.like_iff.2 ⟨rfl, hts⟩) he he'

theorem stepHashes_eq {l l' : Ledger} (h : List.Forall₂ (Entry.Moved n ts ts') l l') :
    RunResult.stepHashes l = RunResult.stepHashes l' :=
  stepHashes_like sameDigests_eq (h.imp fun _ _ => Entry.like_iff.2)

theorem twinStates_iff :
    LikeStates P.twins Eq ts ts' n base s s' ↔ TwinStates P n ts ts' base s s' := by
  constructor
  · rintro ⟨hrecord, htick, hfits, ⟨vs, hvs, hlike⟩, ⟨es, hes, hmoved⟩, htally⟩
    have hmap : s.violations.map (Violation.moved n ts') = vs := by
      rw [← List.map_id vs, map_eq_map_iff]
      exact hlike.imp fun _ _ hv => (Violation.like_iff.1 hv).1.symm
    have hstamped : ∀ v ∈ s.violations, v.timestamp = ts := fun v hv => by
      obtain ⟨v', -, hlike⟩ := exists_of_mem_right hlike.flip hv
      exact hlike.left
    exact ⟨hrecord, htick, hfits, hmap ▸ hvs, hstamped,
      ⟨es, hes, hmoved.imp fun _ _ => Entry.like_iff.1⟩, htally⟩
  · rintro ⟨hrecord, htick, hfits, hviolations, hstamped, ⟨es, hes, hmoved⟩, htally⟩
    refine ⟨hrecord, htick, hfits, ⟨_, hviolations, ?_⟩,
      ⟨es, hes, hmoved.imp fun _ _ => Entry.like_iff.2⟩, htally⟩
    rw [List.forall₂_map_right_iff, List.forall₂_same]
    exact fun v hv => Violation.like_iff.2 ⟨rfl, hstamped v hv⟩

theorem TwinStates.of_log (h : TwinStates P n ts ts' base s s') (log log' : List LogLine)
    {halted halted' : Bool} :
    TwinStates P n ts ts' base { s with log := log, halted := halted }
      { s' with log := log', halted := halted' } :=
  twinStates_iff.1 ((twinStates_iff.2 h).of_log log log')

theorem TwinSetups.like (hset : TwinSetups ts ts' setup setup') (P : Pairing) :
    LikeSetups P.twins ts ts' setup setup' :=
  ⟨hset.registry, hset.bindings, hset.checks, hset.left, hset.right,
    fun name check hc fs gs h => hset.steady name check hc P fs gs (Pairing.twinFields_iff.1 h)⟩

theorem Step.Steady.like (h : step.Steady setup.registry setup.clock setup'.clock) :
    LikeStep P.twins setup setup' seed seed' s s' step := by
  refine ⟨h.params, fun f hf fs gs hx _ hcall => Pairing.twinOutcomes_iff.2 ?_⟩
  exact h.primitive f hf P _ _ (Pairing.twinCalls_iff.1 hcall) rfl rfl
    (RunState.combineInputs_carries hx h.params _ _)

/-! ### Steps -/

/-- The steps of the two runs. -/
theorem RunState.runSteps_both (run run' : Seed) (hset : TwinSetups ts ts' setup setup')
    (hhalt : setup'.options.halt = setup.options.halt)
    (hbase : setup.options.halt = true → base.tally.violations = 0) {steps : List Step}
    (hsteps : ∀ step ∈ steps, step.Steady setup.registry setup.clock setup'.clock)
    (h : TwinStates P n ts ts' base s s') (hfits : Fits n (s.tick + steps.length))
    (hseeds : ∀ j < steps.length, P.seeds (run.fork (s.tick + j)) (run'.fork (s.tick + j + n))) :
    Both (TwinStates P n ts ts' base) (s.runSteps setup run steps)
      (s'.runSteps setup' run' steps) := by
  have halong : Along setup run (fun _ _ => True) s steps :=
    along_of_forall (fun _ _ _ => trivial) setup run s
  have hlike := runSteps_like P.twins_shows run run' (hset.like P) hhalt hbase halong
    (fun step hs _ _ _ _ => (hsteps step hs).like) (twinStates_iff.2 h) hfits hseeds
  exact hlike.mono fun _ _ => twinStates_iff.1

end RuleLedger
