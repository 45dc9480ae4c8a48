import RuleLedger.Proofs.Run.Timeless

/-! Runs that halt at violations. Main statement: with deterministic primitives, the halting run is
the run that goes on, cut after its first step with a violation. -/
namespace RuleLedger

/-! ### The steps of a run that goes on -/

section

variable {setup : Setup} {run : Seed} {bs : List Block} {s s' t u : RunState} {step : Step}
  {steps xs ys : List Step}

namespace RunState

theorem mustHalt_eq_false (hgo : setup.options.halt = false) (s : RunState) :
    s.mustHalt setup = false := by rw [mustHalt, hgo, Bool.false_and]

theorem runSteps_leads (hgo : setup.options.halt = false)
    (h : s.runSteps setup run steps = .ok s') :
    ∃ bs, Leads setup run bs s s' ∧ bs.length = steps.length := by
  induction steps generalizing s with
  | nil =>
    obtain rfl := Except.ok.inj h
    exact ⟨[], .nil s, rfl⟩
  | cons step steps ih =>
    unfold runSteps at h
    split at h
    · cases h
    · rename_i t ht
      obtain ⟨b, -, hb⟩ := runStep_eq_ok ht
      rw [mustHalt_eq_false hgo, if_neg Bool.false_ne_true] at h
      obtain ⟨bs, hbs, hl⟩ := ih h
      exact ⟨b :: bs, .cons hb hbs, congrArg (· + 1) hl⟩

end RunState

namespace Leads

theorem tick_bounds (h : Leads setup run bs s s') :
    ∀ b ∈ bs, s.tick < b.tick ∧ b.tick ≤ s'.tick := by
  intro b hb
  have hmem := List.mem_map_of_mem (f := Block.tick) hb
  rw [h.ticks, List.mem_range'_1] at hmem
  rw [h.tick]
  omega

theorem violation_bounds (h : Leads setup run bs s s') :
    ∀ v ∈ bs.flatMap Block.violations, s.tick < v.tick ∧ v.tick ≤ s'.tick := by
  intro v hv
  obtain ⟨b, hb, hv⟩ := List.mem_flatMap.1 hv
  rw [((h.sound b hb).source v hv).1]
  exact h.tick_bounds b hb

theorem entry_bounds (h : Leads setup run bs s s') :
    ∀ e ∈ bs.flatMap Block.entries, ∃ tick : Nat, e.tick = .nat tick ∧ s.tick < tick ∧
      tick ≤ s'.tick := by
  intro e he
  obtain ⟨b, hb, he⟩ := List.mem_flatMap.1 he
  exact ⟨b.tick, (h.sound b hb).entries_tick e he, h.tick_bounds b hb⟩

end Leads

/-- Whether an entry is of a tick up to some step. -/
def Entry.isBy (k : Nat) (e : Entry) : Bool :=
  match e.tick with
  | .num (.int t) => decide (t ≤ k)
  | _ => false

theorem Entry.isBy_iff {e : Entry} {k tick : Nat} (h : e.tick = .nat tick) :
    e.isBy k = true ↔ tick ≤ k := by
  rw [isBy, h]
  exact decide_eq_true_iff.trans Int.ofNat_le

/-- The books after some steps are the part of the later books with ticks up to there. -/
theorem Leads.ledger_upTo {bs' : List Block} (h : Leads setup run bs s t)
    (h' : Leads setup run bs' t u) (hs : s.ledger = []) :
    u.ledger.filter (Entry.isBy t.tick) = t.ledger := by
  have hin : ∀ e ∈ bs.flatMap Block.entries, e.isBy t.tick = true := by
    intro e he
    obtain ⟨tick, htick, -, hle⟩ := h.entry_bounds e he
    exact (Entry.isBy_iff htick).2 hle
  have hout : ∀ e ∈ bs'.flatMap Block.entries, ¬e.isBy t.tick = true := by
    intro e he
    obtain ⟨tick, htick, hlt, -⟩ := h'.entry_bounds e he
    rw [Entry.isBy_iff htick]
    omega
  rw [h'.ledger, h.ledger, hs, List.nil_append, List.filter_append, List.filter_eq_self.2 hin,
    List.filter_eq_nil_iff.2 hout, List.append_nil]

theorem Leads.violations_upTo {bs' : List Block} (h : Leads setup run bs s t)
    (h' : Leads setup run bs' t u) (hs : s.violations = []) :
    u.violations.filter (fun v => v.tick ≤ t.tick) = t.violations := by
  have hin : ∀ v ∈ bs.flatMap Block.violations, decide (v.tick ≤ t.tick) = true :=
    fun v hv => decide_eq_true (h.violation_bounds v hv).2
  have hout : ∀ v ∈ bs'.flatMap Block.violations, ¬decide (v.tick ≤ t.tick) = true := by
    intro v hv hle
    have hle := of_decide_eq_true hle
    have hlt := (h'.violation_bounds v hv).1
    omega
  rw [h'.violations, h.violations, hs, List.nil_append, List.filter_append,
    List.filter_eq_self.2 hin, List.filter_eq_nil_iff.2 hout, List.append_nil]

end

/-! ### The cut -/

namespace Setup

/-- The same setup, halting after the first step with a violation. -/
def halting (setup : Setup) : Setup :=
  { setup with options := { setup.options with halt := true } }

/-- The same setup for other steps. -/
def withSteps (setup : Setup) (steps : List Step) : Setup :=
  { setup with plan := { setup.plan with steps := steps } }

/-- The same setup for the first steps of the plan. -/
def firstSteps (setup : Setup) (k : Nat) : Setup := setup.withSteps (setup.plan.steps.take k)

end Setup

variable {setup : Setup} {run : Seed} {s s' t u : RunState} {step : Step} {steps : List Step}

theorem RunState.applyOutputs_halting (s : RunState) (setup : Setup) (seed : Seed) (i : Nat)
    (step : Step) (inputs : Value) (rendered : Fields Datum) (fields : List Text) :
    s.applyOutputs setup.halting seed i step inputs rendered fields =
      s.applyOutputs setup seed i step inputs rendered fields := by
  induction fields generalizing s i with
  | nil => rfl
  | cons field fields ih =>
    have hfirst (seed : Seed) : s.applyOutput setup.halting seed step inputs rendered field =
        s.applyOutput setup seed step inputs rendered field := rfl
    rw [applyOutputs, applyOutputs, hfirst]
    simp only [ih]

theorem RunState.runChecks_halting (s : RunState) (setup : Setup) (seed : Seed) (step : Step)
    (inputs : Value) (rendered : Fields Datum) (checks : List Text) :
    s.runChecks setup.halting seed step inputs rendered checks =
      s.runChecks setup seed step inputs rendered checks := by
  induction checks generalizing s with
  | nil => rfl
  | cons check checks ih =>
    have hfirst : s.runCheck setup.halting seed step inputs rendered check =
        s.runCheck setup seed step inputs rendered check := rfl
    rw [runChecks, runChecks, hfirst]
    simp only [ih]

/-- Whether a run halts does not show inside a step. -/
theorem RunState.runStep_halting (s : RunState) (setup : Setup) (seed : Seed) (step : Step) :
    s.runStep setup.halting seed step = s.runStep setup seed step := by
  have hfinish (s : RunState) (seed : Seed) (inputs : Value) (o : Output) :
      s.finishStep setup.halting seed step inputs o = s.finishStep setup seed step inputs o := by
    simp only [finishStep, applyOutputs_halting, runChecks_halting]
    rfl
  simp only [runStep, hfinish]
  rfl

theorem RunState.mustHalt_halting (s : RunState) (setup : Setup) :
    s.mustHalt setup.halting = decide (0 < s.tally.violations) := Bool.true_and _

/-- Where the halting run of some steps comes to its end, in the run that goes on. -/
structure RunState.Cut (setup : Setup) (run : Seed) (steps : List Step) (s u : RunState) (j : Nat)
    (t : RunState) : Prop where
  le : j ≤ steps.length
  before : s.runSteps setup run (steps.take j) = .ok t
  after : t.runSteps setup run (steps.drop j) = .ok u
  ends : j = steps.length ∧ t.violations = [] ∧
      s.runSteps setup.halting run steps = .ok t ∨
    (t.violations ≠ [] ∧ ∀ v ∈ t.violations, v.tick = s.tick + j) ∧
      s.runSteps setup.halting run steps = .ok t.halt

theorem RunState.exists_cut (hgo : setup.options.halt = false) (hs : s.violations = [])
    (hcount : s.tally.violations = 0) (h : s.runSteps setup run steps = .ok u) :
    ∃ j t, Cut setup run steps s u j t := by
  induction steps generalizing s with
  | nil => exact ⟨0, s, Nat.le_refl 0, rfl, h, .inl ⟨rfl, hs, rfl⟩⟩
  | cons step steps ih =>
    unfold runSteps at h
    split at h
    · cases h
    · rename_i t ht
      rw [mustHalt_eq_false hgo, if_neg Bool.false_ne_true] at h
      obtain ⟨b, -, hb⟩ := runStep_eq_ok ht
      have hviolations : t.violations = b.violations := by rw [hb.violations, hs, List.nil_append]
      have htotal : t.tally.violations = b.violations.length := by
        rw [hb.total, hcount, Nat.zero_add]
      have hfirst (xs : List Step) : s.runSteps setup run (step :: xs) =
          t.runSteps setup run xs := by
        rw [runSteps, ht]
        exact if_neg (by rw [mustHalt_eq_false hgo]; exact Bool.false_ne_true)
      have hhalting : s.runSteps setup.halting run (step :: steps) =
          if 0 < b.violations.length then .ok t.halt
            else t.runSteps setup.halting run steps := by
        rw [runSteps, runStep_halting, ht]
        dsimp only
        rw [mustHalt_halting, htotal]
        simp only [decide_eq_true_eq]
      by_cases hempty : b.violations = []
      · obtain ⟨j, v, hv⟩ := ih (hviolations.trans hempty) (by rw [htotal, hempty]; rfl) h
        rw [hempty, List.length_nil, if_neg (Nat.lt_irrefl 0)] at hhalting
        refine ⟨j + 1, v, Nat.succ_le_succ hv.le, ?_, hv.after, ?_⟩
        · rw [List.take_succ_cons, hfirst, hv.before]
        · rw [hhalting]
          refine hv.ends.imp (And.imp_left (congrArg (· + 1))) (And.imp_left ?_)
          refine And.imp_right fun hticks w hw => ?_
          rw [hticks w hw, hb.ends, hb.starts, Nat.add_assoc, Nat.add_comm 1]
      · rw [if_pos (List.length_pos_iff.2 hempty)] at hhalting
        refine ⟨1, t, Nat.succ_le_succ (Nat.zero_le _), hfirst [], h,
          .inr ⟨⟨hviolations ▸ hempty, fun v hv => ?_⟩, hhalting⟩⟩
        rw [hviolations] at hv
        rw [(hb.sound.source v hv).1, hb.starts]

/-- A halting run says that it was halted exactly when it has counted a violation. -/
theorem RunState.runSteps_halted (hs : s.halted = false) (hcount : s.tally.violations = 0)
    (h : s.runSteps setup.halting run steps = .ok s') :
    s'.halted = true ↔ 0 < s'.tally.violations := by
  induction steps generalizing s with
  | nil =>
    obtain rfl := Except.ok.inj h
    rw [hs, hcount]
    exact iff_of_false Bool.false_ne_true (Nat.lt_irrefl 0)
  | cons step steps ih =>
    unfold runSteps at h
    split at h
    · cases h
    · rename_i t ht
      obtain ⟨b, -, hb⟩ := runStep_eq_ok ht
      rw [mustHalt_halting] at h
      split_ifs at h with hpos
      · obtain rfl := Except.ok.inj h
        exact iff_of_true rfl (of_decide_eq_true hpos)
      · rw [decide_eq_true_eq] at hpos
        exact ih (hb.halted.trans hs) (Nat.eq_zero_of_not_pos hpos) h

/-! ### Halting runs -/

namespace RunResult

/-- The step of the first violation, or the last step when there is none. -/
def cut (setup : Setup) (r : RunResult) : Nat :=
  (r.trail.head?.map Violation.tick).getD setup.plan.steps.length

/-- A result is that of a longer run cut short after a step with a violation, identifiers of entries
aside. -/
structure IsCut (k : Nat) (short long : RunResult) : Prop where
  ticks : short.proof.ticks = k
  ledger : short.ledger.map Entry.anonymous =
    (long.ledger.filter (Entry.isBy k)).map Entry.anonymous
  trail : short.trail = long.trail.filter fun v => v.tick ≤ k
  last : ∀ v ∈ short.trail, v.tick = k
  halted : short.halted = true ↔ short.trail ≠ []

end RunResult

namespace Setup

variable {a b c : Seed} {initial : Value} {r r₁ : RunResult} {log log₁ : List LogLine} {j : Nat}

/-- The cut of a run is where the halting run comes to its end. -/
theorem cut_eq (hgo : setup.options.halt = false) (hr : r.Reports setup u)
    (hcut : RunState.Cut setup c setup.plan.steps (setup.start c initial) u j t) :
    r.cut setup = j := by
  obtain ⟨bs, hbs, -⟩ := RunState.runSteps_leads hgo hcut.after
  rw [RunResult.cut, hr.trail]
  rcases hcut.ends with ⟨rfl, hnone, -⟩ | ⟨⟨hsome, hticks⟩, -⟩
  · have hafter := hcut.after
    rw [List.drop_length] at hafter
    obtain rfl := Except.ok.inj hafter
    rw [hnone]
    rfl
  · obtain ⟨v, vs, hvs⟩ := List.exists_cons_of_ne_nil hsome
    rw [hbs.violations, hvs]
    exact (hticks v (hvs ▸ List.mem_cons_self)).trans (Nat.zero_add j)

/-- The result of a halting run, from the state that the cut of the longer run leaves. -/
theorem isCut_of_twins {P : Pairing} {ts : String} (hgo : setup.options.halt = false)
    (hr : r.Reports setup u)
    (hcut : RunState.Cut setup c setup.plan.steps (setup.start c initial) u j t)
    (htwins : TwinStates P 0 ts ts (setup.start c initial) s t)
    (hr₁ : r₁.Reports setup.halting s) (hhalted : r₁.halted = true ↔ r₁.trail ≠ []) :
    r₁.IsCut j r := by
  obtain ⟨bs, hbs, hl⟩ := RunState.runSteps_leads hgo hcut.before
  obtain ⟨bs', hbs', -⟩ := RunState.runSteps_leads hgo hcut.after
  have htick : t.tick = j := by
    have hle := hcut.le
    rw [List.length_take, Nat.min_eq_left hle] at hl
    rw [hbs.tick, hl]
    exact Nat.zero_add j
  have htrail : s.violations = t.violations := by
    have hmoved := List.map_congr_left fun v hv => Violation.moved_zero (htwins.stamped v hv)
    rw [htwins.violations, hmoved, List.map_id']
    rfl
  obtain ⟨es, hes, hmoved⟩ := htwins.ledger
  have hledger : s.ledger.map Entry.anonymous = t.ledger.map Entry.anonymous := by
    have hentries : t.ledger = es := hes
    rw [hentries, map_eq_map_iff]
    exact hmoved.imp fun _ _ => Entry.Moved.anonymous_eq
  refine ⟨?_, ?_, ?_, ?_, hhalted⟩
  · rw [hr₁.ticks, ← htick, htwins.tick, Nat.add_zero]
  · rw [hr₁.ledger, hr.ledger, hledger, ← htick, hbs.ledger_upTo hbs' rfl]
  · rw [hr₁.trail, hr.trail, htrail, ← htick, hbs.violations_upTo hbs' rfl]
  · rw [hr₁.trail, htrail]
    rcases hcut.ends with ⟨-, hnone, -⟩ | ⟨⟨-, hticks⟩, -⟩
    · rw [hnone]
      exact nofun
    · exact fun v hv => (hticks v hv).trans (Nat.zero_add j)

/-- With deterministic primitives, where a run that goes on comes to its end, the halting run does
so exactly if the first steps do by themselves, up to the first with a violation. It is then the
longer run cut short there, and leaves the record that these steps leave. -/
theorem execute_halting (hgo : setup.options.halt = false)
    (hsteps : ∀ step ∈ setup.plan.steps, step.Steady setup.registry setup.clock setup.clock)
    (hchecks : ∀ name check, Fields.get? setup.checks name = some check → check.Steady)
    (hv : initial.isJson = true) (h : setup.execute c initial = .ok (r, log)) (a b : Seed) :
    ((∃ r₁ log₁, setup.halting.execute a initial = .ok (r₁, log₁)) ↔
      ∃ r₂ log₂, (setup.firstSteps (r.cut setup)).execute b initial = .ok (r₂, log₂)) ∧
    ∀ r₁ log₁, setup.halting.execute a initial = .ok (r₁, log₁) →
      r₁.IsCut (r.cut setup) r ∧
      ∀ r₂ log₂, (setup.firstSteps (r.cut setup)).execute b initial = .ok (r₂, log₂) →
        r₁.state = r₂.state := by
  obtain ⟨ts, hts⟩ := timestamp_of_execute h
  obtain ⟨u, hu, hr, -, -⟩ := execute_state h
  obtain ⟨j, t, hcut⟩ := RunState.exists_cut hgo rfl rfl hu
  rw [cut_eq hgo hr hcut]
  -- Both runs reach twins of the state at the cut, so both end if its record has a digest.
  obtain ⟨s₁, hs₁, P, hP⟩ : ∃ s₁,
      (setup.halting.start a initial).runSteps setup.halting a setup.plan.steps = .ok s₁ ∧
      ∃ P, TwinStates P 0 ts ts (setup.start c initial) s₁ t := by
    have hset : TwinSetups ts ts setup.halting setup.halting := ⟨rfl, rfl, rfl, hts, hts, hchecks⟩
    have hboth := runSteps_sameStart setup hset rfl hsteps hv a c
    rcases hcut.ends with ⟨-, -, ht⟩ | ⟨-, ht⟩
    · obtain ⟨s₁, hs₁, htwins⟩ := hboth.exists_left ht
      exact ⟨s₁, hs₁, _, htwins⟩
    · obtain ⟨s₁, hs₁, htwins⟩ := hboth.exists_left ht
      exact ⟨s₁, hs₁, _, htwins.of_log _ _⟩
  obtain ⟨s₂, hs₂, Q, hQ⟩ : ∃ s₂, ((setup.firstSteps j).start b initial).runSteps
      (setup.firstSteps j) b (setup.firstSteps j).plan.steps = .ok s₂ ∧
      ∃ Q, TwinStates Q 0 ts ts (setup.start c initial) s₂ t := by
    have hset : TwinSetups ts ts (setup.firstSteps j) setup := ⟨rfl, rfl, rfl, hts, hts, hchecks⟩
    have hfirst : ∀ step ∈ setup.plan.steps.take j,
        step.Steady setup.registry setup.clock setup.clock :=
      fun step hs => hsteps step (List.mem_of_mem_take hs)
    have hboth := runSteps_sameStart setup hset rfl hfirst hv b c
    obtain ⟨s₂, hs₂, htwins⟩ := hboth.exists_left hcut.before
    exact ⟨s₂, hs₂, _, htwins⟩
  have hvalue : s₁.record.value = s₂.record.value :=
    hP.record.value_eq.trans hQ.record.value_eq.symm
  refine ⟨?_, fun r₁ log₁ h₁ => ?_⟩
  · rw [execute_isOk_iff setup.halting hts hs₁,
      execute_isOk_iff (setup.firstSteps j) hts hs₂, hvalue]
  · obtain ⟨v₁, hv₁, hr₁, hhalted, -⟩ := execute_state h₁
    obtain rfl := Except.ok.inj (hs₁.symm.trans hv₁)
    have hcount : r₁.halted = true ↔ r₁.trail ≠ [] := by
      obtain ⟨bs, tally, hmade⟩ := execute_eq_ok h₁
      rw [hhalted, RunState.runSteps_halted rfl rfl hs₁, ← hr₁.violations, hmade.violations,
        List.length_pos_iff]
    refine ⟨isCut_of_twins hgo hr hcut hP hr₁ hcount, fun r₂ log₂ h₂ => ?_⟩
    obtain ⟨v₂, hv₂, hr₂, -, -⟩ := execute_state h₂
    obtain rfl := Except.ok.inj (hs₂.symm.trans hv₂)
    rw [RunResult.state, RunResult.state, hr₁.record, hr₂.record, hvalue]

theorem sample_steady :
    ∀ step ∈ sample.plan.steps, step.Steady sample.registry sample.clock sample.clock := by
  have hparams : ∀ step ∈ sample.plan.steps, (Value.map step.params).isJson = true := by
    decide +kernel
  have htimeless : ∀ step ∈ sample.plan.steps, step.Timeless :=
    List.forall_mem_cons.2 ⟨nofun, List.forall_mem_singleton.2 nofun⟩
  exact fun step hs => (htimeless step hs).steady (hparams step hs) _ _

theorem sample_halting :
    sample.options.halt = false ∧
    (∀ step ∈ sample.plan.steps, step.Steady sample.registry sample.clock sample.clock) ∧
    (∀ name check, Fields.get? sample.checks name = some check → check.Steady) ∧
    (Value.map []).isJson = true ∧
    ∃ r log, sample.execute ⟨[]⟩ (.map []) = .ok (r, log) ∧
      ∃ r₁ log₁, sample.halting.execute ⟨[1]⟩ (.map []) = .ok (r₁, log₁) ∧ r₁.IsCut 1 r ∧
        ∃ r₂ log₂, (sample.firstSteps 1).execute ⟨[2]⟩ (.map []) = .ok (r₂, log₂) ∧
          r₁.state = r₂.state := by
  obtain ⟨r, log, h, hp⟩ := exists_run sample ⟨[]⟩ (.map []) (fun r => r.cut sample == 1)
    (by decide +kernel)
  obtain ⟨r₁, log₁, h₁, -⟩ := exists_run sample.halting ⟨[1]⟩ (.map []) (fun _ => true)
    (by decide +kernel)
  obtain ⟨hreturns, hcut⟩ :=
    execute_halting rfl sample_steady Checks.steady_builtin rfl h ⟨[1]⟩ ⟨[2]⟩
  obtain ⟨hshort, hstate⟩ := hcut r₁ log₁ h₁
  obtain ⟨r₂, log₂, h₂⟩ := hreturns.1 ⟨r₁, log₁, h₁⟩
  rw [beq_iff_eq.1 hp] at hshort h₂ hstate
  exact ⟨rfl, sample_steady, Checks.steady_builtin, rfl, r, log, h, r₁, log₁, h₁, hshort, r₂, log₂,
    h₂, hstate r₂ log₂ h₂⟩

/-- A rule that squares a number before it fails, and a step that clears the record. -/
def squaring : Plan where
  steps := [⟨"one", "RULE_APPLICATOR", [], [], [("enabled", .bool true), ("assignments",
      .map [("a", .str "\x7b\x7b n * n \x7d\x7d"), ("*", .int 1)])]⟩,
    ⟨"two", "STATE_MUTATOR", [], [], [("path", .str "*"), ("value", .map [])]⟩]
  metadata := []
  contracts := []

/-- Under a fixed clock every step of this plan does the same whenever it is called. -/
theorem squaring_steady (A : Clock) :
    ∀ step ∈ squaring.steps, step.Steady Registry.builtin A A := by
  have htimeless : ∀ step ∈ squaring.steps, step.Timeless := by
    refine List.forall_mem_cons.2 ⟨fun _ => ⟨_, rfl, ?_⟩, List.forall_mem_singleton.2 nofun⟩
    rintro _ ⟨⟩ f hf s hs
    obtain rfl | rfl := (List.mem_cons.1 hf).imp_right List.mem_singleton.1
    · obtain rfl := Value.str.inj hs
      decide +kernel
    · cases hs
  have hparams : ∀ step ∈ squaring.steps, (Value.map step.params).isJson = true := by
    decide +kernel
  exact fun step hs => (htimeless step hs).steady (hparams step hs) A A

/-- The square of this number has more digits than can be written. Such a number may come and go
within a run, but a run that halts while it is in the record has no digest of the record. -/
theorem halting_fails :
    (∀ step ∈ squaring.steps, step.Steady Registry.builtin ⟨0⟩ ⟨0⟩) ∧
    (∃ r log, (ofPlan squaring none .standard ⟨0⟩).execute ⟨[]⟩
      (.map [("n", .nat (10 ^ 2200))]) = .ok (r, log) ∧
        r.cut (ofPlan squaring none .standard ⟨0⟩) = 1) ∧
    ¬∃ r log, (ofPlan squaring none .standard ⟨0⟩).halting.execute ⟨[]⟩
      (.map [("n", .nat (10 ^ 2200))]) = .ok (r, log) := by
  refine ⟨squaring_steady ⟨0⟩, ?_, ?_⟩
  · obtain ⟨r, log, h, hp⟩ := exists_run (ofPlan squaring none .standard ⟨0⟩) ⟨[]⟩
      (.map [("n", .nat (10 ^ 2200))])
      (fun r => r.cut (ofPlan squaring none .standard ⟨0⟩) == 1) (by decide +kernel)
    exact ⟨r, log, h, beq_iff_eq.1 hp⟩
  · obtain ⟨s, hs, hp⟩ := exists_ok (fun s => !s.record.value.all Value.isSayable)
      (x := ((ofPlan squaring none .standard ⟨0⟩).halting.start ⟨[]⟩
        (.map [("n", .nat (10 ^ 2200))])).runSteps
          (ofPlan squaring none .standard ⟨0⟩).halting ⟨[]⟩ squaring.steps) (by decide +kernel)
    rw [Bool.not_eq_true'] at hp
    rintro ⟨r, log, h⟩
    obtain ⟨u, hu, hr, -, -⟩ := execute_state h
    obtain rfl := Except.ok.inj (hs.symm.trans hu)
    have hsayable := (Value.contentHash_isOk_iff _).1 ⟨_, hr.finalHash⟩
    rw [hp] at hsayable
    cases hsayable

end Setup
end RuleLedger
