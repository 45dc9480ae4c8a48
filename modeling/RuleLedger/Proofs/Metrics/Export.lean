import RuleLedger.Proofs.Metrics.Totals
import RuleLedger.Proofs.Run.Books
import RuleLedger.Proofs.Run.Halting

/-! Metrics over many runs. Main statement: what the collectors export after any runs that came to
their end are the counts over their ledgers and audit trails, in whatever order the runs were
added. -/
namespace RuleLedger

/-! ### Durations -/

/-- That doubles are whole numbers, one by one. -/
abbrev Counted (ns : List Float) (ks : List Nat) : Prop :=
  List.Forall₂ (fun x (k : Nat) => (Number.float x).HasValue k) ns ks

namespace Collectors

variable {x : Float} {bounds ns : List Float} {ks : List Nat} {c : Collectors}

/-- A duration falls into one bucket if some bucket can hold it. -/
theorem exists_bump (hx : ∃ b ∈ bounds, x ≤ b) (h : Counted ns ks)
    (hl : bounds.length = ns.length) (hlt : ks.sum < 2 ^ 53) :
    ∃ ks', Counted (bump x bounds ns) ks' ∧ ks'.sum = ks.sum + 1 := by
  induction bounds generalizing ns ks with
  | nil =>
    obtain ⟨b, hb, -⟩ := hx
    cases hb
  | cons bound bounds ih =>
    cases h with
    | nil => cases hl
    | cons hn h =>
      rename_i n k ns ks
      rw [List.sum_cons] at hlt ⊢
      rw [bump]
      split_ifs with hbound
      · have hone := hn.add_nat Number.hasValue_one (by omega)
        exact ⟨(k + 1) :: ks, .cons hone h, by rw [List.sum_cons]; omega⟩
      · obtain ⟨b, hb, hle⟩ := hx
        have hb := (List.mem_cons.1 hb).resolve_left fun he => hbound (he ▸ hle)
        obtain ⟨ks', hks, hsum⟩ := ih ⟨b, hb, hle⟩ h (Nat.succ.inj hl) (by omega)
        exact ⟨k :: ks', .cons hn hks, by rw [List.sum_cons, hsum]; omega⟩

theorem length_bump (x : Float) (bounds ns : List Float) :
    (bump x bounds ns).length = ns.length := by
  induction bounds generalizing ns with
  | nil => cases ns <;> rfl
  | cons bound bounds ih =>
    cases ns with
    | nil => rfl
    | cons n ns =>
      rw [bump]
      split_ifs
      · rfl
      · rw [List.length_cons, ih, List.length_cons]

/-- The last bucket holds the durations of all. -/
theorem getLast?_cumulative (x : Float) (ns : List Float) :
    (cumulative x ns).getLast?.getD x = ns.foldl (· + ·) x := by
  induction ns generalizing x with
  | nil => rfl
  | cons n ns ih => rw [cumulative, List.getLast?_cons, Option.getD_some, ih, List.foldl_cons]

theorem hasValue_foldl {m : Nat} (hx : (Number.float x).HasValue m) (h : Counted ns ks)
    (hlt : m + ks.sum < 2 ^ 53) :
    (Number.float (ns.foldl (· + ·) x)).HasValue (m + ks.sum : Nat) := by
  induction h generalizing x m with
  | nil => exact hx
  | cons hn _ ih =>
    rw [List.sum_cons, ← Nat.add_assoc] at hlt ⊢
    exact ih (hx.add_nat hn (by omega)) hlt

theorem hasValue_count (h : Counted c.buckets ks) (hlt : ks.sum < 2 ^ 53) :
    (Number.float c.count).HasValue (ks.sum : Nat) := by
  have hsum := hasValue_foldl Number.hasValue_zero h (by omega)
  rwa [Nat.zero_add, ← getLast?_cumulative] at hsum

/-- Every duration is a number of seconds that the last bucket can hold. -/
theorem seconds_int {ms : Int} (h : ∃ y, (Number.int ms).toFloat = .ok y) :
    ∃ x, seconds (.int ms) = .ok x ∧ ∃ b ∈ bucketBounds, x ≤ b := by
  obtain ⟨y, hy⟩ := h
  obtain ⟨N, hN, -⟩ := Number.exists_rounded hy
  have hthousand : (Number.float 1000.0).HasValue 1000 :=
    ⟨⟨false, 1000 * 2 ^ 43, -43⟩, by decide +kernel, by norm_num [Dyadic.value, Dyadic.magnitude]⟩
  have hnumber := Binary64.isNaN_div hN hthousand (by norm_num)
  refine ⟨y / 1000.0, ?_, Binary64.infinity, by simp [bucketBounds], Binary64.le_infinity hnumber⟩
  change ((Number.int ms).toFloat.mapError Fault.numeric).map (· / 1000.0) = _
  rw [hy]
  rfl

/-! ### One run -/

/-- That the collectors stand at numbers: of steps by name, of violations by label, and of runs. -/
structure Holds (c : Collectors) (steps violations : Text → Nat) (runs : Nat) : Prop where
  steps : ∀ name, c.steps.Shows name (steps name)
  violations : ∀ label, c.violations.Shows label (violations label)
  buckets : bucketBounds.length = c.buckets.length
  runs : ∃ ks, Counted c.buckets ks ∧ ks.sum = runs

theorem holds_empty : empty.Holds (fun _ => 0) (fun _ => 0) 0 where
  steps _ := rfl
  violations _ := rfl
  buckets := (List.length_map _).symm
  runs := by
    refine ⟨bucketBounds.map fun _ => 0, ?_, rfl⟩
    rw [Counted, empty, List.forall₂_map_left_iff, List.forall₂_map_right_iff, List.forall₂_same]
    exact fun _ _ => Number.hasValue_zero

/-- What is read of the document of a run. -/
theorem snapshot_sections (t : Tally) (runId timestamp : Text) (ms ticks : Int) (halted : Bool)
    (options : Fields Value) : ∃ body,
      Collectors.section? (t.snapshot runId timestamp (.int ms) ticks halted options) "snapshot" =
        .ok body ∧
      (section? body "primitives").bind rows = .ok (Fields.mapValues Value.nat t.invocations) ∧
      ((section? body "invariants").bind (section? · "violationsByType")).bind rows =
        .ok (Fields.mapValues Value.nat t.byLabel) ∧
      duration? body = (do return some (← seconds (.int ms))) :=
  ⟨_, rfl, rfl, rfl, rfl⟩

/-- A run adds its calls, its violations and itself. -/
theorem Holds.record {steps violations : Text → Nat} {runs : Nat}
    (h : c.Holds steps violations runs) {t : Tally} {calls labels : List Text} {ms : Int}
    (hcalls : t.invocations = calls.foldl Fields.increment [])
    (hlabels : t.byLabel = labels.foldl Fields.increment [])
    (hms : ∃ y, (Number.int ms).toFloat = .ok y)
    (hsteps : ∀ name, steps name + calls.count name < 2 ^ 53)
    (hviolations : ∀ label, violations label + labels.count label < 2 ^ 53)
    (hruns : runs < 2 ^ 53)
    (runId timestamp : Text) (ticks : Int) (halted : Bool) (options : Fields Value) :
    ∃ c', c.record (t.snapshot runId timestamp (.int ms) ticks halted options) = (c', none) ∧
      c'.Holds (fun name => steps name + calls.count name)
        (fun label => violations label + labels.count label) (runs + 1) := by
  obtain ⟨x, hx, hbound⟩ := seconds_int hms
  obtain ⟨body, hbody, hprimitives, hbyType, hduration⟩ :=
    snapshot_sections t runId timestamp ms ticks halted options
  obtain ⟨totals, hadded, htotals⟩ := Totals.shows_addAll_increments h.steps hsteps
  obtain ⟨totals', hadded', htotals'⟩ := Totals.shows_addAll_increments h.violations hviolations
  obtain ⟨ks, hks, rfl⟩ := h.runs
  obtain ⟨ks', hks', hsum⟩ := exists_bump hbound hks h.buckets hruns
  rw [← hcalls] at hadded
  rw [← hlabels] at hadded'
  refine ⟨observe { c with steps := totals, violations := totals' } x, ?_, ?_⟩
  · have hgiven : duration? body = .ok (some x) := by
      rw [hduration, hx]
      rfl
    simp only [Collectors.record, hbody, hprimitives, hadded, hbyType, hadded', recordDuration,
      hgiven]
  · exact ⟨htotals, htotals', h.buckets.trans (length_bump x _ _).symm, ks', hks', hsum⟩

end Collectors

/-! ### All runs -/

/-- Write into a member of a mapping. -/
def Value.inField (k : Text) (f : Value → Value) : Value → Value
  | .map fs => .map (Fields.put fs k (f ((Fields.get? fs k).getD .null)))
  | v => v

/-- The document of a run with another duration. -/
def Value.lasting (ms : Int) : Value → Value :=
  inField "snapshot" (inField "timing" (inField "durationMs" fun _ => .int ms))

theorem Tally.lasting_snapshot (t : Tally) (runId timestamp : Text) (duration : Value)
    (ms ticks : Int) (halted : Bool) (options : Fields Value) :
    (t.snapshot runId timestamp duration ticks halted options).lasting ms =
      t.snapshot runId timestamp (.int ms) ticks halted options := rfl

/-- A run that came to its end, with the milliseconds that it took: the clock of a setup stands
still, any other clock may have gone on. No primitive has the name of violations, and the duration
is no greater than a double. -/
structure Completed where
  setup : Setup
  seed : Seed
  initial : Value
  result : RunResult
  log : List LogLine
  ms : Int
  ran : setup.execute seed initial = .ok (result, log)
  unreserved : Fields.get? setup.registry Entry.violationOperation = none
  measured : ∃ x, (Number.int ms).toFloat = .ok x

namespace Completed

/-- The document of the run. -/
def metrics (r : Completed) : Value := r.result.metrics.lasting r.ms

/-- The number of step entries of an operation in the ledgers of runs. -/
def stepEntries (runs : List Completed) (name : Text) : Nat :=
  (runs.flatMap fun r => r.result.ledger.steps).countP fun e => e.operation.isText name

/-- The number of violations of a label in the audit trails of runs. -/
def violations (runs : List Completed) (label : Text) : Nat :=
  ((runs.flatMap fun r => r.result.trail).map Violation.label).count label

/-- The document of a run is that of its result if the clock stood still. -/
theorem metrics_of_zero {r : Completed} (h : r.ms = 0) : r.metrics = r.result.metrics := by
  obtain ⟨bs, tally, hr⟩ := Setup.execute_eq_ok r.ran
  obtain ⟨timestamp, hm⟩ := hr.metrics
  rw [metrics, hm, Tally.lasting_snapshot, h]

theorem exists_completed (setup : Setup) (seed : Seed) (initial : Value) (ms : Int)
    (p : RunResult → Bool) (hname : Fields.get? setup.registry Entry.violationOperation = none)
    (hms : ms.natAbs < 2 ^ 53)
    (h : (setup.execute seed initial).toOption.any (fun r => p r.1) = true) :
    ∃ r : Completed, r.setup = setup ∧ r.ms = ms ∧ p r.result = true := by
  obtain ⟨result, log, hrun, hp⟩ := Setup.exists_run setup seed initial p h
  obtain ⟨x, hx, -⟩ := Number.toFloat_of_natAbs_lt hms
  exact ⟨⟨setup, seed, initial, result, log, ms, hrun, hname, x, hx⟩, rfl, rfl, hp⟩

theorem stepEntries_cons (r : Completed) (runs : List Completed) (name : Text) :
    stepEntries (r :: runs) name =
      r.result.ledger.steps.countP (fun e => e.operation.isText name) + stepEntries runs name := by
  rw [stepEntries, List.flatMap_cons, List.countP_append]
  rfl

theorem violations_cons (r : Completed) (runs : List Completed) (label : Text) :
    violations (r :: runs) label =
      (r.result.trail.map Violation.label).count label + violations runs label := by
  rw [violations, List.flatMap_cons, List.map_append, List.count_append]
  rfl

end Completed

namespace Collectors

/-- Add the documents of runs until one is refused. -/
def recordAll (c : Collectors) : List Value → Collectors × Option Fault
  | [] => (c, none)
  | doc :: docs =>
    match c.record doc with
    | (c, none) => recordAll c docs
    | (c, some f) => (c, some f)

theorem Holds.record_completed {c : Collectors} {steps violations : Text → Nat} {n : Nat}
    (h : c.Holds steps violations n) (r : Completed) (hn : n < 2 ^ 53)
    (hsteps : ∀ name, steps name +
      r.result.ledger.steps.countP (fun e => e.operation.isText name) < 2 ^ 53)
    (hviolations : ∀ label, violations label +
      (r.result.trail.map Violation.label).count label < 2 ^ 53) :
    ∃ c', c.record r.metrics = (c', none) ∧
      c'.Holds
        (fun name => steps name + r.result.ledger.steps.countP fun e => e.operation.isText name)
        (fun label => violations label + (r.result.trail.map Violation.label).count label)
        (n + 1) := by
  obtain ⟨bs, tally, hr⟩ := Setup.execute_eq_ok r.ran
  obtain ⟨timestamp, hm⟩ := hr.metrics
  have hdoc : r.metrics = tally.snapshot r.setup.runId timestamp (.int r.ms) r.result.proof.ticks
      r.result.halted r.setup.options.toFields := by
    rw [Completed.metrics, hm, Tally.lasting_snapshot]
  have hcount (name : Text) :
      r.result.ledger.steps.countP (fun e => e.operation.isText name) =
        (bs.flatMap Block.calls).count name :=
    Ledger.countP_operation (hr.operations r.unreserved) name
  simp only [hcount] at hsteps ⊢
  rw [hdoc]
  exact h.record hr.invocations hr.byLabel r.measured hsteps hviolations hn _ _ _ _ _

theorem Holds.recordAll {c : Collectors} {steps violations : Text → Nat} {n : Nat}
    (h : c.Holds steps violations n) (runs : List Completed)
    (hsteps : ∀ name, steps name + Completed.stepEntries runs name < 2 ^ 53)
    (hviolations : ∀ label, violations label + Completed.violations runs label < 2 ^ 53)
    (hn : n + runs.length < 2 ^ 53) :
    ∃ c', c.recordAll (runs.map Completed.metrics) = (c', none) ∧
      c'.Holds (fun name => steps name + Completed.stepEntries runs name)
        (fun label => violations label + Completed.violations runs label) (n + runs.length) := by
  induction runs generalizing c steps violations n with
  | nil => exact ⟨c, rfl, h⟩
  | cons r runs ih =>
    simp only [Completed.stepEntries_cons, Completed.violations_cons, ← Nat.add_assoc,
      List.length_cons, Nat.add_right_comm n _ 1] at hsteps hviolations hn ⊢
    obtain ⟨c₁, hrecord, h₁⟩ := h.record_completed r (by omega)
      (fun name => (Nat.le_add_right _ _).trans_lt (hsteps name))
      (fun label => (Nat.le_add_right _ _).trans_lt (hviolations label))
    obtain ⟨c₂, hrest, h₂⟩ := ih h₁ hsteps hviolations hn
    refine ⟨c₂, ?_, h₂⟩
    rw [List.map_cons, Collectors.recordAll, hrecord]
    exact hrest

variable {runs : List Completed}

/-- From fresh collectors, the totals are the counts over all runs. -/
theorem exists_recordAll (hsteps : ∀ name, Completed.stepEntries runs name < 2 ^ 53)
    (hviolations : ∀ label, Completed.violations runs label < 2 ^ 53)
    (hruns : runs.length < 2 ^ 53) :
    ∃ c, empty.recordAll (runs.map Completed.metrics) = (c, none) ∧
      c.Holds (Completed.stepEntries runs) (Completed.violations runs) runs.length := by
  simpa only [Nat.zero_add] using holds_empty.recordAll runs
    (fun name => (Nat.zero_add _).trans_lt (hsteps name))
    (fun label => (Nat.zero_add _).trans_lt (hviolations label))
    ((Nat.zero_add _).trans_lt hruns)

theorem Holds.hasValue_count {c : Collectors} {steps violations : Text → Nat} {n : Nat}
    (h : c.Holds steps violations n) (hn : n < 2 ^ 53) : (Number.float c.count).HasValue n := by
  obtain ⟨ks, hks, rfl⟩ := h.runs
  exact Collectors.hasValue_count hks hn

/-- The metrics of runs survive the export: after the documents of any runs that came to their end
are added to fresh collectors, the total of every primitive is the number of its step entries in all
ledgers, the total of every label is the number of its violations in all audit trails, and the
number of durations is that of the runs. In another order of the runs each of these is the same. -/
theorem recordAll_exports (hsteps : ∀ name, Completed.stepEntries runs name < 2 ^ 53)
    (hviolations : ∀ label, Completed.violations runs label < 2 ^ 53)
    (hruns : runs.length < 2 ^ 53) :
    ∃ c, empty.recordAll (runs.map Completed.metrics) = (c, none) ∧
      (∀ name, c.steps.Shows name (Completed.stepEntries runs name)) ∧
      (∀ label, c.violations.Shows label (Completed.violations runs label)) ∧
      (Number.float c.count).HasValue runs.length ∧
      ∀ runs' : List Completed, runs'.Perm runs →
        ∃ c', empty.recordAll (runs'.map Completed.metrics) = (c', none) ∧
          (∀ name, Fields.get? c'.steps name = Fields.get? c.steps name) ∧
          (∀ label, Fields.get? c'.violations label = Fields.get? c.violations label) ∧
          c'.count = c.count := by
  obtain ⟨c, hrecord, h⟩ := exists_recordAll hsteps hviolations hruns
  have hcount := h.hasValue_count hruns
  refine ⟨c, hrecord, h.steps, h.violations, hcount, fun runs' hperm => ?_⟩
  by_cases hempty : runs = []
  · subst hempty
    obtain rfl := hperm.eq_nil
    exact ⟨c, hrecord, fun _ => rfl, fun _ => rfl, rfl⟩
  · have hs : Completed.stepEntries runs' = Completed.stepEntries runs :=
      funext fun name => (hperm.flatMap_right _).countP_eq _
    have hv : Completed.violations runs' = Completed.violations runs :=
      funext fun label => ((hperm.flatMap_right _).map _).count_eq label
    have hl : runs'.length = runs.length := hperm.length_eq
    obtain ⟨c', hrecord', h'⟩ := exists_recordAll (hs ▸ hsteps) (hv ▸ hviolations) (hl ▸ hruns)
    have hcount' := h'.hasValue_count (hl ▸ hruns)
    rw [hs, hv] at h'
    rw [hl] at hcount'
    have hne : (runs.length : ℚ) ≠ 0 := by simpa using hempty
    exact ⟨c', hrecord', fun name => (h'.steps name).get?_eq (h.steps name),
      fun label => (h'.violations label).get?_eq (h.violations label),
      Number.eq_of_hasValue hcount' hcount hne⟩

/-- A run that goes on after its violations, and one of 1.5 seconds that halts at the first. -/
theorem sample_exports :
    ∃ a b : Completed, a.setup = Setup.sample ∧ a.ms = 0 ∧ a.result.halted = false ∧
      b.setup = Setup.sample.halting ∧ b.ms = 1500 ∧ b.result.halted = true ∧
      (∀ name, Completed.stepEntries [a, b] name < 2 ^ 53) ∧
      (∀ label, Completed.violations [a, b] label < 2 ^ 53) ∧
      [a, b].length < 2 ^ 53 ∧
      ∃ c, empty.recordAll ([a, b].map Completed.metrics) = (c, none) ∧
        (∀ name, c.steps.Shows name (Completed.stepEntries [a, b] name)) ∧
        (∀ label, c.violations.Shows label (Completed.violations [a, b] label)) ∧
        (Number.float c.count).HasValue [a, b].length ∧
        ∀ runs' : List Completed, runs'.Perm [a, b] →
          ∃ c', empty.recordAll (runs'.map Completed.metrics) = (c', none) ∧
            (∀ name, Fields.get? c'.steps name = Fields.get? c.steps name) ∧
            (∀ label, Fields.get? c'.violations label = Fields.get? c.violations label) ∧
            c'.count = c.count := by
  obtain ⟨a, hsetup, hms, hp⟩ := Completed.exists_completed Setup.sample ⟨[]⟩ (.map []) 0
    (fun r => !r.halted && (r.ledger.steps.length ≤ 9 && r.trail.length ≤ 9)) rfl (by decide)
    (by decide +kernel)
  obtain ⟨b, hsetup', hms', hp'⟩ := Completed.exists_completed Setup.sample.halting ⟨[]⟩ (.map [])
    1500 (fun r => r.halted && (r.ledger.steps.length ≤ 9 && r.trail.length ≤ 9)) rfl (by decide)
    (by decide +kernel)
  simp only [Bool.and_eq_true, Bool.not_eq_true', decide_eq_true_eq] at hp hp'
  obtain ⟨hgoes, hsteps, htrail⟩ := hp
  obtain ⟨hhalts, hsteps', htrail'⟩ := hp'
  have hs (name : Text) : Completed.stepEntries [a, b] name < 2 ^ 53 := by
    refine List.countP_le_length.trans_lt ?_
    simp only [List.flatMap_cons, List.flatMap_nil, List.length_append, List.length_nil]
    omega
  have hv (label : Text) : Completed.violations [a, b] label < 2 ^ 53 := by
    refine List.count_le_length.trans_lt ?_
    simp only [List.flatMap_cons, List.flatMap_nil, List.length_map, List.length_append,
      List.length_nil]
    omega
  have hl : [a, b].length < 2 ^ 53 := by
    change 2 < 2 ^ 53
    decide
  exact ⟨a, b, hsetup, hms, hgoes, hsetup', hms', hhalts, hs, hv, hl, recordAll_exports hs hv hl⟩

end Collectors
end RuleLedger
