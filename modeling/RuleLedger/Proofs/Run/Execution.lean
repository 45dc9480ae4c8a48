import RuleLedger.Proofs.Clock
import RuleLedger.Proofs.Run.Pairing
import RuleLedger.Proofs.Run.Replay
import RuleLedger.Proofs.Run.Twins

/-! Whole runs. A run comes to its end exactly when its steps do and the record that they leave has
a digest. Two runs on one value with steady steps come to their ends together, and then a replay
finds nothing to complain about. -/
namespace RuleLedger

variable {setup setup' : Setup} {run run' a b : Seed} {initial v : Value} {r r' : RunResult}
  {log log' : List LogLine} {s s' : RunState} {ts ts' : String}

namespace Setup

/-- The result of a run is the report on the state after its last step. -/
theorem execute_state (h : setup.execute run initial = .ok (r, log)) :
    ∃ s, (setup.start run initial).runSteps setup run setup.plan.steps = .ok s ∧
      r.Reports setup s ∧ r.halted = s.halted ∧ r.tally = s.tally := by
  rw [execute, executeFrom] at h
  split at h
  · cases h
  · dsimp only at h
    split at h
    · cases h
    · rename_i s hs
      split at h
      · cases h
      · rename_i r' hr
        obtain ⟨rfl, -⟩ := Prod.mk.inj (Except.ok.inj h)
        refine ⟨s, hs, (conclude_eq_ok hr).1, (conclude_eq_ok hr).2, ?_⟩
        simp only [conclude, bind_eq_ok, pure_eq_ok] at hr
        obtain ⟨_, -, _, -, rfl⟩ := hr
        rfl

theorem timestamp_of_execute (h : setup.execute run initial = .ok (r, log)) :
    ∃ ts, setup.clock.timestamp = .ok ts := by
  rw [execute, executeFrom] at h
  split at h
  · cases h
  · dsimp only at h
    split at h
    · cases h
    · split at h
      · cases h
      · rename_i r' hr
        simp only [conclude, bind_eq_ok, mapError_eq_ok] at hr
        obtain ⟨ts, hts, -⟩ := hr
        exact ⟨ts, hts⟩

/-- A run comes to its end if its steps do and the record that they leave has a digest. -/
theorem execute_of_state {d : String} (hts : setup.clock.timestamp = .ok ts)
    (hs : (setup.start run initial).runSteps setup run setup.plan.steps = .ok s)
    (hd : s.record.value.contentHash = .ok d) :
    ∃ r log, setup.execute run initial = .ok (r, log) := by
  obtain ⟨x, hx⟩ := Clock.monotonic_isOk hts
  have hconclude : ∃ r, setup.conclude s = .ok r := by
    simp only [conclude, bind_eq_ok, pure_eq_ok, mapError_eq_ok]
    exact ⟨_, ts, hts, d, hd, rfl⟩
  obtain ⟨r, hr⟩ := hconclude
  refine ⟨r, s.log ++ [closing r.proof], ?_⟩
  rw [start] at hs
  rw [execute, executeFrom, hx]
  dsimp only
  rw [hs]
  dsimp only
  rw [hr]

/-- A run whose steps come to their end does so itself exactly if the record that they leave has a
digest. -/
theorem execute_isOk_iff (setup : Setup) (hts : setup.clock.timestamp = .ok ts)
    (hs : (setup.start run initial).runSteps setup run setup.plan.steps = .ok s) :
    (∃ r log, setup.execute run initial = .ok (r, log)) ↔
      ∃ d, s.record.value.contentHash = .ok d := by
  refine ⟨?_, fun ⟨d, hd⟩ => execute_of_state hts hs hd⟩
  rintro ⟨r, log, h⟩
  obtain ⟨u, hu, hr, -, -⟩ := execute_state h
  obtain rfl := Except.ok.inj (hs.symm.trans hu)
  exact ⟨_, hr.finalHash⟩

end Setup

/-! ### Ledgers verify -/

theorem Number.eq_int_self (n : Int) : (Number.int n).eq (.int n) = true := by
  rw [eq, position?, decide_eq_true_eq]

/-- The ticks of the entries of blocks. -/
theorem Block.ticks_entries {bs : List Block} (h : ∀ b ∈ bs, b.Sound setup run) :
    (bs.flatMap Block.entries).map Entry.tick =
      (bs.flatMap fun b => List.replicate b.entries.length b.tick).map Value.nat := by
  rw [List.map_flatMap, List.map_flatMap]
  refine List.flatMap_congr fun b hb => ?_
  rw [List.map_replicate, List.eq_replicate_iff]
  refine ⟨List.length_map _, fun t ht => ?_⟩
  obtain ⟨e, he, rfl⟩ := List.mem_map.1 ht
  exact (h b hb).entries_tick e he

theorem pairwise_replicate {bs : List Block} {n m : Nat}
    (h : bs.map Block.tick = List.range' n m) :
    (bs.flatMap fun b => List.replicate b.entries.length b.tick).Pairwise (· ≤ ·) ∧
      ∀ t ∈ bs.flatMap fun b => List.replicate b.entries.length b.tick, n ≤ t := by
  induction bs generalizing n m with
  | nil => exact ⟨.nil, nofun⟩
  | cons b bs ih =>
    cases m with
    | zero => cases h
    | succ m =>
      rw [List.map_cons, List.range'_succ, List.cons_eq_cons] at h
      obtain ⟨hsorted, hlow⟩ := ih h.2
      have hall : ∀ t ∈ List.replicate b.entries.length b.tick, t = n := fun t ht =>
        (List.eq_of_mem_replicate ht).trans h.1
      rw [List.flatMap_cons]
      refine ⟨List.pairwise_append.2 ⟨List.pairwise_replicate.2 (.inr (Nat.le_refl _)), hsorted,
        fun t ht u hu => ?_⟩, List.forall_mem_append.2 ⟨fun t ht => ?_, fun t ht => ?_⟩⟩
      · rw [hall t ht]
        exact Nat.le_of_succ_le (hlow u hu)
      · exact Nat.le_of_eq (hall t ht).symm
      · exact Nat.le_of_succ_le (hlow t ht)

namespace Setup

theorem execute_ticks (h : setup.execute run initial = .ok (r, log)) :
    ∀ e ∈ r.ledger, ∃ n : Nat, e.tick = .nat n := by
  obtain ⟨bs, tally, hr⟩ := execute_eq_ok h
  intro e he
  rw [hr.ledger] at he
  obtain ⟨b, hb, he⟩ := List.mem_flatMap.1 he
  exact ⟨b.tick, (hr.sound b hb).entries_tick e he⟩

theorem tickInt?_of_mem (h : setup.execute run initial = .ok (r, log)) {e : Entry}
    (he : e ∈ r.ledger) : e.tick.tickInt?.isSome = true := by
  obtain ⟨n, hn⟩ := execute_ticks h e he
  rw [hn]
  rfl

/-- The ledger of every run that comes to its end is intact. -/
theorem execute_intact (h : setup.execute run initial = .ok (r, log)) :
    Presented.Intact (r.ledger.map .entry) := by
  obtain ⟨bs, tally, hr⟩ := execute_eq_ok h
  obtain ⟨hsorted, -⟩ := pairwise_replicate hr.ticks
  refine ⟨List.forall_mem_map.2 fun e _ => trivial, List.forall_mem_map.2 (execute_hashes h), ?_⟩
  have hnumbers : (r.ledger.map Presented.entry).map Presented.number =
      (bs.flatMap fun b => List.replicate b.entries.length b.tick).map Int.ofNat := by
    have hticks := congrArg (List.map fun v => v.tickInt?.getD 0) (Block.ticks_entries hr.sound)
    rw [← hr.ledger, List.map_map, List.map_map] at hticks
    rw [List.map_map]
    exact hticks
  rw [hnumbers]
  exact List.pairwise_cons.2 ⟨List.forall_mem_map.2 fun n _ => Int.natCast_nonneg n,
    hsorted.map _ fun m n => Int.ofNat_le.2⟩

/-- The entries of a run verify, also where some of them are left out. -/
theorem verify_sublist (h : setup.execute run initial = .ok (r, log)) {l : Ledger}
    (hl : l.Sublist r.ledger) : ∃ verdict, l.verify = .ok verdict ∧ verdict.defect = none := by
  have hticks : ∀ x ∈ l.map Presented.entry, x.tick.tickInt?.isSome = true :=
    List.forall_mem_map.2 fun e he => tickInt?_of_mem h (hl.subset he)
  exact ⟨_, (Presented.verify_entries l).symm.trans
    (Presented.verifyFrom_intact hticks rfl ((execute_intact h).sublist (hl.map _))), rfl⟩

/-- The ledger of every run that comes to its end verifies. -/
theorem execute_verifies (h : setup.execute run initial = .ok (r, log)) :
    ∃ verdict, r.ledger.verify = .ok verdict ∧ verdict.defect = none :=
  verify_sublist h (List.Sublist.refl _)

/-- A run gives the digest of the record that it leaves. -/
theorem contentHash_state (h : setup.execute run initial = .ok (r, log)) :
    r.state.contentHash = .ok r.proof.finalHash := by
  obtain ⟨s, -, hr, -, -⟩ := execute_state h
  rw [RunResult.state, hr.record]
  exact hr.finalHash

theorem isText_stepHashes (h : setup.execute run initial = .ok (r, log)) :
    ∀ w ∈ RunResult.stepHashes r.ledger, ∃ t, w = .str t := by
  refine List.forall_mem_map.2 fun e he => ?_
  obtain ⟨d, -, hd⟩ := execute_hashes h e (List.mem_filter.1 he).1
  exact ⟨_, hd⟩

end Setup

/-! ### Replays -/

/-- What a replay is compared in with a claimed result. -/
structure RunResult.Matches (replay : RunResult) (claimed : Claimed) : Prop where
  finalHash : claimed.finalHash = .str replay.proof.finalHash
  violations : claimed.violations.isCount replay.proof.violations = true
  steps : stepHashes claimed.ledger = stepHashes replay.ledger

/-- Hashes that are texts differ nowhere from themselves. -/
theorem firstDifference_self {n : Nat} {hashes : List Value}
    (h : ∀ v ∈ hashes, ∃ t, v = .str t) : firstDifference n hashes hashes = none := by
  induction hashes generalizing n with
  | nil => rfl
  | cons v hashes ih =>
    obtain ⟨t, rfl⟩ := h v List.mem_cons_self
    rw [firstDifference, if_pos (sameHash_iff.2 ⟨t, rfl, rfl⟩)]
    exact ih fun v hv => h v (List.mem_cons_of_mem _ hv)

theorem eq_of_sameHash {as bs : List Value}
    (h : List.Forall₂ (fun a b => sameHash a b = true) as bs) : as = bs := by
  refine List.forall₂_eq_eq_eq ▸ h.imp fun a b hab => ?_
  obtain ⟨t, rfl, rfl⟩ := sameHash_iff.1 hab
  rfl

/-- Nothing differs exactly if the ledger verified and the replay matches. -/
theorem compareReplay_eq_nil_iff {verdict : Verdict} {claimed : Claimed}
    (h : ∀ w ∈ RunResult.stepHashes r.ledger, ∃ t, w = .str t) :
    compareReplay verdict claimed r = [] ↔ verdict.valid = true ∧ r.Matches claimed := by
  have hif {p : Prop} [Decidable p] {m : Mismatch} : (if p then [] else [m]) = [] ↔ p := by
    split_ifs with hp <;> simp [hp]
  simp only [compareReplay, List.append_eq_nil_iff, Option.toList_eq_nil_iff,
    Option.map_eq_none_iff, hif]
  rw [Verdict.valid, Option.isNone_iff_eq_none]
  constructor
  · rintro ⟨⟨⟨⟨hdefect, hfinal⟩, hcount⟩, hlength⟩, hfirst⟩
    exact ⟨hdefect, Value.isText_iff.1 hfinal, hcount,
      eq_of_sameHash (firstDifference_eq_none hlength hfirst)⟩
  · rintro ⟨hdefect, hfinal, hcount, hsteps⟩
    rw [hsteps]
    exact ⟨⟨⟨⟨hdefect, Value.isText_iff.2 hfinal⟩, hcount⟩, rfl⟩, firstDifference_self h⟩

namespace Setup

/-- A claimed result verifies exactly if its ledger does and a replay matches it. -/
theorem verify_eq_nil_iff {claimed : Claimed} :
    setup.verify run initial claimed = .ok [] ↔
      ∃ verdict r log, claimed.ledger.verify = .ok verdict ∧ verdict.valid = true ∧
        setup.execute run initial = .ok (r, log) ∧ r.Matches claimed := by
  constructor
  · intro h
    obtain ⟨verdict, r, log, hverdict, he, hcompare⟩ := verify_eq_nil h
    obtain ⟨hvalid, hmatches⟩ := (compareReplay_eq_nil_iff (isText_stepHashes he)).1 hcompare
    exact ⟨verdict, r, log, hverdict, hvalid, he, hmatches⟩
  · rintro ⟨verdict, r, log, hverdict, hvalid, he, hmatches⟩
    rw [verify, hverdict, he]
    exact congrArg Except.ok
      ((compareReplay_eq_nil_iff (isText_stepHashes he)).2 ⟨hvalid, hmatches⟩)

/-- A result verifies wherever a replay leaves the same state, the same hashes of steps and as many
violations. -/
theorem verify_of_replay (h : setup.execute run initial = .ok (r, log))
    (h' : setup'.execute run' v = .ok (r', log')) (hstate : r'.state = r.state)
    (hhash : RunResult.stepHashes r'.ledger = RunResult.stepHashes r.ledger)
    (hcount : r'.proof.violations = r.proof.violations) :
    setup'.verify run' v r.claimed = .ok [] := by
  obtain ⟨verdict, hverdict, hdefect⟩ := execute_verifies h
  have hfinal : r'.proof.finalHash = r.proof.finalHash :=
    Except.ok.inj ((contentHash_state h').symm.trans
      ((congrArg Value.contentHash hstate).trans (contentHash_state h)))
  have hviolations : Value.isCount (.nat r.proof.violations) r'.proof.violations = true := by
    rw [hcount, Value.isCount, Value.nat, Value.int, tickNumber?, Option.map_some,
      Option.getD_some, Number.eq_int_self]
  exact verify_eq_nil_iff.2 ⟨verdict, r', log', hverdict, Option.isNone_iff_eq_none.2 hdefect, h',
    congrArg (fun d : String => Value.str d) hfinal.symm, hviolations, hhash.symm⟩

/-! ### Two runs side by side -/

/-- The state at the start of a run beside a state from which another run goes on. -/
theorem start_like {P : Pairing} {L : Likeness P} {same : Value → Value → Prop} {n : Nat}
    (hr : L.records (Record.ofValue a v) s.record) (htick : s.tick = n) (hfits : Fits n 0) :
    LikeStates L same ts ts' n s (setup.start a v) s where
  record := hr
  tick := htick.trans (Nat.zero_add n).symm
  fits := hfits
  violations := ⟨[], (List.append_nil _).symm, .nil⟩
  ledger := ⟨[], (List.append_nil _).symm, .nil⟩
  tally := .empty _

theorem start_twins {P : Pairing} {n : Nat} (hr : P.TwinRecords (Record.ofValue a v) s.record)
    (htick : s.tick = n) (hfits : Fits n 0) : TwinStates P n ts ts' s (setup.start a v) s :=
  twinStates_iff.1 (start_like (L := P.twins) hr htick hfits)

/-- Two runs on one value, whose steps side by side leave twins. The start of the second may be
logged as that of another setup. -/
theorem runSteps_sameStart (other : Setup) (hset : TwinSetups ts ts' setup setup')
    (hhalt : setup'.options.halt = setup.options.halt) {steps : List Step}
    (hsteps : ∀ step ∈ steps, step.Steady setup.registry setup.clock setup'.clock)
    (hv : v.isJson = true) (a b : Seed) :
    Both (TwinStates (Alignment.sameStart a b steps.length) 0 ts ts' (other.start b v))
      ((setup.start a v).runSteps setup a steps) ((other.start b v).runSteps setup' b steps) := by
  let w : Alignment := ⟨a, b, 0, steps.length⟩
  have hstart : TwinStates (w.pairing w.foundation_fresh) 0 ts ts' (other.start b v)
      (setup.start a v) (other.start b v) := start_twins (w.twinRecords_fresh hv) rfl (.inl rfl)
  refine RunState.runSteps_both a b hset hhalt (fun _ => rfl) hsteps hstart (.inl rfl)
    fun j hj => ?_
  have hj' : (setup.start a v).tick + j = j := Nat.zero_add j
  rw [hj']
  exact w.match_step hj

end Setup
end RuleLedger
