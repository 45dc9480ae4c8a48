import RuleLedger.Proofs.Run.Execution

/-! What a valid replay vouches for. Main statement: a claimed result verifies exactly when its own
ledger does and the replay has its final hash, its number of violations and the hashes of its steps.
So of an honest ledger nothing but entries of violations can be left out unnoticed. The state, the
ticks and the number of entries that are claimed are not looked at. -/
namespace RuleLedger

namespace Setup

variable {setup setup' : Setup} {run run' : Seed} {initial v : Value} {claimed : Claimed}
  {r replay : RunResult} {log log' : List LogLine} {l : Ledger}

/-- A claimed state with the digest that a replay has is the state of the replay, up to the order of
keys and as it is spelled. -/
theorem alike_of_matches (h : setup.execute run initial = .ok (replay, log))
    (hm : replay.Matches claimed) {d : String} (hd : claimed.state.contentHash = .ok d)
    (hfinal : claimed.finalHash = .str d)
    (hsha : Sha256.Separates [claimed.state, replay.state]) :
    claimed.state.spelled.Alike replay.state.spelled := by
  obtain rfl : d = replay.proof.finalHash :=
    Text.ofString_inj.1 (Value.str.inj (hfinal.symm.trans hm.finalHash))
  exact alike_of_contentHash_eq hsha List.mem_cons_self (by simp) hd (contentHash_state h)

/-- Entries of an honest result verify for the whole exactly if they hold all of its steps. -/
theorem verify_sublist_iff (h : setup.execute run initial = .ok (r, log))
    (hr : setup'.verify run' v r.claimed = .ok []) (hl : l.Sublist r.ledger) :
    setup'.verify run' v { r.claimed with ledger := l } = .ok [] ↔ l.steps = r.ledger.steps := by
  obtain ⟨-, replay, log', -, -, he, hfinal, hcount, hsteps⟩ := verify_eq_nil_iff.1 hr
  constructor
  · intro hv
    obtain ⟨-, replay', log'', -, -, he', -, -, hsteps'⟩ := verify_eq_nil_iff.1 hv
    obtain ⟨rfl, rfl⟩ := Prod.mk.inj (Except.ok.inj (he.symm.trans he'))
    have hlength := congrArg List.length (hsteps'.trans hsteps.symm)
    rw [RunResult.stepHashes, RunResult.stepHashes, List.length_map, List.length_map] at hlength
    exact (hl.filter _).eq_of_length hlength
  · intro hsame
    obtain ⟨verdict, hverdict, hdefect⟩ := verify_sublist h hl
    refine verify_eq_nil_iff.2 ⟨verdict, replay, log', hverdict,
      Option.isNone_iff_eq_none.2 hdefect, he, hfinal, hcount, Eq.trans ?_ hsteps⟩
    exact congrArg (List.map Entry.hash) hsame

/-- What verification of a claimed result tells. It verifies exactly if its ledger does and a replay
gives its final hash, its number of violations and the hashes of its steps. A state of that hash is
then the state of the replay; and entries that are left out of an honest result are missed exactly
if one of them is a step. -/
theorem verify_vouches (setup : Setup) (run : Seed) (initial : Value) (claimed : Claimed) :
    (setup.verify run initial claimed = .ok [] ↔
      ∃ verdict replay log, claimed.ledger.verify = .ok verdict ∧ verdict.valid = true ∧
        setup.execute run initial = .ok (replay, log) ∧
        claimed.finalHash = .str replay.proof.finalHash ∧
        claimed.violations.isCount replay.proof.violations = true ∧
        RunResult.stepHashes claimed.ledger = RunResult.stepHashes replay.ledger) ∧
    (setup.verify run initial claimed = .ok [] →
      ∀ d : String, claimed.state.contentHash = .ok d → claimed.finalHash = .str d →
      ∃ replay log, setup.execute run initial = .ok (replay, log) ∧
        (Sha256.Separates [claimed.state, replay.state] →
          claimed.state.spelled.Alike replay.state.spelled ∧
          (claimed.state.isData = true → replay.state.isData = true →
            claimed.state.Alike replay.state))) ∧
    ∀ (setup' : Setup) (run' : Seed) (v : Value) (r : RunResult) (log : List LogLine) (l : Ledger),
      setup'.execute run' v = .ok (r, log) → setup.verify run initial r.claimed = .ok [] →
      l.Sublist r.ledger →
      (setup.verify run initial { r.claimed with ledger := l } = .ok [] ↔
        l.steps = r.ledger.steps) := by
  refine ⟨?_, fun hv d hd hfinal => ?_, fun setup' run' v r log l h hr hl =>
    verify_sublist_iff h hr hl⟩
  · rw [verify_eq_nil_iff]
    constructor
    · rintro ⟨verdict, replay, log, hverdict, hvalid, he, hm⟩
      exact ⟨verdict, replay, log, hverdict, hvalid, he, hm.finalHash, hm.violations, hm.steps⟩
    · rintro ⟨verdict, replay, log, hverdict, hvalid, he, hfinal, hcount, hsteps⟩
      exact ⟨verdict, replay, log, hverdict, hvalid, he, hfinal, hcount, hsteps⟩
  · obtain ⟨verdict, replay, log, -, -, he, hm⟩ := verify_eq_nil_iff.1 hv
    refine ⟨replay, log, he, fun hsha => ?_⟩
    have halike := alike_of_matches he hm hd hfinal hsha
    refine ⟨halike, fun hc hr => ?_⟩
    rwa [Value.spelled_of_isData hc, Value.spelled_of_isData hr] at halike

/-- The ledger of two steps still verifies without its last entry, which is one of a violation, but
not without entries of steps. -/
theorem sample_vouches :
    ∃ r log, sample.execute ⟨[]⟩ (.map []) = .ok (r, log) ∧
      sample.verify ⟨[]⟩ (.map []) r.claimed = .ok [] ∧ r.claimed.state.Alike r.state ∧
      sample.verify ⟨[]⟩ (.map []) { r.claimed with ledger := r.ledger.dropLast } = .ok [] ∧
      sample.verify ⟨[]⟩ (.map []) { r.claimed with ledger := [] } ≠ .ok [] := by
  obtain ⟨r, log, h, hr⟩ := exists_run sample ⟨[]⟩ (.map [])
    (fun r => r.state.isData && (!r.ledger.steps.isEmpty &&
      r.ledger.getLast?.any Entry.isViolation)) (by decide +kernel)
  rw [Bool.and_eq_true, Bool.and_eq_true, Bool.not_eq_true', List.isEmpty_eq_false_iff,
    Option.any_eq_true] at hr
  obtain ⟨hdata, hsteps, e, he, hviolation⟩ := hr
  have hv := verify_of_replay h h rfl rfl rfl
  obtain ⟨-, hstate, hledger⟩ := verify_vouches sample ⟨[]⟩ (.map []) r.claimed
  obtain ⟨replay, log', he', halike⟩ := hstate hv _ (contentHash_state h) rfl
  obtain ⟨rfl, rfl⟩ := Prod.mk.inj (Except.ok.inj (h.symm.trans he'))
  have hsha : Sha256.Separates [r.claimed.state, r.state] :=
    Sha256.separates_of_canonicalText (v := r.state) (by simp [RunResult.claimed])
  refine ⟨r, log, h, hv, (halike hsha).2 hdata hdata, ?_, fun hempty => ?_⟩
  · refine (hledger sample ⟨[]⟩ (.map []) r log _ h hv (List.dropLast_sublist _)).2 ?_
    have hlast : r.ledger = r.ledger.dropLast ++ [e] :=
      (List.dropLast_append_getLast? e he).symm
    rw [hlast, Ledger.steps, Ledger.steps, List.filter_append, List.dropLast_concat,
      List.filter_cons_of_neg (by simpa using hviolation), List.filter_nil, List.append_nil]
  · exact hsteps
      ((hledger sample ⟨[]⟩ (.map []) r log _ h hv (List.nil_sublist _)).1 hempty).symm

/-- A result verifies with another state, with other numbers of ticks and entries, and without any
entry of a violation. -/
theorem verify_forged :
    let v := Value.map [("a", .int 1)]
    ∃ r log, sample.execute ⟨[]⟩ v = .ok (r, log) ∧
      let forged : Claimed := { r.claimed with
        state := .map []
        ticks := .int 7
        ledgerEntries := .int 9
        ledger := r.ledger.steps }
      sample.verify ⟨[]⟩ v forged = .ok [] ∧ ¬forged.state.Alike r.state ∧
      forged.ticks ≠ .nat r.proof.ticks ∧ forged.ledgerEntries ≠ .nat r.proof.ledgerEntries ∧
      forged.ledger.countP Entry.isViolation < r.proof.violations ∧
      sample.verify ⟨[]⟩ v { r.claimed with ledger := r.ledger.steps } = .ok [] ∧
      r.ledger.steps.length < r.ledger.length := by
  intro v
  obtain ⟨r, log, h, hr⟩ := exists_run sample ⟨[]⟩ v
    (fun r => (r.state.field? "a").isSome && r.proof.ticks != 7 && r.proof.ledgerEntries != 9 &&
      decide (r.ledger.steps.countP Entry.isViolation < r.proof.violations) &&
      decide (r.ledger.steps.length < r.ledger.length)) (by decide +kernel)
  simp only [Bool.and_eq_true, bne_iff_ne, decide_eq_true_eq] at hr
  obtain ⟨⟨⟨⟨hresult, hticks⟩, hentries⟩, hviolations⟩, hlength⟩ := hr
  have hv := verify_of_replay h h rfl rfl rfl
  have hsteps : r.ledger.steps.steps = r.ledger.steps := by simp [Ledger.steps]
  have hdropped := (verify_sublist_iff h hv List.filter_sublist).2 hsteps
  have hnat {m n : Nat} (hne : n ≠ m) : Value.int m ≠ .nat n := fun he =>
    hne (Int.ofNat.inj (Number.int.inj (Value.num.inj he))).symm
  refine ⟨r, log, h, hdropped, fun halike => ?_, hnat hticks, hnat hentries, hviolations, hdropped,
    hlength⟩
  cases hs : r.state with
  | map fs =>
    rw [hs, Value.alike_map] at halike
    obtain ⟨gs, hgs, hperm⟩ := halike
    rw [List.forall₂_nil_left_iff.1 hgs] at hperm
    rw [hs, List.nil_perm.1 hperm] at hresult
    cases hresult
  | _ =>
    rw [hs] at hresult
    cases hresult

end Setup
end RuleLedger
