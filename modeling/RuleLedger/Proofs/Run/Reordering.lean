import Mathlib.Data.List.Sort
import RuleLedger.Proofs.Run.Execution

/-! What verification of a ledger tells. Main statement: a ledger is valid exactly when it is
intact; of any other the verdict gives the length of the longest start that verifies and the first
check that the entry behind it fails. The ledger of a run may be reordered only within its ticks. -/
namespace RuleLedger

/-! ### Ledgers of runs -/

namespace Setup

variable {setup : Setup} {run : Seed} {initial : Value} {r : RunResult} {log : List LogLine}
  {l : Ledger}

/-- The ticks of a run as integers tell them. -/
theorem ticks_of_mem (h : setup.execute run initial = .ok (r, log)) (hl : ∀ e ∈ l, e ∈ r.ledger) :
    l.map Entry.tick = ((l.map Presented.entry).map Presented.number).map Value.int := by
  rw [List.map_map, List.map_map]
  refine List.map_congr_left fun e he => ?_
  obtain ⟨n, hn⟩ := execute_ticks h e (hl e he)
  rw [Function.comp_apply, Function.comp_apply, Presented.number, Presented.tick, hn]
  rfl

/-- Entries of a run are intact in another order exactly if their ticks come in the same order. -/
theorem intact_perm_iff (h : setup.execute run initial = .ok (r, log)) (hl : l.Perm r.ledger) :
    Presented.Intact (l.map .entry) ↔ l.map Entry.tick = r.ledger.map Entry.tick := by
  obtain ⟨hentries, hsealed, hordered⟩ := execute_intact h
  have hnumbers : ((l.map Presented.entry).map Presented.number).Perm
      ((r.ledger.map Presented.entry).map Presented.number) := (hl.map _).map _
  rw [ticks_of_mem h fun e he => hl.mem_iff.1 he, ticks_of_mem h fun e he => he]
  constructor
  · intro hi
    have hsame := hnumbers.eq_of_pairwise (fun (a b : Int) _ _ => Int.le_antisymm)
      (List.pairwise_cons.1 hi.ordered).2 (List.pairwise_cons.1 hordered).2
    rw [hsame]
  · intro he
    have hsame := List.map_injective_iff.2 (fun a b hab => Number.int.inj (Value.num.inj hab)) he
    refine ⟨fun x hx => hentries x ((hl.map _).mem_iff.1 hx),
      fun x hx => hsealed x ((hl.map _).mem_iff.1 hx), ?_⟩
    rwa [hsame]

end Setup

namespace Presented

/-! ### Verdicts -/

/-- Entries with integers for ticks are valid exactly when they are intact, and then all of them
have been checked. Otherwise, with payloads and ticks that can be written, the verdict is about the
entry behind the longest start that verifies and gives the first check that it fails; such verdicts
are the ones that strict verification refuses. So a run's own entries, stored in another order, are
valid exactly when their ticks come in the same order. -/
theorem verify_exact (xs : List Presented) (hx : ∀ x ∈ xs, x.tick.tickInt?.isSome = true) :
    ((∃ v, verify xs = .ok v ∧ v.valid = true) ↔ Intact xs) ∧
    (Intact xs → verify xs = .ok ⟨xs.length, none⟩) ∧
    ((∀ x ∈ xs, x.payload.all Value.isSayable = true) →
      (∀ x ∈ xs, x.number.natAbs < 10 ^ digitLimit) →
      ((∃ n message, (verify xs >>= Verdict.demand) = .error (.integrity n message)) ↔
        ¬Intact xs) ∧
      (¬Intact xs → ∃ before x after d, xs = before ++ x :: after ∧
        Fails (lastTick (.int 0) before) x d ∧
        IsGreatest {n | n ≤ xs.length ∧ ∃ v, verify (xs.take n) = .ok v ∧ v.valid = true}
          before.length ∧
        verify xs = .ok ⟨before.length, some d⟩ ∧
        Verdict.toValue ⟨before.length, some d⟩ =
          .map [("valid", .bool false), ("checked", .nat before.length),
            ("error", .str d.message), ("mismatchIndex", .nat before.length),
            ("expected", d.expected), ("actual", d.actual)] ∧
        (verify xs >>= Verdict.demand) = .error (.integrity before.length d.message))) ∧
    ∀ (setup : Setup) (run : Seed) (initial : Value) (r : RunResult) (log : List LogLine)
      (l : Ledger), setup.execute run initial = .ok (r, log) → l.Perm r.ledger →
      ((∃ v, verifyDocument l.toValue = .ok v ∧ v.valid = true) ↔
        l.map Entry.tick = r.ledger.map Entry.tick) := by
  have hvalid {ys : List Presented} (hy : ∀ y ∈ ys, y.tick.tickInt?.isSome = true) :
      (∃ v, verify ys = .ok v ∧ v.valid = true) ↔ Intact ys := verifyFrom_valid_iff hy rfl
  have hintact (hi : Intact xs) : verify xs = .ok ⟨xs.length, none⟩ := by
    rw [verify, verifyFrom_intact hx rfl hi, Nat.zero_add]
  refine ⟨hvalid hx, hintact, fun hpayload hnumber => ?_, fun setup run initial r log l h hl => ?_⟩
  · have hzero : ∃ s, (Value.int 0).plain = .ok s :=
      Value.plain_of_tickInt? rfl (Nat.pow_pos (by decide))
    have hplain : ∀ x ∈ xs, ∃ t, x.tick.plain = .ok t := fun x hm =>
      Value.plain_of_tickInt? (tickInt?_number (hx x hm)) (hnumber x hm)
    have hfails (hnot : ¬Intact xs) : ∃ before x after d, xs = before ++ x :: after ∧
        Fails (lastTick (.int 0) before) x d ∧
        IsGreatest {n | n ≤ xs.length ∧ ∃ v, verify (xs.take n) = .ok v ∧ v.valid = true}
          before.length ∧ verify xs = .ok ⟨before.length, some d⟩ := by
      obtain ⟨before, x, after, d, hxs, hv, hbefore, hd, hspoilt⟩ :=
        verifyFrom_not_intact 0 hx rfl hpayload hzero hplain hnot
      have htake (n : Nat) : (∃ v, verify (xs.take n) = .ok v ∧ v.valid = true) ↔
          Intact (xs.take n) := hvalid fun y hy => hx y (List.mem_of_mem_take hy)
      rw [Nat.zero_add] at hv
      refine ⟨before, x, after, d, hxs, hd, ?_, hv⟩
      simp only [htake]
      rw [hxs]
      exact isGreatest_intact hbefore hspoilt
    refine ⟨⟨?_, fun hnot => ?_⟩, fun hnot => ?_⟩
    · rintro ⟨n, message, hstrict⟩ hi
      rw [hintact hi] at hstrict
      cases hstrict
    · obtain ⟨before, x, after, d, -, -, -, hv⟩ := hfails hnot
      exact ⟨before.length, d.message, by rw [hv]; rfl⟩
    · obtain ⟨before, x, after, d, hxs, hd, hgreatest, hv⟩ := hfails hnot
      exact ⟨before, x, after, d, hxs, hd, hgreatest, hv, rfl, by rw [hv]; rfl⟩
  · have hticks : ∀ y ∈ l.map entry, y.tick.tickInt?.isSome = true :=
      List.forall_mem_map.2 fun e he => Setup.tickInt?_of_mem h (hl.mem_iff.1 he)
    have hdocument : verifyDocument l.toValue = l.verify :=
      verifyFrom_map (fun _ => rfl) 0 (.int 0) l
    rw [← Setup.intact_perm_iff h hl, ← hvalid hticks, hdocument, verify_entries]

/-- A document of an entry without payload and tick. -/
def bare : Value :=
  .map [("id", .str "one"), ("operation", .str "NOPE"),
    ("hash", .str "44136fa355b3678a1146ad16f7e8649e94fb4fc21fe77e8310c060f61caaff8a")]

/-- Behind an entry stands another one without a hash; and the ledger of a run of two steps does
not verify backwards. -/
theorem verify_spoilt :
    let xs := [document bare, document (.map [("id", .str "two"), ("operation", .str "NOPE")])]
    (∃ d, verify xs = .ok ⟨1, some d⟩ ∧ ¬xs[1].IsEntry ∧
      (verify xs >>= Verdict.demand) = .error (.integrity 1 d.message)) ∧
    IsGreatest {n | n ≤ 2 ∧ ∃ v, verify (xs.take n) = .ok v ∧ v.valid = true} 1 ∧
    ∃ r log, Setup.sample.execute ⟨[]⟩ (.map []) = .ok (r, log) ∧
      ¬∃ v, verifyDocument (Ledger.toValue r.ledger.reverse) = .ok v ∧ v.valid = true := by
  intro xs
  obtain ⟨hvalid, -, hinvalid, hrun⟩ := verify_exact xs (by decide)
  obtain ⟨v, hv, hchecked⟩ := exists_ok (fun v => v.checked == 1 && !v.valid)
    (x := verify xs) (by decide +kernel)
  rw [Bool.and_eq_true, beq_iff_eq, Bool.not_eq_true'] at hchecked
  have hnot : ¬Intact xs := fun hi => by
    obtain ⟨w, hw, hwvalid⟩ := hvalid.2 hi
    rw [Except.ok.inj (hw.symm.trans hv), hchecked.2] at hwvalid
    cases hwvalid
  have hzero : ∀ x ∈ xs, x.number.natAbs = 0 := by decide
  obtain ⟨-, hfails⟩ := hinvalid (by decide) fun x hx =>
    Nat.lt_of_le_of_lt (Nat.le_of_eq (hzero x hx)) (Nat.pow_pos (by decide))
  obtain ⟨before, x, after, d, hxs, hd, hgreatest, hverify, -, hstrict⟩ := hfails hnot
  have hlength : before.length = 1 := by
    rw [Except.ok.inj (hv.symm.trans hverify)] at hchecked
    exact hchecked.1
  rw [hlength] at hgreatest hverify hstrict
  obtain ⟨r, log, he, hticks⟩ := Setup.exists_run Setup.sample ⟨[]⟩ (.map [])
    (fun r => r.ledger.reverse.map (fun e => e.tick.tickInt?) !=
      r.ledger.map fun e => e.tick.tickInt?) (by decide +kernel)
  refine ⟨⟨d, hverify, ?_, hstrict⟩, hgreatest, r, log, he, ?_⟩
  · rintro ⟨fs, hfs, hkeys⟩
    obtain rfl := Value.map.inj hfs
    exact absurd (hkeys "hash" (by decide)) (by decide)
  · rw [hrun Setup.sample ⟨[]⟩ (.map []) r log _ he (List.reverse_perm _)]
    intro hsame
    have h := congrArg (List.map Value.tickInt?) hsame
    rw [List.map_map, List.map_map] at h
    rw [bne_iff_ne] at hticks
    exact hticks h

end Presented
end RuleLedger
