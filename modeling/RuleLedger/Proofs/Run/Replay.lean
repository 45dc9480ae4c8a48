import RuleLedger.Proofs.Ledger.Intact
import RuleLedger.Proofs.Run.Blocks
import RuleLedger.Proofs.Value.Spelled
import RuleLedger.Run.Verification

/-! Verification by replay. Main statement: a result without mismatches has the step payloads of the
replay, up to the order of keys and as they are spelled, as long as SHA-256 has no collision among
them. -/
namespace RuleLedger

/-- The payloads of the steps of a ledger in their order. -/
def Ledger.stepPayloads (l : Ledger) : List Value := l.steps.map Entry.payload

/-- No two canonical texts of these values have one digest. -/
def Sha256.Separates (vs : List Value) : Prop :=
  ∀ v ∈ vs, ∀ w ∈ vs, ∀ s t, v.canonicalText = .ok s → w.canonicalText = .ok t →
    Sha256.hexDigest s = Sha256.hexDigest t → s = t

/-! ### The ledger as recorded -/

theorem verifyFrom_valid {l : List Entry} {checked : Nat} {last : Value} {v : Verdict}
    (h : verifyFrom .ok checked last l = .ok v) (hv : v.defect = none) :
    ∀ e ∈ l, ∃ d : String, e.payload.contentHash = .ok d ∧ e.hash = .str d := by
  induction l generalizing checked last with
  | nil => exact nofun
  | cons e l ih =>
    unfold verifyFrom at h
    dsimp only at h
    split at h
    · cases h
    · obtain rfl := Except.ok.inj h
      cases hv
    · rename_i hd
      exact List.forall_mem_cons.2 ⟨Entry.hash_of_defect? hd, ih h⟩

/-! ### Comparison -/

theorem sameHash_iff {a b : Value} : sameHash a b = true ↔ ∃ t, a = .str t ∧ b = .str t := by
  cases b <;> simp [sameHash, Value.isText_iff]

theorem firstDifference_eq_none {n : Nat} {as bs : List Value} (hl : as.length = bs.length)
    (h : firstDifference n as bs = none) :
    List.Forall₂ (fun a b => sameHash a b = true) as bs := by
  induction as generalizing n bs with
  | nil =>
    rw [List.length_eq_zero_iff.1 hl.symm]
    exact .nil
  | cons a as ih =>
    cases bs with
    | nil => cases hl
    | cons b bs =>
      rw [firstDifference] at h
      split_ifs at h with hs
      exact .cons hs (ih (Nat.succ.inj hl) h)

theorem compareReplay_eq_nil {verdict : Verdict} {claimed : Claimed} {replay : RunResult}
    (h : compareReplay verdict claimed replay = []) :
    verdict.defect = none ∧
      List.Forall₂ (fun e e' => sameHash e.hash e'.hash = true) claimed.ledger.steps
        replay.ledger.steps := by
  simp only [compareReplay, List.append_eq_nil_iff, Option.toList_eq_nil_iff,
    Option.map_eq_none_iff] at h
  obtain ⟨⟨⟨⟨hd, -⟩, -⟩, hl⟩, hf⟩ := h
  have hlength : (RunResult.stepHashes claimed.ledger).length =
      (RunResult.stepHashes replay.ledger).length := by
    by_contra hn
    rw [if_neg hn] at hl
    cases hl
  have hp := firstDifference_eq_none hlength hf
  exact ⟨hd, List.forall₂_map_left_iff.1 (List.forall₂_map_right_iff.1 hp)⟩

variable {setup : Setup} {seed : Seed} {initial : Value} {claimed : Claimed}

theorem Setup.verify_eq_nil (h : setup.verify seed initial claimed = .ok []) :
    ∃ verdict replay log, claimed.ledger.verify = .ok verdict ∧
      setup.execute seed initial = .ok (replay, log) ∧
      compareReplay verdict claimed replay = [] := by
  rw [verify, bind_eq_ok] at h
  obtain ⟨verdict, hverdict, h⟩ := h
  split at h
  · cases h
  · rename_i replay log he
    exact ⟨verdict, replay, log, hverdict, he, pure_eq_ok.1 h⟩

/-- Payloads of one digest are alike as they are spelled. -/
theorem alike_of_contentHash_eq {vs : List Value} (hs : Sha256.Separates vs) {v w : Value}
    (hv : v ∈ vs) (hw : w ∈ vs) {d : String} (hd : v.contentHash = .ok d)
    (hd' : w.contentHash = .ok d) : v.spelled.Alike w.spelled := by
  rw [Value.contentHash, map_eq_ok] at hd hd'
  obtain ⟨s, hs', rfl⟩ := hd
  obtain ⟨t, ht, he⟩ := hd'
  obtain rfl := hs v hv w hw s t hs' ht he.symm
  exact Value.alike_of_canonicalText_eq hs' ht

/-- A result that verifies has the step payloads of the replay in their order, up to the order of
keys and with every callable counted as the text that shows it; payloads without callables are
alike as they are. -/
theorem Setup.verify_sound (h : setup.verify seed initial claimed = .ok []) :
    ∃ replay log, setup.execute seed initial = .ok (replay, log) ∧
      (Sha256.Separates (claimed.ledger.stepPayloads ++ replay.ledger.stepPayloads) →
        List.Forall₂ (fun v w => v.spelled.Alike w.spelled) claimed.ledger.stepPayloads
          replay.ledger.stepPayloads ∧
        ((∀ v ∈ claimed.ledger.stepPayloads ++ replay.ledger.stepPayloads, v.isData = true) →
          List.Forall₂ Value.Alike claimed.ledger.stepPayloads replay.ledger.stepPayloads)) := by
  obtain ⟨verdict, replay, log, hverdict, he, hcompare⟩ := verify_eq_nil h
  obtain ⟨hdefect, hsame⟩ := compareReplay_eq_nil hcompare
  refine ⟨replay, log, he, fun hsha => ?_⟩
  have hrecorded := verifyFrom_valid hverdict hdefect
  have hreplayed := execute_hashes he
  have halike : List.Forall₂ (fun v w => v.spelled.Alike w.spelled) claimed.ledger.stepPayloads
      replay.ledger.stepPayloads := by
    refine List.forall₂_map_left_iff.2 (List.forall₂_map_right_iff.2 ?_)
    refine forall₂_of_mem (fun e hm e' hm' hs => ?_) hsame
    obtain ⟨d, hd, hh⟩ := hrecorded e (List.mem_of_mem_filter hm)
    obtain ⟨d', hd', hh'⟩ := hreplayed e' (List.mem_of_mem_filter hm')
    obtain ⟨t, ht, ht'⟩ := sameHash_iff.1 hs
    have hdd : d = d' := by
      rw [hh] at ht
      rw [hh'] at ht'
      exact Text.ofString_inj.1 (Value.str.inj (ht.trans ht'.symm))
    subst hdd
    exact alike_of_contentHash_eq hsha (List.mem_append_left _ (List.mem_map_of_mem hm))
      (List.mem_append_right _ (List.mem_map_of_mem hm')) hd hd'
  refine ⟨halike, fun hdata => forall₂_of_mem (fun v hv w hw hvw => ?_) halike⟩
  rwa [Value.spelled_of_isData (hdata v (List.mem_append_left _ hv)),
    Value.spelled_of_isData (hdata w (List.mem_append_right _ hw))] at hvw

/-! ### Altered payloads -/

/-- The result with one payload in every entry. -/
def Claimed.withPayload (c : Claimed) (v : Value) : Claimed :=
  { c with ledger := c.ledger.map fun e => { e with payload := v } }

theorem Claimed.eq_of_mem_withPayload {c : Claimed} {v w : Value}
    (h : w ∈ (c.withPayload v).ledger.stepPayloads) : w = v := by
  obtain ⟨e, he, rfl⟩ := List.mem_map.1 h
  obtain ⟨e', -, rfl⟩ := List.mem_map.1 (List.mem_of_mem_filter he)
  rfl

theorem Sha256.separates_of_canonicalText {vs : List Value} {v : Value}
    (h : ∀ w ∈ vs, w.canonicalText.toOption = v.canonicalText.toOption) : Separates vs := by
  intro u hu w hw s t hs ht _
  have hst := (h u hu).trans (h w hw).symm
  rw [hs, ht] at hst
  exact Option.some.inj hst

namespace Setup

/-- A run of one step that evaluates an expression. -/
def evaluating (expression : Text) : Setup where
  plan :=
    { steps := [⟨"one", "EXPRESSION_EVALUATOR", [], [], [("expression", .str expression)]⟩]
      metadata := []
      contracts := [] }
  registry := Registry.builtin
  bindings := []
  checks := Checks.builtin
  options := ⟨false, true, .quiet⟩
  clock := ⟨0⟩

/-- Whether a result still verifies with another payload, and whether that payload has the canonical
text of the one in the replay. -/
def accepts (setup : Setup) (v : Value) (r : RunResult) : Bool :=
  let c := r.claimed.withPayload v
  (setup.verify ⟨[]⟩ (.map []) c).toOption.map List.length == some 0 &&
    (c.ledger.stepPayloads ++ r.ledger.stepPayloads).all fun w =>
      w.canonicalText.toOption == v.canonicalText.toOption

theorem accepts_iff {v : Value} {r : RunResult} :
    setup.accepts v r = true ↔
      setup.verify ⟨[]⟩ (.map []) (r.claimed.withPayload v) = .ok [] ∧
        ∀ w ∈ (r.claimed.withPayload v).ledger.stepPayloads ++ r.ledger.stepPayloads,
          w.canonicalText.toOption = v.canonicalText.toOption := by
  rw [accepts, Bool.and_eq_true, List.all_eq_true, beq_iff_eq]
  simp only [beq_iff_eq]
  cases setup.verify ⟨[]⟩ (.map []) (r.claimed.withPayload v) <;> simp [Except.toOption]

/-- The payload that such a run leaves. -/
def evaluated (expression : Text) (value : Value) : Value :=
  Entry.stepPayload (.map [("expression", .str expression)]) (.map [("value", value)])

/-- A namespace of helpers is written as a text, and a result with the text in its place verifies:
its payloads are not those of the replay up to the order of keys alone. -/
theorem verify_helper_as_text :
    let v := evaluated "[Math]" (.list [.str "<namespace Math>"])
    ∃ replay log, (evaluating "[Math]").execute ⟨[]⟩ (.map []) = .ok (replay, log) ∧
      (evaluating "[Math]").verify ⟨[]⟩ (.map []) (replay.claimed.withPayload v) = .ok [] ∧
      Sha256.Separates ((replay.claimed.withPayload v).ledger.stepPayloads ++
        replay.ledger.stepPayloads) ∧
      ¬List.Forall₂ Value.Alike (replay.claimed.withPayload v).ledger.stepPayloads
        replay.ledger.stepPayloads := by
  intro v
  obtain ⟨r, log, he, hp⟩ := exists_run (evaluating "[Math]") ⟨[]⟩ (.map [])
    (fun r => (evaluating "[Math]").accepts v r &&
      r.ledger.stepPayloads.any fun w => !w.isData) (by decide +kernel)
  rw [Bool.and_eq_true, accepts_iff, List.any_eq_true] at hp
  obtain ⟨⟨hverify, htexts⟩, w, hw, hdata⟩ := hp
  refine ⟨r, log, he, hverify, Sha256.separates_of_canonicalText htexts, fun ha => ?_⟩
  obtain ⟨u, hu, huw⟩ := exists_of_mem_right ha hw
  have hw' : w.isData = true := by
    rw [Claimed.eq_of_mem_withPayload hu] at huw
    exact Value.isData_of_alike huw rfl
  rw [hw'] at hdata
  cases hdata

/-- A result whose payload has its keys in another order. -/
theorem verify_reordered :
    let v := Value.map [("output", .map [("value", .int 1)]),
      ("input", .map [("expression", .str "1")])]
    ∃ replay log, (evaluating "1").execute ⟨[]⟩ (.map []) = .ok (replay, log) ∧
      (evaluating "1").verify ⟨[]⟩ (.map []) (replay.claimed.withPayload v) = .ok [] ∧
      List.Forall₂ Value.Alike (replay.claimed.withPayload v).ledger.stepPayloads
        replay.ledger.stepPayloads := by
  intro v
  obtain ⟨r, log, he, hp⟩ := exists_run (evaluating "1") ⟨[]⟩ (.map [])
    (fun r => (evaluating "1").accepts v r && r.ledger.stepPayloads.all Value.isData)
    (by decide +kernel)
  rw [Bool.and_eq_true, accepts_iff, List.all_eq_true] at hp
  obtain ⟨⟨hverify, htexts⟩, hdata⟩ := hp
  obtain ⟨replay, log', he', hsound⟩ := verify_sound hverify
  obtain ⟨rfl, rfl⟩ := Prod.mk.inj (Except.ok.inj (he.symm.trans he'))
  obtain ⟨-, halike⟩ := hsound (Sha256.separates_of_canonicalText htexts)
  refine ⟨r, log, he, hverify, halike fun w hw => ?_⟩
  rcases List.mem_append.1 hw with hw | hw
  · rw [Claimed.eq_of_mem_withPayload hw]
    rfl
  · exact hdata w hw

end Setup
end RuleLedger
