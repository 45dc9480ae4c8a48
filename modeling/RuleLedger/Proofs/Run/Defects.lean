import RuleLedger.Proofs.Primitive.Answers
import RuleLedger.Proofs.Run.Step

/-! What goes wrong with a call and what is recorded for it. Main statement: a call of a built-in
primitive is recorded as a violation once if it is defective, and not at all otherwise; all else
that a step records comes from writing the output and from the bound checks. -/
namespace RuleLedger

/-- What the checks on every output report. -/
def Output.reports (o : Output) : List Text := syntheticViolations o ++ structuralViolations o

/-- An answer that has something wrong with it: a fault, an error, a flag, or a score that is no
number. -/
inductive Answer.Defective : Answer → Prop
  | raised (f : Fault) : Defective (.raised f)
  | failed {o : Output} : o.isFailed = true → Defective (.output o)
  | flagged {o : Output} : o.isFlagged = true → Defective (.output o)
  | undefinedScore {o : Output} {d : Datum} : Fields.get? o.rendered Score.field = some d →
      d.value.isNaN = true → Defective (.output o)

/-- An output with fields whose error comes without a score. -/
structure Output.Tidy (o : Output) : Prop where
  rendered : o.rendered ≠ []
  failed : o.isFailed = true → Fields.get? o.rendered Score.field = none

/-- A fault, or an output that is tidy. -/
inductive Answer.Tidy : Answer → Prop
  | raised (f : Fault) : Tidy (.raised f)
  | output {o : Output} : o.Tidy → Tidy (.output o)

variable {o : Output}

/-! ### Reports -/

namespace Output

/-- Whether there is a score that is no number. -/
def hasNaNScore (o : Output) : Bool :=
  (Fields.get? o.rendered Score.field).any fun d => d.value.isNaN

theorem structuralViolations_eq (h : o.rendered ≠ []) : structuralViolations o =
    (if o.hasNaNScore && !o.isFlagged then some ("NaN normalized_score detected" : Text)
      else none).toList ++
    (match o with
      | .failed error _ => some ("Primitive error: " ++ error.shown)
      | _ => none).toList := by
  have hscore : ((Fields.get? o.rendered Score.field).map fun l => l.value.isNaN).getD false =
      o.hasNaNScore := by
    rw [hasNaNScore]
    cases Fields.get? o.rendered Score.field <;> rfl
  have hempty : o.rendered.isEmpty = false := List.isEmpty_eq_false_iff.2 h
  unfold structuralViolations
  rw [hscore, hempty]
  dsimp only
  generalize (o.hasNaNScore && !o.isFlagged) = nan
  cases nan <;> cases o <;> rfl

theorem tidy_completed (f : Text × Datum) (fs : Fields Datum) : (completed (f :: fs)).Tidy :=
  ⟨List.cons_ne_nil f fs, fun h => absurd h Bool.false_ne_true⟩

theorem tidy_skipped (reason : Value) (fs : Fields Datum) : (skipped reason fs).Tidy :=
  ⟨Fields.putAll_ne_nil (List.cons_ne_nil _ _) fs, fun h => absurd h Bool.false_ne_true⟩

theorem tidy_flagged (violation : Value) (fs : Fields Datum) : (flagged violation fs).Tidy :=
  ⟨Fields.put_ne_nil fs _ _, fun h => absurd h Bool.false_ne_true⟩

theorem tidy_failed {error : Value} {fs : Fields Datum}
    (h : Fields.get? (failed error fs).rendered Score.field = none) : (failed error fs).Tidy :=
  ⟨Fields.putAll_ne_nil (List.cons_ne_nil _ _) fs, fun _ => h⟩

/-- A tidy output is reported once or not at all. -/
theorem Tidy.length_reports (h : o.Tidy) :
    o.reports.length = if o.isFailed || o.isFlagged || o.hasNaNScore then 1 else 0 := by
  rw [reports, structuralViolations_eq h.rendered]
  cases o with
  | failed error fs =>
    rw [hasNaNScore, h.failed rfl]
    rfl
  | completed fs | skipped reason fs | flagged violation fs =>
    generalize hasNaNScore _ = nan
    cases nan <;> rfl

end Output

namespace Answer

theorem defective_output_iff :
    Defective (.output o) ↔ (o.isFailed || o.isFlagged || o.hasNaNScore) = true := by
  rw [Output.hasNaNScore, Bool.or_eq_true, Bool.or_eq_true, Option.any_eq_true]
  constructor
  · rintro (_ | hfailed | hflagged | ⟨hd, hnan⟩)
    · exact .inl (.inl hfailed)
    · exact .inl (.inr hflagged)
    · exact .inr ⟨_, hd, hnan⟩
  · rintro ((hfailed | hflagged) | ⟨d, hd, hnan⟩)
    · exact .failed hfailed
    · exact .flagged hflagged
    · exact .undefinedScore hd hnan

/-- What a call is reported for, at most once, and exactly if it is defective. -/
theorem Tidy.length_reports {a : Answer} (h : a.Tidy) (primitive : Text) :
    (RunState.settle primitive a).reports.length ≤ 1 ∧
      ((RunState.settle primitive a).reports.length = 1 ↔ a.Defective) := by
  cases h with
  | raised f =>
    have htidy : (RunState.settle primitive (.raised f)).Tidy := Output.tidy_failed rfl
    have hlength : (RunState.settle primitive (.raised f)).reports.length = 1 :=
      htidy.length_reports
    exact ⟨hlength.le, fun _ => .raised f, fun _ => hlength⟩
  | @output o ho =>
    rw [RunState.settle, ho.length_reports, defective_output_iff]
    split_ifs with h
    · exact ⟨Nat.le_refl 1, fun _ => h, fun _ => rfl⟩
    · exact ⟨Nat.zero_le 1, nofun, fun h' => absurd h' h⟩

end Answer

/-! ### Primitives -/

theorem conditionEvaluator_tidy (c : Call) : (conditionEvaluator c).answer.Tidy := by
  rw [conditionEvaluator]
  split
  · exact .output (Output.tidy_completed _ _)
  · split_ifs
    · exact .output (Output.tidy_failed rfl)
    · exact .raised _

theorem expressionEvaluator_tidy (c : Call) : (expressionEvaluator c).answer.Tidy := by
  rw [expressionEvaluator]
  split
  · split_ifs
    · exact .output (Output.tidy_flagged _ _)
    · exact .output (Output.tidy_completed _ _)
  · split_ifs
    · exact .output (Output.tidy_failed rfl)
    · exact .raised _

theorem stateMutator_tidy (c : Call) : (stateMutator c).answer.Tidy := by
  rw [stateMutator]
  dsimp only
  split
  · split_ifs
    · exact .output (Output.tidy_completed _ _)
    · exact .output (Output.tidy_flagged _ _)
    · split
      · exact .output (Output.tidy_completed _ _)
      · split
        · exact .output (Output.tidy_completed _ _)
        · exact .raised _
        · exact .output (Output.tidy_completed _ _)
  · exact .output (Output.tidy_completed _ _)

theorem compositeScorer_tidy (c : Call) : (compositeScorer c).answer.Tidy := by
  rw [compositeScorer]
  dsimp only
  split
  · exact .output (Output.tidy_flagged _ _)
  · split
    · split
      · exact .output (Output.tidy_flagged _ _)
      · split
        · split
          · exact .output (Output.tidy_failed rfl)
          · exact .raised _
        · split
          · exact .output (Output.tidy_completed _ _)
          · exact .output (Output.tidy_failed rfl)
    · exact .output (Output.tidy_failed rfl)

theorem ruleApplicator_tidy (c : Call) : (ruleApplicator c).answer.Tidy := by
  obtain ⟨o, ho, happly⟩ | ⟨f, -, -, happly⟩ | ⟨-, happly⟩ := ruleApplicator_ways c
  · rw [happly]
    cases ho with
    | disabled _ => exact .output (Output.tidy_skipped _ _)
    | unevaluated _ _ => exact .output (Output.tidy_failed rfl)
    | unmet _ => exact .output (Output.tidy_skipped _ _)
    | unmapped _ _ _ => exact .output (Output.tidy_failed rfl)
  · rw [happly]
    exact .raised f
  · rw [happly, appliedRule]
    dsimp only
    split
    · split_ifs
      · exact .output (Output.tidy_failed rfl)
      · exact .raised _
    · exact .output (Output.tidy_completed _ _)

theorem builtin_tidy {name : Text} {primitive : Primitive}
    (h : Fields.get? Registry.builtin name = some primitive) (c : Call) :
    (primitive c).answer.Tidy := by
  simp only [Registry.builtin, Fields.get?_cons, Fields.get?_nil] at h
  split_ifs at h with h₁ h₂ h₃ h₄ h₅
  · exact Option.some.inj h ▸ conditionEvaluator_tidy c
  · exact Option.some.inj h ▸ expressionEvaluator_tidy c
  · exact Option.some.inj h ▸ stateMutator_tidy c
  · exact Option.some.inj h ▸ compositeScorer_tidy c
  · exact Option.some.inj h ▸ ruleApplicator_tidy c

/-! ### Steps -/

namespace RunState

/-- What a part of a step adds to the trail. -/
def Adds (s s' : RunState) (p : Violation → Prop) : Prop :=
  ∃ vs, s'.violations = s.violations ++ vs ∧ ∀ v ∈ vs, p v

variable {s s' s'' : RunState} {p : Violation → Prop} {setup : Setup} {seed : Seed} {step : Step}
  {inputs output : Value} {rendered : Fields Datum} {clock : Clock} {primitive : Text}

theorem Adds.refl (h : s'.violations = s.violations) : s.Adds s' p :=
  ⟨[], h.trans (List.append_nil _).symm, nofun⟩

theorem Adds.trans (h : s.Adds s' p) (h' : s'.Adds s'' p) : s.Adds s'' p := by
  obtain ⟨vs, hvs, hp⟩ := h
  obtain ⟨vs', hvs', hp'⟩ := h'
  exact ⟨vs ++ vs', by rw [hvs', hvs, List.append_assoc], List.forall_mem_append.2 ⟨hp, hp'⟩⟩

theorem violate_violations {message : Text}
    (h : s.violate clock seed primitive inputs output message = .ok s') :
    ∃ v, s'.violations = s.violations ++ [v] ∧ v.message = message := by
  rw [violate, demand_eq_ok] at h
  obtain ⟨timestamp, -, h⟩ := h
  dsimp only at h
  split at h
  · cases h
  · rename_i t ht
    obtain ⟨e, -, rfl⟩ := append_eq_ok ht
    obtain rfl := Except.ok.inj h
    exact ⟨_, rfl, rfl⟩

theorem violateAll_violations {messages : List Text}
    (h : s.violateAll clock seed primitive inputs output messages = .ok s') :
    ∃ vs, s'.violations = s.violations ++ vs ∧ vs.map Violation.message = messages := by
  induction messages generalizing s with
  | nil =>
    obtain rfl := Except.ok.inj h
    exact ⟨[], (List.append_nil _).symm, rfl⟩
  | cons m ms ih =>
    unfold violateAll at h
    split at h
    · cases h
    · rename_i t ht
      obtain ⟨v, hv, rfl⟩ := violate_violations ht
      obtain ⟨vs, hvs, rfl⟩ := ih h
      exact ⟨v :: vs, by rw [hvs, hv, List.append_assoc]; rfl, rfl⟩

/-- A violation that does not come from the checks on every output. -/
def Apart (v : Violation) : Prop :=
  v.label = "Output application failed" ∨ v.label = Violation.checkLabel

theorem applyOutput_adds {field : Text}
    (h : s.applyOutput setup seed step inputs rendered field = .ok s') : s.Adds s' Apart := by
  have hfailed (t : RunState) {f : PathFault} (hsame : t.violations = s.violations)
      (ht : t.violate setup.clock seed step.primitive inputs
        (.map (Fields.mapValues Datum.value rendered))
        ("Output application failed: " ++ field ++ ": " ++ f.message) = .ok s') :
      s.Adds s' Apart := by
    obtain ⟨v, hv, hmessage⟩ := violate_violations ht
    refine ⟨[v], by rw [hv, hsame], List.forall_mem_singleton.2 (.inl ?_)⟩
    rw [Violation.label, hmessage, Violation.labelOf_outputFailed]
  rw [applyOutput] at h
  dsimp only at h
  split at h
  · exact hfailed s rfl h
  · split at h
    · obtain rfl := Except.ok.inj h
      exact .refl rfl
    · split at h
      · obtain rfl := Except.ok.inj h
        exact .refl rfl
      · rename_i r _ _
        exact hfailed { s with record := r } rfl h
      · cases h

theorem applyOutputs_adds {i : Nat} {fields : List Text}
    (h : s.applyOutputs setup seed i step inputs rendered fields = .ok s') : s.Adds s' Apart := by
  induction fields generalizing s i with
  | nil =>
    obtain rfl := Except.ok.inj h
    exact .refl rfl
  | cons field fields ih =>
    unfold applyOutputs at h
    split at h
    · cases h
    · rename_i t ht
      exact (applyOutput_adds ht).trans (ih h)

theorem runChecks_adds {checks : List Text}
    (h : s.runChecks setup seed step inputs rendered checks = .ok s') : s.Adds s' Apart := by
  induction checks generalizing s with
  | nil =>
    obtain rfl := Except.ok.inj h
    exact .refl rfl
  | cons check checks ih =>
    unfold runChecks at h
    split at h
    · cases h
    · rename_i t ht
      refine Adds.trans ?_ (ih h)
      rw [runCheck] at ht
      split at ht
      · obtain rfl := Except.ok.inj ht
        exact .refl rfl
      · obtain ⟨v, hv, hmessage⟩ := violate_violations ht
        refine ⟨[v], hv, List.forall_mem_singleton.2 (.inr ?_)⟩
        rw [Violation.label, hmessage, Violation.labelOf_checkFailed]

/-- What follows a call records its reports first. -/
theorem finishStep_violations {o : Output}
    (h : s.finishStep setup seed step inputs o = .ok s') :
    ∃ own more, s'.violations = s.violations ++ own ++ more ∧
      own.map Violation.message = o.reports ∧ ∀ v ∈ more, Apart v := by
  simp only [finishStep, bind_eq_ok, pure_eq_ok] at h
  obtain ⟨s₁, h₁, s₂, h₂, s₃, h₃, s₄, h₄, rfl⟩ := h
  obtain ⟨own, hown, hmessages⟩ := violateAll_violations h₁
  have hchecks : s₂.Adds s₃ Apart := by
    obtain ⟨vs, hvs, hp⟩ := runChecks_adds h₃
    exact ⟨vs, hvs, hp⟩
  obtain ⟨more, hmore, hapart⟩ := (applyOutputs_adds h₂).trans hchecks
  obtain ⟨e, -, rfl⟩ := append_eq_ok h₄
  obtain ⟨log, hlog⟩ := logStep_eq { s₃ with ledger := s₃.ledger ++ [e] } setup step inputs o
  exact ⟨own, more, by rw [hlog, ← hown, ← hmore], hmessages, hapart⟩

end RunState

/-- A call of a built-in primitive is reported at most once, and exactly if it is defective. A step
that makes the call records what is reported, and nothing else that the checks on every output
find. -/
theorem defects_recorded_once {name : Text} {primitive : Primitive}
    (h : Fields.get? Registry.builtin name = some primitive) :
    (∀ c : Call,
      (RunState.settle name (primitive c).answer).reports.length ≤ 1 ∧
        ((RunState.settle name (primitive c).answer).reports.length = 1 ↔
          (primitive c).answer.Defective)) ∧
    ∀ (s s' : RunState) (setup : Setup) (seed : Seed) (step : Step), step.primitive = name →
      setup.registry = Registry.builtin → s.runStep setup seed step = .ok s' →
      ∃ inputs own more,
        RunState.combineInputs s.record (seed.fork 2) step = .ok inputs ∧
        s'.violations = s.violations ++ own ++ more ∧
        own.map Violation.message =
          (RunState.settle name
            (primitive ⟨inputs, s.record, setup.clock, seed.fork 0⟩).answer).reports ∧
        (∀ v ∈ more, RunState.Apart v) ∧
        own.length ≤ 1 ∧
        (own.length = 1 ↔
          (primitive ⟨inputs, s.record, setup.clock, seed.fork 0⟩).answer.Defective) := by
  have hcount (c : Call) := (builtin_tidy h c).length_reports name
  refine ⟨hcount, fun s s' setup seed step hname hregistry hstep => ?_⟩
  subst hname
  rw [RunState.runStep, hregistry, h] at hstep
  dsimp only at hstep
  rw [RunState.demand_eq_ok] at hstep
  obtain ⟨inputs, hinputs, hstep⟩ := hstep
  obtain ⟨record, log, hinvoke⟩ := RunState.invoke_eq { s with tick := s.tick + 1 } setup
    (seed.fork 0) step primitive inputs
  rw [hinvoke] at hstep
  obtain ⟨own, more, hviolations, hmessages, hapart⟩ := RunState.finishStep_violations hstep
  have hlength := hcount ⟨inputs, s.record, setup.clock, seed.fork 0⟩
  rw [← hmessages, List.length_map] at hlength
  exact ⟨inputs, own, more, hinputs, hviolations, hmessages, hapart, hlength⟩

/-- A mean of no scores is flagged, and its score is no number; one violation says so. -/
theorem defects_recorded_once_void :
    ∃ s', (RunState.start .empty).runStep (Setup.ofPlan ⟨[], [], []⟩ (some []) .standard ⟨0⟩) ⟨[]⟩
        ⟨"mean", "COMPOSITE_SCORER", [], ["normalized_score"], [("scores", .list [])]⟩ = .ok s' ∧
      ∃ own more, s'.violations = own ++ more ∧ own.length = 1 ∧ ∀ v ∈ more, RunState.Apart v := by
  obtain ⟨s', hs', -⟩ := exists_ok (x := (RunState.start .empty).runStep
    (Setup.ofPlan ⟨[], [], []⟩ (some []) .standard ⟨0⟩) ⟨[]⟩
    ⟨"mean", "COMPOSITE_SCORER", [], ["normalized_score"], [("scores", .list [])]⟩)
    (fun _ => true) (by decide +kernel)
  have hbuiltin : Fields.get? Registry.builtin "COMPOSITE_SCORER" = some compositeScorer := rfl
  obtain ⟨inputs, own, more, hinputs, hviolations, -, hapart, -, hdefective⟩ :=
    (defects_recorded_once hbuiltin).2 _ _ _ _ _ rfl rfl hs'
  obtain rfl := Except.ok.inj hinputs
  exact ⟨s', hs', own, more, hviolations, hdefective.2 (.flagged rfl), hapart⟩

end RuleLedger
