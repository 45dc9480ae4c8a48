import RuleLedger.Proofs.Run.Execution

/-! The marks of the entries of a run: the identifier of a seed, and the timestamp of the clock that
the run is carried out with. -/
namespace RuleLedger

/-- An entry with the identifier of a seed and the timestamp of a clock. -/
structure Entry.MarkedBy (clock : Clock) (e : Entry) : Prop where
  id : ∃ seed : Seed, e.id = .str seed.identifier
  timestamp : ∃ ts : String, clock.timestamp = .ok ts ∧ e.timestamp = .str ts

theorem Entry.markedBy_of_stamp {clock : Clock} {seed : Seed} {tick payload : Value}
    {operation : Text} {e : Entry} (h : Entry.stamp clock seed tick operation payload = .ok e) :
    e.MarkedBy clock := by
  simp only [Entry.stamp, bind_eq_ok, pure_eq_ok, mapError_eq_ok] at h
  obtain ⟨ts, hts, _, -, rfl⟩ := h
  exact ⟨⟨seed, rfl⟩, ts, hts, rfl⟩

namespace RunState

/-- All entries of a state are marked by a clock. -/
def Marked (clock : Clock) (s : RunState) : Prop := ∀ e ∈ s.ledger, e.MarkedBy clock

variable {clock : Clock} {setup : Setup} {seed run : Seed} {step : Step} {primitive : Text}
  {inputs output payload : Value} {rendered : Fields Datum} {s s' : RunState}

theorem Marked.append {operation : Text} (hs : s.Marked clock)
    (h : s.append clock seed operation payload = .ok s') : s'.Marked clock := by
  rw [RunState.append, demand_eq_ok] at h
  obtain ⟨e, he, h⟩ := h
  obtain rfl := Except.ok.inj h
  exact List.forall_mem_append.2
    ⟨hs, List.forall_mem_singleton.2 (Entry.markedBy_of_stamp he)⟩

theorem Marked.violate {message : Text} (hs : s.Marked clock)
    (h : s.violate clock seed primitive inputs output message = .ok s') : s'.Marked clock := by
  rw [RunState.violate, demand_eq_ok] at h
  obtain ⟨timestamp, -, h⟩ := h
  dsimp only at h
  split at h
  · cases h
  · rename_i t ht
    obtain rfl := Except.ok.inj h
    have hmarked : t.Marked clock := by
      refine Marked.append ?_ ht
      exact hs
    exact hmarked

theorem Marked.violateAll {ms : List Text} (hs : s.Marked clock)
    (h : s.violateAll clock seed primitive inputs output ms = .ok s') : s'.Marked clock := by
  induction ms generalizing s with
  | nil => exact Except.ok.inj h ▸ hs
  | cons m ms ih =>
    unfold RunState.violateAll at h
    split at h
    · cases h
    · rename_i t ht
      exact ih (hs.violate ht) h

theorem Marked.applyOutput {field : Text} (hs : s.Marked setup.clock)
    (h : s.applyOutput setup seed step inputs rendered field = .ok s') :
    s'.Marked setup.clock := by
  rw [RunState.applyOutput] at h
  dsimp only at h
  split at h
  · exact hs.violate h
  · split at h
    · exact Except.ok.inj h ▸ hs
    · split at h
      · obtain rfl := Except.ok.inj h
        exact hs
      · refine Marked.violate ?_ h
        exact hs
      · cases h

theorem Marked.applyOutputs {i : Nat} {fields : List Text} (hs : s.Marked setup.clock)
    (h : s.applyOutputs setup seed i step inputs rendered fields = .ok s') :
    s'.Marked setup.clock := by
  induction fields generalizing s i with
  | nil => exact Except.ok.inj h ▸ hs
  | cons field fields ih =>
    unfold RunState.applyOutputs at h
    split at h
    · cases h
    · rename_i t ht
      exact ih (hs.applyOutput ht) h

theorem Marked.runChecks {checks : List Text} (hs : s.Marked setup.clock)
    (h : s.runChecks setup seed step inputs rendered checks = .ok s') :
    s'.Marked setup.clock := by
  induction checks generalizing s with
  | nil => exact Except.ok.inj h ▸ hs
  | cons check checks ih =>
    unfold RunState.runChecks at h
    split at h
    · cases h
    · rename_i t ht
      refine ih ?_ h
      rw [runCheck] at ht
      split at ht
      · obtain rfl := Except.ok.inj ht
        exact hs
      · exact hs.violate ht

theorem Marked.finishStep {o : Output} (hs : s.Marked setup.clock)
    (h : s.finishStep setup seed step inputs o = .ok s') : s'.Marked setup.clock := by
  simp only [RunState.finishStep, bind_eq_ok, pure_eq_ok] at h
  obtain ⟨s₁, h₁, s₂, h₂, s₃, h₃, s₄, h₄, rfl⟩ := h
  have hs₂ : s₂.Marked setup.clock := (hs.violateAll h₁).applyOutputs h₂
  have hs₃ : s₃.Marked setup.clock := by
    refine Marked.runChecks ?_ h₃
    exact hs₂
  obtain ⟨log, hlog⟩ := logStep_eq s₄ setup step inputs o
  have hs₄ : s₄.Marked setup.clock := hs₃.append h₄
  rw [hlog]
  exact hs₄

/-- Every step marks the entries that it appends. -/
theorem Marked.runStep (hs : s.Marked setup.clock) (h : s.runStep setup seed step = .ok s') :
    s'.Marked setup.clock := by
  have htick : ({ s with tick := s.tick + 1 } : RunState).Marked setup.clock := hs
  rw [RunState.runStep] at h
  dsimp only at h
  split at h
  · exact htick.violate h
  · rename_i primitive _
    obtain ⟨inputs, -, h⟩ := demand_eq_ok.1 h
    obtain ⟨record, log, hinvoke⟩ := invoke_eq { s with tick := s.tick + 1 } setup (seed.fork 0)
      step primitive inputs
    rw [hinvoke] at h
    refine Marked.finishStep ?_ h
    exact hs

theorem Marked.runSteps {steps : List Step} (hs : s.Marked setup.clock)
    (h : s.runSteps setup run steps = .ok s') : s'.Marked setup.clock := by
  induction steps generalizing s with
  | nil => exact Except.ok.inj h ▸ hs
  | cons step steps ih =>
    unfold RunState.runSteps at h
    split at h
    · cases h
    · rename_i t ht
      split at h
      · obtain rfl := Except.ok.inj h
        have hmarked : t.Marked setup.clock := hs.runStep ht
        exact hmarked
      · exact ih (hs.runStep ht) h

end RunState

/-- The entries of every run that comes to its end are marked by its clock. -/
theorem Setup.execute_marked {setup : Setup} {run : Seed} {initial : Value} {r : RunResult}
    {log : List LogLine} (h : setup.execute run initial = .ok (r, log)) :
    ∀ e ∈ r.ledger, e.MarkedBy setup.clock := by
  obtain ⟨s, hs, hr, -, -⟩ := execute_state h
  have hstart : (setup.start run initial).Marked setup.clock := nofun
  rw [hr.ledger]
  exact hstart.runSteps hs

end RuleLedger
