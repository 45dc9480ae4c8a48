import RuleLedger.Proofs.Primitive.Likeness
import RuleLedger.Proofs.Record.TwinRecords

/-! Calls of primitives in two runs side by side. A primitive is steady if calls that differ in the
names of things alone have outcomes that do. Main statement: the built-in primitives are steady, the
last one as long as no template asks for an identifier or, of different clocks, for the time. -/
namespace RuleLedger

namespace Pairing

variable (P : Pairing)

structure TwinCalls (c c' : Call) : Prop where
  inputs : P.TwinFields c.inputs c'.inputs
  record : P.TwinRecords c.record c'.record
  seeds : P.seeds c.seed c'.seed

/-- Outputs of twins. What is said about a call that did not complete is the same text. -/
inductive TwinOutputs : Output → Output → Prop
  | completed {fs gs : Fields Datum} : P.TwinFields fs gs →
    TwinOutputs (.completed fs) (.completed gs)
  | skipped {v : Value} {fs gs : Fields Datum} : v.isThing = false → P.TwinFields fs gs →
    TwinOutputs (.skipped v fs) (.skipped v gs)
  | failed {v : Value} {fs gs : Fields Datum} : v.isThing = false → P.TwinFields fs gs →
    TwinOutputs (.failed v fs) (.failed v gs)
  | flagged {v : Value} {fs gs : Fields Datum} : v.isThing = false → P.TwinFields fs gs →
    TwinOutputs (.flagged v fs) (.flagged v gs)

inductive TwinAnswers : Answer → Answer → Prop
  | output {o o' : Output} : P.TwinOutputs o o' → TwinAnswers (.output o) (.output o')
  | stray (kind : String) : TwinAnswers (.stray kind) (.stray kind)
  | raised (f : Fault) : TwinAnswers (.raised f) (.raised f)

/-- Twins as outcomes; logs may differ. -/
structure TwinOutcomes (o o' : Outcome) : Prop where
  answer : P.TwinAnswers o.answer o'.answer
  record : P.TwinRecords o.record o'.record

variable {P} {c c' : Call} {o o' : Output}

theorem twinFields_iff {fs gs : Fields Datum} : P.twins.LikeFields fs gs ↔ P.TwinFields fs gs :=
  and_congr_right fun _ => related_iff

theorem twinOutputs_iff : P.twins.LikeOutputs o o' ↔ P.TwinOutputs o o' := by
  constructor
  · intro h
    cases h with
    | completed hfs => exact .completed (twinFields_iff.1 hfs)
    | skipped hv hfs => exact .skipped hv (twinFields_iff.1 hfs)
    | failed hv hfs => exact .failed hv (twinFields_iff.1 hfs)
    | flagged hv hfs => exact .flagged hv (twinFields_iff.1 hfs)
  · intro h
    cases h with
    | completed hfs => exact .completed (twinFields_iff.2 hfs)
    | skipped hv hfs => exact .skipped hv (twinFields_iff.2 hfs)
    | failed hv hfs => exact .failed hv (twinFields_iff.2 hfs)
    | flagged hv hfs => exact .flagged hv (twinFields_iff.2 hfs)

theorem twinCalls_iff : P.twins.LikeCalls c c' ↔ P.TwinCalls c c' :=
  ⟨fun h => ⟨twinFields_iff.1 h.inputs, h.record, h.seeds⟩,
    fun h => ⟨twinFields_iff.2 h.inputs, h.record, h.seeds⟩⟩

theorem twinAnswers_iff {a a' : Answer} : P.twins.LikeAnswers a a' ↔ P.TwinAnswers a a' := by
  constructor
  · intro h
    cases h with
    | output ho => exact .output (twinOutputs_iff.1 ho)
    | stray kind => exact .stray kind
    | raised f => exact .raised f
  · intro h
    cases h with
    | output ho => exact .output (twinOutputs_iff.2 ho)
    | stray kind => exact .stray kind
    | raised f => exact .raised f

theorem twinOutcomes_iff {o o' : Outcome} : P.twins.LikeOutcomes o o' ↔ P.TwinOutcomes o o' :=
  ⟨fun h => ⟨twinAnswers_iff.1 h.answer, h.record⟩,
    fun h => ⟨twinAnswers_iff.2 h.answer, h.record⟩⟩

end Pairing

/-- A primitive whose outcomes at two clocks differ in the names of things alone where its calls do,
as long as these carry the parameters. -/
def Primitive.Steady (f : Primitive) (params : Fields Value) (A B : Clock) : Prop :=
  ∀ (P : Pairing) (c c' : Call), P.TwinCalls c c' → c.clock = A → c'.clock = B →
    c.Carries params → P.TwinOutcomes (f c) (f c')

/-- The built-in primitives are steady, the rule applicator as long as its assignments stand in its
parameters and are quiet. -/
theorem Registry.steady_builtin {params : Fields Value} {A B : Clock} {name : Text} {f : Primitive}
    (hf : Fields.get? builtin name = some f)
    (hrule : name = "RULE_APPLICATOR" →
      ∃ v, Fields.get? params "assignments" = some v ∧ QuietAssignments A B v) :
    f.Steady params A B := by
  intro P c c' h hA hB hcarries
  have hlike := Pairing.twinCalls_iff.2 h
  have hvalue (k : Text) : c.inputValue k = c'.inputValue k :=
    Pairing.Twins.value_eq (hlike.input k)
  refine Pairing.twinOutcomes_iff.1 (like_builtin hf hlike hA hB (fun _ => ?_) fun hname => ?_)
  · rw [Call.shownScore?, hvalue, hvalue, Call.shownScore?]
  · obtain ⟨v, hv, hq⟩ := hrule hname
    refine ⟨hvalue _, ?_⟩
    rw [hcarries _ _ hv]
    exact hq

end RuleLedger
