import RuleLedger.Proofs.Primitive.Writes

/-! What a rule does with its condition and its assignments. Main statements: only a text can keep a
rule from its assignments; and a rule that completes has made all of them, each against the record
that the earlier ones left, and reports what can be written again, while one that fails has made
those before the one that it names. -/
namespace RuleLedger

variable {c : Call} {generators : Expr.Generators} {seed : Seed} {r r' r'' : Record} {i : Nat}
  {field : Text} {right new : Datum} {fs rest made : List (Text × Datum)}

/-- The outputs of a rule that does not come to its assignments. -/
inductive Call.Withholds (c : Call) : Output → Prop
  | disabled : (c.inputValue "enabled").truthy = false →
    c.Withholds (.skipped (.str "Rule disabled") [("ruleId", c.input "ruleId")])
  | unevaluated {f : Fault} : ruleCondition c = .error f → f.ofExpression = true →
    c.Withholds (.failed (.str ("Condition evaluation failed: " ++ f.message))
      [("condition", c.input "condition"), ("ruleId", c.input "ruleId")])
  | unmet : ruleCondition c = .ok false →
    c.Withholds (.skipped (.str "Condition not met")
      [("condition", c.input "condition"), ("ruleId", c.input "ruleId")])
  | unmapped : ruleCondition c = .ok true → c.input "assignments" ≠ .null →
    (c.input "assignments").members? = none →
    c.Withholds (.failed (.str "Assignments must be a mapping") [("ruleId", c.input "ruleId")])

theorem Call.Withholds.not_completed {o : Output} (h : c.Withholds o) (fs : Fields Datum) :
    o ≠ .completed fs := by
  cases h <;> nofun

/-- A rule withholds its assignments, or its condition ends it with a fault, or it makes them. -/
theorem ruleApplicator_ways (c : Call) :
    (∃ o, c.Withholds o ∧ ruleApplicator c = c.answer o) ∨
      (∃ f, ruleCondition c = .error f ∧ f.ofExpression = false ∧
        ruleApplicator c = c.raise f) ∨
      ruleCondition c = .ok true ∧ ruleApplicator c =
        appliedRule c (assignAll ⟨c.clock, c.seed⟩ c.seed c.record 1 c.assignments) := by
  rw [ruleApplicator]
  dsimp only
  split_ifs with henabled
  · rw [Bool.not_eq_true'] at henabled
    exact .inl ⟨_, .disabled henabled, rfl⟩
  · split
    · rename_i f hf
      split_ifs with he
      · exact .inl ⟨_, .unevaluated hf he, rfl⟩
      · exact .inr (.inl ⟨f, hf, Bool.eq_false_iff.2 he, rfl⟩)
    · rename_i hfalse
      exact .inl ⟨_, .unmet hfalse, rfl⟩
    · rename_i htrue
      split
      · rename_i h
        rw [Call.assignments, h]
        exact .inr (.inr ⟨htrue, rfl⟩)
      · rename_i fs h
        rw [Call.assignments, h]
        exact .inr (.inr ⟨htrue, rfl⟩)
      · rename_i hnull hmap
        refine .inl ⟨_, .unmapped htrue hnull ?_, rfl⟩
        rw [Datum.members?]
        exact hmap

/-! ### The condition -/

/-- The same call of a rule without its condition. -/
def Call.unconditional (c : Call) : Call := { c with inputs := c.inputs.put "condition" .null }

theorem input_unconditional (c : Call) {k : Text} (h : k ≠ "condition") :
    c.unconditional.input k = c.input k := by
  rw [Call.input, Call.unconditional, Fields.get?_put, if_neg h, Call.input]

theorem ruleCondition_unconditional (c : Call) : ruleCondition c.unconditional = .ok true := by
  have hnull : c.unconditional.input "condition" = .null := by
    rw [Call.input, Call.unconditional, Fields.get?_put_self]
    rfl
  rw [ruleCondition, hnull]

/-- A condition that lets a rule go on is not looked at again. -/
theorem ruleApplicator_of_condition (h : ruleCondition c = .ok true) :
    ruleApplicator c = ruleApplicator c.unconditional := by
  have hin (k : Text) (hk : k ≠ "condition") : c.unconditional.input k = c.input k :=
    input_unconditional c hk
  have happlied (p : Progress) : appliedRule c.unconditional p = appliedRule c p := by
    rw [appliedRule, appliedRule, hin "ruleId" (by decide), hin "priority" (by decide)]
    rfl
  rw [ruleApplicator, ruleApplicator, h, ruleCondition_unconditional]
  simp only [happlied, Call.inputValue, hin "enabled" (by decide), hin "ruleId" (by decide),
    hin "assignments" (by decide)]
  rfl

/-- A condition that is a text other than "" and "true" decides by its value against the record: a
rule whose condition is not true leaves the record alone and does not complete. A condition of
another kind decides nothing, whatever its truth: with it a rule does what it does without one. -/
theorem ruleApplicator_gate (c : Call) :
    (∀ s, c.input "condition" = .str s → s ≠ "" → s ≠ "true" →
      (∀ d, Expr.evaluateText ⟨c.record, none⟩ (c.seed.fork 0) s = .ok d →
        d.value.truthy = false) →
      (ruleApplicator c).record = c.record ∧
        ∀ fs, (ruleApplicator c).answer ≠ .output (.completed fs)) ∧
    (∀ s d, c.input "condition" = .str s →
      Expr.evaluateText ⟨c.record, none⟩ (c.seed.fork 0) s = .ok d → d.value.truthy = true →
      ruleApplicator c = ruleApplicator c.unconditional) ∧
    ((∀ s, c.input "condition" ≠ .str s) → ruleApplicator c = ruleApplicator c.unconditional) := by
  refine ⟨fun s hs hempty htrue hfalse => ?_, fun s d hs hd htruthy => ?_, fun hother => ?_⟩
  · have hcondition : ruleCondition c ≠ .ok true := by
      intro h
      rw [ruleCondition, hs] at h
      dsimp only at h
      rw [if_neg (by simp [hempty, htrue])] at h
      obtain ⟨d, hd, ht⟩ := map_eq_ok.1 h
      rw [hfalse d hd] at ht
      cases ht
    obtain ⟨o, ho, happly⟩ | ⟨f, -, -, ho⟩ | ⟨h, -⟩ := ruleApplicator_ways c
    · rw [happly]
      exact ⟨rfl, fun fs h => ho.not_completed fs (Answer.output.inj h)⟩
    · rw [ho]
      exact ⟨rfl, fun fs h => Answer.noConfusion h⟩
    · exact absurd h hcondition
  · refine ruleApplicator_of_condition ?_
    rw [ruleCondition, hs]
    dsimp only
    split_ifs
    · rfl
    · rw [hd, ← htruthy]
      rfl
  · refine ruleApplicator_of_condition ?_
    rw [ruleCondition]
    split
    · rename_i s hs
      exact absurd hs (hother s)
    · rfl

/-- A rule whose condition is false makes its assignments. -/
example : (ruleApplicator ⟨[("enabled", .bool true), ("condition", .bool false),
    ("assignments", .map (.part ⟨[]⟩ []) [("x", .int 1)])], .empty, ⟨0⟩, ⟨[]⟩⟩).record.value =
      .map [("x", .int 1)] := rfl

/-! ### Assignments -/

namespace Record

/-- Write a copy of a datum at a dotted path. -/
def setAt (r : Record) (seed : Seed) (path : Text) (new : Datum) : Except Fault Record :=
  match KeyPath.ofText path with
  | .error f => .error (.path f)
  | .ok p => r.set p seed (new.copy seed)

/-- Write data at dotted paths, one after another. The copies are made at seeds that are numbered
from `i`. -/
def setAll (r : Record) (seed : Seed) (i : Nat) : List (Text × Datum) → Except Fault Record
  | [] => .ok r
  | (path, new) :: rest => do (← r.setAt (seed.fork i) path new).setAll seed (i + 1) rest

/-- The value of an assignment against a record, and the record with that value at the field. -/
def assigned (r : Record) (generators : Expr.Generators) (seed : Seed) (a : Text × Datum) :
    Except Fault (Datum × Record) := do
  let new ← resolveAssignment r generators seed a.2
  return (new, ← r.setAt seed a.1 new)

theorem setAt_of_assigned (h : r.assigned generators seed (field, right) = .ok (new, r')) :
    r.setAt seed field new = .ok r' := by
  obtain ⟨d, -, h⟩ := bind_eq_ok.1 h
  obtain ⟨s, hs, h⟩ := bind_eq_ok.1 h
  obtain ⟨rfl, rfl⟩ := Prod.mk.inj (Except.ok.inj h)
  exact hs

end Record

/-- Assignments that are made one after another, numbered from `i`, each against the record that the
earlier ones left, with the fields and their values. -/
inductive Assigned (generators : Expr.Generators) (seed : Seed) :
    Nat → Record → List (Text × Datum) → List (Text × Datum) → Record → Prop
  | nil {i : Nat} {r : Record} : Assigned generators seed i r [] [] r
  | cons {i : Nat} {r r' r'' : Record} {field : Text} {right new : Datum}
      {rest made : List (Text × Datum)} :
    r.assigned generators (seed.fork i) (field, right) = .ok (new, r') →
    Assigned generators seed (i + 1) r' rest made r'' →
    Assigned generators seed i r ((field, right) :: rest) ((field, new) :: made) r''

namespace Assigned

theorem keys_eq (h : Assigned generators seed i r fs made r') :
    Fields.keys made = Fields.keys fs := by
  induction h with
  | nil => rfl
  | cons _ _ ih => exact congrArg (_ :: ·) ih

theorem length_eq (h : Assigned generators seed i r fs made r') : made.length = fs.length := by
  have hkeys := congrArg List.length h.keys_eq
  rwa [Fields.keys, Fields.keys, List.length_map, List.length_map] at hkeys

/-- The fields and values can be written again. -/
theorem setAll (h : Assigned generators seed i r fs made r') : r.setAll seed i made = .ok r' := by
  induction h with
  | nil => rfl
  | cons ha _ ih => exact bind_eq_ok.2 ⟨_, Record.setAt_of_assigned ha, ih⟩

end Assigned

/-- An assignment that fails leaves a mapping as it was. -/
theorem assign_eq (hr : r.IsMapping) (generators : Expr.Generators) (seed : Seed) (field : Text)
    (right : Datum) : assign r generators seed field right =
      match r.assigned generators seed (field, right) with
      | .ok (new, r') => (r', .ok new)
      | .error f => (r, .error f) := by
  rw [assign, Record.assigned]
  cases resolveAssignment r generators seed right with
  | error f => rfl
  | ok new =>
    dsimp only [bind, Except.bind]
    rw [Record.setAt]
    cases KeyPath.ofText field with
    | error f => rfl
    | ok p =>
      dsimp only
      rw [Record.write]
      cases r.set p seed (new.copy seed) with
      | ok r' => rfl
      | error f => exact congrArg (·, _) (Record.remains_eq hr p new)

/-- Assignments are made up to one that fails, if there is one. -/
theorem assignAll_ways (hr : r.IsMapping) (generators : Expr.Generators) (seed : Seed) (i : Nat)
    (fs : List (Text × Datum)) {p : Progress} (hp : assignAll generators seed r i fs = p) :
    (p.failure = none ∧ Assigned generators seed i r fs p.made p.record) ∨
      ∃ before field right after f, fs = before ++ (field, right) :: after ∧
        Assigned generators seed i r before p.made p.record ∧
        p.record.assigned generators (seed.fork (i + before.length)) (field, right) = .error f ∧
        p.failure = some (field, right, f) := by
  induction fs generalizing r i p with
  | nil =>
    subst hp
    exact .inl ⟨rfl, .nil⟩
  | cons a fs ih =>
    obtain ⟨field, right⟩ := a
    have hmapping := isMapping_assign hr generators (seed.fork i) field right
    rw [assignAll, assign_eq hr] at hp
    rw [assign_eq hr] at hmapping
    cases ha : r.assigned generators (seed.fork i) (field, right) with
    | error f =>
      rw [ha] at hp
      subst hp
      exact .inr ⟨[], field, right, fs, f, rfl, .nil, ha, rfl⟩
    | ok a =>
      obtain ⟨new, r'⟩ := a
      rw [ha] at hp hmapping
      subst hp
      obtain ⟨hnone, hmade⟩ | ⟨before, field', right', after, f, hfs, hmade, hfail, hf⟩ :=
        ih hmapping (i + 1) rfl
      · exact .inl ⟨hnone, .cons ha hmade⟩
      · refine .inr ⟨(field, right) :: before, field', right', after, f, congrArg (_ :: ·) hfs,
          .cons ha hmade, ?_, hf⟩
        rwa [List.length_cons, Nat.add_comm before.length, ← Nat.add_assoc]

/-! ### Reports -/

/-- The write that an item of the updates of a rule tells of. -/
def Datum.update? (d : Datum) : Option (Text × Datum) :=
  match d with
  | .map _ fs =>
    match Fields.get? fs "field", Fields.get? fs "value" with
    | some (.str field), some new => some (field, new)
    | _, _ => none
  | _ => none

/-- The items of the updates tell of what was made. -/
theorem map_update?_updatesReport (seed : Seed) (made : List (Text × Datum)) :
    ∃ us, updatesReport seed made = .list (.part seed [.key "updates"]) us ∧
      us.map Datum.update? = made.map some := by
  refine ⟨_, rfl, ?_⟩
  rw [List.mapIdx_eq_zipIdx_map, List.map_map]
  calc made.zipIdx.map _ = made.zipIdx.map (some ∘ Prod.fst) := List.map_congr_left fun _ _ => rfl
    _ = made.map some := by rw [← List.map_map, List.zipIdx_map_fst]

/-- Whether an output tells of assignments: every field with its value, as a mapping and as a list
of updates. -/
structure Reports (output : Fields Datum) (made : Fields Datum) : Prop where
  results : ∃ i, output.get? "results" = some (.map i made)
  updates : ∃ i us, output.get? "updates" = some (.list i us) ∧
    us.map Datum.update? = made.map some

/-- The answer of a rule that made all its assignments. -/
theorem answer_of_success {p : Progress} (h : p.failure = none)
    (hkeys : (Fields.keys p.made).Nodup) :
    ∃ fs, (appliedRule c p).answer = .output (.completed fs) ∧
      fs.get? "updatesApplied" = some (.nat p.made.length) ∧ Reports fs p.made := by
  obtain ⟨us, hus, hmade⟩ := map_update?_updatesReport c.seed p.made
  rw [appliedRule, h]
  refine ⟨_, rfl, rfl, ⟨.part c.seed [.key "results"], ?_⟩, _, us, congrArg some hus, hmade⟩
  change some (resultsReport c.seed p.made) = _
  rw [resultsReport, Fields.ofPairs_eq_self hkeys]

/-- The answer of a rule with an assignment that failed. -/
theorem answer_of_failure {p : Progress} {f : Fault} (h : p.failure = some (field, right, f)) :
    (appliedRule c p).answer = .raised f ∨
      (appliedRule c p).answer = .output (.failed
        (.str ("Assignment failed for " ++ field ++ ": " ++ f.message))
        [("expression", right), ("fieldPath", .str field), ("ruleId", c.input "ruleId")]) := by
  rw [appliedRule, h]
  dsimp only
  split_ifs
  · exact .inr rfl
  · exact .inl rfl

/-- The field that an output of a failed assignment names. -/
def Answer.field? : Answer → Option Text
  | .output (.failed _ fs) => (Fields.get? fs "fieldPath").bind fun d => d.value.text?
  | _ => none

theorem Answer.exists_failed {a : Answer} (h : a.field? = some field) :
    ∃ e fs, a = .output (.failed e fs) ∧ Fields.get? fs "fieldPath" = some (.str field) := by
  cases a with
  | output o =>
    cases o with
    | failed e fs =>
      obtain ⟨d, hd, hvalue⟩ := Option.bind_eq_some_iff.1 h
      cases d with
      | str s =>
        obtain rfl := Option.some.inj hvalue
        exact ⟨e, fs, rfl, hd⟩
      | _ => cases hvalue
    | _ => cases h
  | _ => cases h

theorem filterMap_update? {us : List Datum} (h : us.map Datum.update? = made.map some) :
    us.filterMap Datum.update? = made := by
  calc us.filterMap Datum.update?
      = (us.map Datum.update?).filterMap id := by rw [List.filterMap_map, Function.id_comp]
    _ = made := by rw [h, List.filterMap_map, Function.id_comp, List.filterMap_some]

/-- A rule that completes has made all its assignments, each against the record that the earlier
ones left, and reports them; its updates, written again, make of the record what the rule made of
it. A rule that fails and names a field has made the assignments before the one of this field, which
fails against the record that is left. Every other output withholds the assignments and leaves the
record as it was. A rule that is ended by a fault has made the first of its assignments. -/
theorem ruleApplicator_assignments (hr : c.record.IsMapping)
    (hkeys : (Fields.keys c.assignments).Nodup) :
    (∀ fs, (ruleApplicator c).answer = .output (.completed fs) →
      ∃ made, Assigned ⟨c.clock, c.seed⟩ c.seed 1 c.record c.assignments made
          (ruleApplicator c).record ∧
        fs.get? "updatesApplied" = some (.nat c.assignments.length) ∧ Reports fs made ∧
        ∃ i us, fs.get? "updates" = some (.list i us) ∧
          c.record.setAll c.seed 1 (us.filterMap Datum.update?) =
            .ok (ruleApplicator c).record) ∧
    (∀ e fs field, (ruleApplicator c).answer = .output (.failed e fs) →
      Fields.get? fs "fieldPath" = some (.str field) →
      ∃ before right after made f, c.assignments = before ++ (field, right) :: after ∧
        Assigned ⟨c.clock, c.seed⟩ c.seed 1 c.record before made (ruleApplicator c).record ∧
        (ruleApplicator c).record.assigned ⟨c.clock, c.seed⟩ (c.seed.fork (1 + before.length))
          (field, right) = .error f ∧
        e = .str ("Assignment failed for " ++ field ++ ": " ++ f.message)) ∧
    (∀ o, (ruleApplicator c).answer = .output o → (∀ fs, o ≠ .completed fs) →
      (∀ e fs, o = .failed e fs → Fields.get? fs "fieldPath" = none) →
      c.Withholds o ∧ (ruleApplicator c).record = c.record) ∧
    ∀ f, (ruleApplicator c).answer = .raised f →
      ∃ before made, before <+: c.assignments ∧
        Assigned ⟨c.clock, c.seed⟩ c.seed 1 c.record before made (ruleApplicator c).record := by
  obtain ⟨o, ho, happly⟩ | ⟨f, -, -, happly⟩ | ⟨-, happly⟩ := ruleApplicator_ways c
  · rw [happly]
    refine ⟨fun fs h => ?_, fun e fs field h hfield => ?_, fun o' h _ _ => ?_, nofun⟩
    · exact absurd (Answer.output.inj h) (ho.not_completed fs)
    · obtain rfl := Answer.output.inj h
      cases ho <;> cases hfield
    · obtain rfl := Answer.output.inj h
      exact ⟨ho, rfl⟩
  · rw [happly]
    exact ⟨nofun, nofun, nofun, fun _ _ => ⟨[], [], List.nil_prefix, .nil⟩⟩
  · rw [happly]
    generalize hp : assignAll ⟨c.clock, c.seed⟩ c.seed c.record 1 c.assignments = p
    obtain ⟨hsuccess, hmade⟩ | ⟨before, field, right, after, f, hfs, hmade, hfail, hf⟩ :=
      assignAll_ways hr _ _ _ _ hp
    · obtain ⟨fs, ho, hcount, hreports⟩ :=
        answer_of_success (c := c) hsuccess (hmade.keys_eq ▸ hkeys)
      rw [ho]
      refine ⟨fun fs' h => ?_, fun e fs' _ h => ?_, fun o h hnot => ?_, nofun⟩
      · obtain rfl := Output.completed.inj (Answer.output.inj h)
        obtain ⟨j, us, hus, hupdates⟩ := hreports.updates
        refine ⟨p.made, hmade, hmade.length_eq ▸ hcount, hreports, j, us, hus, ?_⟩
        rw [filterMap_update? hupdates]
        exact hmade.setAll
      · exact absurd (Answer.output.inj h) nofun
      · exact absurd (Answer.output.inj h).symm (hnot fs)
    · have hprefix : before <+: c.assignments := ⟨_, hfs.symm⟩
      obtain ho | ho := answer_of_failure (c := c) hf
      · rw [ho]
        exact ⟨nofun, nofun, nofun, fun _ _ => ⟨before, p.made, hprefix, hmade⟩⟩
      · rw [ho]
        refine ⟨fun fs h => absurd (Answer.output.inj h) nofun, fun e fs field' h hfield => ?_,
          fun o h _ hnone => ?_, nofun⟩
        · obtain ⟨rfl, rfl⟩ := Output.failed.inj (Answer.output.inj h)
          obtain rfl : field = field' := Datum.str.inj (Option.some.inj hfield)
          exact ⟨before, right, after, p.made, f, hfs, hmade, hfail, rfl⟩
        · obtain rfl := Answer.output.inj h
          cases hnone _ _ rfl

/-- The call of a rule on a record, for which the third of four assignments reads what the first one
wrote and the last one has no value. -/
def cascade : Call where
  inputs := [("enabled", .bool true), ("assignments", .map (.part ⟨[]⟩ [])
    [("b.c", .str "2"), ("a", .bool false), ("d", .str "\x7b\x7bb.c\x7d\x7d"),
      ("e", .str "\x7b\x7bf\x7d\x7d")])]
  record := ⟨.fields [("a", .int 1)], []⟩
  clock := ⟨0⟩
  seed := ⟨[]⟩

theorem cascade_assignments :
    ∃ e fs, (ruleApplicator cascade).answer = .output (.failed e fs) ∧
      Fields.get? fs "fieldPath" = some (.str "e") ∧
      ∃ before right after made f,
        cascade.assignments = before ++ (Text.ofString "e", right) :: after ∧
        Assigned ⟨cascade.clock, cascade.seed⟩ cascade.seed 1 cascade.record before made
          (ruleApplicator cascade).record ∧
        (ruleApplicator cascade).record.assigned ⟨cascade.clock, cascade.seed⟩
          (cascade.seed.fork (1 + before.length)) ("e", right) = .error f ∧
        e = .str ("Assignment failed for e: " ++ f.message) := by
  obtain ⟨-, hfailed, -⟩ := ruleApplicator_assignments (c := cascade) ⟨_, rfl⟩ (by decide +kernel)
  obtain ⟨e, fs, ho, hfield⟩ := Answer.exists_failed
    (by decide +kernel : (ruleApplicator cascade).answer.field? = some (Text.ofString "e"))
  exact ⟨e, fs, ho, hfield, hfailed e fs "e" ho hfield⟩

end RuleLedger
