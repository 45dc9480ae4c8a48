import RuleLedger.Primitive.Registry
import RuleLedger.Proofs.Record.Sole
import RuleLedger.Run.Engine

/-! What a call of a built-in primitive writes, told from its output. A state mutator that succeeds
names its path and value and a rule lists its updates; the other primitives leave the record alone.
-/
namespace RuleLedger

/-! ### Writes at dotted paths -/

namespace Value

/-- Write a value at a dotted path, or nothing where that fails. -/
def written (root : Value) (path : Text) (new : Value) : Value :=
  match KeyPath.ofText path with
  | .error _ => root
  | .ok p => (p.write root new).1

/-- Make writes one after another. -/
def rewritten (root : Value) (ws : List (Text × Value)) : Value :=
  ws.foldl (fun v w => v.written w.1 w.2) root

/-- Writes at one path of values that have one canonical text. -/
def SameWrite (w w' : Text × Value) : Prop := w.1 = w'.1 ∧ w.2.essence = w'.2.essence

theorem SameWrite.stored (path : Text) (v : Value) : SameWrite (path, v) (path, v.canonical) :=
  ⟨rfl, (essence_canonical v).symm⟩

variable {fs gs : List (Text × Value)} {ws ws' : List (Text × Value)}

@[simp] theorem rewritten_nil (v : Value) : v.rewritten [] = v := rfl

theorem rewritten_cons (v : Value) (w : Text × Value) (ws : List (Text × Value)) :
    v.rewritten (w :: ws) = (v.written w.1 w.2).rewritten ws := rfl

theorem rewritten_append (v : Value) (ws ws' : List (Text × Value)) :
    v.rewritten (ws ++ ws') = (v.rewritten ws).rewritten ws' := List.foldl_append ..

theorem written_of_path {path : Text} {p : KeyPath} (hp : KeyPath.ofText path = .ok p)
    (root new : Value) : root.written path new = (p.write root new).1 := by rw [written, hp]

theorem written_map (fs : List (Text × Value)) (path : Text) (new : Value) :
    ∃ gs, (map fs).written path new = .map gs := by
  rw [written]
  cases KeyPath.ofText path with
  | error f => exact ⟨fs, rfl⟩
  | ok p => exact p.write_map fs new

/-- A mapping stays one under all writes. -/
theorem rewritten_map {v : Value} (hv : ∃ fs, v = .map fs) (ws : List (Text × Value)) :
    ∃ gs, v.rewritten ws = .map gs := by
  induction ws generalizing v with
  | nil => exact hv
  | cons w ws ih =>
    obtain ⟨fs, rfl⟩ := hv
    exact ih (written_map fs w.1 w.2)

theorem written_congr (h : (map fs).essence = (map gs).essence) (path : Text) {new new' : Value}
    (hn : new.essence = new'.essence) :
    ((map fs).written path new).essence = ((map gs).written path new').essence := by
  rw [written, written]
  cases KeyPath.ofText path with
  | error f => exact h
  | ok p => exact KeyPath.write_congr p h hn

/-- The same writes into mappings of one canonical text leave mappings of one canonical text. -/
theorem rewritten_congr (h : (map fs).essence = (map gs).essence)
    (hw : List.Forall₂ SameWrite ws ws') :
    ((map fs).rewritten ws).essence = ((map gs).rewritten ws').essence := by
  induction hw generalizing fs gs with
  | nil => exact h
  | @cons w w' ws ws' hww _ ih =>
    obtain ⟨path, new⟩ := w
    obtain ⟨path', new'⟩ := w'
    obtain ⟨rfl, hn⟩ : path = path' ∧ new.essence = new'.essence := hww
    have hstep := written_congr h path hn
    obtain ⟨fs', hfs⟩ := written_map fs path new
    obtain ⟨gs', hgs⟩ := written_map gs path new'
    rw [hfs, hgs] at hstep
    rw [rewritten_cons, hfs, rewritten_cons, hgs]
    exact ih hstep

/-- What writes make of a mapping depends on its canonical text alone. -/
theorem rewritten_congr_left {v w : Value} (hv : ∃ fs, v = .map fs) (hw : ∃ gs, w = .map gs)
    (h : v.essence = w.essence) (ws : List (Text × Value)) :
    (v.rewritten ws).essence = (w.rewritten ws).essence := by
  obtain ⟨fs, rfl⟩ := hv
  obtain ⟨gs, rfl⟩ := hw
  exact rewritten_congr h (List.forall₂_same.2 fun w _ => ⟨rfl, rfl⟩)

/-- A mapping that a write has left may stand for that write, as it is stored. -/
theorem rewritten_cons_congr {v w new : Value} {path : Text} (hv : ∃ fs, v = .map fs)
    (hw : ∃ gs, w = .map gs) (h : w.essence = (v.written path new).essence)
    (ws : List (Text × Value)) :
    (w.rewritten ws).essence = (v.rewritten ((path, new.canonical) :: ws)).essence := by
  obtain ⟨fs, rfl⟩ := hv
  rw [written_congr rfl path (essence_canonical new).symm] at h
  exact rewritten_congr_left hw (written_map fs path new.canonical) h ws

end Value

/-! ### Reports -/

/-- The write that the output of a state mutator tells of. -/
def mutationReport (output : Value) : List (Text × Value) :=
  match output.field? "success", output.field? "updatedPath", output.field? "newValue" with
  | some (.bool true), some (.str path), some new => [(path, new)]
  | _, _, _ => []

/-- An item of the updates of a rule. -/
def updateReport? (update : Value) : Option (Text × Value) :=
  match update.field? "field", update.field? "value" with
  | some (.str path), some new => some (path, new)
  | _, _ => none

/-- The writes that the output of a rule tells of. -/
def ruleReport (output : Value) : List (Text × Value) :=
  match output.field? "updates" with
  | some (.list us) => us.filterMap updateReport?
  | _ => []

/-- The writes of a call that the output of a primitive tells of. -/
def callReport (primitive : Text) (output : Value) : List (Text × Value) :=
  if primitive = "STATE_MUTATOR" then mutationReport output
  else if primitive = "RULE_APPLICATOR" then ruleReport output
  else []

/-! ### Calls that are told -/

/-- Whether a write at a dotted path goes into nothing that stands at two places of the record. -/
def Record.isSoleAt (r : Record) (path : Text) : Bool :=
  match KeyPath.ofText path with
  | .error _ => true
  | .ok p => r.isSole p

/-- The same for assignments, each on the record that the earlier ones leave. -/
def soleAssignments (generators : Expr.Generators) (seed : Seed) (record : Record) (i : Nat) :
    List (Text × Datum) → Bool
  | [] => true
  | (field, right) :: rest =>
    record.isSoleAt field &&
      match assign record generators (seed.fork i) field right with
      | (_, .error _) => true
      | (record, .ok _) => soleAssignments generators seed record (i + 1) rest

/-- The assignments of the call of a rule. -/
def Call.assignments (c : Call) : Fields Datum :=
  match c.input "assignments" with
  | .map _ fs => fs
  | _ => []

/-- Whether the writes of a completed call go into nothing that stands at two places. -/
def Call.isSole (primitive : Text) (c : Call) : Bool :=
  if primitive = "STATE_MUTATOR" then
    match c.inputValue "path" with
    | .str path => c.record.isSoleAt path
    | _ => true
  else if primitive = "RULE_APPLICATOR" then
    match c.input "assignments" with
    | .map _ fs => soleAssignments ⟨c.clock, c.seed⟩ c.seed c.record 1 fs
    | _ => true
  else true

/-- Whether the output of a call can tell what became of the record: where the call does not
complete, the record keeps its text. -/
def Call.isTold (primitive : Text) (c : Call) (o : Outcome) : Bool :=
  match o.answer with
  | .output (.completed _) => c.isSole primitive
  | _ => o.record.value.sameText c.record.value

/-- The output of a call as it is stored. -/
def Call.stored (primitive : Text) (o : Outcome) : Value :=
  (RunState.settle primitive o.answer).toValue.canonical

/-- What a primitive of a name has to do so that outputs tell of its writes. -/
structure Primitive.Tells (name : Text) (f : Primitive) : Prop where
  isMapping : ∀ c : Call, c.record.IsMapping → (f c).record.IsMapping
  told : ∀ c : Call, c.record.IsMapping → c.isTold name (f c) = true →
    (f c).record.value.essence =
      (c.record.value.rewritten (callReport name (Call.stored name (f c)))).essence

theorem field?_canonical (fs : Fields Datum) (k : Text) :
    (Value.map (Fields.mapValues Datum.value fs)).canonical.field? k =
      (Fields.get? fs k).map fun d => d.value.canonical := by
  rw [Value.canonical_map, Value.field?, get?_sortFields, Fields.get?_mapValues,
    Fields.get?_mapValues, Option.map_map]
  rfl

theorem field?_stored {primitive : Text} {o : Outcome} {out : Output}
    (h : RunState.settle primitive o.answer = out) (k : Text) :
    (Call.stored primitive o).field? k = (Fields.get? out.rendered k).map fun d =>
      d.value.canonical := by
  rw [Call.stored, h]
  exact field?_canonical out.rendered k

/-- A primitive of another name that leaves the record alone. -/
theorem Primitive.Tells.of_record {name : Text} {f : Primitive} (hm : name ≠ "STATE_MUTATOR")
    (hr : name ≠ "RULE_APPLICATOR") (h : ∀ c, (f c).record = c.record) : f.Tells name := by
  refine ⟨fun c hc => (h c).symm ▸ hc, fun c _ _ => ?_⟩
  rw [h, callReport, if_neg hm, if_neg hr, Value.rewritten_nil]

theorem conditionEvaluator_record (c : Call) : (conditionEvaluator c).record = c.record := by
  rw [conditionEvaluator]
  split
  · rfl
  · split_ifs <;> rfl

theorem expressionEvaluator_record (c : Call) : (expressionEvaluator c).record = c.record := by
  rw [expressionEvaluator]
  split
  · rfl
  · split_ifs <;> rfl

theorem compositeScorer_record (c : Call) : (compositeScorer c).record = c.record := by
  rw [compositeScorer]
  dsimp only
  repeat' split
  all_goals rfl

/-! ### The state mutator -/

/-- A state mutator writes at its path, or it leaves the record alone and reports no success. -/
theorem stateMutator_cases (c : Call) :
    (stateMutator c).record = c.record ∧
        (∀ v, Fields.get? (RunState.settle "STATE_MUTATOR" (stateMutator c).answer).rendered
          "success" = some v → v.value = .bool false) ∨
      ∃ path p, c.inputValue "path" = .str path ∧ KeyPath.ofText path = .ok p ∧
        (((c.record.write p c.seed (c.input "value")).2 = none ∧
          stateMutator c = ⟨.output (.completed [("success", .bool true),
            ("updatedPath", .str path), ("newValue", c.input "value")]),
            (c.record.write p c.seed (c.input "value")).1, []⟩) ∨
        ∃ f, (c.record.write p c.seed (c.input "value")).2 = some f ∧ stateMutator c =
          ⟨.raised f, (c.record.write p c.seed (c.input "value")).1, []⟩) := by
  have hrefused (message line : Text) : (refusedWrite c message line).record = c.record ∧
      ∀ v, Fields.get? (RunState.settle "STATE_MUTATOR"
        (refusedWrite c message line).answer).rendered "success" = some v → v.value = .bool false :=
    ⟨rfl, fun v hv => Option.some.inj hv ▸ rfl⟩
  rw [stateMutator]
  dsimp only
  split
  · rename_i path hpath
    split_ifs
    · exact .inl (hrefused _ _)
    · exact .inl ⟨rfl, fun v hv => Option.some.inj hv ▸ rfl⟩
    · split
      · exact .inl (hrefused _ _)
      · rename_i p hp
        split
        · exact .inl (hrefused _ _)
        · rename_i record f _ hw
          exact .inr ⟨path, p, hpath, hp, .inr ⟨f, by rw [hw], by rw [hw]⟩⟩
        · rename_i record hw
          exact .inr ⟨path, p, hpath, hp, .inl ⟨by rw [hw], by rw [hw]⟩⟩
  · exact .inl (hrefused _ _)

theorem stateMutator_tells : stateMutator.Tells "STATE_MUTATOR" := by
  refine ⟨fun c hc => ?_, fun c hc ht => ?_⟩
  · obtain ⟨hr, -⟩ | ⟨path, p, -, -, ⟨-, ho⟩ | ⟨f, -, ho⟩⟩ := stateMutator_cases c
    · rw [hr]
      exact hc
    · rw [ho]
      exact Record.isMapping_write hc p c.seed _
    · rw [ho]
      exact Record.isMapping_write hc p c.seed _
  · obtain ⟨hr, hsuccess⟩ | ⟨path, p, hpath, hp, ⟨-, ho⟩ | ⟨f, -, ho⟩⟩ := stateMutator_cases c
    · have hreport : callReport "STATE_MUTATOR" (Call.stored "STATE_MUTATOR" (stateMutator c)) =
          [] := by
        rw [callReport, if_pos rfl, mutationReport, field?_stored rfl]
        cases hv : Fields.get? (RunState.settle "STATE_MUTATOR" (stateMutator c).answer).rendered
            "success" with
        | none => rfl
        | some v =>
          rw [Option.map_some, hsuccess v hv]
          rfl
      rw [hr, hreport, Value.rewritten_nil]
    · rw [ho] at ht ⊢
      have hsole : c.record.isSole p = true := by
        simp only [Call.isTold, Call.isSole, ↓reduceIte, hpath, Record.isSoleAt, hp] at ht
        exact ht
      have hreport : callReport "STATE_MUTATOR" (Call.stored "STATE_MUTATOR" ⟨.output (.completed
          [("success", .bool true), ("updatedPath", .str path), ("newValue", c.input "value")]),
          (c.record.write p c.seed (c.input "value")).1, []⟩) =
          [(path, (c.input "value").value.canonical)] := by
        rw [callReport, if_pos rfl, mutationReport, field?_stored rfl, field?_stored rfl,
          field?_stored rfl]
        rfl
      rw [hreport, Record.essence_write hc hsole, ← Value.written_of_path hp]
      obtain ⟨fs, hfs⟩ := Record.exists_value_eq hc
      rw [hfs]
      exact Value.rewritten_congr rfl (.cons (.stored path (c.input "value").value) .nil)
    · rw [ho] at ht ⊢
      rw [Value.sameText_iff.1 ht]
      rfl

/-! ### Rules -/

section Rule

variable {record : Record} {generators : Expr.Generators} {seed : Seed} {field : Text}
  {right : Datum} {i : Nat}

/-- An assignment that is made is a write at its path. -/
theorem assign_eq_ok {r : Record} {new : Datum}
    (h : assign record generators seed field right = (r, .ok new)) :
    ∃ p, KeyPath.ofText field = .ok p ∧ r = (record.write p seed new).1 := by
  rw [assign] at h
  split at h
  · cases h
  · split at h
    · cases h
    · rename_i p hp
      split at h
      · rename_i r' hw
        obtain ⟨rfl, hn⟩ := Prod.mk.inj h
        obtain rfl := Except.ok.inj hn
        exact ⟨p, hp, by rw [hw]⟩
      · cases h

theorem isMapping_assign (hr : record.IsMapping) (generators : Expr.Generators) (seed : Seed)
    (field : Text) (right : Datum) : (assign record generators seed field right).1.IsMapping := by
  rw [assign]
  split
  · exact hr
  · rename_i new _
    split
    · exact hr
    · rename_i p _
      have hw := Record.isMapping_write hr p seed new
      split <;> rename_i h <;> rw [h] at hw <;> exact hw

theorem isMapping_assignAll (hr : record.IsMapping) (generators : Expr.Generators) (seed : Seed)
    (i : Nat) (fs : List (Text × Datum)) :
    (assignAll generators seed record i fs).record.IsMapping := by
  induction fs generalizing record i with
  | nil => exact hr
  | cons f fs ih =>
    obtain ⟨field, right⟩ := f
    have ha := isMapping_assign hr generators (seed.fork i) field right
    rw [assignAll]
    split
    · rename_i h
      rw [h] at ha
      exact ha
    · rename_i h
      rw [h] at ha
      exact ih ha (i + 1)

/-- Assignments that are all made are the writes that they are reported as. -/
theorem assignAll_told (hr : record.IsMapping) {fs : List (Text × Datum)}
    (hs : soleAssignments generators seed record i fs = true)
    (hnone : (assignAll generators seed record i fs).failure = none) :
    (assignAll generators seed record i fs).record.value.essence =
      (record.value.rewritten ((assignAll generators seed record i fs).made.map
        fun u => (u.1, u.2.value.canonical))).essence := by
  induction fs generalizing record i with
  | nil => rfl
  | cons f fs ih =>
    obtain ⟨field, right⟩ := f
    have ha := isMapping_assign hr generators (seed.fork i) field right
    rw [soleAssignments, Bool.and_eq_true] at hs
    obtain ⟨hsole, hs⟩ := hs
    rw [assignAll] at hnone ⊢
    cases he : assign record generators (seed.fork i) field right with
    | mk r e =>
      rw [he] at hnone hs ha
      cases e with
      | error f => cases hnone
      | ok new =>
        obtain ⟨p, hp, rfl⟩ := assign_eq_ok he
        rw [Record.isSoleAt, hp] at hsole
        have hstep := Record.essence_write hr hsole (seed.fork i) new
        rw [← Value.written_of_path hp] at hstep
        exact (ih ha hs hnone).trans (Value.rewritten_cons_congr (Record.exists_value_eq hr)
          (Record.exists_value_eq ha) hstep _)

end Rule

theorem updateReport?_canonical (path : Text) (v : Value) :
    updateReport? (Value.map [("field", .str path), ("value", v)]).canonical =
      some (path, v.canonical) := by
  rw [Value.canonical_map, updateReport?, Value.field?, Value.field?, get?_sortFields,
    get?_sortFields]
  rfl

/-- The updates of a rule tell of all its assignments. -/
theorem filterMap_updatesReport (seed : Seed) (made : List (Text × Datum)) :
    ∃ us, (updatesReport seed made).value.canonical = .list us ∧
      us.filterMap updateReport? = made.map fun u => (u.1, u.2.value.canonical) := by
  rw [updatesReport, Datum.value_list, Value.canonical_list]
  refine ⟨_, rfl, ?_⟩
  rw [List.mapIdx_eq_zipIdx_map, List.map_map, List.map_map, List.filterMap_map]
  have hupdate (u : (Text × Datum) × Nat) :
      updateReport? (Datum.map (.part seed [.item u.2, .key "updates"])
        [("field", .str u.1.1), ("value", u.1.2)]).value.canonical =
      some (u.1.1, u.1.2.value.canonical) := by
    rw [Datum.value_map]
    exact updateReport?_canonical u.1.1 u.1.2.value
  calc made.zipIdx.filterMap _
      = made.zipIdx.filterMap fun u => some (u.1.1, u.1.2.value.canonical) :=
        List.filterMap_congr fun u _ => hupdate u
    _ = (made.zipIdx.map Prod.fst).map fun u => (u.1, u.2.value.canonical) := by
        rw [List.filterMap_eq_map', List.map_map]
        rfl
    _ = made.map fun u => (u.1, u.2.value.canonical) := by rw [List.zipIdx_map_fst]

/-- A rule makes its assignments, or it leaves the record alone and reports no updates. -/
theorem ruleApplicator_cases (c : Call) :
    (ruleApplicator c).record = c.record ∧
        Fields.get? (RunState.settle "RULE_APPLICATOR" (ruleApplicator c).answer).rendered
          "updates" = none ∨
      c.isSole "RULE_APPLICATOR" =
          soleAssignments ⟨c.clock, c.seed⟩ c.seed c.record 1 c.assignments ∧
        ruleApplicator c =
          appliedRule c (assignAll ⟨c.clock, c.seed⟩ c.seed c.record 1 c.assignments) := by
  rw [ruleApplicator]
  dsimp only
  split_ifs
  · exact .inl ⟨rfl, rfl⟩
  · split
    · split_ifs
      · exact .inl ⟨rfl, rfl⟩
      · exact .inl ⟨rfl, rfl⟩
    · exact .inl ⟨rfl, rfl⟩
    · have hsole : c.isSole "RULE_APPLICATOR" = match c.input "assignments" with
          | .map _ fs => soleAssignments ⟨c.clock, c.seed⟩ c.seed c.record 1 fs
          | _ => true := rfl
      split
      · rename_i h
        rw [Call.assignments, hsole, h]
        exact .inr ⟨rfl, rfl⟩
      · rename_i fs h
        rw [Call.assignments, hsole, h]
        exact .inr ⟨rfl, rfl⟩
      · exact .inl ⟨rfl, rfl⟩

theorem callReport_of_no_updates {o : Outcome}
    (h : Fields.get? (RunState.settle "RULE_APPLICATOR" o.answer).rendered "updates" = none) :
    callReport "RULE_APPLICATOR" (Call.stored "RULE_APPLICATOR" o) = [] := by
  rw [callReport, if_neg (by decide), if_pos rfl, ruleReport, field?_stored rfl, h]
  rfl

/-- A rule with an assignment that fails reports no updates. -/
theorem appliedRule_of_failure {c : Call} {p : Progress} {u : Text × Datum × Fault}
    (h : p.failure = some u) :
    c.isTold "RULE_APPLICATOR" (appliedRule c p) = p.record.value.sameText c.record.value ∧
      callReport "RULE_APPLICATOR" (Call.stored "RULE_APPLICATOR" (appliedRule c p)) = [] := by
  obtain ⟨field, right, f⟩ := u
  rw [appliedRule, h]
  dsimp only
  split_ifs
  · exact ⟨rfl, callReport_of_no_updates rfl⟩
  · exact ⟨rfl, callReport_of_no_updates rfl⟩

/-- A rule whose assignments are all made reports them. -/
theorem appliedRule_of_success {c : Call} {p : Progress} (h : p.failure = none) :
    c.isTold "RULE_APPLICATOR" (appliedRule c p) = c.isSole "RULE_APPLICATOR" ∧
      callReport "RULE_APPLICATOR" (Call.stored "RULE_APPLICATOR" (appliedRule c p)) =
        p.made.map fun u => (u.1, u.2.value.canonical) := by
  rw [appliedRule, h]
  refine ⟨rfl, ?_⟩
  obtain ⟨us, hus, hmade⟩ := filterMap_updatesReport c.seed p.made
  rw [callReport, if_neg (by decide), if_pos rfl, ruleReport, field?_stored rfl, ← hmade]
  change (match some (updatesReport c.seed p.made).value.canonical with
    | some (.list us) => us.filterMap updateReport?
    | _ => []) = _
  rw [hus]

theorem ruleApplicator_tells : ruleApplicator.Tells "RULE_APPLICATOR" := by
  refine ⟨fun c hc => ?_, fun c hc ht => ?_⟩
  · obtain ⟨hr, -⟩ | ⟨-, ho⟩ := ruleApplicator_cases c
    · rw [hr]
      exact hc
    · rw [ho]
      exact isMapping_assignAll hc _ _ _ _
  · obtain ⟨hr, hupdates⟩ | ⟨hsole, ho⟩ := ruleApplicator_cases c
    · rw [hr, callReport_of_no_updates hupdates, Value.rewritten_nil]
    · rw [ho] at ht ⊢
      cases hf : (assignAll ⟨c.clock, c.seed⟩ c.seed c.record 1 c.assignments).failure with
      | some u =>
        obtain ⟨htold, hreport⟩ := appliedRule_of_failure (c := c) hf
        rw [htold, Value.sameText_iff] at ht
        rw [hreport, Value.rewritten_nil, ← ht]
        rfl
      | none =>
        obtain ⟨htold, hreport⟩ := appliedRule_of_success (c := c) hf
        rw [htold, hsole] at ht
        rw [hreport, ← assignAll_told hc ht hf]
        rfl

/-- The built-in primitives tell of what they write. -/
theorem Registry.tells_builtin {name : Text} {f : Primitive}
    (h : Fields.get? Registry.builtin name = some f) : f.Tells name := by
  simp only [Registry.builtin, Fields.get?_cons, Fields.get?_nil] at h
  split_ifs at h with h₁ h₂ h₃ h₄ h₅
  · obtain rfl := Option.some.inj h
    subst h₁
    exact .of_record (by decide) (by decide) conditionEvaluator_record
  · obtain rfl := Option.some.inj h
    subst h₂
    exact .of_record (by decide) (by decide) expressionEvaluator_record
  · obtain rfl := Option.some.inj h
    subst h₃
    exact stateMutator_tells
  · obtain rfl := Option.some.inj h
    subst h₄
    exact .of_record (by decide) (by decide) compositeScorer_record
  · obtain rfl := Option.some.inj h
    subst h₅
    exact ruleApplicator_tells

end RuleLedger
