import RuleLedger.Proofs.Expr.Faults
import RuleLedger.Proofs.Json.Compact
import RuleLedger.Proofs.Primitive.Likeness
import RuleLedger.Proofs.Primitive.Mutations
import RuleLedger.Proofs.Primitive.Rules
import RuleLedger.Proofs.Run.Escape

/-! What the built-in primitives do not answer. Main statement: on data, a built-in primitive comes
back with an output, unless an expression is not read, an index is not read, a score cannot be
shown, or a template asks for a time that cannot be told. -/
namespace RuleLedger

variable {K : Clock} {c : Call} {f : Fault} {r : Record} {generators : Expr.Generators}
  {seed : Seed} {field : Text} {right : Datum} {fs : List (Text × Datum)}

/-! ### Values that cannot be shown -/

namespace Value

theorem integerText_eq_error {n : Int} {g : NumericFault} (h : integerText n = .error g) :
    g = .tooLongToWrite ∧ isWritable (.num (.int n)) = false := by
  obtain ⟨hlong, rfl⟩ := Json.integerText_eq_error.1 h
  rw [isWritable, decide_eq_false_iff_not]
  exact ⟨rfl, Nat.not_lt.2 hlong⟩

theorem all_num (p : Value → Bool) (n : Number) : (num n).all p = p (.num n) := by
  rw [all] <;> intro _ h <;> cases h

theorem displayItems_eq_error {xs : List Value} {g : NumericFault}
    (h : displayItems xs = .error g) : ∃ x ∈ xs, x.display = .error g := by
  induction xs with
  | nil => cases h
  | cons x xs ih =>
    obtain h | ⟨_, -, h⟩ := bind_eq_error.1 h
    · exact ⟨x, List.mem_cons_self, h⟩
    · obtain h | ⟨_, -, h⟩ := bind_eq_error.1 h
      · obtain ⟨y, hy, h⟩ := ih h
        exact ⟨y, List.mem_cons_of_mem _ hy, h⟩
      · cases h

theorem displayFields_eq_error {fs : List (Text × Value)} {g : NumericFault}
    (h : displayFields fs = .error g) : ∃ f ∈ fs, f.2.display = .error g := by
  induction fs with
  | nil => cases h
  | cons f fs ih =>
    obtain h | ⟨_, -, h⟩ := bind_eq_error.1 h
    · exact ⟨f, List.mem_cons_self, h⟩
    · obtain h | ⟨_, -, h⟩ := bind_eq_error.1 h
      · obtain ⟨y, hy, h⟩ := ih h
        exact ⟨y, List.mem_cons_of_mem _ hy, h⟩
      · cases h

/-- Only an integer of too many digits keeps a value from being shown. -/
theorem display_eq_error {v : Value} {g : NumericFault} (h : v.display = .error g) :
    g = .tooLongToWrite ∧ v.all isWritable = false := by
  induction v with
  | num n =>
    cases n with
    | int n =>
      rw [display, map_eq_error] at h
      rw [all_num]
      exact integerText_eq_error h
    | float x => cases h
  | list xs ih =>
    obtain h | ⟨_, -, h⟩ := bind_eq_error.1 h
    · obtain ⟨x, hx, h⟩ := displayItems_eq_error h
      obtain ⟨rfl, hw⟩ := ih x hx h
      refine ⟨rfl, Bool.eq_false_iff.2 fun hall => ?_⟩
      rw [((all_list _ _).1 hall).2 x hx] at hw
      cases hw
    · cases h
  | map fs ih =>
    obtain h | ⟨_, -, h⟩ := bind_eq_error.1 h
    · obtain ⟨f, hf, h⟩ := displayFields_eq_error h
      obtain ⟨rfl, hw⟩ := ih f hf h
      refine ⟨rfl, Bool.eq_false_iff.2 fun hall => ?_⟩
      rw [((all_map _ _).1 hall).2 f hf] at hw
      cases hw
    · cases h
  | bool b => cases b <;> cases h
  | _ => cases h

end Value

/-! ### Calls on data -/

/-- A call with data as inputs, on a mapping of data. -/
structure Call.OnData (c : Call) : Prop where
  inputs : ∀ m ∈ c.inputs, m.2.value.isData = true
  record : ∃ ms, c.record.root = .fields ms ∧ ∀ m ∈ ms, m.2.value.isData = true

namespace Call.OnData

theorem input (h : c.OnData) (k : Text) : (c.input k).value.isData = true := by
  rw [Call.input]
  cases hget : Fields.get? c.inputs k with
  | none => rfl
  | some d => exact h.inputs _ (Fields.mem_of_get? hget)

theorem isMapping (h : c.OnData) : c.record.IsMapping := by
  obtain ⟨ms, hms, -⟩ := h.record
  exact ⟨ms, hms⟩

theorem clocked (h : c.OnData) (K : Clock) : c.record.Clocked K := by
  obtain ⟨ms, hms, hdata⟩ := h.record
  exact ⟨ms, hms, fun m hm => Datum.clocked_of_isData (hdata m hm)⟩

/-- The members of an input that is a mapping are data. -/
theorem members (h : c.OnData) {k : Text} {ms : Fields Datum}
    (hms : (c.input k).members? = some ms) : ∀ m ∈ ms, m.2.value.isData = true := by
  have hdata := h.input k
  cases hd : c.input k with
  | map i fs =>
    rw [hd] at hms hdata
    obtain rfl := Option.some.inj hms
    rw [Datum.value_map, Value.isData_map, Fields.mapValues, List.forall_mem_map] at hdata
    exact hdata
  | _ =>
    rw [hd] at hms
    cases hms

theorem scope (h : c.OnData) : Expr.DataScope ⟨c.scope, none⟩ := by
  rw [Call.scope]
  split
  · rename_i ms hms
    exact ⟨ms, rfl, h.members hms⟩
  · split
    · rename_i ms hms
      exact ⟨ms, rfl, h.members hms⟩
    · exact ⟨[], rfl, List.forall_mem_nil _⟩

theorem assignments (h : c.OnData) (K : Clock) : ∀ a ∈ c.assignments, a.2.Clocked K := by
  rw [Call.assignments]
  split
  · rename_i i fs hfs
    exact fun a ha => Datum.clocked_of_isData (h.members (k := "assignments") (by rw [hfs]; rfl) a ha)
  · exact List.forall_mem_nil _

end Call.OnData

/-! ### Assignments -/

/-- A fault that an assignment does not turn into an output: of its field, or of its template. -/
def Unassigned (K : Clock) (a : Text × Datum) (f : Fault) : Prop :=
  f.Misreads [a.1] ∨ ∃ s body, a.2 = .str s ∧ templateBody? s = some body ∧
    (Expr.Unread body f ∨ Expr.Untold K f)

theorem isAssignmentFault_of_expression (h : f.ofExpression = true) :
    f.isAssignmentFault = true := by
  cases f with
  | path => rfl
  | _ => exact h

theorem resolveAssignment_cases (hr : r.Clocked K) (hd : right.Clocked K)
    (hg : generators.clock = K) (seed : Seed) (field : Text) :
    (∃ new, resolveAssignment r generators seed right = .ok new ∧ new.Clocked K) ∨
      ∃ f, resolveAssignment r generators seed right = .error f ∧
        (f.isAssignmentFault = true ∨ Unassigned K (field, right) f) := by
  cases right with
  | str s =>
    rw [resolveAssignment]
    cases hbody : templateBody? s with
    | none =>
      exact .inl ⟨_, rfl, Datum.clocked_plain (isThing_literalOfText s)⟩
    | some body =>
      have hE : Expr.Environment.OnClock K ⟨r, some generators⟩ :=
        ⟨hr, fun g h => Option.some.inj h ▸ hg⟩
      obtain hnew | ⟨f, hf, hcause⟩ := Expr.evaluateText_cases hE seed body
      · exact .inl hnew
      · refine .inr ⟨f, hf, hcause.imp isAssignmentFault_of_expression fun h => ?_⟩
        exact .inr ⟨s, body, rfl, hbody, h⟩
  | _ => exact .inl ⟨_, rfl, hd.copy seed⟩

/-- An assignment keeps the record on the clock, and fails as a rule expects or is unassigned. -/
theorem assign_cases (hr : r.Clocked K) (hd : right.Clocked K) (hg : generators.clock = K)
    (seed : Seed) (field : Text) :
    (assign r generators seed field right).1.Clocked K ∧
      ∀ f, (assign r generators seed field right).2 = .error f →
        f.isAssignmentFault = true ∨ Unassigned K (field, right) f := by
  rw [assign]
  obtain ⟨new, hnew, hclocked⟩ | ⟨g, hf, hcause⟩ :=
    resolveAssignment_cases hr hd hg seed field
  · rw [hnew]
    dsimp only
    split
    · rename_i g _
      exact ⟨hr, fun f h => .inl (Except.error.inj h ▸ rfl)⟩
    · rename_i p hp
      have hwritten := hr.write p seed hclocked
      split
      · rename_i r' hw
        rw [hw] at hwritten
        refine ⟨hwritten, fun f h => ?_⟩
        cases h
      · rename_i r' g hw
        rw [hw] at hwritten
        refine ⟨hwritten, fun f h => ?_⟩
        obtain rfl := Except.error.inj h
        obtain ⟨g', rfl⟩ | hseg := Record.unreadable_of_write hr.isMapping (congrArg Prod.snd hw)
        · exact .inl rfl
        · exact .inr (.inl ⟨field, List.mem_singleton_self _, p, hp, hseg⟩)
  · rw [hf]
    exact ⟨hr, fun f h => Except.error.inj h ▸ hcause⟩

/-- By induction on the assignments, whose records all stay on the clock. -/
theorem assignAll_failure (hr : r.Clocked K) (hfs : ∀ a ∈ fs, a.2.Clocked K)
    (hg : generators.clock = K) {i : Nat}
    (h : (assignAll generators seed r i fs).failure = some (field, right, f)) :
    f.isAssignmentFault = true ∨ ∃ a ∈ fs, Unassigned K a f := by
  induction fs generalizing r i with
  | nil => cases h
  | cons a fs ih =>
    obtain ⟨hhead, htail⟩ := List.forall_mem_cons.1 hfs
    obtain ⟨hrecord, hfault⟩ := assign_cases hr hhead hg (seed.fork i) a.1
    rw [assignAll] at h
    split at h
    · rename_i r' g hassign
      obtain ⟨-, ha⟩ := Prod.mk.inj (Option.some.inj h)
      obtain ⟨-, rfl⟩ := Prod.mk.inj ha
      exact (hfault g (congrArg Prod.snd hassign)).imp_right fun hg =>
        ⟨a, List.mem_cons_self, hg⟩
    · rename_i r' new hassign
      rw [hassign] at hrecord
      obtain hfault | ⟨b, hb, hf⟩ := ih hrecord htail h
      · exact .inl hfault
      · exact .inr ⟨b, List.mem_cons_of_mem _ hb, hf⟩

/-! ### Primitives -/

/-- The faults that a built-in primitive does not answer. A condition or an expression is not read;
a path has an index that is not read; the score that is no number has an integer inside that is not
written; an assignment is one of those that are unassigned. -/
inductive Call.Unhandled (c : Call) : Text → Fault → Prop
  | condition {s : Text} {f : Fault} : c.inputValue "condition" = .str s → Expr.Unread s f →
    c.Unhandled "CONDITION_EVALUATOR" f
  | expression {s : Text} {f : Fault} : c.inputValue "expression" = .str s → Expr.Unread s f →
    c.Unhandled "EXPRESSION_EVALUATOR" f
  | path {s : Text} {f : Fault} : c.inputValue "path" = .str s → f.Misreads [s] →
    c.Unhandled "STATE_MUTATOR" f
  | score {xs : List Value} {v : Value} : c.inputValue "scores" = .list xs → v ∈ xs →
    v.number? = none → v.all Value.isWritable = false →
    c.Unhandled "COMPOSITE_SCORER" (.numeric .tooLongToWrite)
  | ruleCondition {s : Text} {f : Fault} : c.input "condition" = .str s → Expr.Unread s f →
    c.Unhandled "RULE_APPLICATOR" f
  | assignment {a : Text × Datum} {f : Fault} : a ∈ c.assignments → Unassigned c.clock a f →
    c.Unhandled "RULE_APPLICATOR" f

def Answer.isRaised : Answer → Bool
  | .raised _ => true
  | _ => false

theorem Answer.exists_raised {a : Answer} (h : a.isRaised = true) : ∃ f, a = .raised f := by
  cases a with
  | raised f => exact ⟨f, rfl⟩
  | _ => cases h

/-- An answer that is an output, or a fault that a primitive does not answer. -/
inductive Call.Answers (c : Call) (primitive : Text) : Answer → Prop
  | output (o : Output) : c.Answers primitive (.output o)
  | raised {f : Fault} : c.Unhandled primitive f → c.Answers primitive (.raised f)

/-- What evaluates an input and answers the faults of expressions raises only where the text of the
input is not read. -/
theorem evaluation_answers (hc : c.OnData) {k name : Text}
    (hname : ∀ {s f}, c.inputValue k = .str s → Expr.Unread s f → c.Unhandled name f)
    (good : Datum → Output) (bad : Fault → Output) :
    c.Answers name (match Expr.evaluate ⟨c.scope, none⟩ c.seed (c.inputValue k) with
      | .ok d => c.answer (good d)
      | .error f => if f.ofExpression then c.answer (bad f) else c.raise f).answer := by
  obtain ⟨d, hd⟩ | ⟨f, hf, hcause⟩ := Expr.evaluate_cases hc.scope rfl c.seed (c.inputValue k)
  · rw [hd]
    exact .output _
  · rw [hf]
    dsimp only
    split_ifs with h
    · exact .output _
    · obtain hexpr | ⟨s, hs, hunread⟩ := hcause
      · exact absurd hexpr h
      · exact .raised (hname hs hunread)

theorem conditionEvaluator_answers (hc : c.OnData) :
    c.Answers "CONDITION_EVALUATOR" (conditionEvaluator c).answer :=
  evaluation_answers hc .condition (fun d => .completed [("result", .bool d.value.truthy)])
    fun f => .failed (.str f.message) [("result", .bool false)]

theorem expressionEvaluator_answers (hc : c.OnData) :
    c.Answers "EXPRESSION_EVALUATOR" (expressionEvaluator c).answer :=
  evaluation_answers hc .expression
    (fun d => if d.value.isNaN then .flagged (.str "NaN_detected") [("value", d)]
      else .completed [("value", d)])
    fun f => .failed (.str f.message) []

theorem stateMutator_answers (hc : c.OnData) :
    c.Answers "STATE_MUTATOR" (stateMutator c).answer := by
  rw [stateMutator]
  dsimp only
  split
  · rename_i text htext
    split_ifs
    · exact .output _
    · exact .output _
    · split
      · exact .output _
      · rename_i p hp
        split
        · exact .output _
        · rename_i r f hpath hw
          refine .raised (.path htext ?_)
          obtain ⟨g, rfl⟩ | hseg :=
            Record.unreadable_of_write hc.isMapping (congrArg Prod.snd hw)
          · exact absurd rfl (hpath g)
          · exact ⟨text, List.mem_singleton_self _, p, hp, hseg⟩
        · exact .output _
  · exact .output _

theorem compositeScorer_answers (c : Call) :
    c.Answers "COMPOSITE_SCORER" (compositeScorer c).answer := by
  rw [compositeScorer]
  dsimp only
  split
  · exact .output _
  · split
    · rename_i xs hxs
      split
      · exact .output _
      · split
        · rename_i v hv
          split
          · exact .output _
          · rename_i g hg
            obtain ⟨rfl, hw⟩ := Value.display_eq_error hg
            have hnone := List.find?_some hv
            exact .raised (.score hxs (List.mem_of_find?_eq_some hv)
              (Option.isNone_iff_eq_none.1 hnone) hw)
        · split <;> exact .output _
    · exact .output _

theorem ruleCondition_fault (hc : c.OnData) (h : ruleCondition c = .error f) :
    f.ofExpression = true ∨ ∃ s, c.input "condition" = .str s ∧ Expr.Unread s f := by
  rw [ruleCondition] at h
  split at h
  · rename_i s hs
    split_ifs at h
    obtain ⟨d, hd⟩ | ⟨g, hg, hcause⟩ :=
      Expr.evaluate_cases (E := ⟨c.record, none⟩) hc.record rfl (c.seed.fork 0) (.str s)
    · rw [Expr.evaluate] at hd
      rw [hd] at h
      cases h
    · rw [Expr.evaluate] at hg
      rw [hg] at h
      obtain rfl := Except.error.inj h
      obtain hexpr | ⟨text, htext, hunread⟩ := hcause
      · exact .inl hexpr
      · exact .inr ⟨s, hs, Value.str.inj htext ▸ hunread⟩
  · cases h

theorem ruleApplicator_answers (hc : c.OnData) :
    c.Answers "RULE_APPLICATOR" (ruleApplicator c).answer := by
  obtain ⟨o, -, happly⟩ | ⟨f, hf, hnot, happly⟩ | ⟨-, happly⟩ := ruleApplicator_ways c
  · rw [happly]
    exact .output o
  · rw [happly]
    obtain hexpr | ⟨s, hs, hunread⟩ := ruleCondition_fault hc hf
    · rw [hexpr] at hnot
      cases hnot
    · exact .raised (.ruleCondition hs hunread)
  · rw [happly, appliedRule]
    dsimp only
    cases hp : (assignAll ⟨c.clock, c.seed⟩ c.seed c.record 1 c.assignments).failure with
    | none => exact .output _
    | some a =>
      obtain ⟨field, right, f⟩ := a
      dsimp only
      split_ifs with hfault
      · exact .output _
      · obtain h | ⟨a, ha, h⟩ :=
          assignAll_failure (hc.clocked c.clock) (hc.assignments c.clock) rfl hp
        · exact absurd h hfault
        · exact .raised (.assignment ha h)

/-- What a condition evaluator says of a condition: the truth of its value, or false and the
message of the fault that it has. -/
structure Call.Judges (c : Call) (o : Output) : Prop where
  result : ∃ b, o.rendered.get? "result" = some (.bool b)
  value : ∀ d, Expr.evaluate ⟨c.scope, none⟩ c.seed (c.inputValue "condition") = .ok d →
    o.rendered.get? "result" = some (.bool d.value.truthy)
  fault : ∀ f, Expr.evaluate ⟨c.scope, none⟩ c.seed (c.inputValue "condition") = .error f →
    o.rendered.get? "result" = some (.bool false) ∧
      o.rendered.get? "error" = some (.str f.message)

theorem conditionEvaluator_judges {o : Output} (h : (conditionEvaluator c).answer = .output o) :
    c.Judges o := by
  rw [conditionEvaluator] at h
  split at h
  · rename_i d hd
    obtain rfl := Answer.output.inj h
    refine ⟨⟨_, rfl⟩, fun d' hd' => ?_, fun f hf => ?_⟩
    · obtain rfl := Except.ok.inj (hd.symm.trans hd')
      rfl
    · rw [hd] at hf
      cases hf
  · rename_i f hf
    split_ifs at h
    · obtain rfl := Answer.output.inj h
      refine ⟨⟨_, rfl⟩, fun d hd => ?_, fun g hg => ?_⟩
      · rw [hf] at hd
        cases hd
      · obtain rfl := Except.error.inj (hf.symm.trans hg)
        exact ⟨rfl, rfl⟩
    · cases h

/-- On data every built-in primitive answers with an output, but for the faults that none of them
handles; and what a condition evaluator answers always has a truth value for its result. -/
theorem builtin_answers (hc : c.OnData) :
    (∀ name primitive, Fields.get? Registry.builtin name = some primitive →
      c.Answers name (primitive c).answer) ∧
    ∀ o, (conditionEvaluator c).answer = .output o → c.Judges o := by
  refine ⟨fun name primitive h => ?_, fun o => conditionEvaluator_judges⟩
  simp only [Registry.builtin, Fields.get?_cons, Fields.get?_nil] at h
  split_ifs at h with h₁ h₂ h₃ h₄ h₅
  · obtain rfl := Option.some.inj h
    exact h₁ ▸ conditionEvaluator_answers hc
  · obtain rfl := Option.some.inj h
    exact h₂ ▸ expressionEvaluator_answers hc
  · obtain rfl := Option.some.inj h
    exact h₃ ▸ stateMutator_answers hc
  · obtain rfl := Option.some.inj h
    exact h₄ ▸ compositeScorer_answers c
  · obtain rfl := Option.some.inj h
    exact h₅ ▸ ruleApplicator_answers hc

/-- A path with a digit in superscript, where the record has a list, is not answered. -/
theorem builtin_answers_superscript :
    (mutating (.map [("a", .list [.int 1])]) "a.²" (.int 5)).OnData ∧
      ∃ f, (stateMutator (mutating (.map [("a", .list [.int 1])]) "a.²" (.int 5))).answer =
          .raised f ∧
        (mutating (.map [("a", .list [.int 1])]) "a.²" (.int 5)).Unhandled "STATE_MUTATOR" f := by
  have hdata : (mutating (.map [("a", .list [.int 1])]) "a.²" (.int 5)).OnData :=
    ⟨by simp [mutating, Datum.plain, Datum.ofValue, Datum.value, Value.isData, Value.int],
      _, rfl, by simp [Datum.ofFields, Datum.ofValue, Datum.ofItems, Value.int, Datum.value,
        Datum.itemValues, Value.isData, Value.isDataItems]⟩
  have hanswers := (builtin_answers hdata).1 "STATE_MUTATOR" stateMutator rfl
  obtain ⟨f, hf⟩ := Answer.exists_raised
    (by decide +kernel : (stateMutator (mutating (.map [("a", .list [.int 1])]) "a.²"
      (.int 5))).answer.isRaised = true)
  rw [hf] at hanswers
  cases hanswers with
  | raised hunhandled => exact ⟨hdata, f, hf, hunhandled⟩

end RuleLedger
