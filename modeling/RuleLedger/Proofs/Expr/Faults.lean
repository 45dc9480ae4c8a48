import RuleLedger.Proofs.Expr.Stops
import RuleLedger.Proofs.Expr.Values
import RuleLedger.Proofs.Record.Clocked

/-! The faults of expressions. Main statement: over a mapping, an expression that has no value is at
fault itself, or its text is not read, or it asks for the time of a clock that cannot be rendered. -/
namespace RuleLedger.Expr

variable {α β ε : Type} {K : Clock} {P : α → Prop} {Q : β → Prop} {E : Environment} {s : Seed}
  {budget : Nat} {d e : Datum} {f : Fault} {t : Tree} {ts : List Tree}

/-- The faults that the evaluation of a tree ends with, where all generators of timestamps tell the
time of one clock. -/
inductive Foreseen (K : Clock) : Fault → Prop
  | evaluation (g : EvaluationFault) : Foreseen K (.evaluation g)
  | numeric (g : NumericFault) : Foreseen K (.numeric g)
  | time : K.timestamp = .error .calendar → Foreseen K (.time .calendar)

/-- A result with a property, or a fault that is foreseen. -/
inductive Meets (K : Clock) (P : α → Prop) : Except Fault α → Prop
  | value {a : α} : P a → Meets K P (.ok a)
  | fault {f : Fault} : Foreseen K f → Meets K P (.error f)

/-- A result of whatever kind, or a fault that is foreseen. -/
abbrev Foresees (K : Clock) : Except Fault α → Prop := Meets K fun _ => True

namespace Meets

variable {x : Except Fault α}

theorem bind (h : Meets K P x) {g : α → Except Fault β} (hg : ∀ a, P a → Meets K Q (g a)) :
    Meets K Q (x >>= g) := by
  cases h with
  | value ha => exact hg _ ha
  | fault hf => exact .fault hf

theorem map (h : Meets K P x) {g : α → β} (hg : ∀ a, P a → Q (g a)) : Meets K Q (x.map g) := by
  cases h with
  | value ha => exact .value (hg _ ha)
  | fault hf => exact .fault hf

theorem ite {c : Prop} [Decidable c] {y : Except Fault α} (hx : Meets K P x) (hy : Meets K P y) :
    Meets K P (if c then x else y) := by
  split_ifs
  · exact hx
  · exact hy

end Meets

theorem foresees_ok (a : α) : Foresees K (.ok a) := .value trivial

theorem foresees_map {x : Except Fault α} {g : α → β} (h : Foresees K x) : Foresees K (x.map g) :=
  h.map fun _ _ => trivial

theorem foresees_mapError {g : ε → Fault} (hg : ∀ f, Foreseen K (g f)) (x : Except ε α) :
    Foresees K (x.mapError g) := by
  cases x with
  | ok a => exact .value trivial
  | error f => exact .fault (hg f)

theorem foresees_numeric (x : Except NumericFault α) : Foresees K (numeric x) :=
  foresees_mapError .numeric x

theorem foresees_helperFault (name : String) (x : Except NumericFault α) :
    Foresees K (x.mapError (helperFault name)) :=
  foresees_mapError (fun _ => .evaluation _) x

/-! ### Calls -/

theorem foresees_checkCount (name : String) (sig : Signature) (given : Nat) :
    Foresees K (checkCount name sig given) :=
  .ite (.value trivial) (.fault (.evaluation _))

/-- Only the generator of timestamps has a fault that is none of the expression. -/
theorem foresees_callHelper {h : Helper} (hK : h.clock? = none ∨ h = .now K)
    (args : List Value) : Foresees K (callHelper s h args) := by
  cases h with
  | math g =>
    rw [callHelper]
    split
    · exact .value trivial
    · exact .fault (.evaluation _)
  | number g =>
    exact (foresees_checkCount _ _ _).bind fun _ _ => foresees_helperFault _ _
  | convert g =>
    exact (foresees_checkCount _ _ _).bind fun _ _ => foresees_helperFault _ _
  | group g => exact (foresees_checkCount _ _ _).bind fun _ _ => foresees_ok _
  | now clock =>
    obtain hK | hK := hK
    · cases hK
    obtain rfl := Helper.now.inj hK
    refine (foresees_checkCount _ _ _).bind fun _ _ => ?_
    split
    · exact .value trivial
    · rename_i h
      exact .fault (.time h)
    · exact .fault (.evaluation _)
  | uuid => exact (foresees_checkCount _ _ _).bind fun _ _ => foresees_ok _

theorem foresees_toFixed (n : Number) (places : Value) : Foresees K (toFixed n places) := by
  rw [toFixed]
  refine .ite (.fault (.evaluation _)) ((foresees_helperFault _ _).bind fun x _ => ?_)
  split
  · exact .value trivial
  · exact foresees_map ((foresees_numeric _).bind fun _ _ => foresees_ok _)

theorem foresees_callText (name : String) (text : Text) (m : Method) (arg? : Option Value) :
    Foresees K (callText name text m arg?) := by
  cases m with
  | includes | startsWith | endsWith =>
    exact (foresees_map (foresees_helperFault _ _)).bind fun _ _ => foresees_ok _
  | _ => exact .value trivial

theorem foresees_callList (name : String) (items : List Datum) (m : Method)
    (arg? : Option Datum) : Foresees K (callList name items m arg?) := by
  cases m with
  | join =>
    exact (foresees_helperFault _ _).bind fun _ _ =>
      (foresees_helperFault _ _).bind fun _ _ => foresees_ok _
  | _ => exact .value trivial

theorem foresees_callMethod (E : Environment) (r : Datum) (m : Method) (args : List Datum) :
    Foresees K (callMethod E r m args) := by
  refine (foresees_checkCount _ _ _).bind fun _ _ => ?_
  split
  · exact foresees_callText _ _ _ _
  · exact foresees_callList _ _ _ _
  · exact foresees_toFixed _ _
  · exact .value trivial

theorem foresees_callDatum (hd : d.Clocked K) (E : Environment) (args : List Datum) :
    Foresees K (callDatum E s d args) := by
  cases d with
  | group _ g => exact foresees_callHelper (s := s) (h := .group g) (.inl rfl) _
  | helper i h => exact foresees_callHelper (Datum.clocked_helper.1 hd) _
  | method _ r m => exact foresees_callMethod _ _ _ _
  | _ => exact .value trivial

theorem foresees_binaryResult (op : BinaryOp) (a b : Datum) : Foresees K (binaryResult op a b) := by
  cases op with
  | arith op => exact foresees_numeric _
  | _ => exact .value trivial

/-- A result of an operator or a call is no thing. -/
theorem Meets.plain {r : Except Fault Value} (h : Foresees K r) (hr : Flat r) :
    Meets K (Datum.Clocked K) (r.map .plain) := by
  cases h with
  | value => exact .value (Datum.clocked_plain (hr _ rfl))
  | fault hf => exact .fault hf

/-! ### Names and members -/

/-- A scope over a mapping in which all generators of timestamps tell the time of one clock. -/
structure Environment.OnClock (K : Clock) (E : Environment) : Prop where
  record : E.record.Clocked K
  generators : ∀ g ∈ E.generators, g.clock = K

theorem clocked_shelved {h : Helper} (hK : h.clock? = none) : (shelved h).Clocked K := by
  cases h with
  | group g =>
    refine .group (List.forall_mem_map.2 fun m hm => ?_)
    cases g with
    | math =>
      obtain hm | hm := List.mem_append.1 hm
      · obtain ⟨f, -, rfl⟩ := List.mem_map.1 hm
        exact .helper rfl
      · obtain rfl | rfl : m = ⟨"PI", .float piValue⟩ ∨ m = ⟨"E", .float eulerValue⟩ := by
          simpa [mathConstants] using hm
        all_goals exact .content rfl
    | number =>
      obtain ⟨f, -, rfl⟩ := List.mem_map.1 hm
      exact .helper rfl
  | _ => exact .helper hK

theorem helper?_clocked (hE : E.OnClock K) {n : Text} (h : E.helper? n = some d) :
    d.Clocked K := by
  rw [Environment.helper?] at h
  split_ifs at h
  · obtain rfl := Option.some.inj h
    exact clocked_shelved rfl
  · obtain rfl := Option.some.inj h
    exact clocked_shelved rfl
  · obtain ⟨g, hg, rfl⟩ := Option.map_eq_some_iff.1 h
    obtain rfl := hE.generators g hg
    exact .now
  · obtain ⟨g, -, rfl⟩ := Option.map_eq_some_iff.1 h
    exact .helper rfl
  · obtain ⟨f, -, rfl⟩ := Option.map_eq_some_iff.1 h
    exact clocked_shelved rfl

theorem name_meets (hE : E.OnClock K) (n : Text) : Meets K (Datum.Clocked K) (E.name n) := by
  obtain ⟨ms, hms, hclocked⟩ := hE.record
  rw [Environment.name, Environment.recordName?, hms]
  dsimp only
  cases hget : Fields.get? ms n with
  | some d => exact .value (hclocked _ (Fields.mem_of_get? hget))
  | none =>
    dsimp only
    split
    · rename_i d hd
      exact .value (helper?_clocked hE hd)
    · exact .fault (.evaluation _)

theorem clocked_methodNamed (s : Seed) (d : Datum) (family : List Method) (n : Text) :
    (methodNamed s d family n).Clocked K := by
  rw [methodNamed]
  split
  · exact .method
  · exact .content rfl

theorem member_meets (hd : d.Clocked K) (n : Text) :
    Meets K (Datum.Clocked K) (member s d n) := by
  cases d with
  | null => exact .fault (.evaluation _)
  | map i fs =>
    refine .value ?_
    cases hget : Fields.get? fs n with
    | none => exact .content rfl
    | some e => exact Datum.clocked_map.1 hd _ (Fields.mem_of_get? hget)
  | str text =>
    refine .value ?_
    split_ifs
    · exact .content rfl
    · exact clocked_methodNamed _ _ _ _
  | list i xs =>
    refine .value ?_
    split_ifs
    · exact .content rfl
    · exact clocked_methodNamed _ _ _ _
  | num k => exact .value (clocked_methodNamed _ _ _ _)
  | group i g ms =>
    rw [member]
    split
    · rename_i m hget
      exact .value (Datum.clocked_group.1 hd _ (Fields.mem_of_get? hget))
    · exact .fault (.evaluation _)
  | _ => exact .value (.content rfl)

theorem index_meets (hd : d.Clocked K) (key : Value) :
    Meets K (Datum.Clocked K) (index s d key) := by
  have hkey : Meets K (Datum.Clocked K) (memberByKey s d key) := by
    cases key with
    | str n => exact member_meets hd n
    | _ => exact .value (.content rfl)
  cases d with
  | null => exact (foresees_numeric _).bind fun _ _ => .fault (.evaluation _)
  | list i xs =>
    rw [index]
    split
    · rename_i k _
      refine .value ?_
      rw [List.getD_eq_getElem?_getD]
      cases hx : xs[k]? with
      | none => exact .content rfl
      | some x => exact Datum.clocked_list.1 hd x (List.mem_of_getElem? hx)
    · exact hkey
  | str text =>
    rw [index]
    split
    · exact .value (.content rfl)
    · exact hkey
  | map | group => exact (foresees_numeric _).bind fun n _ => member_meets hd n
  | _ => exact .value (.content rfl)

/-! ### Trees -/

theorem evalAll_meets (budget : Nat)
    (h : ∀ t ∈ ts, ∀ s, Meets K (Datum.Clocked K) (eval E s budget t)) (s : Seed) (i : Nat) :
    Meets K (fun ds => ∀ d ∈ ds, Datum.Clocked K d) (evalAll E s i budget ts) := by
  induction ts generalizing i with
  | nil => exact .value (List.forall_mem_nil _)
  | cons t ts ih =>
    have hfirst := h t List.mem_cons_self (s.fork i)
    have hrest := ih (fun u hu => h u (List.mem_cons_of_mem _ hu)) (i + 1)
    rw [evalAll]
    generalize eval E (s.fork i) budget t = first at hfirst
    cases hfirst with
    | fault hf => exact .fault hf
    | value hd =>
      dsimp only
      generalize evalAll E s (i + 1) budget ts = rest at hrest
      cases hrest with
      | fault hf => exact .fault hf
      | value hds => exact .value (List.forall_mem_cons.2 ⟨hd, hds⟩)

/-- Evaluation stays on the clock: by induction on the tree, a datum on the clock or a fault that is
foreseen. -/
theorem eval_meets (hE : E.OnClock K) (hscalar : t.Scalar) (s : Seed) (budget : Nat) :
    Meets K (Datum.Clocked K) (eval E s budget t) := by
  induction t generalizing s budget with
  | literal v =>
    rw [eval]
    refine .ite (.fault (.evaluation _)) (.value (Datum.clocked_plain ?_))
    exact hscalar v (List.mem_singleton.2 rfl)
  | name n =>
    rw [eval]
    exact .ite (.fault (.evaluation _)) (name_meets hE n)
  | member object n ih =>
    have hobject := ih hscalar (s.fork 0) (budget - 1)
    rw [eval]
    generalize eval E (s.fork 0) (budget - 1) object = r at hobject
    cases hobject with
    | fault hf => exact .fault hf
    | value hd => exact member_meets hd n
  | index object key ihobject ihkey =>
    obtain ⟨hl, hr⟩ := Tree.Scalar.both hscalar
    have hobject := ihobject hl (s.fork 0) (budget - 1)
    have hkey := ihkey hr (s.fork 1) (budget - 1)
    rw [eval]
    generalize eval E (s.fork 0) (budget - 1) object = r at hobject
    cases hobject with
    | fault hf => exact .fault hf
    | value hd =>
      dsimp only
      generalize eval E (s.fork 1) (budget - 1) key = k at hkey
      cases hkey with
      | fault hf => exact .fault hf
      | value => exact index_meets hd _
  | call callee args ihcallee ihargs =>
    obtain ⟨hl, hr⟩ := Tree.Scalar.both hscalar
    have hcallee := ihcallee hl (s.fork 0) (budget - 2)
    have hargs := evalAll_meets (budget - 2)
      (fun t ht s => ihargs t ht (fun v hv => hr v (leaves_subset ht hv)) s _) s 1
    rw [eval]
    generalize eval E (s.fork 0) (budget - 2) callee = r at hcallee
    cases hcallee with
    | fault hf => exact .fault hf
    | value hd =>
      refine .ite ?_ (.fault (.evaluation _))
      generalize evalAll E s 1 (budget - 2) args = rs at hargs
      cases hargs with
      | fault hf => exact .fault hf
      | value => exact .plain (foresees_callDatum hd _ _) (flat_callDatum _ _ _ _)
  | unary op operand ih =>
    have hoperand := ih hscalar s (budget - 1)
    rw [eval]
    generalize eval E s (budget - 1) operand = r at hoperand
    cases hoperand with
    | fault hf => exact .fault hf
    | value => exact .value (Datum.clocked_plain (isThing_unaryResult op _))
  | binary op left right ihleft ihright =>
    obtain ⟨hl, hr⟩ := Tree.Scalar.both hscalar
    have hleft := ihleft hl (s.fork 0) (budget - 1)
    have hright := ihright hr (s.fork 1) (budget - 1)
    rw [eval]
    generalize eval E (s.fork 0) (budget - 1) left = a at hleft
    cases hleft with
    | fault hf => exact .fault hf
    | value =>
      dsimp only
      generalize eval E (s.fork 1) (budget - 1) right = b at hright
      cases hright with
      | fault hf => exact .fault hf
      | value => exact .plain (foresees_binaryResult op _ _) (flat_binaryResult op _ _)
  | logical op left right ihleft ihright =>
    obtain ⟨hl, hr⟩ := Tree.Scalar.both hscalar
    have hleft := ihleft hl (s.fork 0) (budget - 1)
    rw [eval]
    generalize eval E (s.fork 0) (budget - 1) left = a at hleft
    cases hleft with
    | fault hf => exact .fault hf
    | value hd => exact .ite (ihright hr _ _) (.value hd)
  | conditional test yes no ihtest ihyes ihno =>
    obtain ⟨ht, hrest⟩ := Tree.Scalar.both hscalar
    obtain ⟨hy, hn⟩ := Tree.Scalar.both hrest
    have htest := ihtest ht (s.fork 0) (budget - 1)
    rw [eval]
    generalize eval E (s.fork 0) (budget - 1) test = r at htest
    cases htest with
    | fault hf => exact .fault hf
    | value => exact .ite (ihyes hy _ _) (ihno hn _ _)
  | array items ih =>
    have hitems := evalAll_meets (budget - 1)
      (fun t ht s => ih t ht (hscalar.mono (leaves_subset ht)) s _) s 0
    rw [eval]
    refine .ite (.fault (.evaluation _)) ?_
    generalize evalAll E s 0 (budget - 1) items = rs at hitems
    cases hitems with
    | fault hf => exact .fault hf
    | value hds => exact .value (.list hds)

/-! ### Texts -/

/-- The time was asked of a clock that cannot be rendered. -/
def Untold (K : Clock) (f : Fault) : Prop := K.timestamp = .error .calendar ∧ f = .time .calendar

theorem Foreseen.wrapNumeric (h : Foreseen K f) :
    (wrapNumeric f).ofExpression = true ∨ Untold K (wrapNumeric f) := by
  cases h with
  | evaluation | numeric => exact .inl rfl
  | time h => exact .inr ⟨h, rfl⟩

/-- A tree has a datum on the clock, or it is at fault, or it asks for a time that cannot be told.
-/
theorem evaluateTree_cases (hE : E.OnClock K) (hscalar : t.Scalar) (s : Seed) :
    (∃ d, evaluateTree E s t = .ok d ∧ d.Clocked K) ∨
      ∃ f, evaluateTree E s t = .error f ∧ (f.ofExpression = true ∨ Untold K f) := by
  have h := eval_meets hE hscalar s depthBudget
  rw [evaluateTree]
  generalize eval E s depthBudget t = r at h
  cases h with
  | fault hf => exact .inr ⟨_, rfl, hf.wrapNumeric⟩
  | @value d hd =>
    cases d with
    | group | helper | method => exact .inr ⟨_, rfl, .inl rfl⟩
    | _ => exact .inl ⟨_, rfl, hd.copy s⟩

/-- The same of a text, which is perhaps not read. -/
theorem evaluateText_cases (hE : E.OnClock K) (s : Seed) (source : Text) :
    (∃ d, evaluateText E s source = .ok d ∧ d.Clocked K) ∨
      ∃ f, evaluateText E s source = .error f ∧
        (f.ofExpression = true ∨ Unread source f ∨ Untold K f) := by
  rw [evaluateText]
  cases h : parse source with
  | error f =>
    refine .inr ⟨f, rfl, ?_⟩
    obtain ⟨g, rfl⟩ | hf := parse_stops h
    · exact .inl rfl
    · exact .inr (.inl hf)
  | ok t =>
    obtain hd | ⟨f, hf, hcause⟩ := evaluateTree_cases hE (parse_scalar h) s
    · exact .inl hd
    · exact .inr ⟨f, hf, hcause.imp_right .inr⟩

/-- Over data and without generators, an expression has a value, or it is at fault, or it is not
read. -/
theorem evaluate_cases (hE : DataScope E) (hg : E.generators = none) (s : Seed) (source : Value) :
    (∃ d, evaluate E s source = .ok d) ∨
      ∃ f, evaluate E s source = .error f ∧
        (f.ofExpression = true ∨ ∃ text, source = .str text ∧ Unread text f) := by
  obtain ⟨ms, hms, hdata⟩ := hE
  -- data are on every clock, so also on one that can be rendered
  obtain ⟨ts, hts, -⟩ := exists_ok (fun _ => true)
    (by decide +kernel : (Clock.timestamp ⟨0⟩).toOption.any (fun _ => true) = true)
  have hclock : E.OnClock ⟨0⟩ :=
    ⟨⟨ms, hms, fun m hm => Datum.clocked_of_isData (hdata m hm)⟩, by simp [hg]⟩
  cases source with
  | str text =>
    obtain ⟨d, hd, -⟩ | ⟨f, hf, hcause⟩ := evaluateText_cases hclock s text
    · exact .inl ⟨d, hd⟩
    · refine .inr ⟨f, hf, ?_⟩
      obtain hcause | hcause | ⟨hnone, -⟩ := hcause
      · exact .inl hcause
      · exact .inr ⟨text, rfl, hcause⟩
      · rw [hts] at hnone
        cases hnone
  | _ => exact .inr ⟨_, rfl, .inl rfl⟩

end RuleLedger.Expr
