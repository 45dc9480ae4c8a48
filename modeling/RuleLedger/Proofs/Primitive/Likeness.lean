import Mathlib.Data.List.Nodup
import RuleLedger.Invariant.Binding
import RuleLedger.Primitive.Registry
import RuleLedger.Proofs.Expr.Likeness

/-! Calls of primitives in two runs side by side. Main statements: whatever the likeness of two
calls, a built-in primitive answers them alike and leaves records that are alike; the scorer does so
as long as it shows the same text, and the rule applicator as long as no template asks for an
identifier or, of different clocks, for the time. -/
namespace RuleLedger

/-- Whether a call has parameters of a step among its inputs. -/
def Call.Carries (c : Call) (params : Fields Value) : Prop :=
  ∀ k v, Fields.get? params k = some v → c.inputValue k = v

namespace Likeness

variable {P : Pairing} (L : Likeness P)

/-- Mappings of likes under the same keys in the same order. -/
def LikeFields (fs gs : Fields Datum) : Prop := fs.keys.Nodup ∧ Fields.Related L.data fs gs

structure LikeCalls (c c' : Call) : Prop where
  inputs : L.LikeFields c.inputs c'.inputs
  record : L.records c.record c'.record
  seeds : P.seeds c.seed c'.seed

/-- Outputs that are alike. What is said about a call that did not complete is the same text. -/
inductive LikeOutputs : Output → Output → Prop
  | completed {fs gs : Fields Datum} : L.LikeFields fs gs →
    LikeOutputs (.completed fs) (.completed gs)
  | skipped {v : Value} {fs gs : Fields Datum} : v.isThing = false → L.LikeFields fs gs →
    LikeOutputs (.skipped v fs) (.skipped v gs)
  | failed {v : Value} {fs gs : Fields Datum} : v.isThing = false → L.LikeFields fs gs →
    LikeOutputs (.failed v fs) (.failed v gs)
  | flagged {v : Value} {fs gs : Fields Datum} : v.isThing = false → L.LikeFields fs gs →
    LikeOutputs (.flagged v fs) (.flagged v gs)

inductive LikeAnswers : Answer → Answer → Prop
  | output {o o' : Output} : L.LikeOutputs o o' → LikeAnswers (.output o) (.output o')
  | stray (kind : String) : LikeAnswers (.stray kind) (.stray kind)
  | raised (f : Fault) : LikeAnswers (.raised f) (.raised f)

/-- Outcomes that are alike; logs may differ. -/
structure LikeOutcomes (o o' : Outcome) : Prop where
  answer : L.LikeAnswers o.answer o'.answer
  record : L.records o.record o'.record

variable {L} {c c' : Call} {o o' : Output} {fs gs fs' gs' : Fields Datum} {d e : Datum}

theorem LikeFields.nil : L.LikeFields [] [] := ⟨.nil, .nil⟩

theorem LikeFields.single (k : Text) (hd : L.data d e) : L.LikeFields [(k, d)] [(k, e)] :=
  ⟨List.nodup_singleton k, .single k hd⟩

theorem LikeFields.put (h : L.LikeFields fs gs) (k : Text) (hd : L.data d e) :
    L.LikeFields (Fields.put fs k d) (Fields.put gs k e) :=
  ⟨Fields.nodup_put h.1 k d, h.2.put k hd⟩

theorem LikeFields.putAll (h : L.LikeFields fs gs) (h' : Fields.Related L.data fs' gs') :
    L.LikeFields (Fields.putAll fs fs') (Fields.putAll gs gs') :=
  ⟨Fields.nodup_putAll h.1 fs', h.2.putAll h'⟩

theorem LikeFields.ofPairs (h : Fields.Related L.data fs gs) :
    L.LikeFields (Fields.ofPairs fs) (Fields.ofPairs gs) := LikeFields.nil.putAll h

theorem LikeFields.get? (h : L.LikeFields fs gs) (k : Text) :
    Option.Rel L.data (Fields.get? fs k) (Fields.get? gs k) := h.2.get? k

theorem LikeOutputs.rendered (h : L.LikeOutputs o o') : L.LikeFields o.rendered o'.rendered := by
  cases h with
  | completed hfs => exact hfs
  | @skipped v _ _ hv hfs =>
    have hhead : L.LikeFields [("skipped", .bool true), ("reason", .plain v)]
        [("skipped", .bool true), ("reason", .plain v)] :=
      ⟨(by decide : (["skipped", "reason"] : List Text).Nodup),
        .cons ⟨rfl, L.bool true⟩ (.cons ⟨rfl, L.plain hv⟩ .nil)⟩
    exact hhead.putAll hfs.2
  | @failed v _ _ hv hfs =>
    have hhead : L.LikeFields [("error", .plain v)] [("error", .plain v)] :=
      .single _ (L.plain hv)
    exact hhead.putAll hfs.2
  | flagged hv hfs => exact hfs.put _ (L.plain hv)

namespace LikeCalls

variable (h : L.LikeCalls c c')

include h

theorem input (k : Text) : L.data (c.input k) (c'.input k) :=
  optionRel_getD (h.inputs.get? k) L.null

theorem inputValue_surface (k : Text) : (c.inputValue k).surface = (c'.inputValue k).surface :=
  surface_eq (h.input k)

theorem answer (ho : L.LikeOutputs o o') : L.LikeOutcomes (c.answer o) (c'.answer o') :=
  ⟨.output ho, h.record⟩

theorem raise (f : Fault) : L.LikeOutcomes (c.raise f) (c'.raise f) := ⟨.raised f, h.record⟩

end LikeCalls
end Likeness

open Likeness

variable {P : Pairing} {L : Likeness P} {c c' : Call} {A B : Clock} {d e : Datum} {s t : Seed}
  {r r' : Record} {xs ys : List Datum}

/-! ### The evaluators -/

theorem scope_like (h : L.LikeCalls c c') : Expr.LikeScopes L ⟨c.scope, none⟩ ⟨c'.scope, none⟩ := by
  have hmembers (k : Text) :
      (c.input k).members? = none ∧ (c'.input k).members? = none ∨
        ∃ fs gs, (c.input k).members? = some fs ∧ (c'.input k).members? = some gs ∧
          L.records ⟨.fields fs, c.record.held⟩ ⟨.fields gs, c'.record.held⟩ := by
    have hd := h.input k
    generalize c.input k = d, c'.input k = e at hd
    cases L.layer hd with
    | map => exact .inr ⟨_, _, rfl, rfl, L.scope h.record hd⟩
    | _ => exact .inl ⟨rfl, rfl⟩
  have hnothing : L.records ⟨.fields [], c.record.held⟩ ⟨.fields [], c'.record.held⟩ :=
    L.scope h.record (L.map (P.part [] h.seeds) rfl .nil .nil)
  refine ⟨?_, .none⟩
  change L.records c.scope c'.scope
  rw [Call.scope, Call.scope]
  obtain ⟨hn, hn'⟩ | ⟨fs, gs, hs, hs', hfs⟩ := hmembers "context"
  · rw [hn, hn']
    dsimp only
    obtain ⟨hn, hn'⟩ | ⟨fs, gs, hs, hs', hfs⟩ := hmembers KeyPath.wildcardText
    · rw [hn, hn']
      exact hnothing
    · rw [hs, hs']
      exact hfs
  · rw [hs, hs']
    exact hfs

theorem conditionEvaluator_like (h : L.LikeCalls c c') :
    L.LikeOutcomes (conditionEvaluator c) (conditionEvaluator c') := by
  have heval := Expr.evaluate_like (scope_like h) rfl h.seeds (h.inputValue_surface "condition")
  rw [conditionEvaluator, conditionEvaluator]
  refine heval.elim (fun f => ?_) fun d e hd => ?_
  · dsimp only
    split_ifs
    · exact h.answer (.failed rfl (.single _ (L.bool false)))
    · exact h.raise f
  · dsimp only
    rw [← Value.truthy_surface, surface_eq hd, Value.truthy_surface]
    exact h.answer (.completed (.single _ (L.bool _)))

theorem expressionEvaluator_like (h : L.LikeCalls c c') :
    L.LikeOutcomes (expressionEvaluator c) (expressionEvaluator c') := by
  have heval := Expr.evaluate_like (scope_like h) rfl h.seeds (h.inputValue_surface "expression")
  rw [expressionEvaluator, expressionEvaluator]
  refine heval.elim (fun f => ?_) fun d e hd => ?_
  · dsimp only
    split_ifs
    · exact h.answer (.failed rfl .nil)
    · exact h.raise f
  · dsimp only
    rw [← Value.isNaN_surface, surface_eq hd, Value.isNaN_surface]
    split_ifs
    · exact h.answer (.flagged rfl (.single _ hd))
    · exact h.answer (.completed (.single _ hd))

/-! ### The scorer and the mutator -/

theorem isVoid_like (h : L.data d e) : d.value.isVoid = e.value.isVoid := by
  cases L.layer h with
  | @list _ _ xs ys _ hxs =>
    rw [Datum.value_list, Datum.value_list]
    cases hxs <;> rfl
  | @map _ _ fs gs _ _ _ hfs =>
    rw [Datum.value_map, Datum.value_map]
    cases fs with
    | nil =>
      cases gs with
      | nil => rfl
      | cons g gs =>
        have hg := hfs g.1
        rw [Fields.get?_cons, if_pos rfl] at hg
        cases hg
    | cons f fs =>
      cases gs with
      | nil =>
        have hf := hfs f.1
        rw [Fields.get?_cons, if_pos rfl] at hf
        cases hf
      | cons => rfl
  | _ => rfl

@[simp] theorem Value.number?_surface (v : Value) : v.surface.number? = v.number? := by
  cases v <;> rfl

theorem numbers_of_surface {vs ws : List Value}
    (h : vs.map Value.surface = ws.map Value.surface) :
    vs.filterMap Value.number? = ws.filterMap Value.number? := by
  have hmap (us : List Value) :
      (us.map Value.surface).filterMap Value.number? = us.filterMap Value.number? := by
    rw [List.filterMap_map]
    exact congrArg (List.filterMap · us) (funext Value.number?_surface)
  rw [← hmap, h, hmap]

namespace Score

/-- The first score that is no number. -/
def misfit? : Value → Option Value
  | .list xs => xs.find? (·.number?.isNone)
  | _ => none

/-- The score that the scorer shows as no number. -/
def shown? (trigger scores : Value) : Option Value :=
  if trigger.truthy then none else misfit? scores

end Score

/-- The score that a call of the scorer shows. -/
def Call.shownScore? (c : Call) : Option Value :=
  Score.shown? (c.inputValue "trigger_nan_test") (c.inputValue "scores")

theorem compositeScorer_like (h : L.LikeCalls c c')
    (hshown : c.shownScore?.map Value.display = c'.shownScore?.map Value.display) :
    L.LikeOutcomes (compositeScorer c) (compositeScorer c') := by
  have hscore (n : Number) : L.LikeFields [(Score.field, .num n)] [(Score.field, .num n)] :=
    .single _ (L.num n)
  have hvoid := isVoid_like (h.input "scores")
  have hsurface := h.inputValue_surface "scores"
  have htest : (c.inputValue "trigger_nan_test").truthy =
      (c'.inputValue "trigger_nan_test").truthy := by
    rw [← Value.truthy_surface, h.inputValue_surface, Value.truthy_surface]
  rw [← Call.inputValue, ← Call.inputValue] at hvoid
  rw [Call.shownScore?, Call.shownScore?, Score.shown?, Score.shown?, ← htest] at hshown
  rw [compositeScorer, compositeScorer, ← htest]
  generalize c.inputValue "scores" = v, c'.inputValue "scores" = w at hvoid hsurface hshown ⊢
  dsimp only
  rw [← hvoid]
  by_cases hv : v.isVoid = true
  · rw [if_pos hv, if_pos hv]
    exact h.answer (.flagged rfl (hscore _))
  · rw [if_neg hv, if_neg hv]
    cases v with
    | list vs =>
      obtain ⟨ws, rfl, hvs⟩ := Value.exists_list_of_surface hsurface
      dsimp only
      by_cases ht : (c.inputValue "trigger_nan_test").truthy = true
      · rw [if_pos ht, if_pos ht]
        exact h.answer (.flagged rfl (hscore _))
      · rw [if_neg ht, if_neg ht, Score.misfit?, Score.misfit?] at hshown
        rw [if_neg ht, if_neg ht, ← numbers_of_surface hvs]
        cases hfind : vs.find? (·.number?.isNone) with
        | none =>
          rw [hfind, Option.map_none, eq_comm, Option.map_eq_none_iff] at hshown
          rw [hshown]
          dsimp only
          split
          · exact h.answer (.completed (hscore _))
          · exact h.answer (.failed rfl .nil)
        | some v =>
          rw [hfind, Option.map_some, eq_comm, Option.map_eq_some_iff] at hshown
          obtain ⟨w, hw, hdisplay⟩ := hshown
          rw [hw]
          dsimp only
          rw [hdisplay]
          split
          · exact h.answer (.failed rfl .nil)
          · exact h.raise _
    | _ =>
      cases w with
      | list ws =>
        obtain ⟨vs, hvs, -⟩ := Value.exists_list_of_surface hsurface.symm
        cases hvs
      | _ => exact h.answer (.failed rfl .nil)

theorem refusedWrite_like (h : L.LikeCalls c c') (message line line' : Text) :
    L.LikeOutcomes (refusedWrite c message line) (refusedWrite c' message line') :=
  ⟨.output (.completed ⟨(by decide : (["success", "message"] : List Text).Nodup),
    .cons ⟨rfl, L.bool false⟩ (.cons ⟨rfl, L.str message⟩ .nil)⟩), h.record⟩

theorem stateMutator_like (h : L.LikeCalls c c') :
    L.LikeOutcomes (stateMutator c) (stateMutator c') := by
  have hnew := h.input "value"
  have hpath := h.input "path"
  rw [stateMutator, stateMutator, Call.inputValue, Call.inputValue]
  generalize c.input "path" = a, c'.input "path" = b at hpath
  dsimp only
  cases L.layer hpath with
  | str text =>
    rw [Datum.value]
    dsimp only
    generalize c.input "value" = d, c'.input "value" = e at hnew
    split_ifs with htext hd he he
    · exact refusedWrite_like h _ _ _
    · exact h.answer (.flagged rfl (.single _ (L.bool false)))
    · cases L.layer hnew <;> contradiction
    · cases L.layer hnew <;> contradiction
    · cases KeyPath.ofText text with
      | error f => exact refusedWrite_like h _ _ _
      | ok p =>
        obtain ⟨hrecord, hfault⟩ := L.write h.seeds h.record hnew p
        dsimp only
        generalize c.record.write p c.seed d = w, c'.record.write p c'.seed e = w' at hrecord hfault
        obtain ⟨u, f⟩ := w
        obtain ⟨u', f'⟩ := w'
        obtain rfl : f = f' := hfault
        rcases f with _ | f
        · exact ⟨.output (.completed ⟨(by decide :
            (["success", "updatedPath", "newValue"] : List Text).Nodup),
            .cons ⟨rfl, L.bool true⟩ (.cons ⟨rfl, L.str text⟩ (.cons ⟨rfl, hnew⟩ .nil))⟩),
            hrecord⟩
        · cases f with
          | path f => exact refusedWrite_like h _ _ _
          | _ => exact ⟨.raised _, hrecord⟩
  | _ => exact refusedWrite_like h _ _ _

/-! ### The rule applicator -/

/-- The expression of a template. -/
def templateTree? (s : Text) : Option Expr.Tree :=
  (templateBody? s).bind fun body => (Expr.parse body).toOption

/-- Whether a text is a template whose expression looks up a name. -/
def templateMentions (s n : Text) : Prop := ∃ tree ∈ templateTree? s, tree.mentions n

instance (s n : Text) : Decidable (templateMentions s n) :=
  inferInstanceAs (Decidable (∃ tree ∈ templateTree? s, tree.mentions n))

theorem templateTree?_eq {s body : Text} {tree : Expr.Tree} (hb : templateBody? s = some body)
    (ht : Expr.parse body = .ok tree) : templateTree? s = some tree := by
  rw [templateTree?, hb, Option.bind_some, ht]
  rfl

/-- A text that, as a template, asks for no identifier and, of different clocks, for no time. -/
def QuietTemplate (A B : Clock) (s : Text) : Prop :=
  ¬templateMentions s "uuid" ∧ (A = B ∨ ¬templateMentions s "now")

/-- Assignments all of whose templates are quiet. -/
def QuietAssignments (A B : Clock) (assignments : Value) : Prop :=
  ∀ fs, assignments = .map fs → ∀ f ∈ fs, ∀ s, f.2 = .str s → QuietTemplate A B s

/-- Generators of two runs. -/
structure TwinGenerators (P : Pairing) (A B : Clock) (g g' : Expr.Generators) : Prop where
  left : g.clock = A
  right : g'.clock = B
  seeds : P.seeds g.seed g'.seed

variable {g g' : Expr.Generators} {fs gs : Fields Datum}

theorem isThing_literalOfText (s : Text) : (literalOfText s).isThing = false := by
  rw [literalOfText]
  dsimp only
  split_ifs <;> rfl

theorem resolveAssignment_like (h : L.records r r') (hg : TwinGenerators P A B g g')
    (hs : P.seeds s t) (hd : L.data d e) (hq : ∀ text, d = .str text → QuietTemplate A B text) :
    Same L.data (resolveAssignment r g s d) (resolveAssignment r' g' t e) := by
  have hcopy := L.copy hs hd
  cases L.layer hd with
  | str text =>
    obtain ⟨huuid, hnow⟩ := hq text rfl
    rw [resolveAssignment, resolveAssignment]
    cases hb : templateBody? text with
    | none => exact .ok (L.plain (isThing_literalOfText text))
    | some body =>
      have hscopes : Expr.LikeScopes L ⟨r, some g⟩ ⟨r', some g'⟩ := ⟨h, .some hg.seeds⟩
      refine Expr.evaluateText_like hscopes (fun tree ht n hn => .inr ⟨?_, ?_⟩) hs
      · rintro rfl
        exact huuid ⟨tree, templateTree?_eq hb ht, hn⟩
      · rintro rfl
        rcases hnow with rfl | hnow
        · exact congrArg some (hg.left.trans hg.right.symm)
        · exact absurd ⟨tree, templateTree?_eq hb ht, hn⟩ hnow
  | _ => exact .ok hcopy

theorem assign_like (h : L.records r r') (hg : TwinGenerators P A B g g') (hs : P.seeds s t)
    (field : Text) (hd : L.data d e) (hq : ∀ text, d = .str text → QuietTemplate A B text) :
    L.records (assign r g s field d).1 (assign r' g' t field e).1 ∧
      Same L.data (assign r g s field d).2 (assign r' g' t field e).2 := by
  rw [assign, assign]
  refine (resolveAssignment_like h hg hs hd hq).elim (fun f => ⟨h, .error rfl⟩)
    fun new new' hnew => ?_
  cases KeyPath.ofText field with
  | error f => exact ⟨h, .error rfl⟩
  | ok p =>
    obtain ⟨hrecord, hfault⟩ := L.write hs h hnew p
    dsimp only
    generalize r.write p s new = w, r'.write p t new' = w' at hrecord hfault
    obtain ⟨u, f⟩ := w
    obtain ⟨u', f'⟩ := w'
    obtain rfl : f = f' := hfault
    cases f with
    | none => exact ⟨hrecord, .ok hnew⟩
    | some f => exact ⟨hrecord, .error rfl⟩

/-- The same progress in both runs. -/
structure LikeProgress (L : Likeness P) (p p' : Progress) : Prop where
  record : L.records p.record p'.record
  made : Fields.Related L.data p.made p'.made
  failure : Option.Rel (fun x y => x.1 = y.1 ∧ L.data x.2.1 y.2.1 ∧ x.2.2 = y.2.2)
    p.failure p'.failure

theorem assignAll_like (hg : TwinGenerators P A B g g') (hs : P.seeds s t) (h : L.records r r')
    (hfs : Fields.Related L.data fs gs)
    (hq : ∀ f ∈ fs, ∀ text, f.2 = .str text → QuietTemplate A B text) (i : Nat) :
    LikeProgress L (assignAll g s r i fs) (assignAll g' t r' i gs) := by
  induction hfs generalizing r r' i with
  | nil => exact ⟨h, .nil, .none⟩
  | @cons a b _ _ hf _ ih =>
    obtain ⟨field, d⟩ := a
    obtain ⟨field', e⟩ := b
    obtain ⟨rfl, hd⟩ : field = field' ∧ L.data d e := hf
    have hassign := assign_like h hg (P.fork i hs) field hd (hq _ List.mem_cons_self)
    rw [assignAll, assignAll]
    generalize assign r g (s.fork i) field _ = w, assign r' g' (t.fork i) field _ = w' at hassign
    obtain ⟨u, x⟩ := w
    obtain ⟨u', x'⟩ := w'
    obtain ⟨hu, hx⟩ := hassign
    dsimp only at hx
    refine hx.elim (fun f => ⟨hu, .nil, .some ⟨rfl, hd, rfl⟩⟩) fun new new' hnew => ?_
    have hrest := ih hu (fun f hf => hq f (List.mem_cons_of_mem _ hf)) (i + 1)
    exact ⟨hrest.record, .cons ⟨rfl, hnew⟩ hrest.made, hrest.failure⟩

theorem updatesReport_like (L : Likeness P) (hs : P.seeds s t) {made made' : Fields Datum}
    (h : Fields.Related L.data made made') :
    L.data (updatesReport s made) (updatesReport t made') := by
  have hitems (f : Nat → Place) : List.Forall₂ L.data
      (made.mapIdx fun i u => .map (.part s (f i)) [("field", .str u.1), ("value", u.2)])
      (made'.mapIdx fun i u => .map (.part t (f i)) [("field", .str u.1), ("value", u.2)]) := by
    induction h generalizing f with
    | nil => exact .nil
    | @cons a b _ _ hu _ ih =>
      obtain ⟨k, d⟩ := a
      obtain ⟨k', e⟩ := b
      obtain ⟨rfl, hd⟩ : k = k' ∧ L.data d e := hu
      rw [List.mapIdx_cons, List.mapIdx_cons]
      refine .cons (L.map (P.part _ hs) rfl (by decide : (["field", "value"] : List Text).Nodup) ?_)
        (ih fun i => f (i + 1))
      exact .cons ⟨rfl, L.str k⟩ (.cons ⟨rfl, hd⟩ .nil)
  exact L.list (P.part _ hs) rfl (hitems fun i => [.item i, .key "updates"])

theorem appliedRule_like (h : L.LikeCalls c c') {p p' : Progress} (hp : LikeProgress L p p') :
    L.LikeOutcomes (appliedRule c p) (appliedRule c' p') := by
  have hid := h.input "ruleId"
  refine ⟨?_, hp.record⟩
  rw [appliedRule, appliedRule]
  dsimp only
  obtain ⟨hn, hn'⟩ | ⟨⟨field, right, f⟩, ⟨field', right', f'⟩, hx, hy, hfield, hright, hf⟩ :=
    optionRel_cases hp.failure
  · rw [hn, hn', hp.made.length_eq]
    have hkeys : (["success", "ruleId", "priority", "updatesApplied", "updates", "results"] :
        List Text).Nodup := by decide
    have hpairs := LikeFields.ofPairs hp.made
    have hresults : L.data (resultsReport c.seed p.made) (resultsReport c'.seed p'.made) :=
      L.map (P.part _ h.seeds) rfl hpairs.1 hpairs.2
    exact .output (.completed ⟨hkeys, .cons ⟨rfl, L.bool true⟩ (.cons ⟨rfl, hid⟩
      (.cons ⟨rfl, h.input "priority"⟩ (.cons ⟨rfl, L.num _⟩
        (.cons ⟨rfl, updatesReport_like L h.seeds hp.made⟩ (.cons ⟨rfl, hresults⟩ .nil)))))⟩)
  · obtain rfl : field = field' := hfield
    obtain rfl : f = f' := hf
    rw [hx, hy]
    dsimp only
    split_ifs
    · exact .output (.failed rfl ⟨(by decide : (["expression", "fieldPath", "ruleId"] :
        List Text).Nodup), .cons ⟨rfl, hright⟩ (.cons ⟨rfl, L.str field⟩
          (.cons ⟨rfl, hid⟩ .nil))⟩)
    · exact .raised f

theorem ruleCondition_like (h : L.LikeCalls c c') : ruleCondition c = ruleCondition c' := by
  have hd := h.input "condition"
  rw [ruleCondition, ruleCondition]
  generalize c.input "condition" = d, c'.input "condition" = e at hd
  cases L.layer hd with
  | str text =>
    dsimp only
    split_ifs
    · rfl
    · have hscopes : Expr.LikeScopes L ⟨c.record, none⟩ ⟨c'.record, none⟩ := ⟨h.record, .none⟩
      have hsteady : Expr.SteadyText ⟨c.record, none⟩ ⟨c'.record, none⟩ text :=
        fun _ _ _ _ => .inl rfl
      have heval := Expr.evaluateText_like hscopes hsteady (P.fork 0 h.seeds)
      refine heval.elim (fun f => rfl) fun d e hd => ?_
      rw [Except.map, Except.map, ← Value.truthy_surface, surface_eq hd, Value.truthy_surface]
  | _ => rfl

/-- Assignments are made in the order in which they are given, which has to be the same in both
runs. -/
theorem ruleApplicator_like (h : L.LikeCalls c c') (hA : c.clock = A) (hB : c'.clock = B)
    (hvalue : c.inputValue "assignments" = c'.inputValue "assignments")
    (hq : QuietAssignments A B (c.inputValue "assignments")) :
    L.LikeOutcomes (ruleApplicator c) (ruleApplicator c') := by
  have hid := h.input "ruleId"
  have hpair : L.LikeFields [("condition", c.input "condition"), ("ruleId", c.input "ruleId")]
      [("condition", c'.input "condition"), ("ruleId", c'.input "ruleId")] :=
    ⟨(by decide : (["condition", "ruleId"] : List Text).Nodup),
      .cons ⟨rfl, h.input "condition"⟩ (.cons ⟨rfl, hid⟩ .nil)⟩
  have henabled : (c.inputValue "enabled").truthy = (c'.inputValue "enabled").truthy := by
    rw [← Value.truthy_surface, h.inputValue_surface, Value.truthy_surface]
  have happly {fs gs : Fields Datum} (hfs : Fields.Related L.data fs gs)
      (hq : ∀ f ∈ fs, ∀ text, f.2 = .str text → QuietTemplate A B text) :
      L.LikeOutcomes (appliedRule c (assignAll ⟨c.clock, c.seed⟩ c.seed c.record 1 fs))
        (appliedRule c' (assignAll ⟨c'.clock, c'.seed⟩ c'.seed c'.record 1 gs)) :=
    appliedRule_like h (assignAll_like ⟨hA, hB, h.seeds⟩ h.seeds h.record hfs hq 1)
  rw [ruleApplicator, ruleApplicator, ← henabled, ← ruleCondition_like h]
  dsimp only
  split_ifs
  · exact h.answer (.skipped rfl (.single _ hid))
  · cases ruleCondition c with
    | error f =>
      dsimp only
      split_ifs
      · exact h.answer (.failed rfl hpair)
      · exact h.raise f
    | ok met =>
      cases met with
      | false => exact h.answer (.skipped rfl hpair)
      | true =>
        have hd := h.input "assignments"
        rw [Call.inputValue] at hq
        rw [Call.inputValue, Call.inputValue] at hvalue
        dsimp only
        generalize c.input "assignments" = d, c'.input "assignments" = e at hd hvalue hq
        cases L.layer hd with
        | null => exact happly .nil (List.forall_mem_nil _)
        | @map i j fs gs _ hk _ hfs =>
          rw [Datum.value_map, Datum.value_map, Value.map.injEq] at hvalue
          have hkeys := congrArg Fields.keys hvalue
          rw [keys_mapValues, keys_mapValues] at hkeys
          refine happly (.of_get? hkeys hk hfs) fun f hf text htext => ?_
          refine hq _ (Datum.value_map i fs) (f.1, f.2.value) (List.mem_map_of_mem hf) text ?_
          rw [htext, Datum.value]
        | _ => exact h.answer (.failed rfl (.single _ hid))

/-! ### The built-in primitives and checks -/

/-- The built-in checks do not tell outputs that are alike apart. -/
theorem Checks.like_builtin {name : Text} {check : Check}
    (hc : Fields.get? builtin name = some check) (h : L.LikeFields fs gs) :
    check fs = check gs := by
  simp only [builtin, Fields.get?_cons, Fields.get?_nil] at hc
  split_ifs at hc
  · obtain rfl := Option.some.inj hc
    rw [stateProgress, stateProgress]
    obtain ⟨hx, hy⟩ | ⟨d, e, hx, hy, hd⟩ := optionRel_cases (h.get? "success")
    · rw [hx, hy]
    · rw [hx, hy]
      cases L.layer hd <;> rfl
  · obtain rfl := Option.some.inj hc
    rw [consistency, consistency, Bool.eq_iff_iff, Fields.has_iff, Fields.has_iff, h.2.keys_eq]

/-- The built-in primitives answer calls that are alike alike, the scorer as long as it shows the
same text, and the rule applicator as long as its assignments are the same and quiet. -/
theorem Registry.like_builtin {name : Text} {f : Primitive}
    (hf : Fields.get? builtin name = some f) (h : L.LikeCalls c c') (hA : c.clock = A)
    (hB : c'.clock = B)
    (hshown : name = "COMPOSITE_SCORER" →
      c.shownScore?.map Value.display = c'.shownScore?.map Value.display)
    (hrule : name = "RULE_APPLICATOR" → c.inputValue "assignments" = c'.inputValue "assignments" ∧
      QuietAssignments A B (c.inputValue "assignments")) :
    L.LikeOutcomes (f c) (f c') := by
  simp only [builtin, Fields.get?_cons, Fields.get?_nil] at hf
  split_ifs at hf with h₁ h₂ h₃ h₄ h₅
  · exact Option.some.inj hf ▸ conditionEvaluator_like h
  · exact Option.some.inj hf ▸ expressionEvaluator_like h
  · exact Option.some.inj hf ▸ stateMutator_like h
  · exact Option.some.inj hf ▸ compositeScorer_like h (hshown h₄)
  · obtain ⟨hvalue, hq⟩ := hrule h₅
    exact Option.some.inj hf ▸ ruleApplicator_like h hA hB hvalue hq

end RuleLedger
