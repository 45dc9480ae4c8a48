import RuleLedger.Plan.Basic
import RuleLedger.Proofs.Except
import RuleLedger.Proofs.Pointwise

/-! The documents of plans. Main statement: a plan is read exactly from a list of well-formed steps,
or from a mapping that carries one beside well-formed blocks; the plan keeps every step and every
block as it is written, and from any other document comes a fault of plans. -/
namespace RuleLedger

variable {α β : Type} {v doc : Value} {fs : Fields Value} {k : Text} {s : Step} {p : Plan}

/-! ### Parts that fit -/

namespace Fitted

variable {a : Fitted α} {b : Fitted β} {x : α} {y : β} {l : Locus} {fit : Value → Fitted α}

theorem within_eq_ok : within l a = .ok x ↔ a = .ok x := mapError_eq_ok

theorem both_eq_ok : both a b = .ok (x, y) ↔ a = .ok x ∧ b = .ok y := by
  cases a <;> cases b <;> simp [both]

theorem text_eq_ok {t : Text} : text v = .ok t ↔ v = .str t := by
  cases v <;> simp [text, misfit]

theorem mapping_eq_ok : mapping v = .ok fs ↔ v = .map fs := by
  cases v <;> simp [mapping, misfit]

/-- All parts of a list fit as each of them does. -/
theorem all_eq_ok {i : Nat} {vs : List Value} {xs : List α} :
    all fit i vs = .ok xs ↔ List.Forall₂ (fun v x => fit v = .ok x) vs xs := by
  induction vs generalizing i xs with
  | nil => cases xs <;> simp [all]
  | cons v vs ih =>
    rw [all, map_eq_ok, List.forall₂_cons_left_iff]
    constructor
    · rintro ⟨⟨x, xs⟩, hboth, rfl⟩
      obtain ⟨hx, hxs⟩ := both_eq_ok.1 hboth
      exact ⟨x, xs, within_eq_ok.1 hx, ih.1 hxs, rfl⟩
    · rintro ⟨x, xs, hx, hxs, rfl⟩
      exact ⟨(x, xs), both_eq_ok.2 ⟨within_eq_ok.2 hx, ih.2 hxs⟩, rfl⟩

theorem texts_eq_ok {ts : List Text} : texts v = .ok ts ↔ v = .list (ts.map .str) := by
  cases v with
  | list xs =>
    rw [texts, all_eq_ok, Value.list.injEq, ← List.map_id xs, map_eq_map_iff, List.map_id]
    simp only [text_eq_ok, id_eq]
  | _ => simp [texts, misfit]

theorem required_eq_ok :
    required fit fs k = .ok x ↔ ∃ v, Fields.get? fs k = some v ∧ fit v = .ok x := by
  rw [required, within_eq_ok]
  cases Fields.get? fs k <;> simp [misfit]

/-- An absent member counts as a value that is read as what stands for it. -/
theorem optional_eq_ok {absent : α} {w : Value} (hw : fit w = .ok absent) :
    optional fit absent fs k = .ok x ↔ fit ((Value.map fs).fieldOr k w) = .ok x := by
  rw [optional, within_eq_ok, Value.fieldOr, Value.field?]
  cases Fields.get? fs k with
  | some v => rfl
  | none => rw [Option.getD_none, hw]

end Fitted

/-! ### Steps -/

namespace Step

/-- A step has the five members of a document as they are written, empty where they are absent. -/
structure Keeps (s : Step) (v : Value) : Prop where
  id : v.field? "id" = some (.str s.id)
  primitive : v.field? "primitive" = some (.str s.primitive)
  inputs : v.fieldOr "input_fields" (.list []) = .list (s.inputs.map .str)
  outputs : v.fieldOr "output_fields" (.list []) = .list (s.outputs.map .str)
  params : v.fieldOr "params" (.map []) = .map s.params

open Fitted in
theorem ofValue_eq_ok : Step.ofValue v = .ok s ↔ s.Keeps v := by
  have htexts : texts (.list []) = .ok [] := rfl
  have hmapping : mapping (.map []) = .ok [] := rfl
  cases v with
  | map fs =>
    rw [ofValue, map_eq_ok]
    constructor
    · rintro ⟨⟨id, primitive, inputs, outputs, params⟩, hfit, rfl⟩
      simp only [both_eq_ok, required_eq_ok, optional_eq_ok htexts, optional_eq_ok hmapping,
        text_eq_ok, texts_eq_ok, mapping_eq_ok, exists_eq_right] at hfit
      obtain ⟨hid, hprimitive, hinputs, houtputs, hparams⟩ := hfit
      exact ⟨hid, hprimitive, hinputs, houtputs, hparams⟩
    · rintro ⟨hid, hprimitive, hinputs, houtputs, hparams⟩
      refine ⟨(s.id, s.primitive, s.inputs, s.outputs, s.params), ?_, rfl⟩
      simp only [both_eq_ok, required_eq_ok, optional_eq_ok htexts, optional_eq_ok hmapping,
        text_eq_ok, texts_eq_ok, mapping_eq_ok, exists_eq_right]
      exact ⟨hid, hprimitive, hinputs, houtputs, hparams⟩
  | _ => exact ⟨nofun, fun h => nomatch h.id⟩

/-- A list of texts. -/
def IsTexts (v : Value) : Prop := ∃ xs, v = .list xs ∧ ∀ x ∈ xs, ∃ t, x = .str t

/-- A mapping with a text for identifier and primitive, lists of texts for inputs and outputs unless
they are absent, and a mapping for parameters unless they are absent. -/
structure WellFormed (v : Value) : Prop where
  mapping : ∃ fs, v = .map fs
  id : ∃ t, v.field? "id" = some (.str t)
  primitive : ∃ t, v.field? "primitive" = some (.str t)
  inputs : ∀ w, v.field? "input_fields" = some w → IsTexts w
  outputs : ∀ w, v.field? "output_fields" = some w → IsTexts w
  params : ∀ w, v.field? "params" = some w → ∃ fs, w = .map fs

theorem isTexts_iff : IsTexts v ↔ ∃ ts : List Text, v = .list (ts.map .str) := by
  constructor
  · rintro ⟨xs, rfl, htexts⟩
    induction xs with
    | nil => exact ⟨[], rfl⟩
    | cons x xs ih =>
      obtain ⟨⟨t, rfl⟩, hxs⟩ := List.forall_mem_cons.1 htexts
      obtain ⟨ts, hts⟩ := ih hxs
      exact ⟨t :: ts, by rw [List.map_cons, ← Value.list.inj hts]⟩
  · rintro ⟨ts, rfl⟩
    refine ⟨_, rfl, fun x hx => ?_⟩
    obtain ⟨t, -, rfl⟩ := List.mem_map.1 hx
    exact ⟨t, rfl⟩

/-- A condition on a member where it is there, with a value that meets it for an absent one. -/
theorem fieldOr_iff {P : Value → Prop} {w : Value} (hw : P w) :
    P (v.fieldOr k w) ↔ ∀ u, v.field? k = some u → P u := by
  rw [Value.fieldOr]
  cases v.field? k with
  | none => exact iff_of_true hw nofun
  | some u => exact ⟨fun h _ he => Option.some.inj he ▸ h, fun h => h u rfl⟩

/-- A step is read from well-formed documents. -/
theorem exists_keeps_iff : (∃ s : Step, s.Keeps v) ↔ WellFormed v := by
  have hlist : ∃ ts : List Text, Value.list [] = .list (ts.map .str) := ⟨[], rfl⟩
  have hmap : ∃ fs, Value.map [] = .map fs := ⟨[], rfl⟩
  constructor
  · rintro ⟨s, h⟩
    refine ⟨?_, ⟨_, h.id⟩, ⟨_, h.primitive⟩, ?_, ?_, ?_⟩
    · cases v with
      | map fs => exact ⟨fs, rfl⟩
      | _ => exact nomatch h.id
    · simp only [isTexts_iff]
      exact (fieldOr_iff hlist).1 ⟨_, h.inputs⟩
    · simp only [isTexts_iff]
      exact (fieldOr_iff hlist).1 ⟨_, h.outputs⟩
    · exact (fieldOr_iff hmap).1 ⟨_, h.params⟩
  · rintro ⟨-, ⟨id, hid⟩, ⟨primitive, hprimitive⟩, hinputs, houtputs, hparams⟩
    simp only [isTexts_iff] at hinputs houtputs
    obtain ⟨inputs, hinputs⟩ := (fieldOr_iff hlist).2 hinputs
    obtain ⟨outputs, houtputs⟩ := (fieldOr_iff hlist).2 houtputs
    obtain ⟨params, hparams⟩ := (fieldOr_iff hmap).2 hparams
    exact ⟨⟨id, primitive, inputs, outputs, params⟩, hid, hprimitive, hinputs, houtputs, hparams⟩

end Step

/-! ### Plans -/

namespace Plan

/-- The member of a document that carries the steps. -/
def pipelineKey : String := "transformation_pipeline"

/-- The steps of a document: the document itself, or the list that a mapping carries. -/
inductive Carries : Value → List Value → Prop
  | bare {vs : List Value} : Carries (.list vs) vs
  | wrapped {fs : Fields Value} {vs : List Value} : Fields.get? fs pipelineKey = some (.list vs) →
      Carries (.map fs) vs

theorem Carries.unique {vs vs' : List Value} (h : Carries doc vs) (h' : Carries doc vs') :
    vs = vs' := by
  cases h with
  | bare =>
    cases h'
    rfl
  | wrapped hget =>
    cases h' with
    | wrapped hget' => exact Value.list.inj (Option.some.inj (hget.symm.trans hget'))

/-- A block of a document, with an empty mapping for one that gives nothing. -/
def blockOf (doc : Value) (k : Text) : Value :=
  match doc.field? k with
  | some v => if v.isVoid then .map [] else v
  | none => .map []

/-- A plan has a step for each step of a document in the same order, and the blocks as they are
written. -/
structure Keeps (p : Plan) (doc : Value) (vs : List Value) : Prop where
  steps : List.Forall₂ (fun v s => s.Keeps v) vs p.steps
  metadata : blockOf doc "metadata" = .map p.metadata
  contracts : blockOf doc "contracts" = .map p.contracts

theorem block_eq_ok : block doc k = .ok fs ↔ blockOf doc k = .map fs := by
  have hempty : (Except.ok [] : Fitted (Fields Value)) = .ok fs ↔ Value.map [] = .map fs := by
    rw [Except.ok.injEq, Value.map.injEq]
  rw [block, Fitted.within_eq_ok, blockOf]
  cases doc.field? k with
  | none => exact hempty
  | some v =>
    dsimp only
    split_ifs
    · exact hempty
    · exact Fitted.mapping_eq_ok

open Fitted in
theorem ofSteps_eq_ok {vs : List Value} : ofSteps vs doc = .ok p ↔ p.Keeps doc vs := by
  have hparts : both (within (.key "steps") (all Step.ofValue 0 vs))
      (both (block doc "metadata") (block doc "contracts")) =
        .ok (p.steps, p.metadata, p.contracts) ↔ p.Keeps doc vs := by
    simp only [both_eq_ok, within_eq_ok, all_eq_ok, Step.ofValue_eq_ok, block_eq_ok]
    exact ⟨fun ⟨hs, hm, hc⟩ => ⟨hs, hm, hc⟩, fun ⟨hs, hm, hc⟩ => ⟨hs, hm, hc⟩⟩
  rw [← hparts, ofSteps]
  split
  · rename_i heq
    rw [heq, Except.ok.injEq, Except.ok.injEq]
    exact ⟨fun h => h ▸ rfl, fun h => by cases h; rfl⟩
  · rename_i heq
    rw [heq]
    exact iff_of_false nofun nofun

theorem ofSteps_eq_error {vs : List Value} {f : Fault} (h : ofSteps vs doc = .error f) :
    ∃ ms, f = .plan (.invalid ms) := by
  rw [ofSteps] at h
  split at h
  · cases h
  · exact ⟨_, (Except.error.inj h).symm⟩

theorem ofValue_map (fs : Fields Value) :
    ofValue (.map fs) = match Fields.get? fs pipelineKey with
      | none => .error (.plan .noSteps)
      | some (.list vs) => ofSteps vs (.map fs)
      | some _ => .error (.plan .stepsNotList) := rfl

theorem ofValue_of_carries {vs : List Value} (h : Carries doc vs) :
    ofValue doc = ofSteps vs doc := by
  cases h with
  | bare => rfl
  | wrapped hget => rw [ofValue_map, hget]

/-- What is wrong with a document that carries no steps. -/
theorem ofValue_of_not_carries (h : ∀ vs, ¬Carries doc vs) :
    ofValue doc = .error (.plan .noSteps) ∨ ofValue doc = .error (.plan .stepsNotList) := by
  cases doc with
  | list vs => exact absurd .bare (h vs)
  | map fs =>
    rw [ofValue_map]
    cases hget : Fields.get? fs pipelineKey with
    | none => exact .inl rfl
    | some v =>
      cases v with
      | list vs => exact absurd (.wrapped hget) (h vs)
      | _ => exact .inr rfl
  | _ => exact .inl rfl

theorem ofValue_eq_ok :
    ofValue doc = .ok p ↔ ∃ vs, Carries doc vs ∧ p.Keeps doc vs := by
  by_cases h : ∃ vs, Carries doc vs
  · obtain ⟨vs, hvs⟩ := h
    rw [ofValue_of_carries hvs, ofSteps_eq_ok]
    refine ⟨fun hp => ⟨vs, hvs, hp⟩, fun ⟨vs', hvs', hp⟩ => ?_⟩
    rwa [hvs.unique hvs']
  · refine iff_of_false (fun hp => ?_) fun ⟨vs, hvs, _⟩ => h ⟨vs, hvs⟩
    rcases ofValue_of_not_carries (not_exists.1 h) with hf | hf <;> rw [hf] at hp <;> cases hp

/-- Whatever is wrong with a document is a fault of plans. -/
theorem ofValue_eq_error {f : Fault} (h : ofValue doc = .error f) : ∃ g, f = .plan g := by
  by_cases hcarries : ∃ vs, Carries doc vs
  · obtain ⟨vs, hvs⟩ := hcarries
    rw [ofValue_of_carries hvs] at h
    obtain ⟨ms, rfl⟩ := ofSteps_eq_error h
    exact ⟨_, rfl⟩
  · rcases ofValue_of_not_carries (not_exists.1 hcarries) with hf | hf <;>
      exact ⟨_, Except.error.inj (h.symm.trans hf)⟩

/-! ### Well-formed documents -/

/-- A block is absent, gives nothing, or is a mapping. -/
def HasBlock (doc : Value) (k : Text) : Prop :=
  ∀ v, doc.field? k = some v → v.isVoid = true ∨ ∃ fs, v = .map fs

/-- A list of well-formed steps, or a mapping that carries one beside its blocks. -/
inductive WellFormed : Value → Prop
  | bare {vs : List Value} : (∀ v ∈ vs, Step.WellFormed v) → WellFormed (.list vs)
  | wrapped {fs : Fields Value} {vs : List Value} :
      Fields.get? fs pipelineKey = some (.list vs) → HasBlock (.map fs) "metadata" →
      HasBlock (.map fs) "contracts" → (∀ v ∈ vs, Step.WellFormed v) → WellFormed (.map fs)

theorem exists_blockOf_iff : (∃ fs, blockOf doc k = .map fs) ↔ HasBlock doc k := by
  rw [blockOf, HasBlock]
  cases doc.field? k with
  | none => exact iff_of_true ⟨[], rfl⟩ nofun
  | some v =>
    simp only [Option.some.injEq, forall_eq']
    split_ifs with hvoid
    · exact iff_of_true ⟨[], rfl⟩ (.inl hvoid)
    · exact (or_iff_right hvoid).symm

/-- A plan is read from well-formed documents. -/
theorem exists_keeps_iff : (∃ p vs, Carries doc vs ∧ Keeps p doc vs) ↔ WellFormed doc := by
  have hsteps {vs : List Value} :
      (∃ ss, List.Forall₂ (fun v (s : Step) => s.Keeps v) vs ss) ↔ ∀ v ∈ vs, Step.WellFormed v := by
    simp only [← Step.exists_keeps_iff]
    exact exists_forall₂_iff
  constructor
  · rintro ⟨p, vs, hcarries, hs, hm, hc⟩
    have hs := hsteps.1 ⟨_, hs⟩
    cases hcarries with
    | bare => exact .bare hs
    | wrapped hget =>
      exact .wrapped hget (exists_blockOf_iff.1 ⟨_, hm⟩) (exists_blockOf_iff.1 ⟨_, hc⟩) hs
  · intro h
    cases h with
    | bare hs =>
      obtain ⟨ss, hss⟩ := hsteps.2 hs
      exact ⟨⟨ss, [], []⟩, _, .bare, hss, rfl, rfl⟩
    | wrapped hget hm hc hs =>
      obtain ⟨ss, hss⟩ := hsteps.2 hs
      obtain ⟨metadata, hm⟩ := exists_blockOf_iff.2 hm
      obtain ⟨contracts, hc⟩ := exists_blockOf_iff.2 hc
      exact ⟨⟨ss, metadata, contracts⟩, _, .wrapped hget, hss, hm, hc⟩

/-- A plan is read from a document exactly if it is well-formed, and from any other document comes a
fault of plans. The plan has a step for each step of the document in the same order with its five
members as they are written, and the blocks of the document. A list of steps is read as the mapping
that carries nothing else, and gives the steps of every mapping that carries it. -/
theorem ofValue_accepts (doc : Value) :
    ((∃ p, ofValue doc = .ok p) ↔ WellFormed doc) ∧
    (¬WellFormed doc → ∃ f, ofValue doc = .error f ∧ f.label = "PlanError") ∧
    (∀ p, ofValue doc = .ok p → ∃ vs, Carries doc vs ∧ p.Keeps doc vs) ∧
    (∀ vs, ofValue (.map [(pipelineKey, .list vs)]) = ofValue (.list vs)) ∧
    (∀ vs p, Carries doc vs → ofValue doc = .ok p →
      ofValue (.list vs) = .ok ⟨p.steps, [], []⟩) := by
  have hread : (∃ p, ofValue doc = .ok p) ↔ WellFormed doc := by
    simp only [ofValue_eq_ok, exists_keeps_iff]
  refine ⟨hread, fun hdoc => ?_, fun p hp => ofValue_eq_ok.1 hp, fun vs => rfl,
    fun vs p hvs hp => ?_⟩
  · cases hresult : ofValue doc with
    | ok p => exact absurd (hread.1 ⟨p, hresult⟩) hdoc
    | error f =>
      obtain ⟨g, rfl⟩ := ofValue_eq_error hresult
      exact ⟨_, rfl, rfl⟩
  · rw [ofValue_of_carries hvs, ofSteps_eq_ok] at hp
    exact ofValue_eq_ok.2 ⟨vs, .bare, hp.steps, rfl, rfl⟩

/-- A document whose step has neither inputs nor outputs, beside blocks that give nothing. -/
def sparse : Value :=
  .map [("metadata", .int 0),
    (pipelineKey, .list [.map [("primitive", .str "P"), ("id", .str "a")]]),
    ("contracts", .map [])]

/-- The sparse document, and one whose step has a number for a primitive. -/
theorem ofValue_accepts_sparse :
    (∃ vs p, Carries sparse vs ∧ ofValue sparse = .ok p ∧
      (∃ vs, Carries sparse vs ∧ p.Keeps sparse vs) ∧
      ofValue (.list vs) = .ok ⟨p.steps, [], []⟩) ∧
    ∃ doc, ¬WellFormed doc ∧ ∃ f, ofValue doc = .error f ∧ f.label = "PlanError" := by
  constructor
  · have hp : ofValue sparse = .ok ⟨[⟨"a", "P", [], [], []⟩], [], []⟩ := rfl
    obtain ⟨-, -, hkeeps, -, hbare⟩ := ofValue_accepts sparse
    exact ⟨_, _, .wrapped rfl, hp, hkeeps _ hp, hbare _ _ (.wrapped rfl) hp⟩
  · have hdoc : ¬WellFormed (.list [.map [("id", .str "a"), ("primitive", .int 5)]]) := by
      rintro (hs | _)
      obtain ⟨t, ht⟩ := (hs _ List.mem_cons_self).primitive
      cases ht
    exact ⟨_, hdoc, (ofValue_accepts _).2.1 hdoc⟩

end Plan

/-! ### What misfits name -/

/-- The part of a value at the end of a way. -/
def Value.partAt? : List Locus → Value → Option Value
  | [], v => some v
  | .key k :: ls, v => (v.field? k).bind (partAt? ls)
  | .item i :: ls, .list xs => xs[i]?.bind (partAt? ls)
  | .item _ :: _, _ => none

/-- What a misfit says of a part. -/
def Misfit.Holds : Misfit → Option Value → Prop
  | .missing, v? => v? = none
  | .notText, v? => ∃ v, v? = some v ∧ ∀ t, v ≠ .str t
  | .notList, v? => ∃ v, v? = some v ∧ ∀ xs, v ≠ .list xs
  | .notMapping, v? | .notStep, v? => ∃ v, v? = some v ∧ ∀ fs, v ≠ .map fs

namespace Fitted

variable {a : Fitted α} {b : Fitted β} {fit : Value → Fitted α} {w : Value}

/-- Misfits that are found in a value are such of the parts that they lead to, and are not none. -/
def Sound (v : Value) : Fitted α → Prop
  | .ok _ => True
  | .error ms => ms ≠ [] ∧ ∀ m ∈ ms, m.2.Holds (Value.partAt? m.1 v)

theorem sound_misfit {m : Misfit} (h : m.Holds (some v)) : Sound v (misfit m : Fitted α) :=
  ⟨List.cons_ne_nil _ _, List.forall_mem_singleton.2 h⟩

theorem Sound.map {f : α → β} (h : Sound v a) : Sound v (a.map f : Fitted β) := by
  cases a with
  | ok x => trivial
  | error ms => exact h

theorem Sound.both (ha : Sound v a) (hb : Sound v b) : Sound v (both a b) := by
  cases a with
  | ok x =>
    cases b with
    | ok y => trivial
    | error ms => exact hb
  | error ms =>
    refine ⟨List.append_ne_nil_of_left_ne_nil ha.1 _, fun m hm => ?_⟩
    refine (List.mem_append.1 hm).elim (ha.2 m) fun hm => ?_
    cases b with
    | ok y => cases hm
    | error ms => exact hb.2 m hm

/-- Misfits of a member or an item are found there from one level farther out. -/
theorem Sound.within {l : Locus} (hl : ∀ ls, Value.partAt? (l :: ls) v = Value.partAt? ls w)
    (h : Sound w a) : Sound v (within l a) := by
  cases a with
  | ok x => trivial
  | error ms =>
    refine ⟨fun hnil => h.1 (List.map_eq_nil_iff.1 hnil), fun m hm => ?_⟩
    obtain ⟨m', hm', rfl⟩ := List.mem_map.1 hm
    rw [hl]
    exact h.2 m' hm'

theorem sound_text (v : Value) : Sound v (text v) := by
  cases v with
  | str t => trivial
  | _ => exact sound_misfit ⟨_, rfl, nofun⟩

theorem sound_mapping (v : Value) : Sound v (mapping v) := by
  cases v with
  | map fs => trivial
  | _ => exact sound_misfit ⟨_, rfl, nofun⟩

/-- The items of the rest of a list are found in the list. -/
theorem sound_all (hfit : ∀ v, Sound v (fit v)) (vs us : List Value) :
    Sound (.list (us ++ vs)) (all fit us.length vs) := by
  induction vs generalizing us with
  | nil => trivial
  | cons v vs ih =>
    have hitem (ls : List Locus) :
        Value.partAt? (.item us.length :: ls) (.list (us ++ v :: vs)) = Value.partAt? ls v := by
      rw [Value.partAt?, List.getElem?_append_right (Nat.le_refl _), Nat.sub_self]
      rfl
    have hrest := ih (us ++ [v])
    rw [List.length_append, List.append_assoc] at hrest
    exact (((hfit v).within hitem).both hrest).map

theorem sound_texts (v : Value) : Sound v (texts v) := by
  cases v with
  | list xs => exact sound_all sound_text xs []
  | _ => exact sound_misfit ⟨_, rfl, nofun⟩

theorem partAt?_key (hget : Fields.get? fs k = some w) (ls : List Locus) :
    Value.partAt? (.key k :: ls) (.map fs) = Value.partAt? ls w := by
  rw [Value.partAt?, Value.field?, hget, Option.bind_some]

theorem sound_required (hfit : ∀ v, Sound v (fit v)) (fs : Fields Value) (k : Text) :
    Sound (.map fs) (required fit fs k) := by
  rw [required]
  cases hget : Fields.get? fs k with
  | some v => exact (hfit v).within (partAt?_key hget)
  | none =>
    refine ⟨List.cons_ne_nil _ _, List.forall_mem_singleton.2 ?_⟩
    change (Fields.get? fs k).bind _ = none
    rw [hget, Option.bind_none]

theorem sound_optional (hfit : ∀ v, Sound v (fit v)) (absent : α) (fs : Fields Value) (k : Text) :
    Sound (.map fs) (optional fit absent fs k) := by
  rw [optional]
  cases hget : Fields.get? fs k with
  | some v => exact (hfit v).within (partAt?_key hget)
  | none => trivial

end Fitted

open Fitted in
theorem Step.sound_ofValue (v : Value) : Sound v (Step.ofValue v) := by
  cases v with
  | map fs =>
    exact ((sound_required sound_text fs "id").both ((sound_required sound_text fs "primitive").both
      ((sound_optional sound_texts [] fs "input_fields").both
        ((sound_optional sound_texts [] fs "output_fields").both
          (sound_optional sound_mapping [] fs "params"))))).map
  | _ => exact sound_misfit ⟨_, rfl, nofun⟩

namespace Plan

/-- The members of a document that may be blocks. -/
def membersOf : Value → Fields Value
  | .map fs => fs
  | _ => []

theorem field?_membersOf (doc : Value) (k : Text) :
    doc.field? k = Fields.get? (membersOf doc) k := by
  cases doc <;> rfl

open Fitted in
theorem sound_block {fs : Fields Value} (h : Fields.get? fs k = doc.field? k) :
    Sound (.map fs) (block doc k) := by
  rw [block]
  cases hget : doc.field? k with
  | none => trivial
  | some v =>
    refine Sound.within (partAt?_key (h.trans hget)) ?_
    dsimp only
    split_ifs
    · trivial
    · exact sound_mapping v

open Fitted in
/-- A document that carries steps but is not well-formed has misfits, and each of them is one of the
part that it leads to, from the steps beside the members of the document. -/
theorem misfits_of_ofValue {ms : List (List Locus × Misfit)}
    (h : ofValue doc = .error (.plan (.invalid ms))) :
    ∃ vs, Carries doc vs ∧ ms ≠ [] ∧
      ∀ m ∈ ms, m.2.Holds (Value.partAt? m.1 (.map (("steps", .list vs) :: membersOf doc))) := by
  by_cases hcarries : ∃ vs, Carries doc vs
  · obtain ⟨vs, hvs⟩ := hcarries
    have hmember {k : Text} (hk : k ≠ "steps") :
        Fields.get? (("steps", Value.list vs) :: membersOf doc) k = doc.field? k := by
      rw [Fields.get?_cons, if_neg hk, field?_membersOf]
    have hsteps : Sound (.map (("steps", .list vs) :: membersOf doc))
        (within (.key "steps") (all Step.ofValue 0 vs)) :=
      (sound_all Step.sound_ofValue vs []).within
        (partAt?_key (Fields.get?_cons "steps" (.list vs) (membersOf doc) "steps"))
    have hmetadata := hmember (k := "metadata") (by decide)
    have hcontracts := hmember (k := "contracts") (by decide)
    have hsound := hsteps.both ((sound_block hmetadata).both (sound_block hcontracts))
    rw [ofValue_of_carries hvs, ofSteps] at h
    split at h
    · cases h
    · rename_i ms' heq
      rw [heq] at hsound
      obtain rfl : ms' = ms := by simpa using h
      exact ⟨vs, hvs, hsound⟩
  · rcases ofValue_of_not_carries (not_exists.1 hcarries) with hf | hf <;> rw [hf] at h <;> cases h

end Plan
end RuleLedger
