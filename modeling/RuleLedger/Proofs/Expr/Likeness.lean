import RuleLedger.Proofs.Expr.Leaves
import RuleLedger.Proofs.Record.Likeness

/-! Evaluation in two runs side by side. Main statement: whatever the likeness of two scopes, a tree
has likes as its values in them, or the same fault, if the names that it looks up mean the same. -/
namespace RuleLedger

variable {P : Pairing} {L : Likeness P} {d e a b a' b' : Datum} {s t : Seed} {xs ys : List Datum}

namespace Likeness

/-! ### Equality -/

theorem strictEqual_eq (ha : L.data a a') (hb : L.data b b') :
    a.strictEqual b = a'.strictEqual b' := by
  have hsame := Pairing.identity?_beq (identity? ha) (identity? hb)
  rw [Datum.strictEqual, Datum.strictEqual]
  obtain ⟨hi, hi'⟩ | ⟨i, i', hi, hi', -⟩ := optionRel_cases (identity? ha) <;>
    obtain ⟨hj, hj'⟩ | ⟨j, j', hj, hj', -⟩ := optionRel_cases (identity? hb) <;>
    rw [hi, hi', hj, hj'] at hsame ⊢
  · rw [value_eq_of_identity? ha hi, value_eq_of_identity? hb hj]
  all_goals exact hsame

theorem looseEqual_eq (ha : L.data a a') (hb : L.data b b') :
    a.looseEqual b = a'.looseEqual b' := by
  have hsame := Pairing.identity?_beq (identity? ha) (identity? hb)
  rw [Datum.looseEqual, Datum.looseEqual]
  obtain ⟨hi, hi'⟩ | ⟨i, i', hi, hi', -⟩ := optionRel_cases (identity? ha) <;>
    obtain ⟨hj, hj'⟩ | ⟨j, j', hj, hj', -⟩ := optionRel_cases (identity? hb) <;>
    rw [hi, hi', hj, hj'] at hsame ⊢
  · rw [value_eq_of_identity? ha hi, value_eq_of_identity? hb hj]
  all_goals exact hsame

end Likeness

namespace Expr

open Likeness (surface_eq surfaces_eq)

/-! ### Names -/

/-- The members of a group are helpers and numbers. -/
theorem groupValues_cases (g : Group) : ∀ m ∈ groupValues g,
    m.2.isThing = false ∨ ∃ f : Helper, f ≠ .uuid ∧ m.2 = .helper f := by
  cases g with
  | math =>
    refine List.forall_mem_append.2 ⟨List.forall_mem_map.2 fun f _ => ?_, ?_⟩
    · exact .inr ⟨.math f, by simp, rfl⟩
    · simp [mathConstants, Value.isThing, Value.float]
  | number => exact List.forall_mem_map.2 fun f _ => .inr ⟨.number f, by simp, rfl⟩

/-- A helper on the shelf is like itself. -/
theorem shelved_like (L : Likeness P) {h : Helper} (hu : h ≠ .uuid) :
    L.data (shelved h) (shelved h) := by
  cases h with
  | group g =>
    refine L.group g (P.shelf _) (List.forall₂_same.2 (List.forall_mem_map.2 fun m hm => ⟨rfl, ?_⟩))
    obtain ⟨k, v⟩ := m
    rcases groupValues_cases g _ hm with hv | ⟨f, hf, hv⟩
    · cases v with
      | helper => cases hv
      | _ => exact L.plain hv
    · obtain rfl : v = .helper f := hv
      exact L.helper (P.shelf _) hf
  | uuid => exact absurd rfl hu
  | _ => exact L.helper (P.shelf _) hu

/-- Scopes that are alike, with generators in both runs or in none. -/
structure LikeScopes (L : Likeness P) (E E' : Environment) : Prop where
  record : L.records E.record E'.record
  generators : Option.Rel (fun g g' => P.seeds g.seed g'.seed) E.generators E'.generators

/-- A name that means the same in two scopes: none of a generator of identifiers, and none of a
generator of timestamps with another clock. -/
def Steady (E E' : Environment) (n : Text) : Prop :=
  E.generators = none ∨
    n ≠ "uuid" ∧
      (n = "now" → E.generators.map Generators.clock = E'.generators.map Generators.clock)

variable {E E' : Environment} {n : Text}

theorem helper?_like (h : LikeScopes L E E') (hn : Steady E E' n) :
    Option.Rel L.data (E.helper? n) (E'.helper? n) := by
  rw [Environment.helper?, Environment.helper?]
  split_ifs with hmath hnumber hnow huuid
  · exact .some (shelved_like L (by simp))
  · exact .some (shelved_like L (by simp))
  · obtain ⟨hg, hg'⟩ | ⟨g, g', hg, hg', hs⟩ := optionRel_cases h.generators
    · rw [hg, hg']
      exact .none
    · rcases hn with hn | ⟨-, hclock⟩
      · rw [hg] at hn
        cases hn
      · have hclock := hclock hnow
        rw [hg, hg'] at hclock ⊢
        rw [Option.map_some, Option.map_some, ← Option.some.inj hclock]
        exact .some (L.helper (P.part _ hs) (by simp))
  · obtain ⟨hg, hg'⟩ | ⟨g, g', hg, -, -⟩ := optionRel_cases h.generators
    · rw [hg, hg']
      exact .none
    · rcases hn with hn | ⟨hu, -⟩
      · rw [hg] at hn
        cases hn
      · exact absurd huuid hu
  · cases Conversion.all.find? (·.name == n) with
    | none => exact .none
    | some f => exact .some (shelved_like L (by simp))

theorem name_like (h : LikeScopes L E E') (hn : Steady E E' n) :
    Same L.data (E.name n) (E'.name n) := by
  rw [Environment.name, Environment.name]
  obtain ⟨f, f', hf, hf', rfl⟩ | ⟨o, o', ho, ho', hoo⟩ := (L.recordName h.record n).cases
  · rw [hf, hf']
    exact .error rfl
  · rw [ho, ho']
    cases hoo with
    | some hd => exact .ok hd
    | none =>
      dsimp only
      obtain ⟨hx, hy⟩ | ⟨x, y, hx, hy, hxy⟩ := optionRel_cases (helper?_like h hn)
      · rw [hx, hy]
        exact .error rfl
      · rw [hx, hy]
        exact .ok hxy

/-! ### Members -/

theorem methodNamed_like (hs : P.seeds s t) (h : L.data d e) (family : List Method) (n : Text) :
    L.data (methodNamed s d family n) (methodNamed t e family n) := by
  rw [methodNamed, methodNamed]
  cases family.find? (·.name == n) with
  | none => exact L.null
  | some m => exact L.method m (P.part [] hs) h

theorem member_like (hs : P.seeds s t) (h : L.data d e) (n : Text) :
    Same L.data (member s d n) (member t e n) := by
  have hmethod (family : List Method) := methodNamed_like hs h family n
  cases L.layer h with
  | null => exact .error rfl
  | str s =>
    rw [member, member]
    split_ifs
    · exact .ok (L.num _)
    · exact .ok (hmethod _)
  | num n => exact .ok (hmethod _)
  | list _ hxs =>
    rw [member, member, hxs.length_eq]
    split_ifs
    · exact .ok (L.num _)
    · exact .ok (hmethod _)
  | map _ _ _ hfs =>
    rw [member, member]
    exact .ok (optionRel_getD (hfs n) L.null)
  | group g _ hms =>
    rw [member, member]
    obtain ⟨hx, hy⟩ | ⟨x, y, hx, hy, hxy⟩ := optionRel_cases (hms n)
    · rw [hx, hy]
      exact .error rfl
    · rw [hx, hy]
      exact .ok hxy
  | _ => exact .ok L.null

theorem memberByKey_like (hs : P.seeds s t) (h : L.data d e) (key : Value) :
    Same L.data (memberByKey s d key) (memberByKey t e key) := by
  cases key with
  | str n => exact member_like hs h n
  | _ => exact .ok L.null

theorem index_like (hs : P.seeds s t) (h : L.data d e) (key : Value) :
    Same L.data (index s d key) (index t e key) := by
  have hkey := memberByKey_like hs h key
  have hnamed : Same L.data (numeric key.toText >>= member s d)
      (numeric key.toText >>= member t e) := by
    cases numeric key.toText with
    | error f => exact .error rfl
    | ok n => exact member_like hs h n
  cases L.layer h with
  | null =>
    rw [index, index]
    cases numeric key.toText <;> exact .error rfl
  | list _ hxs =>
    rw [index, index, hxs.length_eq]
    split
    · exact .ok (Likeness.getD hxs _)
    · exact hkey
  | str s =>
    rw [index, index]
    split
    · exact .ok (L.str _)
    · exact hkey
  | map => exact hnamed
  | group => exact hnamed
  | _ => exact .ok L.null

/-! ### Calls -/

/-- A result that is no thing, if there is one. -/
def Flat {ε : Type} (r : Except ε Value) : Prop := ∀ v, r = .ok v → v.isThing = false

theorem flat_ok {ε : Type} {v : Value} (h : v.isThing = false) : Flat (.ok v : Except ε Value) := by
  intro w hw
  obtain rfl := Except.ok.inj hw
  exact h

theorem flat_error {ε : Type} (f : ε) : Flat (.error f : Except ε Value) := nofun

theorem flat_map {ε α : Type} {r : Except ε α} {f : α → Value} (h : ∀ a, (f a).isThing = false) :
    Flat (r.map f) := by
  cases r with
  | error e => exact flat_error e
  | ok a => exact flat_ok (h a)

theorem flat_mapError {ε ε' : Type} {r : Except ε Value} (f : ε → ε') (h : Flat r) :
    Flat (r.mapError f) := fun v hv => h v (mapError_eq_ok.1 hv)

theorem flat_bind {ε α : Type} {r : Except ε α} {f : α → Except ε Value} (h : ∀ a, Flat (f a)) :
    Flat (r >>= f) := by
  intro v hv
  obtain ⟨a, -, ha⟩ := bind_eq_ok.1 hv
  exact h a v ha

theorem flat_ite {ε : Type} {c : Prop} [Decidable c] {x y : Except ε Value} (hx : Flat x)
    (hy : Flat y) : Flat (if c then x else y) := by
  split_ifs
  · exact hx
  · exact hy

theorem flat_parseFloat (v : Value) : Flat v.parseFloat := by
  refine flat_bind fun text => ?_
  dsimp only
  split
  · split_ifs
    · exact flat_error _
    · exact flat_ok rfl
  · exact flat_ok rfl

theorem flat_parseInt (v : Value) : Flat v.parseInt := by
  refine flat_bind fun text => ?_
  dsimp only
  split_ifs
  · exact flat_ok rfl
  · exact flat_error _
  all_goals exact flat_bind fun _ => flat_ok rfl

theorem flat_callHelper (s : Seed) (h : Helper) (args : List Value) :
    Flat (callHelper s h args) := by
  cases h with
  | math f =>
    rw [callHelper]
    split
    · exact flat_ok rfl
    · exact flat_error _
  | number f =>
    refine flat_bind fun _ => flat_mapError _ ?_
    cases f with
    | isNaN => exact flat_ok rfl
    | isFinite => exact flat_map fun _ => rfl
    | isInteger => exact flat_map fun _ => rfl
    | parseFloat => exact flat_parseFloat _
    | parseInt => exact flat_parseInt _
  | convert f =>
    refine flat_bind fun _ => flat_mapError _ ?_
    cases f with
    | string => exact flat_map fun _ => rfl
    | boolean => exact flat_ok rfl
    | isNaN => exact flat_ok rfl
    | isFinite => exact flat_map fun _ => rfl
    | parseFloat => exact flat_parseFloat _
    | parseInt => exact flat_parseInt _
  | group g => exact flat_bind fun _ => flat_ok rfl
  | now clock =>
    refine flat_bind fun _ => ?_
    split
    · exact flat_ok rfl
    · exact flat_error _
    · exact flat_error _
  | uuid => exact flat_bind fun _ => flat_ok rfl

/-- Only the generator of identifiers looks at the seed. -/
theorem callHelper_eq {h : Helper} (hu : h ≠ .uuid) (s t : Seed) (args : List Value) :
    callHelper s h args = callHelper t h args := by
  cases h with
  | uuid => exact absurd rfl hu
  | _ => rfl

theorem flat_toFixed (n : Number) (places : Value) : Flat (toFixed n places) := by
  rw [toFixed]
  refine flat_ite (flat_bind fun _ => flat_bind fun x => ?_) (flat_bind fun x => ?_)
  all_goals
    split
    · exact flat_ok rfl
    · exact flat_map fun _ => rfl

theorem flat_callText (name : String) (s : Text) (m : Method) (arg? : Option Value) :
    Flat (callText name s m arg?) := by
  cases m with
  | includes | startsWith | endsWith => exact flat_bind fun _ => flat_ok rfl
  | _ => exact flat_ok rfl

theorem flat_callList (name : String) (items : List Datum) (m : Method) (arg? : Option Datum) :
    Flat (callList name items m arg?) := by
  cases m with
  | indexOf =>
    rw [callList]
    split <;> exact flat_ok rfl
  | join => exact flat_bind fun _ => flat_bind fun _ => flat_ok rfl
  | _ => exact flat_ok rfl

theorem flat_callMethod (E : Environment) (r : Datum) (m : Method) (args : List Datum) :
    Flat (callMethod E r m args) := by
  refine flat_bind fun _ => ?_
  split
  · exact flat_callText _ _ _ _
  · exact flat_callList _ _ _ _
  · exact flat_toFixed _ _
  · exact flat_ok rfl

theorem indexOf?_like (h : List.Forall₂ L.data xs ys) (hd : L.data d e) :
    indexOf? xs d = indexOf? ys e := by
  rw [indexOf?, indexOf?]
  induction h with
  | nil => rfl
  | cons hx _ ih =>
    rw [List.findIdx?_cons, List.findIdx?_cons, Likeness.strictEqual_eq hx hd, ih]

/-- Arguments that are alike, or absent, have one surface. -/
theorem map_surface {a? b? : Option Datum} (h : Option.Rel L.data a? b?) :
    (a?.map Datum.value).map Value.surface = (b?.map Datum.value).map Value.surface := by
  cases h with
  | none => rfl
  | some hd => exact congrArg some (surface_eq hd)

theorem getD_surface {a? b? : Option Datum} (h : Option.Rel L.data a? b?) (v : Value) :
    ((a?.map Datum.value).getD v).surface = ((b?.map Datum.value).getD v).surface := by
  cases h with
  | none => rfl
  | some hd => exact surface_eq hd

theorem callText_like (name : String) (text : Text) (m : Method) {a? b? : Option Datum}
    (h : Option.Rel L.data a? b?) :
    callText name text m (a?.map Datum.value) = callText name text m (b?.map Datum.value) := by
  rw [← callText_surface, map_surface h, callText_surface]

theorem callList_like (name : String) (h : List.Forall₂ L.data xs ys) (m : Method)
    {a? b? : Option Datum} (hab : Option.Rel L.data a? b?) :
    callList name xs m a? = callList name ys m b? := by
  have hd : L.data (a?.getD .null) (b?.getD .null) := optionRel_getD hab L.null
  have htext : ((a?.map Datum.value).getD (.str ",")).toText =
      ((b?.map Datum.value).getD (.str ",")).toText := by
    rw [← Value.toText_surface, getD_surface hab, Value.toText_surface]
  have hitems : Value.itemTexts (xs.map Datum.value) = Value.itemTexts (ys.map Datum.value) := by
    rw [← Value.itemTexts_map_surface, surfaces_eq h, Value.itemTexts_map_surface]
  simp only [callList, indexOf?_like h hd, htext, Datum.itemValues_eq, hitems]

/-- A method answers the same in both runs. -/
theorem callMethod_like (hE : L.records E.record E'.record) (hr : L.data d e) (m : Method)
    (h : List.Forall₂ L.data xs ys) : callMethod E d m xs = callMethod E' e m ys := by
  have hcurrent := L.current hE hr
  have hhead := forall₂_head? h
  have hsurface := surface_eq hcurrent
  rw [callMethod, callMethod, ← Value.methodName_surface, ← signature_surface, hsurface,
    Value.methodName_surface, signature_surface, h.length_eq]
  generalize E.record.current d = cur, E'.record.current e = cur' at hcurrent
  refine congrArg _ (funext fun _ => ?_)
  cases L.layer hcurrent with
  | list _ hxs => exact callList_like _ hxs m hhead
  | str s => exact callText_like _ s m hhead
  | num n =>
    have hplaces : ((xs.head?.map Datum.value).getD (.int 0)).surface =
        ((ys.head?.map Datum.value).getD (.int 0)).surface := getD_surface hhead _
    dsimp only
    rw [← toFixed_surface, hplaces, toFixed_surface]
  | _ => rfl

theorem flat_callDatum (E : Environment) (s : Seed) (d : Datum) (args : List Datum) :
    Flat (callDatum E s d args) := by
  cases d with
  | group _ g => exact flat_callHelper s (.group g) _
  | helper => exact flat_callHelper _ _ _
  | method => exact flat_callMethod _ _ _ _
  | _ => exact flat_ok rfl

theorem callDatum_like (hE : L.records E.record E'.record) (hd : L.data d e)
    (h : List.Forall₂ L.data xs ys) : callDatum E s d xs = callDatum E' t e ys := by
  have hcall {f : Helper} (hu : f ≠ .uuid) :
      callHelper s f (xs.map Datum.value) = callHelper t f (ys.map Datum.value) := by
    rw [← callHelper_surface, surfaces_eq h, callHelper_surface, callHelper_eq hu s t]
  cases L.layer hd with
  | group g => exact hcall (f := .group g) (by simp)
  | helper _ hu => exact hcall hu
  | method m _ hr => exact callMethod_like hE hr m h
  | _ => rfl

theorem isCallable_like (h : L.data d e) : isCallable d = isCallable e := by
  cases L.layer h with
  | group g => cases g <;> rfl
  | _ => rfl

/-! ### Operators -/

theorem isThing_unaryResult (op : UnaryOp) (v : Value) : (unaryResult op v).isThing = false := by
  cases op <;> rfl

theorem flat_arith (op : Arithmetic) (v w : Value) : Flat (v.arith op w) :=
  flat_ite (flat_bind fun _ => flat_bind fun _ => flat_ok rfl) (flat_map fun _ => rfl)

theorem flat_binaryResult (op : BinaryOp) (a b : Datum) : Flat (binaryResult op a b) := by
  cases op with
  | arith op => exact flat_mapError _ (flat_arith op _ _)
  | _ => exact flat_ok rfl

theorem binaryResult_like (op : BinaryOp) (ha : L.data a a') (hb : L.data b b') :
    binaryResult op a b = binaryResult op a' b' := by
  cases op with
  | equal | notEqual => simp only [binaryResult, Likeness.looseEqual_eq ha hb]
  | strictEqual | strictNotEqual => simp only [binaryResult, Likeness.strictEqual_eq ha hb]
  | order op =>
    rw [binaryResult, ← Value.compare_surface, surface_eq ha, surface_eq hb, Value.compare_surface,
      binaryResult]
  | arith op =>
    rw [binaryResult, ← Value.arith_surface, surface_eq ha, surface_eq hb, Value.arith_surface,
      binaryResult]

/-- A result that is no thing is like itself. -/
theorem plain_like (L : Likeness P) {r : Except Fault Value} (h : Flat r) :
    Same L.data (r.map .plain) (r.map .plain) := by
  cases r with
  | error f => exact .error rfl
  | ok v => exact .ok (L.plain (h v rfl))

/-! ### Evaluation -/

theorem evalAll_like {ts : List Tree} (budget : Nat)
    (h : ∀ t' ∈ ts, ∀ s t, P.seeds s t → Same L.data (eval E s budget t') (eval E' t budget t'))
    (hs : P.seeds s t) (i : Nat) :
    Same (List.Forall₂ L.data) (evalAll E s i budget ts) (evalAll E' t i budget ts) := by
  induction ts generalizing i with
  | nil => exact .ok .nil
  | cons t' ts ih =>
    have hrest := ih (fun t hm => h t (List.mem_cons_of_mem _ hm)) (i + 1)
    rw [evalAll, evalAll]
    refine (h t' List.mem_cons_self _ _ (P.fork i hs)).elim (fun f => .error rfl) fun d e hd => ?_
    exact hrest.elim (fun f => .error rfl) fun xs ys hxs => .ok (.cons hd hxs)

/-- Whether what a tree is built from means the same in two scopes. -/
structure SteadyTree (E E' : Environment) (tree : Tree) : Prop where
  scalar : tree.Scalar
  names : ∀ n, tree.mentions n → Steady E E' n

theorem SteadyTree.mono {tree part : Tree} (h : SteadyTree E E' tree)
    (hsub : part.leaves ⊆ tree.leaves) : SteadyTree E E' part :=
  ⟨h.scalar.mono hsub, fun n hn => h.names n (hsub hn)⟩

/-- A tree has likes as its values in two scopes that are alike and in which what it is built from
means the same. -/
theorem eval_like (hE : LikeScopes L E E') {tree : Tree} (htree : SteadyTree E E' tree)
    (hs : P.seeds s t) (budget : Nat) :
    Same L.data (eval E s budget tree) (eval E' t budget tree) := by
  induction tree generalizing s t budget with
  | literal v =>
    rw [eval, eval]
    split_ifs
    · exact .error rfl
    · exact .ok (L.plain (htree.scalar v (List.mem_singleton.2 rfl)))
  | name n =>
    rw [eval, eval]
    split_ifs
    · exact .error rfl
    · exact name_like hE (htree.names n (List.mem_singleton.2 rfl))
  | member object n ih =>
    have hobject := ih (htree.mono (List.Subset.refl _)) (P.fork 0 hs) (budget - 1)
    rw [eval, eval]
    exact hobject.elim (fun f => .error rfl) fun d e hd => member_like hs hd n
  | index object key ihobject ihkey =>
    have hobject := ihobject (htree.mono (List.subset_append_left _ _)) (P.fork 0 hs) (budget - 1)
    have hkey := ihkey (htree.mono (List.subset_append_right _ _)) (P.fork 1 hs) (budget - 1)
    rw [eval, eval]
    refine hobject.elim (fun f => .error rfl) fun d e hd => ?_
    refine hkey.elim (fun f => .error rfl) fun k k' hk => ?_
    dsimp only
    rw [← index_surface, surface_eq hk, index_surface]
    exact index_like hs hd _
  | call callee args ihcallee ihargs =>
    have hcallee := ihcallee (htree.mono (List.subset_append_left _ _)) (P.fork 0 hs) (budget - 2)
    have hargs := evalAll_like (budget - 2) (fun a ha s t hs => ihargs a ha
      (htree.mono (List.subset_append_of_subset_right _ (leaves_subset ha))) hs (budget - 2)) hs 1
    rw [eval, eval]
    refine hcallee.elim (fun f => .error rfl) fun d e hd => ?_
    dsimp only
    rw [isCallable_like hd]
    split_ifs
    · refine hargs.elim (fun f => .error rfl) fun xs ys hxs => ?_
      dsimp only
      rw [callDatum_like (s := s) (t := t) hE.record hd hxs]
      exact plain_like L (flat_callDatum _ _ _ _)
    · exact .error rfl
  | unary op operand ih =>
    have hoperand := ih (htree.mono (List.Subset.refl _)) hs (budget - 1)
    rw [eval, eval]
    refine hoperand.elim (fun f => .error rfl) fun d e hd => ?_
    dsimp only
    rw [← unaryResult_surface, surface_eq hd, unaryResult_surface]
    exact .ok (L.plain (isThing_unaryResult op _))
  | logical op left right ihleft ihright =>
    have hleft := ihleft (htree.mono (List.subset_append_left _ _)) (P.fork 0 hs) (budget - 1)
    have hright := ihright (htree.mono (List.subset_append_right _ _)) (P.fork 1 hs) (budget - 1)
    rw [eval, eval]
    refine hleft.elim (fun f => .error rfl) fun d e hd => ?_
    dsimp only
    rw [← goesOn_surface, surface_eq hd, goesOn_surface]
    split_ifs
    · exact hright
    · exact .ok hd
  | binary op left right ihleft ihright =>
    have hleft := ihleft (htree.mono (List.subset_append_left _ _)) (P.fork 0 hs) (budget - 1)
    have hright := ihright (htree.mono (List.subset_append_right _ _)) (P.fork 1 hs) (budget - 1)
    rw [eval, eval]
    refine hleft.elim (fun f => .error rfl) fun a a' ha => ?_
    refine hright.elim (fun f => .error rfl) fun b b' hb => ?_
    dsimp only
    rw [binaryResult_like op ha hb]
    exact plain_like L (flat_binaryResult op _ _)
  | conditional test yes no ihtest ihyes ihno =>
    have hbranches : yes.leaves ++ no.leaves ⊆ (Tree.conditional test yes no).leaves :=
      List.subset_append_right _ _
    have htest := ihtest (htree.mono (List.subset_append_left _ _)) (P.fork 0 hs) (budget - 1)
    have hyes := ihyes (htree.mono (List.Subset.trans (List.subset_append_left _ _) hbranches))
      (P.fork 1 hs) (budget - 1)
    have hno := ihno (htree.mono (List.Subset.trans (List.subset_append_right _ _) hbranches))
      (P.fork 2 hs) (budget - 1)
    rw [eval, eval]
    refine htest.elim (fun f => .error rfl) fun d e hd => ?_
    dsimp only
    rw [← Value.truthy_surface, surface_eq hd, Value.truthy_surface]
    split_ifs
    · exact hyes
    · exact hno
  | array items ih =>
    have hitems := evalAll_like (budget - 1) (fun item hm s t hs => ih item hm
      (htree.mono (leaves_subset hm)) hs (budget - 1)) hs 0
    rw [eval, eval]
    split_ifs
    · exact .error rfl
    · exact hitems.elim (fun f => .error rfl) fun xs ys hxs => .ok (L.list (P.part [] hs) rfl hxs)

theorem evaluateTree_like (hE : LikeScopes L E E') {tree : Tree} (htree : SteadyTree E E' tree)
    (hs : P.seeds s t) : Same L.data (evaluateTree E s tree) (evaluateTree E' t tree) := by
  rw [evaluateTree, evaluateTree]
  refine (eval_like hE htree hs depthBudget).elim (fun f => .error rfl) fun d e hd => ?_
  have hcopy := L.copy hs hd
  cases L.layer hd with
  | group | helper => exact .error rfl
  | method m _ hr =>
    dsimp only
    rw [← Value.methodText_surface, surface_eq hr, Value.methodText_surface]
    exact .error rfl
  | _ => exact .ok hcopy

/-- Whether every name in an expression means the same in two scopes. -/
def SteadyText (E E' : Environment) (source : Text) : Prop :=
  ∀ tree, parse source = .ok tree → ∀ n, tree.mentions n → Steady E E' n

theorem evaluateText_like (hE : LikeScopes L E E') {source : Text}
    (hsteady : SteadyText E E' source) (hs : P.seeds s t) :
    Same L.data (evaluateText E s source) (evaluateText E' t source) := by
  rw [evaluateText, evaluateText]
  cases h : parse source with
  | error f => exact .error rfl
  | ok tree => exact evaluateTree_like hE ⟨parse_scalar h, hsteady tree h⟩ hs

theorem evaluate_surface (E : Environment) (s : Seed) (v : Value) :
    evaluate E s v.surface = evaluate E s v := by
  cases v <;> rfl

theorem evaluate_like (hE : LikeScopes L E E') (hg : E.generators = none) (hs : P.seeds s t)
    {v w : Value} (h : v.surface = w.surface) :
    Same L.data (evaluate E s v) (evaluate E' t w) := by
  rw [← evaluate_surface E, h, evaluate_surface]
  cases w with
  | str text => exact evaluateText_like hE (fun _ _ _ _ => .inl hg) hs
  | _ => exact .error rfl

end Expr
end RuleLedger
