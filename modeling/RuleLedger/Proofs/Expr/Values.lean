import RuleLedger.Proofs.Expr.Likeness
import RuleLedger.Proofs.Record.Sole

/-! What expressions come to. Main statement: over a mapping of data, the value of an expression is
no callable, and every mapping in it is data; and it is data itself, unless some item of an array in
the expression evaluates to a callable. -/
namespace RuleLedger

/-! ### Data inside data -/

namespace Value

/-- Of a mapping, whether it is data. -/
def mapIsData : Value → Bool
  | .map fs => (Value.map fs).isData
  | _ => true

theorem isData_of_isThing {v : Value} (h : v.isThing = false) : v.isData = true := by
  cases v with
  | list | map | helper | method => cases h
  | _ => rfl

/-- Whatever data hold is data. -/
theorem all_isData {v : Value} (h : v.isData = true) : v.all isData = true := by
  induction v with
  | list xs ih => exact (all_list _ _).2 ⟨h, fun x hx => ih x hx ((isData_list xs).1 h x hx)⟩
  | map fs ih => exact (all_map _ _).2 ⟨h, fun f hf => ih f hf ((isData_map fs).1 h f hf)⟩
  | _ => exact h

theorem all_mapIsData {v : Value} (h : v.isData = true) : v.all mapIsData = true := by
  refine all_mono (fun w hw => ?_) (all_isData h)
  cases w with
  | map fs => exact hw
  | _ => rfl

end Value

namespace Expr

/-! ### Arrays -/

mutual

/-- The items of the arrays of a tree. -/
def Tree.arrays : Tree → List (List Tree)
  | .literal _ | .name _ => []
  | .member t _ => t.arrays
  | .index t k => t.arrays ++ k.arrays
  | .call f ts => f.arrays ++ arraysOfAll ts
  | .unary _ t => t.arrays
  | .binary _ l r => l.arrays ++ r.arrays
  | .logical _ l r => l.arrays ++ r.arrays
  | .conditional t y n => t.arrays ++ (y.arrays ++ n.arrays)
  | .array ts => ts :: arraysOfAll ts

def arraysOfAll : List Tree → List (List Tree)
  | [] => []
  | t :: ts => t.arrays ++ arraysOfAll ts

end

theorem arraysOfAll_eq (ts : List Tree) : arraysOfAll ts = ts.flatMap Tree.arrays := by
  induction ts with
  | nil => rfl
  | cons t ts ih => rw [arraysOfAll, ih, List.flatMap_cons]

theorem arrays_subset {t : Tree} {ts : List Tree} (h : t ∈ ts) : t.arrays ⊆ arraysOfAll ts := by
  rw [arraysOfAll_eq]
  exact fun items hi => List.mem_flatMap.2 ⟨t, h, hi⟩

variable {E : Environment} {s : Seed} {budget : Nat} {d : Datum} {t : Tree} {leak : Prop}

/-- Whether an item of one of some arrays evaluates to a callable. -/
def Leaks (E : Environment) (arrays : List (List Tree)) : Prop :=
  ∃ items ∈ arrays, ∃ item ∈ items, ∃ s budget d,
    eval E s budget item = .ok d ∧ d.value.isCallable = true

theorem Leaks.mono {as bs : List (List Tree)} (h : Leaks E as) (hs : as ⊆ bs) : Leaks E bs := by
  obtain ⟨items, hi, hleak⟩ := h
  exact ⟨items, hs hi, hleak⟩

/-! ### What arises during evaluation -/

/-- Data, callables, and lists of what arises; with a callable among its items, such a list is a
leak. -/
inductive Arises (leak : Prop) : Datum → Prop
  | data {d : Datum} : d.value.isData = true → Arises leak d
  | group (g : Group) : Arises leak (shelved (.group g))
  | helper (i : Identity) (h : Helper) : Arises leak (.helper i h)
  | method (i : Identity) (r : Datum) (m : Method) : Arises leak (.method i r m)
  | list (i : Identity) {xs : List Datum} : (∀ x ∈ xs, Arises leak x) →
      (∀ x ∈ xs, x.value.isCallable = true → leak) → Arises leak (.list i xs)

namespace Arises

/-- Where nothing leaks, only callables are no data. -/
theorem isData (h : Arises leak d) (hleak : ¬leak) (hc : d.value.isCallable = false) :
    d.value.isData = true := by
  induction h with
  | data hd => exact hd
  | list i hxs hitems ih =>
    rw [Datum.value_list, Value.isData_list, List.forall_mem_map]
    exact fun x hx => ih x hx (Bool.eq_false_iff.2 fun hcall => hleak (hitems x hx hcall))
  | _ => cases hc

theorem all_mapIsData (h : Arises leak d) : d.value.all Value.mapIsData = true := by
  induction h with
  | data hd => exact Value.all_mapIsData hd
  | list i hxs hitems ih =>
    rw [Datum.value_list, Value.all_list, List.forall_mem_map]
    exact ⟨rfl, ih⟩
  | _ => rfl

theorem plain {v : Value} (h : v.isThing = false) : Arises leak (.plain v) := by
  refine .data ?_
  rw [Datum.plain, Datum.value_ofValue]
  exact Value.isData_of_isThing h

theorem shelved (h : Helper) : Arises leak (shelved h) := by
  cases h with
  | group g => exact .group g
  | _ => exact .helper _ _

theorem methodNamed (s : Seed) (d : Datum) (family : List Method) (n : Text) :
    Arises leak (methodNamed s d family n) := by
  rw [Expr.methodNamed]
  cases family.find? (·.name == n) with
  | none => exact .data rfl
  | some m => exact .method _ _ _

theorem list_mem {i : Identity} {xs : List Datum} (h : Arises leak (.list i xs)) :
    ∀ x ∈ xs, Arises leak x := by
  cases h with
  | data hd =>
    rw [Datum.value_list, Value.isData_list, List.forall_mem_map] at hd
    exact fun x hx => .data (hd x hx)
  | list _ hxs _ => exact hxs

end Arises

/-- A scope of data. -/
def DataScope (E : Environment) : Prop :=
  ∃ ms, E.record.root = .fields ms ∧ ∀ m ∈ ms, m.2.value.isData = true

theorem name_arises (hE : DataScope E) {n : Text} (h : E.name n = .ok d) : Arises leak d := by
  obtain ⟨ms, hms, hdata⟩ := hE
  rw [Environment.name, Environment.recordName?, hms] at h
  dsimp only at h
  split at h
  · cases h
  · rename_i e hget
    obtain rfl := Except.ok.inj h
    exact .data (hdata _ (Fields.mem_of_get? (Except.ok.inj hget)))
  · split at h
    · rename_i e hhelper
      obtain rfl := Except.ok.inj h
      rw [Environment.helper?] at hhelper
      split_ifs at hhelper
      · exact Option.some.inj hhelper ▸ .shelved _
      · exact Option.some.inj hhelper ▸ .shelved _
      · obtain ⟨g, -, rfl⟩ := Option.map_eq_some_iff.1 hhelper
        exact .helper _ _
      · obtain ⟨g, -, rfl⟩ := Option.map_eq_some_iff.1 hhelper
        exact .helper _ _
      · obtain ⟨f, -, rfl⟩ := Option.map_eq_some_iff.1 hhelper
        exact .shelved _
    · cases h

theorem arises_of_group {g g' : Group} {i : Identity} {ms : Fields Datum}
    (h : shelved (.group g) = .group i g' ms) {m : Text × Datum} (hm : m ∈ ms) :
    Arises leak m.2 := by
  obtain ⟨rfl, rfl, rfl⟩ := Datum.group.inj h
  obtain ⟨⟨k, v⟩, hv, rfl⟩ := List.mem_map.1 hm
  obtain hthing | ⟨f, -, hf⟩ := groupValues_cases g _ hv
  · cases v with
    | helper => cases hthing
    | _ => exact .plain hthing
  · obtain rfl : v = .helper f := hf
    exact .helper _ _

theorem member_arises (hd : Arises leak d) {n : Text} {e : Datum} (h : member s d n = .ok e) :
    Arises leak e := by
  cases d with
  | null => cases h
  | map i fs =>
    obtain rfl := Except.ok.inj h
    cases hd with
    | data hd =>
      rw [Datum.value_map, Value.isData_map, Fields.mapValues, List.forall_mem_map] at hd
      cases hget : Fields.get? fs n with
      | none => exact .data rfl
      | some e => exact .data (hd _ (Fields.mem_of_get? hget))
  | str text =>
    obtain rfl := Except.ok.inj h
    split_ifs
    · exact .data rfl
    · exact .methodNamed _ _ _ _
  | num k =>
    obtain rfl := Except.ok.inj h
    exact .methodNamed _ _ _ _
  | list i xs =>
    obtain rfl := Except.ok.inj h
    split_ifs
    · exact .data rfl
    · exact .methodNamed _ _ _ _
  | group i g ms =>
    rw [member] at h
    split at h
    · rename_i m hget
      obtain rfl := Except.ok.inj h
      cases hd with
      | data hd => cases hd
      | group => exact arises_of_group rfl (Fields.mem_of_get? hget)
    · cases h
  | _ =>
    obtain rfl := Except.ok.inj h
    exact .data rfl

theorem index_arises (hd : Arises leak d) {key : Value} {e : Datum} (h : index s d key = .ok e) :
    Arises leak e := by
  have hkey (hk : memberByKey s d key = .ok e) : Arises leak e := by
    cases key with
    | str n => exact member_arises hd hk
    | _ =>
      obtain rfl := Except.ok.inj hk
      exact .data rfl
  cases d with
  | null =>
    rw [index] at h
    obtain ⟨_, -, h⟩ := bind_eq_ok.1 h
    cases h
  | list i xs =>
    rw [index] at h
    split at h
    · rename_i k _
      obtain rfl := Except.ok.inj h
      cases hx : xs[k]? with
      | none =>
        rw [List.getD_eq_getElem?_getD, hx]
        exact .data rfl
      | some x =>
        rw [List.getD_eq_getElem?_getD, hx]
        exact hd.list_mem x (List.mem_of_getElem? hx)
    · exact hkey h
  | str text =>
    rw [index] at h
    split at h
    · obtain rfl := Except.ok.inj h
      exact .data rfl
    · exact hkey h
  | map | group =>
    rw [index] at h
    obtain ⟨n, -, h⟩ := bind_eq_ok.1 h
    exact member_arises hd h
  | _ =>
    obtain rfl := Except.ok.inj h
    exact .data rfl

theorem evalAll_mem {ts : List Tree} {i : Nat} {ds : List Datum}
    (h : evalAll E s i budget ts = .ok ds) :
    ∀ d ∈ ds, ∃ t ∈ ts, ∃ s', eval E s' budget t = .ok d := by
  induction ts generalizing i ds with
  | nil =>
    obtain rfl := Except.ok.inj h
    exact List.forall_mem_nil _
  | cons t ts ih =>
    rw [evalAll] at h
    split at h
    · cases h
    · rename_i d hd
      split at h
      · cases h
      · rename_i ds hds
        obtain rfl := Except.ok.inj h
        refine List.forall_mem_cons.2 ⟨⟨t, List.mem_cons_self, _, hd⟩, fun e he => ?_⟩
        obtain ⟨u, hu, s', hs'⟩ := ih hds e he
        exact ⟨u, List.mem_cons_of_mem _ hu, s', hs'⟩

theorem map_plain_arises {r : Except Fault Value} (hr : Flat r) (h : r.map .plain = .ok d) :
    Arises leak d := by
  obtain ⟨v, hv, rfl⟩ := map_eq_ok.1 h
  exact .plain (hr v hv)

/-- Whatever a tree evaluates to has arisen from data. -/
theorem eval_arises (hE : DataScope E) (hscalar : t.Scalar) (hleak : Leaks E t.arrays → leak)
    (h : eval E s budget t = .ok d) : Arises leak d := by
  induction t generalizing s budget d with
  | literal v =>
    rw [eval] at h
    split_ifs at h
    obtain rfl := Except.ok.inj h
    exact .plain (hscalar v (List.mem_singleton.2 rfl))
  | name n =>
    rw [eval] at h
    split_ifs at h
    exact name_arises hE h
  | member object n ih =>
    rw [eval] at h
    split at h
    · cases h
    · rename_i e he
      exact member_arises (ih hscalar hleak he) h
  | index object key ihobject ihkey =>
    obtain ⟨hl, -⟩ := Tree.Scalar.both hscalar
    rw [eval] at h
    split at h
    · cases h
    · rename_i e he
      split at h
      · cases h
      · exact index_arises
          (ihobject hl (fun hi => hleak (hi.mono (List.subset_append_left _ _))) he) h
  | call callee args ihcallee ihargs =>
    rw [eval] at h
    split at h
    · cases h
    · split_ifs at h
      split at h
      · cases h
      · exact map_plain_arises (flat_callDatum _ _ _ _) h
  | unary op operand ih =>
    rw [eval] at h
    split at h
    · cases h
    · obtain rfl := Except.ok.inj h
      exact .plain (isThing_unaryResult op _)
  | binary op left right ihleft ihright =>
    rw [eval] at h
    split at h
    · cases h
    · split at h
      · cases h
      · exact map_plain_arises (flat_binaryResult op _ _) h
  | logical op left right ihleft ihright =>
    obtain ⟨hl, hr⟩ := Tree.Scalar.both hscalar
    rw [eval] at h
    split at h
    · cases h
    · rename_i e he
      split_ifs at h
      · exact ihright hr (fun hi => hleak (hi.mono (List.subset_append_right _ _))) h
      · obtain rfl := Except.ok.inj h
        exact ihleft hl (fun hi => hleak (hi.mono (List.subset_append_left _ _))) he
  | conditional test yes no ihtest ihyes ihno =>
    obtain ⟨-, hrest⟩ := Tree.Scalar.both hscalar
    obtain ⟨hy, hn⟩ := Tree.Scalar.both hrest
    have hbranch (hi : Leaks E (yes.arrays ++ no.arrays)) : leak :=
      hleak (hi.mono (List.subset_append_right _ _))
    rw [eval] at h
    split at h
    · cases h
    · split_ifs at h
      · exact ihyes hy (fun hi => hbranch (hi.mono (List.subset_append_left _ _))) h
      · exact ihno hn (fun hi => hbranch (hi.mono (List.subset_append_right _ _))) h
  | array items ih =>
    rw [eval] at h
    split_ifs at h
    split at h
    · cases h
    · rename_i ds hds
      obtain rfl := Except.ok.inj h
      have hmem := evalAll_mem hds
      refine .list _ (fun x hx => ?_) fun x hx hcall => ?_
      · obtain ⟨t, ht, s', he⟩ := hmem x hx
        exact ih t ht (hscalar.mono (leaves_subset ht))
          (fun hi => hleak (hi.mono fun a ha => List.mem_cons_of_mem _ (arrays_subset ht ha))) he
      · obtain ⟨t, ht, s', he⟩ := hmem x hx
        exact hleak ⟨items, List.mem_cons_self, t, ht, s', _, x, he, hcall⟩

/-! ### Results -/

theorem dataScope_ofValue {fs : Fields Value} (h : (Value.map fs).isData = true) (place : Seed)
    (generators : Option Generators) : DataScope ⟨Record.ofValue place (.map fs), generators⟩ := by
  refine ⟨_, rfl, ?_⟩
  have hvalues := Datum.fieldValues_ofFields place [] fs
  rw [Datum.fieldValues_eq] at hvalues
  rw [← hvalues, Value.isData_map, Fields.mapValues, List.forall_mem_map] at h
  exact h

/-- An expression over a mapping of data comes to no callable, and to no mapping with one inside;
only the lists that it writes can hold callables, and then an item of one of them is such. -/
theorem evaluate_values {fs : Fields Value} {place seed : Seed} {generators : Option Generators}
    {source : Text} (hfs : (Value.map fs).isData = true)
    (h : evaluate ⟨Record.ofValue place (.map fs), generators⟩ seed (.str source) = .ok d) :
    d.value.isCallable = false ∧ d.value.all Value.mapIsData = true ∧
      (d.value.isData = true ∨ ∃ t, parse source = .ok t ∧
        Leaks ⟨Record.ofValue place (.map fs), generators⟩ t.arrays) := by
  rw [evaluate, evaluateText] at h
  split at h
  · cases h
  · rename_i t ht
    rw [evaluateTree] at h
    split at h
    · cases h
    · rename_i e he
      have harises := eval_arises (dataScope_ofValue hfs place generators) (parse_scalar ht) id he
      have hresult : e.value.isCallable = false ∧ e.copy seed = d := by
        cases e with
        | group | helper | method => cases h
        | _ => exact ⟨rfl, Except.ok.inj h⟩
      obtain ⟨hcallable, rfl⟩ := hresult
      rw [Datum.value_copy]
      refine ⟨hcallable, harises.all_mapIsData, ?_⟩
      by_cases hl : Leaks ⟨Record.ofValue place (.map fs), generators⟩ t.arrays
      · exact .inr ⟨t, ht, hl⟩
      · exact .inl (harises.isData hl hcallable)

/-- An array of a namespace is a list that is no data. -/
theorem evaluate_namespace :
    ∃ d t, evaluate ⟨Record.ofValue ⟨[]⟩ (.map []), none⟩ ⟨[]⟩ (.str "[Math]") = .ok d ∧
      d.value.isData = false ∧ d.value.isCallable = false ∧ parse "[Math]" = .ok t ∧
      Leaks ⟨Record.ofValue ⟨[]⟩ (.map []), none⟩ t.arrays := by
  obtain ⟨d, h, hd⟩ := exists_ok (fun d : Datum => !d.value.isData)
    (x := evaluate ⟨Record.ofValue ⟨[]⟩ (.map []), none⟩ ⟨[]⟩ (.str "[Math]")) (by decide +kernel)
  rw [Bool.not_eq_true'] at hd
  obtain ⟨hcallable, -, hdata | ⟨t, ht, hleak⟩⟩ :=
    evaluate_values (rfl : (Value.map []).isData = true) h
  · rw [hdata] at hd
    cases hd
  · exact ⟨d, t, h, hd, hcallable, ht, hleak⟩

end Expr
end RuleLedger
