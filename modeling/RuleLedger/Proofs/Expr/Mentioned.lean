import RuleLedger.Proofs.Expr.Likeness
import RuleLedger.Proofs.Record.ShuffledRecords

/-! What expressions see of a scope. Main statement: in two mappings that hold, under every name in
a tree, values that differ in the order of keys alone, the tree comes to results that differ in the
order of keys alone, or to the same fault. -/
namespace RuleLedger

theorem Pairing.shelf_identical (name : String) : Identity.shelf name = .shelf name := rfl

/-- The pairing of two evaluations at one seed: every thing belongs to itself. -/
def Pairing.identical : Pairing where
  seeds := Eq
  things := Eq
  fork n h := congrArg (Seed.fork · n) h
  shelf := shelf_identical
  part p h := congrArg (Identity.part · p) h
  copy h h' := congrArg₂ Identity.copy h h'
  unique h h' := by rw [h, h']

namespace Expr

variable {E E' : Environment} {t : Tree} {s : Seed} {d : Datum} {fs gs : Fields Value}
  {generators : Option Generators} {place : Seed}

/-! ### Names that are not mentioned -/

/-- Scopes that hold the same lists and in which the names of a tree resolve to the same. -/
structure Agreeing (E E' : Environment) (t : Tree) : Prop where
  held : E.record.held = E'.record.held
  names : ∀ n, t.mentions n → E.name n = E'.name n

theorem Agreeing.mono {part : Tree} (h : Agreeing E E' t) (hsub : part.leaves ⊆ t.leaves) :
    Agreeing E E' part :=
  ⟨h.held, fun n hn => h.names n (hsub hn)⟩

/-- Calls reach no more of a scope than the lists that it holds. -/
theorem callDatum_congr (h : E.record.held = E'.record.held) (s : Seed) (d : Datum)
    (args : List Datum) : callDatum E s d args = callDatum E' s d args := by
  have hcurrent (r : Datum) : E.record.current r = E'.record.current r := by
    have hheld : E.record.held? = E'.record.held? :=
      funext fun i => congrArg (fun held => held.find? fun l => l.identity? == some i) h
    rw [Record.current, Record.current, hheld]
  cases d with
  | method i r m => rw [callDatum, callDatum, callMethod, callMethod, hcurrent]
  | _ => rfl

theorem evalAll_congr {ts : List Tree} (budget : Nat)
    (h : ∀ t ∈ ts, ∀ s, eval E s budget t = eval E' s budget t) (s : Seed) (i : Nat) :
    evalAll E s i budget ts = evalAll E' s i budget ts := by
  induction ts generalizing i with
  | nil => rfl
  | cons t ts ih =>
    rw [evalAll, evalAll, h t List.mem_cons_self,
      ih (fun u hu => h u (List.mem_cons_of_mem t hu))]

/-- A tree reads no more of a scope than the names that it mentions. -/
theorem eval_congr (h : Agreeing E E' t) (s : Seed) (budget : Nat) :
    eval E s budget t = eval E' s budget t := by
  induction t generalizing s budget with
  | literal v => rw [eval, eval]
  | name n => rw [eval, eval, h.names n (List.mem_singleton.2 rfl)]
  | member object n ih => rw [eval, eval, ih (h.mono (List.Subset.refl _))]
  | index object key ihobject ihkey =>
    rw [eval, eval, ihobject (h.mono (List.subset_append_left _ _)),
      ihkey (h.mono (List.subset_append_right _ _))]
  | call callee args ihcallee ihargs =>
    have hargs := evalAll_congr (budget - 2) (fun a ha s => ihargs a ha
      (h.mono (List.subset_append_of_subset_right _ (leaves_subset ha))) s (budget - 2)) s 1
    rw [eval, eval, ihcallee (h.mono (List.subset_append_left _ _)), hargs]
    simp only [callDatum_congr h.held]
  | unary op operand ih => rw [eval, eval, ih (h.mono (List.Subset.refl _))]
  | binary op left right ihleft ihright =>
    rw [eval, eval, ihleft (h.mono (List.subset_append_left _ _)),
      ihright (h.mono (List.subset_append_right _ _))]
  | logical op left right ihleft ihright =>
    rw [eval, eval, ihleft (h.mono (List.subset_append_left _ _)),
      ihright (h.mono (List.subset_append_right _ _))]
  | conditional test yes no ihtest ihyes ihno =>
    have hbranches : yes.leaves ++ no.leaves ⊆ (Tree.conditional test yes no).leaves :=
      List.subset_append_right _ _
    rw [eval, eval, ihtest (h.mono (List.subset_append_left _ _)),
      ihyes (h.mono (List.Subset.trans (List.subset_append_left _ _) hbranches)),
      ihno (h.mono (List.Subset.trans (List.subset_append_right _ _) hbranches))]
  | array items ih =>
    have hitems := evalAll_congr (budget - 1)
      (fun a ha s => ih a ha (h.mono (leaves_subset ha)) s (budget - 1)) s 0
    rw [eval, eval, hitems]

/-- The members that a tree mentions. -/
def mentioned (t : Tree) (fs : Fields Value) : Fields Value :=
  fs.filter fun f => decide (t.mentions f.1)

theorem get?_mentioned (t : Tree) (fs : Fields Value) (n : Text) :
    (mentioned t fs).get? n = if t.mentions n then fs.get? n else none := by
  rw [mentioned, Fields.get?_filter fun n => decide (t.mentions n)]
  simp only [decide_eq_true_eq]

/-- The members that a tree does not mention make no difference to it. -/
theorem evaluateTree_mentioned (fs : Fields Value) (generators : Option Generators)
    (place s : Seed) (t : Tree) :
    evaluateTree ⟨.ofValue place (.map fs), generators⟩ s t =
      evaluateTree ⟨.ofValue place (.map (mentioned t fs)), generators⟩ s t := by
  have hagree : Agreeing ⟨.ofValue place (.map fs), generators⟩
      ⟨.ofValue place (.map (mentioned t fs)), generators⟩ t := by
    refine ⟨rfl, fun n hn => ?_⟩
    simp only [Environment.name, Environment.recordName?, Record.ofValue, Datum.get?_ofFields,
      get?_mentioned, if_pos hn]
    rfl
  rw [evaluateTree, eval_congr hagree, evaluateTree]

/-! ### The order of keys -/

theorem isJson_mentioned (hfs : (Value.map fs).isJson = true) (t : Tree) :
    (Value.map (mentioned t fs)).isJson = true := by
  rw [Value.isJson_map] at hfs ⊢
  exact ⟨Fields.nodup_filter hfs.1 _, fun f hf => hfs.2 f (List.mem_of_mem_filter hf)⟩

/-- Mappings of members that are alike, name by name, as records that differ in the order of
keys. -/
theorem shuffledRecords_of_get? (hfs : (Value.map fs).isJson = true)
    (hgs : (Value.map gs).isJson = true) (place : Seed)
    (h : ∀ n, Option.Rel Value.Alike (fs.get? n) (gs.get? n)) :
    Pairing.identical.ShuffledRecords (.ofValue place (.map fs)) (.ofValue place (.map gs)) := by
  refine ⟨⟨_, _, rfl, rfl, .ofFields hfs hgs fun n => ?_⟩, Pairing.finds_of_forall₂ .nil⟩
  obtain ⟨hx, hy⟩ | ⟨v, w, hx, hy, hvw⟩ := optionRel_cases (h n)
  · rw [hx, hy]
    exact .none
  · rw [hx, hy]
    exact .some (.ofValue (fun _ => rfl) (Value.isJson_of_get? hfs hx)
      (Value.isJson_of_get? hgs hy) hvw _)

/-- Results that differ in the order of keys alone. They are made of the same things, and alike as
they are spelled; data are alike as they are. -/
structure Reordered (d e : Datum) : Prop where
  things : Pairing.identical.Shuffled d e
  spelled : d.value.spelled.Alike e.value.spelled
  isData : d.value.isData = e.value.isData
  data : d.value.isData = true → d.value.Alike e.value

theorem Reordered.of_shuffled {d e : Datum} (h : Pairing.identical.Shuffled d e) :
    Reordered d e := by
  have hspelled := Value.alike_of_essence_eq h.essence_eq
  refine ⟨h, hspelled, h.isData_eq, fun hd => ?_⟩
  rw [Value.spelled_of_isData hd, Value.spelled_of_isData (h.isData_eq ▸ hd)] at hspelled
  exact hspelled

/-- An expression sees the members that it mentions and nothing of the order of keys. -/
theorem evaluateTree_reordered (hfs : (Value.map fs).isJson = true)
    (hgs : (Value.map gs).isJson = true) (ht : t.Parsed)
    (h : ∀ n, t.mentions n → Option.Rel Value.Alike (fs.get? n) (gs.get? n)) (place s : Seed) :
    Same Reordered (evaluateTree ⟨.ofValue place (.map fs), none⟩ s t)
      (evaluateTree ⟨.ofValue place (.map gs), none⟩ s t) := by
  have hmembers (n : Text) :
      Option.Rel Value.Alike ((mentioned t fs).get? n) ((mentioned t gs).get? n) := by
    rw [get?_mentioned, get?_mentioned]
    split_ifs with hn
    · exact h n hn
    · exact .none
  have hscopes : LikeScopes Pairing.identical.shuffled
      ⟨.ofValue place (.map (mentioned t fs)), none⟩
      ⟨.ofValue place (.map (mentioned t gs)), none⟩ :=
    ⟨shuffledRecords_of_get? (isJson_mentioned hfs t) (isJson_mentioned hgs t) place hmembers,
      .none⟩
  have hsteady : SteadyTree ⟨.ofValue place (.map (mentioned t fs)), none⟩
      ⟨.ofValue place (.map (mentioned t gs)), none⟩ t := ⟨ht.scalar, fun _ _ => .inl rfl⟩
  rw [evaluateTree_mentioned fs, evaluateTree_mentioned gs]
  exact (evaluateTree_like hscopes hsteady rfl).mono fun _ _ => .of_shuffled

/-- A mapping in one order of keys and in the other, beside other members. -/
def oneOrder : Fields Value := [("a", .map [("x", .int 1), ("y", .null)]), ("z", .int 5)]

def otherOrder : Fields Value := [("b", .null), ("a", .map [("y", .null), ("x", .int 1)])]

theorem evaluateTree_reordered_pair :
    ∃ t d e, parse "[String(a), a]" = .ok t ∧
      evaluateTree ⟨.ofValue ⟨[1]⟩ (.map oneOrder), none⟩ ⟨[0]⟩ t = .ok d ∧
      evaluateTree ⟨.ofValue ⟨[1]⟩ (.map otherOrder), none⟩ ⟨[0]⟩ t = .ok e ∧
      d.value.Alike e.value := by
  obtain ⟨t, ht, htest⟩ := exists_ok (x := parse "[String(a), a]") (fun t : Tree =>
    decide (∀ n ∈ t.leaves.filterMap Tree.name?, n = "String" ∨ n = "a") &&
      (evaluateTree ⟨.ofValue ⟨[1]⟩ (.map oneOrder), none⟩ ⟨[0]⟩ t).toOption.any
        fun d => d.value.isData) (by decide +kernel)
  rw [Bool.and_eq_true, decide_eq_true_eq] at htest
  obtain ⟨hnames, hresult⟩ := htest
  obtain ⟨d, hd, hdata⟩ := exists_ok (fun d : Datum => d.value.isData) hresult
  have hmembers (n : Text) (hn : t.mentions n) :
      Option.Rel Value.Alike (oneOrder.get? n) (otherOrder.get? n) := by
    obtain rfl | rfl := hnames n (Tree.mentions_iff.1 hn)
    · exact .none
    · exact .some (Value.alike_of_perm (.swap _ _ _))
  obtain ⟨e, he, hde⟩ := (evaluateTree_reordered (by decide +kernel) (by decide +kernel)
    (parse_parsed ht) hmembers ⟨[1]⟩ ⟨[0]⟩).exists_right hd
  exact ⟨t, d, e, ht, hd, he, hde.data hdata⟩

end Expr
end RuleLedger
