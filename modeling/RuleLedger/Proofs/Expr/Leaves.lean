import Mathlib.Data.List.Forall2
import RuleLedger.Expr.Parser

/-! The leaves of expression trees: the names and literals that a tree is built from. The literals
of a tree that was parsed are no things. -/
namespace RuleLedger.Expr

/-- Induction over a tree with the arguments of its calls and the items of its arrays. -/
@[elab_as_elim, induction_eliminator]
theorem Tree.nested {motive : Tree → Prop} (literal : ∀ v, motive (.literal v))
    (name : ∀ n, motive (.name n)) (member : ∀ t n, motive t → motive (.member t n))
    (index : ∀ t k, motive t → motive k → motive (.index t k))
    (call : ∀ f ts, motive f → (∀ t ∈ ts, motive t) → motive (.call f ts))
    (unary : ∀ op t, motive t → motive (.unary op t))
    (binary : ∀ op l r, motive l → motive r → motive (.binary op l r))
    (logical : ∀ op l r, motive l → motive r → motive (.logical op l r))
    (conditional : ∀ t y n, motive t → motive y → motive n → motive (.conditional t y n))
    (array : ∀ ts, (∀ t ∈ ts, motive t) → motive (.array ts)) (t : Tree) : motive t :=
  @Tree.rec motive (fun ts => ∀ t ∈ ts, motive t)
    literal name (fun t n h => member t n h) (fun t k h h' => index t k h h')
    (fun f ts h h' => call f ts h h') (fun op t h => unary op t h)
    (fun op l r h h' => binary op l r h h') (fun op l r h h' => logical op l r h h')
    (fun t y n h h' h'' => conditional t y n h h' h'') (fun ts h => array ts h)
    (fun _ h => nomatch h)
    (fun _ _ ht hts => List.forall_mem_cons.2 ⟨ht, hts⟩) t

mutual

/-- The names and literals of a tree. -/
def Tree.leaves : Tree → List Tree
  | .literal v => [.literal v]
  | .name n => [.name n]
  | .member t _ => t.leaves
  | .index t k => t.leaves ++ k.leaves
  | .call f ts => f.leaves ++ leavesOfAll ts
  | .unary _ t => t.leaves
  | .binary _ l r => l.leaves ++ r.leaves
  | .logical _ l r => l.leaves ++ r.leaves
  | .conditional t y n => t.leaves ++ (y.leaves ++ n.leaves)
  | .array ts => leavesOfAll ts

def leavesOfAll : List Tree → List Tree
  | [] => []
  | t :: ts => t.leaves ++ leavesOfAll ts

end

theorem leavesOfAll_eq (ts : List Tree) : leavesOfAll ts = ts.flatMap Tree.leaves := by
  induction ts with
  | nil => rfl
  | cons t ts ih => rw [leavesOfAll, ih, List.flatMap_cons]

theorem leaves_subset {t : Tree} {ts : List Tree} (h : t ∈ ts) : t.leaves ⊆ leavesOfAll ts := by
  rw [leavesOfAll_eq]
  exact fun leaf hl => List.mem_flatMap.2 ⟨t, h, hl⟩

def Tree.name? : Tree → Option Text
  | .name n => some n
  | _ => none

/-- Whether a tree looks up a name. -/
def Tree.mentions (t : Tree) (n : Text) : Prop := .name n ∈ t.leaves

theorem Tree.mentions_iff {t : Tree} {n : Text} : t.mentions n ↔ n ∈ t.leaves.filterMap name? := by
  rw [mentions, List.mem_filterMap]
  constructor
  · exact fun h => ⟨_, h, rfl⟩
  · rintro ⟨u, hu, hn⟩
    cases u with
    | name m => exact Option.some.inj hn ▸ hu
    | _ => cases hn

instance (t : Tree) (n : Text) : Decidable (t.mentions n) := decidable_of_iff' _ t.mentions_iff

/-- A tree whose literals are no things. -/
def Tree.Scalar (t : Tree) : Prop := ∀ v, .literal v ∈ t.leaves → v.isThing = false

namespace Tree.Scalar

variable {t k f l r y n : Tree} {ts : List Tree}

theorem literal {v : Value} (h : v.isThing = false) : (literal v).Scalar := by
  intro w hw
  obtain rfl := Tree.literal.inj (List.mem_singleton.1 hw)
  exact h

theorem name (s : Text) : (name s).Scalar := by
  intro w hw
  cases List.mem_singleton.1 hw

theorem mono (h : t.Scalar) (hsub : k.leaves ⊆ t.leaves) : k.Scalar := fun v hv => h v (hsub hv)

theorem both {as bs : List Tree} (h : ∀ v, .literal v ∈ as ++ bs → v.isThing = false) :
    (∀ v, .literal v ∈ as → v.isThing = false) ∧ ∀ v, .literal v ∈ bs → v.isThing = false :=
  ⟨fun v hv => h v (List.mem_append_left _ hv), fun v hv => h v (List.mem_append_right _ hv)⟩

theorem append {as bs : List Tree} (ha : ∀ v, .literal v ∈ as → v.isThing = false)
    (hb : ∀ v, .literal v ∈ bs → v.isThing = false) :
    ∀ v, .literal v ∈ as ++ bs → v.isThing = false :=
  fun v hv => (List.mem_append.1 hv).elim (ha v) (hb v)

theorem all (h : ∀ t ∈ ts, t.Scalar) : ∀ v, .literal v ∈ leavesOfAll ts → v.isThing = false := by
  intro v hv
  rw [leavesOfAll_eq] at hv
  obtain ⟨t, ht, hv⟩ := List.mem_flatMap.1 hv
  exact h t ht v hv

theorem member (ht : t.Scalar) (s : Text) : (member t s).Scalar := ht

theorem unary (op : UnaryOp) (ht : t.Scalar) : (unary op t).Scalar := ht

theorem array (hts : ∀ t ∈ ts, t.Scalar) : (array ts).Scalar := all hts

theorem index (ht : t.Scalar) (hk : k.Scalar) : (index t k).Scalar := append ht hk

theorem call (hf : f.Scalar) (hts : ∀ t ∈ ts, t.Scalar) : (call f ts).Scalar :=
  append hf (all hts)

theorem binary (op : BinaryOp) (hl : l.Scalar) (hr : r.Scalar) : (binary op l r).Scalar :=
  append hl hr

theorem logical (op : LogicalOp) (hl : l.Scalar) (hr : r.Scalar) : (logical op l r).Scalar :=
  append hl hr

theorem conditional (ht : t.Scalar) (hy : y.Scalar) (hn : n.Scalar) :
    (conditional t y n).Scalar :=
  append ht (append hy hn)

end Tree.Scalar

/-! ### Parsing -/

/-- Whatever a parser reads has a property. -/
def Yields {α : Type} (Q : α → Prop) (p : Parse α) : Prop := ∀ ts a rest, p ts = .ok (a, rest) → Q a

theorem level_scalar {level : Level Tree} (h : level ∈ levels) {t : Token}
    {build : Tree → Tree → Tree} (hb : level t = some build) {l r : Tree} (hl : l.Scalar)
    (hr : r.Scalar) :
    (build l r).Scalar := by
  have hlogical (op : LogicalOp) (word : String) (h : logicalLevel op word t = some build) :
      (build l r).Scalar := by
    rw [logicalLevel] at h
    split_ifs at h
    obtain rfl := Option.some.inj h
    exact .logical op hl hr
  have hbinary (ops : List BinaryOp) (h : binaryLevel ops t = some build) :
      (build l r).Scalar := by
    rw [binaryLevel] at h
    split_ifs at h
    obtain ⟨op, -, rfl⟩ := Option.map_eq_some_iff.1 h
    exact .binary op hl hr
  simp only [levels, List.mem_cons, List.not_mem_nil, or_false] at h
  rcases h with rfl | rfl | rfl | rfl | rfl | rfl
  · exact hlogical _ _ hb
  · exact hlogical _ _ hb
  all_goals exact hbinary _ hb

variable {operand inner : Parse Tree}

theorem chain_scalar {level : Level Tree} (hlevel : level ∈ levels)
    (ho : Yields Tree.Scalar operand) (fuel : Nat) {left : Tree} (hl : left.Scalar) :
    Yields Tree.Scalar (chain level operand fuel left) := by
  induction fuel generalizing left with
  | zero =>
    intro ts t rest h
    obtain ⟨rfl, -⟩ := Prod.mk.inj (Except.ok.inj h)
    exact hl
  | succ fuel ih =>
    intro ts t rest h
    rw [chain] at h
    split at h
    · obtain ⟨rfl, -⟩ := Prod.mk.inj (Except.ok.inj h)
      exact hl
    · rename_i build hb
      split at h
      · cases h
      · rename_i right ts' hr
        exact ih (level_scalar hlevel hb hl (ho _ _ _ hr)) _ _ _ h

theorem atLevel_scalar {level : Level Tree} (hlevel : level ∈ levels)
    (ho : Yields Tree.Scalar operand) : Yields Tree.Scalar (atLevel level operand) := by
  intro ts t rest h
  rw [atLevel] at h
  split at h
  · cases h
  · rename_i left rest' hl
    exact chain_scalar hlevel ho _ (ho _ _ _ hl) _ _ _ h

theorem ladder_scalar (ho : Yields Tree.Scalar operand) : Yields Tree.Scalar (ladder operand) :=
  ladder_keeps ho fun _ hlevel _ => atLevel_scalar hlevel

theorem listTail_scalar (hi : Yields Tree.Scalar inner) (close : String) (fuel : Nat) :
    Yields (fun ts => ∀ t ∈ ts, Tree.Scalar t) (listTail inner close fuel) := by
  induction fuel with
  | zero =>
    intro ts a rest h
    cases h
  | succ fuel ih =>
    intro ts a rest h
    rw [listTail] at h
    split at h
    · cases h
    · rename_i item ts' hitem
      have hfirst := hi _ _ _ hitem
      split_ifs at h
      · obtain ⟨rfl, -⟩ := Prod.mk.inj (Except.ok.inj h)
        exact List.forall_mem_singleton.2 hfirst
      · split at h
        · cases h
        · split at h
          · cases h
          · rename_i items ts'' hitems
            obtain ⟨rfl, -⟩ := Prod.mk.inj (Except.ok.inj h)
            exact List.forall_mem_cons.2 ⟨hfirst, ih _ _ _ hitems⟩

theorem listUpTo_scalar (hi : Yields Tree.Scalar inner) (close : String) :
    Yields (fun ts => ∀ t ∈ ts, Tree.Scalar t) (listUpTo inner close) := by
  intro ts a rest h
  rw [listUpTo] at h
  split_ifs at h
  · obtain ⟨rfl, -⟩ := Prod.mk.inj (Except.ok.inj h)
    exact nofun
  · exact listTail_scalar hi close _ _ _ _ h

theorem suffixes_scalar (hi : Yields Tree.Scalar inner) (fuel : Nat) {left : Tree}
    (hl : left.Scalar) : Yields Tree.Scalar (suffixes inner fuel left) := by
  induction fuel generalizing left with
  | zero =>
    intro ts t rest h
    obtain ⟨rfl, -⟩ := Prod.mk.inj (Except.ok.inj h)
    exact hl
  | succ fuel ih =>
    intro ts t rest h
    rw [suffixes] at h
    split_ifs at h
    · dsimp only at h
      split_ifs at h
      · exact ih (hl.member _) _ _ _ h
      · cases h
    · split at h
      · cases h
      · rename_i key ts' hkey
        split at h
        · cases h
        · exact ih (hl.index (hi _ _ _ hkey)) _ _ _ h
    · split at h
      · cases h
      · rename_i arguments ts' hargs
        exact ih (hl.call (listUpTo_scalar hi ")" _ _ _ hargs)) _ _ _ h
    · obtain ⟨rfl, -⟩ := Prod.mk.inj (Except.ok.inj h)
      exact hl

theorem isThing_numeralValue {text : Text} {v : Value} (h : numeralValue text = .ok v) :
    v.isThing = false := by
  rw [numeralValue] at h
  split_ifs at h
  · obtain rfl := Except.ok.inj h
    rfl
  · cases hd : readDigits text.toList with
    | error f =>
      rw [hd] at h
      cases h
    | ok n =>
      rw [hd] at h
      obtain rfl := Except.ok.inj h
      rfl

theorem isThing_keywordValue {word : Text} {v : Value} (h : keywordValue? word = some v) :
    v.isThing = false := by
  rw [keywordValue?] at h
  split_ifs at h <;> (obtain rfl := Option.some.inj h; rfl)

theorem primary_scalar (hi : Yields Tree.Scalar inner) : Yields Tree.Scalar (primary inner) := by
  intro ts t rest h
  rw [primary] at h
  split at h
  · split at h
    · rename_i v hv
      obtain ⟨rfl, -⟩ := Prod.mk.inj (Except.ok.inj h)
      exact .literal (isThing_numeralValue hv)
    · cases h
  · obtain ⟨rfl, -⟩ := Prod.mk.inj (Except.ok.inj h)
    exact .literal rfl
  · split at h
    · rename_i v hv
      obtain ⟨rfl, -⟩ := Prod.mk.inj (Except.ok.inj h)
      exact .literal (isThing_keywordValue hv)
    · cases h
  · obtain ⟨rfl, -⟩ := Prod.mk.inj (Except.ok.inj h)
    exact .name _
  · split_ifs at h
    · split at h
      · cases h
      · rename_i e ts' he
        split at h
        · cases h
        · obtain ⟨rfl, -⟩ := Prod.mk.inj (Except.ok.inj h)
          exact hi _ _ _ he
    · split at h
      · cases h
      · rename_i items ts' hitems
        obtain ⟨rfl, -⟩ := Prod.mk.inj (Except.ok.inj h)
        exact .array (listUpTo_scalar hi "]" _ _ _ hitems)
    · cases h
  · cases h

/-- All trees that fit a budget have scalar literals, operands and whole expressions alike. -/
theorem conditional_scalar (budget : Nat) :
    Yields Tree.Scalar (conditional budget) ∧ Yields Tree.Scalar (unary budget) ∧
      Yields Tree.Scalar (enclosed budget) := by
  induction budget using Nat.strongRecOn with
  | ind budget ih =>
    have henclosed : Yields Tree.Scalar (enclosed budget) := by
      intro ts t rest h
      rw [enclosed.eq_def] at h
      split at h
      · exact (ih _ (by omega)).1 _ _ _ h
      · cases h
    cases budget with
    | zero =>
      refine ⟨fun ts t rest h => ?_, fun ts t rest h => ?_, henclosed⟩
      · rw [conditional] at h
        cases h
      · rw [unary] at h
        cases h
    | succ budget =>
      obtain ⟨hcond, hunary, hinner⟩ := ih budget (Nat.lt_succ_self budget)
      refine ⟨fun ts t rest h => ?_, fun ts t rest h => ?_, henclosed⟩
      · rw [conditional] at h
        split at h
        · cases h
        · rename_i test ts' htest
          have ht := ladder_scalar hunary _ _ _ htest
          split_ifs at h
          · split at h
            · cases h
            · rename_i yes ts'' hyes
              split at h
              · cases h
              · split at h
                · cases h
                · rename_i no ts₃ hno
                  obtain ⟨rfl, -⟩ := Prod.mk.inj (Except.ok.inj h)
                  exact ht.conditional (hcond _ _ _ hyes) (hcond _ _ _ hno)
          · obtain ⟨rfl, -⟩ := Prod.mk.inj (Except.ok.inj h)
            exact ht
      · rw [unary] at h
        split at h
        · split at h
          · cases h
          · rename_i operand ts' ho
            obtain ⟨rfl, -⟩ := Prod.mk.inj (Except.ok.inj h)
            exact .unary _ (hunary _ _ _ ho)
        · split at h
          · cases h
          · rename_i e ts' he
            exact suffixes_scalar hinner _ (primary_scalar hinner _ _ _ he) _ _ _ h

/-- Whether a tree is built of tokens, however deep brackets may nest. -/
def Tree.Parsed (t : Tree) : Prop := ∃ budget ts, parseTokens budget ts = .ok t

/-- The literals of a tree that was parsed are no things. -/
theorem Tree.Parsed.scalar {t : Tree} (h : t.Parsed) : t.Scalar := by
  obtain ⟨budget, ts, h⟩ := h
  rw [parseTokens] at h
  split_ifs at h
  · cases h
  · split at h
    · cases h
    · rename_i e rest he
      dsimp only at h
      split_ifs at h
      · obtain rfl := Except.ok.inj h
        exact (conditional_scalar budget).1 _ _ _ he
      · cases h

theorem parse_parsed {source : Text} {t : Tree} (h : parse source = .ok t) : t.Parsed := by
  rw [parse] at h
  split at h
  · cases h
  · exact ⟨_, _, h⟩

theorem parse_scalar {source : Text} {t : Tree} (h : parse source = .ok t) : t.Scalar :=
  (parse_parsed h).scalar

end RuleLedger.Expr
