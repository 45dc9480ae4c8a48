import Mathlib.Tactic.SplitIfs
import RuleLedger.Proofs.Except
import RuleLedger.Proofs.Expr.Grammar

/-! The parser of expressions with forms in the place of trees. Main statement: the tree that the
parser reads is that of the form which this one reads. -/
namespace RuleLedger.Expr

namespace Forms

/-- The operators of a level. -/
def level (n : Nat) : Level Form := fun t =>
  (binaryRule? t).bind fun r =>
    if r.level = n then some fun left right => .binary left t right else .none

/-- Forms of all levels of operators over the given operands. -/
def ladder (operand : Parse Form) : Parse Form :=
  atLevel (level 0) (atLevel (level 1) (atLevel (level 2) (atLevel (level 3) (atLevel (level 4)
    (atLevel (level 5) operand)))))

/-- Items up to a closing bracket; there is at least one. -/
def items (inner : Parse Form) (close : String) : (fuel : Nat) → Parse Form
  | 0, _ => .error .nesting
  | fuel + 1, ts =>
    match inner ts with
    | .error f => .error f
    | .ok (item, ts) =>
      if isOperator close (peek ts) then .ok (.last item (peek ts), ts.tail)
      else
        match expectOperator "," ts with
        | .error f => .error f
        | .ok ts' =>
          match items inner close fuel ts' with
          | .error f => .error f
          | .ok (rest, ts') => .ok (.more item (peek ts) rest, ts')

def arguments (inner : Parse Form) (close : String) : Parse Form := fun ts =>
  if isOperator close (peek ts) then .ok (.none (peek ts), ts.tail)
  else items inner close ts.length ts

/-- Members, indices and calls, added to the form on the left. -/
def suffixes (inner : Parse Form) : (fuel : Nat) → Form → Parse Form
  | 0, left, ts => .ok (left, ts)
  | fuel + 1, left, ts =>
    if isOperator "." (peek ts) then
      let t := peek ts.tail
      if t.kind == .name then suffixes inner fuel (.member left (peek ts) t) ts.tail.tail
      else refuse (expectedFault "ID" t)
    else if isOperator "[" (peek ts) then
      match inner ts.tail with
      | .error f => .error f
      | .ok (key, ts') =>
        match expectOperator "]" ts' with
        | .error f => .error f
        | .ok rest => suffixes inner fuel (.index left (peek ts) key (peek ts')) rest
    else if isOperator "(" (peek ts) then
      match arguments inner ")" ts.tail with
      | .error f => .error f
      | .ok (items, rest) => suffixes inner fuel (.call left (peek ts) items) rest
    else .ok (left, ts)

def primary (inner : Parse Form) : Parse Form := fun ts =>
  let t := peek ts
  match t.kind with
  | .number =>
    match numeralValue t.text with
    | .ok _ => .ok (.leaf t, ts.tail)
    | .error f => .error (.numeric f)
  | .string | .name => .ok (.leaf t, ts.tail)
  | .keyword =>
    match keywordValue? t.text with
    | some _ => .ok (.leaf t, ts.tail)
    | .none => refuse (unexpectedFault t)
  | .operator =>
    if t.text == "(" then
      match inner ts.tail with
      | .error f => .error f
      | .ok (f, ts') =>
        match expectOperator ")" ts' with
        | .error f => .error f
        | .ok rest => .ok (.group t f (peek ts'), rest)
    else if t.text == "[" then
      match arguments inner "]" ts.tail with
      | .error f => .error f
      | .ok (items, rest) => .ok (.array t items, rest)
    else refuse (unexpectedFault t)
  | .finish => refuse (unexpectedFault t)

/-- A primary with its members, indices and calls. -/
def suffixed (inner : Parse Form) : Parse Form := fun ts =>
  match primary inner ts with
  | .error f => .error f
  | .ok (f, rest) => suffixes inner rest.length f rest

mutual

def conditional : (budget : Nat) → Parse Form
  | 0, _ => .error .nesting
  | budget + 1, ts =>
    match ladder (unary budget) ts with
    | .error f => .error f
    | .ok (test, ts') =>
      if isOperator "?" (peek ts') then
        match conditional budget ts'.tail with
        | .error f => .error f
        | .ok (yes, ts'') =>
          match expectOperator ":" ts'' with
          | .error f => .error f
          | .ok rest =>
            match conditional budget rest with
            | .error f => .error f
            | .ok (no, rest) => .ok (.conditional test (peek ts') yes (peek ts'') no, rest)
      else .ok (test, ts')

def unary : (budget : Nat) → Parse Form
  | 0, _ => .error .nesting
  | budget + 1, ts =>
    match unaryRule? (peek ts) with
    | some _ =>
      match unary budget ts.tail with
      | .error f => .error f
      | .ok (operand, rest) => .ok (.unary (peek ts) operand, rest)
    | .none => suffixed (enclosed budget) ts

def enclosed : (budget : Nat) → Parse Form
  | budget + 8, ts => conditional budget ts
  | _, _ => .error .nesting

end

end Forms

/-! ### Operators of a level -/

/-- Where rules that fit one token are of one level, the first that fits decides for the level. -/
theorem find?_level {p : BinaryRule → Bool} (n : Nat) {rules : List BinaryRule}
    (h : ∀ r ∈ rules, ∀ r' ∈ rules, p r = true → p r' = true → r.level = r'.level) :
    ((rules.find? p).bind fun r => if r.level = n then some r.node else none) =
      ((rules.filter fun r => r.level = n).find? p).map BinaryRule.node := by
  induction rules with
  | nil => rfl
  | cons r rules ih =>
    have hrest := ih fun a ha b hb => h a (List.mem_cons_of_mem r ha) b (List.mem_cons_of_mem r hb)
    by_cases hp : p r = true
    · by_cases hn : r.level = n
      · simp [hp, hn]
      · have hnone : (rules.filter fun r => r.level = n).find? p = none := by
          refine List.find?_eq_none.2 fun a ha hpa => hn ?_
          obtain ⟨ha, hna⟩ := List.mem_filter.1 ha
          rw [h r List.mem_cons_self a (List.mem_cons_of_mem r ha) hp hpa]
          exact of_decide_eq_true hna
        simp [hp, hn, hnone]
    · by_cases hn : r.level = n <;> simp [hp, hn, hrest]

/-- The trees that the operators of a level build. -/
def treeLevel (n : Nat) : Level Tree := fun t =>
  (binaryRule? t).bind fun r => if r.level = n then some r.node else none

theorem treeLevel_eq (n : Nat) (t : Token) :
    treeLevel n t = ((binaryRules.filter fun r => r.level = n).find? fun r =>
      t.kind == r.kind && t.text == r.symbol).map BinaryRule.node := by
  have hrules : ∀ r ∈ binaryRules, ∀ r' ∈ binaryRules, r.kind = r'.kind →
      (r.symbol : Text) = r'.symbol → r.level = r'.level := by
    simp only [Text.ofString_inj]
    decide
  refine find?_level n fun r hr r' hr' h h' => ?_
  rw [Bool.and_eq_true, beq_iff_eq, beq_iff_eq] at h h'
  exact hrules r hr r' hr' (h.1.symm.trans h'.1) (h.2.symm.trans h'.2)

theorem logicalLevel_eq {n : Nat} {op : LogicalOp} {word : String}
    (h : (binaryRules.filter fun r => r.level = n) =
      [⟨n, .operator, op.symbol, .logical op⟩, ⟨n, .keyword, word, .logical op⟩]) :
    logicalLevel op word = treeLevel n := by
  funext t
  rw [treeLevel_eq, h, logicalLevel, isOperator, isKeyword]
  cases hsymbol : t.kind == .operator && t.text == op.symbol <;>
    cases hword : t.kind == .keyword && t.text == word <;> simp [hsymbol, hword]

theorem binaryLevel_eq {n : Nat} {ops : List BinaryOp}
    (h : (binaryRules.filter fun r => r.level = n) =
      ops.map fun op => ⟨n, .operator, op.symbol, .binary op⟩) :
    binaryLevel ops = treeLevel n := by
  funext t
  rw [treeLevel_eq, h, List.find?_map, Option.map_map, binaryLevel]
  cases hkind : t.kind == .operator
  · have hnone : ops.find? (fun _ => false) = none := List.find?_eq_none.2 fun _ _ => nofun
    simp [Function.comp_def, hkind, hnone]
  · have hcomm (op : BinaryOp) : (Text.ofString op.symbol == t.text) = (t.text == op.symbol) :=
      BEq.comm
    simp [Function.comp_def, hkind, hcomm]

theorem levels_eq : levels = [treeLevel 0, treeLevel 1, treeLevel 2, treeLevel 3, treeLevel 4,
    treeLevel 5] := by
  rw [levels, logicalLevel_eq (n := 0) rfl, logicalLevel_eq (n := 1) rfl,
    binaryLevel_eq (n := 2) rfl, binaryLevel_eq (n := 3) rfl, binaryLevel_eq (n := 4) rfl,
    binaryLevel_eq (n := 5) rfl]

theorem unaryOp?_eq (t : Token) : unaryOp? t = unaryRule? t := by
  obtain ⟨kind, text, offset⟩ := t
  have hcomm (s : String) : ((s : Text) == text) = (text == s) := BEq.comm
  cases kind with
  | operator =>
    cases hnot : text == Text.ofString "!" <;> cases hminus : text == Text.ofString "-" <;>
      cases hplus : text == Text.ofString "+" <;>
      simp [unaryOp?, unaryRule?, unaryRules, UnaryOp.symbol, hcomm, hnot, hminus, hplus]
  | keyword =>
    cases hnot : text == Text.ofString "not" <;>
      simp [unaryOp?, unaryRule?, unaryRules, isKeyword, hnot]
  | _ => rfl

/-! ### Trees of forms -/

/-- The tree parser reads the trees of the forms that the form parser reads. -/
def Mirrors (p : Parse Form) (q : Parse Tree) : Prop :=
  ∀ ts, q ts = (p ts).map fun r => (r.1.tree, r.2)

section Mirror

variable {p : Parse Form} {q : Parse Tree}

theorem chain_mirrors (h : Mirrors p q) (n fuel : Nat) (left : Form) (ts : List Token) :
    chain (treeLevel n) q fuel left.tree ts =
      (chain (Forms.level n) p fuel left ts).map fun r => (r.1.tree, r.2) := by
  induction fuel generalizing left ts with
  | zero => rfl
  | succ fuel ih =>
    rw [chain, chain, treeLevel, Forms.level]
    cases hr : binaryRule? (peek ts) with
    | none => rfl
    | some r =>
      rw [Option.bind_some, Option.bind_some]
      split_ifs
      · dsimp only
        rw [h]
        cases p ts.tail with
        | error f => rfl
        | ok r' =>
          have hnode : r.node left.tree r'.1.tree =
              (Form.binary left (peek ts) r'.1).tree := by rw [Form.tree, hr]; rfl
          dsimp only [Except.map]
          rw [hnode]
          exact ih _ _
      · rfl

theorem atLevel_mirrors (h : Mirrors p q) (n : Nat) :
    Mirrors (atLevel (Forms.level n) p) (atLevel (treeLevel n) q) := by
  intro ts
  rw [atLevel, atLevel, h]
  cases p ts with
  | error f => rfl
  | ok r => exact chain_mirrors h n _ _ _

theorem ladder_mirrors (h : Mirrors p q) : Mirrors (Forms.ladder p) (ladder q) := by
  rw [ladder, levels_eq]
  exact atLevel_mirrors (atLevel_mirrors (atLevel_mirrors (atLevel_mirrors (atLevel_mirrors
    (atLevel_mirrors h 5) 4) 3) 2) 1) 0

theorem items_mirrors (h : Mirrors p q) (close : String) (fuel : Nat) (ts : List Token) :
    listTail q close fuel ts =
      (Forms.items p close fuel ts).map fun r => (r.1.tree.items, r.2) := by
  induction fuel generalizing ts with
  | zero => rfl
  | succ fuel ih =>
    rw [listTail, Forms.items, h]
    cases p ts with
    | error f => rfl
    | ok r =>
      change (if isOperator close (peek r.2) then _ else _) = Except.map _
        (if isOperator close (peek r.2) then _ else _)
      split_ifs
      · rfl
      · cases expectOperator "," r.2 with
        | error f => rfl
        | ok ts' =>
          dsimp only
          rw [ih]
          cases Forms.items p close fuel ts' <;> rfl

theorem arguments_mirrors (h : Mirrors p q) (close : String) (ts : List Token) :
    listUpTo q close ts =
      (Forms.arguments p close ts).map fun r => (r.1.tree.items, r.2) := by
  rw [listUpTo, Forms.arguments]
  split_ifs
  · rfl
  · exact items_mirrors h close _ ts

theorem suffixes_mirrors (h : Mirrors p q) (fuel : Nat) (left : Form) (ts : List Token) :
    suffixes q fuel left.tree ts =
      (Forms.suffixes p fuel left ts).map fun r => (r.1.tree, r.2) := by
  induction fuel generalizing left ts with
  | zero => rfl
  | succ fuel ih =>
    rw [suffixes, Forms.suffixes]
    dsimp only
    split_ifs
    · exact ih (.member left (peek ts) (peek ts.tail)) _
    · rfl
    · rw [h]
      cases p ts.tail with
      | error f => rfl
      | ok r =>
        change (match expectOperator "]" r.2 with | .error f => _ | .ok rest => _) = Except.map _
          (match expectOperator "]" r.2 with | .error f => _ | .ok rest => _)
        cases expectOperator "]" r.2 with
        | error f => rfl
        | ok rest => exact ih (.index left (peek ts) r.1 (peek r.2)) rest
    · rw [arguments_mirrors h]
      cases Forms.arguments p ")" ts.tail with
      | error f => rfl
      | ok r => exact ih (.call left (peek ts) r.1) r.2
    · rfl

theorem primary_mirrors (h : Mirrors p q) : Mirrors (Forms.primary p) (primary q) := by
  intro ts
  rw [primary, Forms.primary]
  cases hkind : (peek ts).kind with
  | number =>
    dsimp only
    cases hv : numeralValue (peek ts).text with
    | error f => rfl
    | ok v => simp [Except.map, Form.tree, leaf?, hkind, hv, Except.toOption]
  | string => simp [Except.map, Form.tree, leaf?, hkind]
  | name => simp [Except.map, Form.tree, leaf?, hkind]
  | keyword =>
    dsimp only
    cases hv : keywordValue? (peek ts).text with
    | none => rfl
    | some v => simp [Except.map, Form.tree, leaf?, hkind, hv]
  | operator =>
    dsimp only
    split_ifs
    · rw [h]
      cases p ts.tail with
      | error f => rfl
      | ok r =>
        dsimp only [Except.map]
        cases expectOperator ")" r.2 <;> rfl
    · rw [arguments_mirrors h]
      cases Forms.arguments p "]" ts.tail <;> rfl
    · rfl
  | finish => rfl

/-- The parsers of expressions, operands and enclosed expressions, at every budget. -/
theorem parsers_mirror (budget : Nat) :
    Mirrors (Forms.conditional budget) (conditional budget) ∧
      Mirrors (Forms.unary budget) (unary budget) ∧
      Mirrors (Forms.enclosed budget) (enclosed budget) := by
  induction budget using Nat.strongRecOn with
  | _ budget ih =>
  have henclosed : Mirrors (Forms.enclosed budget) (enclosed budget) := by
    intro ts
    match budget with
    | 0 | 1 | 2 | 3 | 4 | 5 | 6 | 7 => rfl
    | budget + 8 => exact (ih budget (by omega)).1 ts
  cases budget with
  | zero => exact ⟨fun _ => rfl, fun _ => rfl, henclosed⟩
  | succ budget =>
    obtain ⟨hconditional, hunary, hinner⟩ := ih budget (Nat.lt_succ_self budget)
    refine ⟨fun ts => ?_, fun ts => ?_, henclosed⟩
    · rw [conditional, Forms.conditional, ladder_mirrors hunary]
      cases Forms.ladder (Forms.unary budget) ts with
      | error f => rfl
      | ok r =>
        dsimp only [Except.map]
        split_ifs
        · rw [hconditional]
          cases Forms.conditional budget r.2.tail with
          | error f => rfl
          | ok yes =>
            dsimp only [Except.map]
            cases expectOperator ":" yes.2 with
            | error f => rfl
            | ok ts' =>
              dsimp only
              rw [hconditional]
              cases Forms.conditional budget ts' <;> rfl
        · rfl
    · rw [unary, Forms.unary, unaryOp?_eq]
      cases ho : unaryRule? (peek ts) with
      | some op =>
        dsimp only
        rw [hunary]
        cases Forms.unary budget ts.tail with
        | error f => rfl
        | ok r => simp [Except.map, Form.tree, ho]
      | none =>
        dsimp only
        rw [Forms.suffixed, primary_mirrors hinner]
        cases Forms.primary (Forms.enclosed budget) ts with
        | error f => rfl
        | ok r => exact suffixes_mirrors hinner _ _ _

end Mirror

end RuleLedger.Expr
