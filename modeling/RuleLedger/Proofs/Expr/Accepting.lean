import RuleLedger.Proofs.Expr.Reading

/-! What the grammar derives is read: where its budget suffices, the parser of expressions reads
each form up to a token that does not go on with it. So no tokens are those of two expressions. -/
namespace RuleLedger.Expr

variable {p : Parse Form} {rest : List Token} {f : Form} {n : Nat} {close : String}

/-! ### The token behind a form -/

def isSuffix (t : Token) : Bool := isOperator "." t || isOperator "[" t || isOperator "(" t

/-- Whether a token goes on with a phrase that could end before it. -/
def continues : Phrase → Token → Bool
  | .expression, t => isSuffix t || (binaryRule? t).isSome || isOperator "?" t
  | .level n, t => isSuffix t || (binaryRule? t).any fun r => n ≤ r.level
  | .operand, t | .suffixed, t => isSuffix t
  | _, _ => false

/-- Whether a parser reads every form of a kind, up to a number of tokens. -/
def Accepts (n : Nat) (p : Parse Form) (φ : Phrase) : Prop :=
  ∀ f rest, f.Derives φ → f.tokens.length ≤ n → continues φ (peek rest) = false →
    p (f.tokens ++ rest) = .ok (f, rest)

theorem symbol_of_binaryRule? {t : Token} {r : BinaryRule} {s : String}
    (h : binaryRule? t = some r) (hs : isOperator s t = true) : (r.symbol : Text) = s := by
  have hr := List.find?_some h
  rw [Bool.and_eq_true, beq_iff_eq, beq_iff_eq] at hr
  rw [isOperator, Bool.and_eq_true, beq_iff_eq, beq_iff_eq] at hs
  exact hr.2.symm.trans hs.2

theorem isOperator_ne {t : Token} {s s' : String} (h : isOperator s t = true)
    (hne : (s : Text) ≠ s') : isOperator s' t = false := by
  rw [isOperator, Bool.and_eq_true, beq_iff_eq, beq_iff_eq] at h
  rw [isOperator, h.1, h.2]
  simpa using hne

/-- No binary operator starts a suffix or the second part of a conditional. -/
theorem not_isOperator_of_binaryRule? {t : Token} {r : BinaryRule} (h : binaryRule? t = some r) :
    isSuffix t = false ∧ isOperator "?" t = false := by
  have hsymbols : ∀ r ∈ binaryRules, ∀ s ∈ [".", "[", "(", "?"], (r.symbol : Text) ≠ s := by
    simp [binaryRules]
  have hfalse (s : String) (hs : s ∈ [".", "[", "(", "?"]) : isOperator s t = false := by
    rw [Bool.eq_false_iff]
    exact fun ht => hsymbols r (List.mem_of_find?_eq_some h) s hs (symbol_of_binaryRule? h ht)
  refine ⟨?_, hfalse "?" (by simp)⟩
  rw [isSuffix, hfalse "." (by simp), hfalse "[" (by simp), hfalse "(" (by simp)]
  rfl

/-- The marks that end an expression. -/
theorem continues_of_isOperator {t : Token} {s : String} (h : isOperator s t = true)
    (hs : s ∈ [")", "]", ",", ":"]) : continues .expression t = false := by
  have hsymbols : ∀ r ∈ binaryRules, ∀ s ∈ [")", "]", ",", ":"], (r.symbol : Text) ≠ s := by
    simp [binaryRules]
  have hne : ∀ s ∈ [")", "]", ",", ":"], ∀ s' ∈ [".", "[", "(", "?"], (s : Text) ≠ s' := by
    simp
  have hfalse (s' : String) (hs' : s' ∈ [".", "[", "(", "?"]) : isOperator s' t = false :=
    isOperator_ne h (hne s hs s' hs')
  have hnone : binaryRule? t = none := by
    rw [Option.eq_none_iff_forall_ne_some]
    exact fun r hr => hsymbols r (List.mem_of_find?_eq_some hr) s hs (symbol_of_binaryRule? hr h)
  rw [continues, isSuffix, hnone, hfalse "." (by simp), hfalse "[" (by simp),
    hfalse "(" (by simp), hfalse "?" (by simp)]
  rfl

/-! ### Levels of operators -/

theorem chain_stop {k : Nat} (h : Forms.level k (peek rest) = none) (fuel : Nat) (f : Form) :
    chain (Forms.level k) p fuel f rest = .ok (f, rest) := by
  cases fuel with
  | zero => rfl
  | succ fuel => rw [chain, h]

theorem Form.Derives.level_cases {k : Nat} (h : f.Derives (.level k)) (hk : k < levelCount) :
    f.Derives (.level (k + 1)) ∨ ∃ left op right r, f = .binary left op right ∧
      left.Derives (.level k) ∧ binaryRule? op = some r ∧ r.level = k ∧
      right.Derives (.level (k + 1)) := by
  cases h with
  | binary hl hr hright => exact .inr ⟨_, _, _, _, rfl, hl, hr, rfl, hright⟩
  | level _ h => exact .inl h
  | operand _ => exact absurd hk (Nat.lt_irrefl _)

theorem Form.Derives.operand_of_level {k : Nat} (h : f.Derives (.level k)) (hk : k = levelCount) :
    f.Derives .operand := by
  have hlevels : ∀ r ∈ binaryRules, r.level ≠ levelCount := by decide
  cases h with
  | binary _ hr _ => exact absurd hk (hlevels _ (List.mem_of_find?_eq_some hr))
  | level hlt _ => exact absurd hk (Nat.ne_of_lt hlt)
  | operand h => exact h

/-- The operators of a form of one level are read from the left. -/
theorem atLevel_spine {k : Nat} (h : Accepts n p (.level (k + 1))) (hk : k < levelCount)
    (hf : f.Derives (.level k)) (hn : f.tokens.length ≤ n)
    (hrest : continues (.level (k + 1)) (peek rest) = false) :
    ∃ fuel, rest.length ≤ fuel ∧
      atLevel (Forms.level k) p (f.tokens ++ rest) = chain (Forms.level k) p fuel f rest := by
  have hbase {f : Form} (hf : f.Derives (.level (k + 1))) (hn : f.tokens.length ≤ n)
      {rest : List Token} (hrest : continues (.level (k + 1)) (peek rest) = false) :
      ∃ fuel, rest.length ≤ fuel ∧
        atLevel (Forms.level k) p (f.tokens ++ rest) = chain (Forms.level k) p fuel f rest :=
    ⟨rest.length, Nat.le_refl _, by rw [atLevel, h f rest hf hn hrest]⟩
  induction f generalizing rest with
  | binary left op right ih =>
    obtain hup | ⟨_, _, _, r, he, hl, hr, rfl, hright⟩ := hf.level_cases hk
    · exact hbase hup hn hrest
    · obtain ⟨rfl, rfl, rfl⟩ := Form.binary.inj he
      rw [Form.tokens, List.length_append, List.length_cons] at hn
      have hop :
          continues (.level (r.level + 1)) (peek (op :: (right.tokens ++ rest))) = false := by
        rw [peek, List.headD_cons, continues, (not_isOperator_of_binaryRule? hr).1, hr]
        simp
      obtain ⟨fuel, hfuel, hchain⟩ := ih hl (by omega) hop
      rw [List.length_cons, List.length_append] at hfuel
      obtain ⟨fuel, rfl⟩ : ∃ m, fuel = m + 1 := ⟨fuel - 1, by omega⟩
      refine ⟨fuel, by omega, ?_⟩
      have hlevel : Forms.level r.level (peek (op :: (right.tokens ++ rest))) =
          some fun left right => .binary left op right := by
        change (binaryRule? op).bind _ = _
        rw [hr, Option.bind_some, if_pos rfl]
        rfl
      rw [Form.tokens, List.append_assoc, List.cons_append, hchain, chain, hlevel]
      dsimp only
      rw [List.tail_cons, h right rest hright (by omega) hrest]
  | _ =>
    obtain hup | ⟨_, _, _, _, he, -⟩ := hf.level_cases hk
    · exact hbase hup hn hrest
    · cases he

theorem atLevel_accepts {k : Nat} (hk : k < levelCount) (h : Accepts n p (.level (k + 1))) :
    Accepts n (atLevel (Forms.level k) p) (.level k) := by
  intro f rest hf hn hrest
  rw [continues, Bool.or_eq_false_iff] at hrest
  obtain ⟨hsuffix, hany⟩ := hrest
  have hup : continues (.level (k + 1)) (peek rest) = false := by
    rw [continues, hsuffix]
    cases hr : binaryRule? (peek rest) with
    | none => rfl
    | some r =>
      rw [hr] at hany
      simp at hany ⊢
      omega
  have hstop : Forms.level k (peek rest) = none := by
    rw [Forms.level]
    cases hr : binaryRule? (peek rest) with
    | none => rfl
    | some r =>
      rw [hr] at hany
      simp at hany ⊢
      omega
  obtain ⟨fuel, -, hchain⟩ := atLevel_spine h hk hf hn hup
  rw [hchain, chain_stop hstop]

theorem ladder_accepts (h : Accepts n p .operand) : Accepts n (Forms.ladder p) (.level 0) := by
  have hbase : Accepts n p (.level levelCount) := by
    intro f rest hf hn hrest
    rw [continues, Bool.or_eq_false_iff] at hrest
    exact h f rest (hf.operand_of_level rfl) hn hrest.1
  have hlevel (k : Nat) (hk : k < levelCount) {q : Parse Form} (hq : Accepts n q (.level (k + 1))) :
      Accepts n (atLevel (Forms.level k) q) (.level k) := atLevel_accepts hk hq
  exact hlevel 0 (by decide) (hlevel 1 (by decide) (hlevel 2 (by decide) (hlevel 3 (by decide)
    (hlevel 4 (by decide) (hlevel 5 (by decide) hbase)))))

/-! ### The first token -/

/-- Whether a token can start a phrase. -/
def starts : Phrase → Token → Bool
  | .suffixed, t | .primary, t => (leaf? t).isSome || isOperator "(" t || isOperator "[" t
  | .arguments _, _ => true
  | .expression, t | .level _, t | .operand, t | .items _, t =>
    (leaf? t).isSome || isOperator "(" t || isOperator "[" t || (unaryRule? t).isSome

theorem Form.Derives.starts_peek {φ : Phrase} (h : f.Derives φ) (rest : List Token) :
    starts φ (peek (f.tokens ++ rest)) = true := by
  have hunary {t : Token} {φ : Phrase} (ht : starts .suffixed t = true) :
      starts φ t = true := by
    cases φ <;> simp_all [starts]
  induction h generalizing rest with
  | conditional _ _ _ _ _ ih | binary _ _ _ ih | member _ _ _ ih | index _ _ _ _ ih
  | call _ _ _ ih | more _ _ _ ih | last _ _ ih =>
    rw [Form.tokens, List.append_assoc]
    exact ih _
  | expression _ ih | level _ _ ih | operand _ ih | primary _ ih => exact ih rest
  | suffixed _ ih => exact hunary (ih rest)
  | unary hop => simp [starts, Form.tokens, peek, hop]
  | leaf ht => simp [starts, Form.tokens, peek, ht]
  | group hopen => simp [starts, Form.tokens, peek, hopen]
  | array hopen => simp [starts, Form.tokens, peek, hopen]
  | none | arguments => rfl

/-- No closing bracket starts an expression. -/
theorem starts_of_isOperator {t : Token} (h : isOperator close t = true)
    (hclose : close ∈ [")", "]"]) : starts .expression t = false := by
  have hne : ∀ s ∈ [")", "]"], ∀ s' ∈ ["(", "["], (s : Text) ≠ s' := by simp
  have hunary : ∀ s ∈ [")", "]"], ∀ r ∈ unaryRules, (r.2.1 : Text) ≠ s := by simp [unaryRules]
  have hnone : unaryRule? t = none := by
    rw [unaryRule?, Option.map_eq_none_iff, List.find?_eq_none]
    intro r hr ht
    rw [Bool.and_eq_true, beq_iff_eq, beq_iff_eq] at ht
    rw [isOperator, Bool.and_eq_true, beq_iff_eq, beq_iff_eq] at h
    exact hunary close hclose r hr (ht.2.symm.trans h.2)
  have hleaf : leaf? t = none := by rw [leaf?, kind_of_isOperator h]
  rw [starts, hleaf, hnone, isOperator_ne h (hne close hclose "(" (by simp)),
    isOperator_ne h (hne close hclose "[" (by simp))]
  rfl

/-- No operator that stands before its operand starts a primary. -/
theorem unaryRule?_of_starts {t : Token} (h : starts .suffixed t = true) :
    unaryRule? t = none := by
  have hoperators : ∀ r ∈ unaryRules, r.1 = .operator →
      (r.2.1 : Text) ≠ "(" ∧ (r.2.1 : Text) ≠ "[" := by simp [unaryRules]
  have hkeywords : ∀ r ∈ unaryRules, r.1 ≠ .operator →
      r.1 = .keyword ∧ keywordValue? r.2.1 = none := by
    simp [unaryRules, keywordValue?]
  rw [unaryRule?, Option.map_eq_none_iff, List.find?_eq_none]
  intro r hr ht
  rw [Bool.and_eq_true, beq_iff_eq, beq_iff_eq] at ht
  by_cases hr' : r.1 = .operator
  · obtain ⟨hgroup, harray⟩ := hoperators r hr hr'
    rw [starts, leaf?, isOperator, isOperator, ht.1, ht.2, hr'] at h
    simp [hgroup, harray] at h
  · obtain ⟨hkeyword, hvalue⟩ := hkeywords r hr hr'
    rw [starts, leaf?, isOperator, isOperator, ht.1, ht.2, hkeyword] at h
    simp [hvalue] at h

theorem Form.tokens_length_pos (f : Form) : 0 < f.tokens.length := by
  cases f <;> simp only [Form.tokens, List.length_append, List.length_cons] <;> omega

/-! ### Operands and expressions are read -/

theorem expectOperator_cons {s : String} {t : Token} (h : isOperator s t = true)
    (ts : List Token) : expectOperator s (t :: ts) = .ok ts := by
  rw [expectOperator, peek, List.headD_cons, if_pos h, List.tail_cons]

theorem suffixes_stop (hrest : isSuffix (peek rest) = false) (fuel : Nat) (f : Form) :
    Forms.suffixes p fuel f rest = .ok (f, rest) := by
  cases fuel with
  | zero => rfl
  | succ fuel =>
    simp only [isSuffix, Bool.or_eq_false_iff] at hrest
    rw [Forms.suffixes, hrest.1.1, hrest.1.2, hrest.2]
    rfl

section Brackets

variable (h : Accepts n p .expression) (hclose : close ∈ [")", "]"])
include h

theorem Accepts.before {s : String} {t : Token} (hf : f.Derives .expression)
    (hn : f.tokens.length ≤ n) (ht : isOperator s t = true) (hs : s ∈ [")", "]", ",", ":"])
    (ts : List Token) : p (f.tokens ++ t :: ts) = .ok (f, t :: ts) :=
  h f (t :: ts) hf hn (continues_of_isOperator ht hs)

include hclose

theorem items_accepts {fuel : Nat} (hf : f.Derives (.items close))
    (hfuel : f.tokens.length ≤ fuel) (hn : f.tokens.length ≤ n + 1) :
    Forms.items p close fuel (f.tokens ++ rest) = .ok (f, rest) := by
  have hends : ∀ s ∈ [")", "]"], s ∈ [")", "]", ",", ":"] := by decide
  have hcommas : ∀ s ∈ [")", "]"], Text.ofString "," ≠ s := by simp
  induction fuel generalizing f with
  | zero => exact absurd f.tokens_length_pos (by omega)
  | succ fuel ih =>
    rw [Forms.items]
    cases hf with
    | @last _ item closing hitem hc =>
      rw [Form.tokens, List.length_append, List.length_singleton] at hn
      rw [Form.tokens, List.append_assoc, List.singleton_append,
        h.before hitem (by omega) hc (hends close hclose)]
      dsimp only
      rw [peek, List.headD_cons, if_pos hc, List.tail_cons]
    | @more _ item more comma hitem hcomma hmore =>
      have hnot : isOperator close comma = false := isOperator_ne hcomma (hcommas close hclose)
      rw [Form.tokens, List.length_append, List.length_cons] at hn hfuel
      rw [Form.tokens, List.append_assoc, List.cons_append,
        h.before hitem (by omega) hcomma (by simp)]
      dsimp only
      rw [peek, List.headD_cons, hnot, if_neg Bool.false_ne_true, expectOperator_cons hcomma]
      dsimp only
      rw [ih hmore (by omega) (by omega)]

theorem arguments_accepts (hf : f.Derives (.arguments close)) (hn : f.tokens.length ≤ n + 1) :
    Forms.arguments p close (f.tokens ++ rest) = .ok (f, rest) := by
  rw [Forms.arguments]
  cases hf with
  | @none _ closing hc => exact if_pos hc
  | arguments hf =>
    have hnot : isOperator close (peek (f.tokens ++ rest)) = false := by
      rw [Bool.eq_false_iff]
      intro hc
      exact Bool.false_ne_true ((starts_of_isOperator hc hclose).symm.trans (hf.starts_peek rest))
    rw [hnot, if_neg Bool.false_ne_true]
    exact items_accepts h hclose hf (by simp) hn

omit hclose

theorem primary_accepts : Accepts (n + 1) (Forms.primary p) .primary := by
  intro f rest hf hn _
  rw [Forms.primary]
  cases hf with
  | @leaf t ht =>
    have hpeek : peek ((Form.leaf t).tokens ++ rest) = t := rfl
    have htail : ((Form.leaf t).tokens ++ rest).tail = rest := rfl
    rw [hpeek, htail]
    rw [leaf?] at ht
    cases hkind : t.kind with
    | number =>
      rw [hkind] at ht
      dsimp only at ht ⊢
      cases hv : numeralValue t.text with
      | ok v => rfl
      | error f => simp [hv, Except.toOption] at ht
    | keyword =>
      rw [hkind] at ht
      dsimp only at ht ⊢
      cases hv : keywordValue? t.text with
      | some v => rfl
      | none => simp [hv] at ht
    | string | name => rfl
    | operator | finish => simp [hkind] at ht
  | @group f opening closing hopen hf hc =>
    rw [Form.tokens, List.length_cons, List.length_append, List.length_singleton] at hn
    rw [Form.tokens, List.cons_append, List.append_assoc, List.singleton_append, peek,
      List.headD_cons, List.tail_cons, kind_of_isOperator hopen]
    dsimp only
    rw [isOperator, Bool.and_eq_true] at hopen
    rw [if_pos hopen.2, h.before hf (by omega) hc (by simp)]
    dsimp only
    rw [expectOperator_cons hc]
    rfl
  | @array items opening hopen hitems =>
    have hgroup : isOperator "(" opening = false := isOperator_ne hopen (by simp)
    rw [Form.tokens, List.length_cons] at hn
    rw [Form.tokens, List.cons_append, peek, List.headD_cons, List.tail_cons,
      kind_of_isOperator hopen]
    dsimp only
    rw [isOperator, kind_of_isOperator hopen] at hgroup
    rw [isOperator, Bool.and_eq_true] at hopen
    rw [if_neg (by simpa using hgroup), if_pos hopen.2,
      arguments_accepts h (by simp) hitems (by omega)]

/-- Members, indices and calls of a form are read from the left. -/
theorem suffixed_spine (hf : f.Derives .suffixed) (hn : f.tokens.length ≤ n + 1)
    (rest : List Token) : ∃ fuel, rest.length ≤ fuel ∧
      Forms.suffixed p (f.tokens ++ rest) = Forms.suffixes p fuel f rest := by
  have hbase {f : Form} (hf : f.Derives .primary) (hn : f.tokens.length ≤ n + 1)
      (rest : List Token) : ∃ fuel, rest.length ≤ fuel ∧
        Forms.suffixed p (f.tokens ++ rest) = Forms.suffixes p fuel f rest :=
    ⟨rest.length, Nat.le_refl _, by rw [Forms.suffixed, primary_accepts h f rest hf hn rfl]⟩
  induction f generalizing rest with
  | member f dot name ih =>
    cases hf with
    | primary hf => exact hbase hf hn rest
    | member hf hdot hname =>
      rw [Form.tokens, List.length_append] at hn
      obtain ⟨fuel, hfuel, hf⟩ := ih hf (by omega) (dot :: name :: rest)
      rw [List.length_cons, List.length_cons] at hfuel
      obtain ⟨fuel, rfl⟩ : ∃ m, fuel = m + 1 := ⟨fuel - 1, by omega⟩
      refine ⟨fuel, by omega, ?_⟩
      rw [Form.tokens, List.append_assoc, List.cons_append, List.singleton_append, hf,
        Forms.suffixes, peek, List.headD_cons, if_pos hdot]
      exact if_pos (beq_iff_eq.2 hname)
  | index f opening key closing ih _ =>
    cases hf with
    | primary hf => exact hbase hf hn rest
    | index hf hopen hkey hc =>
      have hdot : isOperator "." opening = false := isOperator_ne hopen (by simp)
      have hpos := f.tokens_length_pos
      rw [Form.tokens, List.length_append, List.length_cons, List.length_append,
        List.length_singleton] at hn
      obtain ⟨fuel, hfuel, hf⟩ :=
        ih hf (by omega) (opening :: (key.tokens ++ closing :: rest))
      rw [List.length_cons, List.length_append, List.length_cons] at hfuel
      obtain ⟨fuel, rfl⟩ : ∃ m, fuel = m + 1 := ⟨fuel - 1, by omega⟩
      refine ⟨fuel, by omega, ?_⟩
      rw [Form.tokens, List.append_assoc, List.cons_append, List.append_assoc,
        List.singleton_append, hf, Forms.suffixes, peek, List.headD_cons, hdot,
        if_neg Bool.false_ne_true, if_pos hopen, List.tail_cons,
        h.before hkey (by omega) hc (by simp)]
      dsimp only
      rw [expectOperator_cons hc]
      rfl
  | call f opening arguments ih _ =>
    cases hf with
    | primary hf => exact hbase hf hn rest
    | call hf hopen harguments =>
      have hdot : isOperator "." opening = false := isOperator_ne hopen (by simp)
      have hindex : isOperator "[" opening = false := isOperator_ne hopen (by simp)
      have hpos := f.tokens_length_pos
      rw [Form.tokens, List.length_append, List.length_cons] at hn
      obtain ⟨fuel, hfuel, hf⟩ := ih hf (by omega) (opening :: (arguments.tokens ++ rest))
      rw [List.length_cons, List.length_append] at hfuel
      obtain ⟨fuel, rfl⟩ : ∃ m, fuel = m + 1 := ⟨fuel - 1, by omega⟩
      refine ⟨fuel, by omega, ?_⟩
      rw [Form.tokens, List.append_assoc, List.cons_append, hf, Forms.suffixes, peek,
        List.headD_cons, hdot, if_neg Bool.false_ne_true, hindex, if_neg Bool.false_ne_true,
        if_pos hopen, List.tail_cons, arguments_accepts h (by simp) harguments (by omega)]
  | _ =>
    cases hf with
    | primary hf => exact hbase hf hn rest

theorem suffixed_accepts : Accepts (n + 1) (Forms.suffixed p) .suffixed := by
  intro f rest hf hn hrest
  obtain ⟨fuel, -, hf⟩ := suffixed_spine h hf hn rest
  rw [hf, suffixes_stop hrest]

end Brackets

/-- The parsers of operands and expressions read all forms of up to `n` tokens, when the budget
allows ten steps for each of them. -/
theorem parsers_accept (n : Nat) :
    (∀ budget, 10 * n + 1 ≤ budget → Accepts n (Forms.unary budget) .operand) ∧
      ∀ budget, 10 * n + 2 ≤ budget → Accepts n (Forms.conditional budget) .expression := by
  induction n with
  | zero =>
    have hnone (p : Parse Form) (φ : Phrase) : Accepts 0 p φ := fun f _ _ hn =>
      absurd f.tokens_length_pos (by omega)
    exact ⟨fun _ _ => hnone _ _, fun _ _ => hnone _ _⟩
  | succ n ih =>
  have hunary : ∀ budget, 10 * (n + 1) + 1 ≤ budget →
      Accepts (n + 1) (Forms.unary budget) .operand := by
    intro budget hb f rest hf hn hrest
    obtain ⟨budget, rfl⟩ : ∃ b, budget = b + 8 + 1 := ⟨budget - 9, by omega⟩
    rw [Forms.unary]
    cases hf with
    | @unary f op hop hf =>
      obtain ⟨o, ho⟩ := Option.isSome_iff_exists.1 hop
      rw [Form.tokens, List.length_cons] at hn
      rw [Form.tokens, List.cons_append, peek, List.headD_cons, ho, List.tail_cons]
      dsimp only
      rw [ih.1 (budget + 8) (by omega) f rest hf (by omega) hrest]
    | suffixed hf =>
      rw [unaryRule?_of_starts (hf.starts_peek rest)]
      exact suffixed_accepts (p := Forms.enclosed (budget + 8)) (ih.2 budget (by omega)) f rest hf
        hn hrest
  refine ⟨hunary, fun budget hb f rest hf hn hrest => ?_⟩
  obtain ⟨budget, rfl⟩ : ∃ b, budget = b + 1 := ⟨budget - 1, by omega⟩
  have hladder := ladder_accepts (hunary budget (by omega))
  rw [Forms.conditional]
  cases hf with
  | @conditional test yes no mark colon ht hmark hy hcolon hno =>
    have hstop : continues (.level 0) mark = false := by
      have hne : ∀ s ∈ [".", "[", "("], Text.ofString "?" ≠ s := by simp
      have hnone : binaryRule? mark = none := Option.eq_none_iff_forall_ne_some.2 fun r hr =>
        Bool.false_ne_true ((not_isOperator_of_binaryRule? hr).2.symm.trans hmark)
      rw [continues, isSuffix, hnone, isOperator_ne hmark (hne "." (by simp)),
        isOperator_ne hmark (hne "[" (by simp)), isOperator_ne hmark (hne "(" (by simp))]
      rfl
    have hpos := test.tokens_length_pos
    rw [Form.tokens, List.length_append, List.length_cons, List.length_append,
      List.length_cons] at hn
    rw [Form.tokens, List.append_assoc, List.cons_append, List.append_assoc, List.cons_append,
      hladder test (mark :: _) ht (by omega) hstop]
    dsimp only
    have hinner := ih.2 budget (by omega)
    rw [peek, List.headD_cons, if_pos hmark, List.tail_cons,
      hinner.before hy (by omega) hcolon (by simp)]
    dsimp only
    rw [expectOperator_cons hcolon]
    dsimp only
    rw [hinner no rest hno (by omega) hrest]
    rfl
  | expression hf =>
    rw [continues, Bool.or_eq_false_iff] at hrest
    have hstop : continues (.level 0) (peek rest) = false := by
      rw [Bool.or_eq_false_iff, Option.isSome_eq_false_iff, Option.isNone_iff_eq_none] at hrest
      rw [continues, hrest.1.1, hrest.1.2]
      rfl
    rw [hladder f rest hf hn hstop]
    dsimp only
    rw [hrest.2, if_neg Bool.false_ne_true]

/-- Expressions of the same tokens are the same, and so are their trees. -/
theorem Form.Derives.unique {g : Form} (hf : f.Derives .expression) (hg : g.Derives .expression)
    (h : f.tokens = g.tokens) : f = g := by
  have hread := (parsers_accept f.tokens.length).2 _ (Nat.le_refl _)
  have hff := hread f [] hf (Nat.le_refl _) rfl
  have hgg := hread g [] hg (Nat.le_of_eq (congrArg _ h.symm)) rfl
  rw [← h, hff] at hgg
  exact (Prod.mk.inj (Except.ok.inj hgg)).1

end RuleLedger.Expr
