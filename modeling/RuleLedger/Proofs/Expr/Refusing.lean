import RuleLedger.Proofs.Expr.Reading

/-! What the parser of expressions makes of tokens with an end: a tree or a fault of parsing, and
the same whatever stands behind the end. -/
namespace RuleLedger.Expr

variable {α : Type} {ts more : List Token} {n m m' : Nat}

/-- A numeral must have a point or a power of ten, or no more digits than are read. -/
def Token.isReadable (t : Token) : Bool :=
  t.kind != .number || decide (t.text.toList.length ≤ digitLimit) ||
    t.text.toList.any fun c => c = '.' || c = 'e' || c = 'E'

theorem numeralValue_eq_ok {t : Token} (h : t.isReadable = true) (hk : t.kind = .number) :
    ∃ v, numeralValue t.text = .ok v := by
  rw [Token.isReadable, hk, Bool.or_eq_true, Bool.or_eq_true, decide_eq_true_iff] at h
  rw [numeralValue]
  split_ifs with hany
  · exact ⟨_, rfl⟩
  · obtain (h | h) | h := h
    · cases h
    · exact ⟨_, by rw [readDigits, if_neg (Nat.not_lt.2 h)]; rfl⟩
    · exact absurd h hany

/-- Tokens with an end among them, and numerals that can be read. -/
structure Finished (ts : List Token) : Prop where
  ends : ∃ t ∈ ts, t.kind = .finish
  readable : ∀ t ∈ ts, t.isReadable = true

namespace Finished

theorem ne_nil (h : Finished ts) : ts ≠ [] := by
  obtain ⟨t, ht, -⟩ := h.ends
  exact List.ne_nil_of_mem ht

theorem length_pos (h : Finished ts) : 0 < ts.length := List.length_pos_iff.2 h.ne_nil

theorem peek_append (h : Finished ts) (more : List Token) : peek (ts ++ more) = peek ts := by
  cases ts with
  | nil => exact absurd rfl h.ne_nil
  | cons t ts => rfl

theorem tail_append (h : Finished ts) (more : List Token) :
    (ts ++ more).tail = ts.tail ++ more := by
  cases ts with
  | nil => exact absurd rfl h.ne_nil
  | cons t ts => rfl

theorem isReadable_peek (h : Finished ts) : (peek ts).isReadable = true := by
  cases ts with
  | nil => exact absurd rfl h.ne_nil
  | cons t ts => exact h.readable t List.mem_cons_self

/-- The end is behind a token that is not it. -/
theorem tail (h : Finished ts) (hk : (peek ts).kind ≠ .finish) :
    Finished ts.tail ∧ ts.tail.length < ts.length := by
  cases ts with
  | nil => exact absurd rfl h.ne_nil
  | cons t ts =>
    obtain ⟨u, hu, hkind⟩ := h.ends
    have hreadable : ∀ u ∈ ts, u.isReadable = true := fun u hu =>
      h.readable u (List.mem_cons_of_mem t hu)
    refine ⟨⟨⟨u, ?_, hkind⟩, hreadable⟩, Nat.lt_succ_self _⟩
    obtain rfl | hu := List.mem_cons.1 hu
    · exact absurd hkind hk
    · exact hu

end Finished

/-- Two outcomes of a parser that stops before the end: the same fault of parsing, or the same
result, with what stands behind the end only in the rest of the second. -/
def Settled (more : List Token) (m : Nat) :
    Except Fault (α × List Token) → Except Fault (α × List Token) → Prop :=
  Agree (fun e e' => e' = e ∧ ∃ g, e = .parse g)
    fun r r' => r' = (r.1, r.2 ++ more) ∧ Finished r.2 ∧ r.2.length < m

/-- Whether a parser settles all finished tokens up to a number of them. -/
def Settles (n : Nat) (p : Parse α) : Prop :=
  ∀ ts more, Finished ts → ts.length ≤ n → Settled more ts.length (p ts) (p (ts ++ more))

namespace Settled

variable {a b : Except Fault (α × List Token)}

theorem cases (h : Settled more m a b) :
    (∃ g, a = .error (.parse g) ∧ b = .error (.parse g)) ∨
      ∃ x rest, a = .ok (x, rest) ∧ b = .ok (x, rest ++ more) ∧ Finished rest ∧
        rest.length < m := by
  obtain ⟨_, _, ha, hb, rfl, g, rfl⟩ | ⟨⟨x, rest⟩, _, ha, hb, rfl, hrest⟩ := Agree.cases h
  · exact .inl ⟨g, ha, hb⟩
  · exact .inr ⟨x, rest, ha, hb, hrest⟩

theorem refused (g : ParseFault) :
    Settled (α := α) more m (.error (.parse g)) (.error (.parse g)) :=
  .error ⟨rfl, g, rfl⟩

theorem read (x : α) {rest : List Token} (h : Finished rest) (hm : rest.length < m) :
    Settled more m (.ok (x, rest)) (.ok (x, rest ++ more)) :=
  .ok ⟨rfl, h, hm⟩

theorem mono (h : Settled more m a b) (hm : m ≤ m') : Settled more m' a b :=
  Agree.mono h fun _ _ hr => ⟨hr.1, hr.2.1, Nat.lt_of_lt_of_le hr.2.2 hm⟩

end Settled

theorem expectOperator_settled (h : Finished ts) (s : String) (more : List Token) :
    (∃ g, expectOperator s ts = .error (.parse g) ∧
        expectOperator s (ts ++ more) = .error (.parse g)) ∨
      (expectOperator s ts = .ok ts.tail ∧ expectOperator s (ts ++ more) = .ok (ts.tail ++ more) ∧
        Finished ts.tail ∧ ts.tail.length < ts.length) := by
  rw [expectOperator, expectOperator, h.peek_append, h.tail_append]
  split_ifs with hs
  · exact .inr ⟨rfl, rfl, h.tail (not_finish_of_isOperator hs)⟩
  · exact .inl ⟨_, rfl, rfl⟩

/-! ### Levels of operators -/

theorem level_finish {level : Level Tree} (h : level ∈ levels) {t : Token}
    (ht : t.kind = .finish) : level t = none := by
  have hlogical (op : LogicalOp) (word : String) : logicalLevel op word t = none := by
    rw [logicalLevel, isOperator, isKeyword, ht]
    rfl
  have hbinary (ops : List BinaryOp) : binaryLevel ops t = none := by
    rw [binaryLevel, ht]
    rfl
  rw [levels] at h
  simp only [List.mem_cons, List.not_mem_nil, or_false] at h
  obtain rfl | rfl | rfl | rfl | rfl | rfl := h
  · exact hlogical _ _
  · exact hlogical _ _
  all_goals exact hbinary _

section Combinators

variable {level : Level α} {p : Parse α}

theorem chain_settled (hlevel : ∀ t, t.kind = .finish → level t = none) (h : Settles n p)
    {fuel fuel' : Nat} {left : α} (hts : Finished ts) (hn : ts.length ≤ n)
    (hfuel : ts.length ≤ fuel) (hfuel' : ts.length ≤ fuel') :
    Settled more (ts.length + 1) (chain level p fuel left ts)
      (chain level p fuel' left (ts ++ more)) := by
  have hpos := hts.length_pos
  induction fuel generalizing fuel' left ts with
  | zero => exact absurd hpos (by omega)
  | succ fuel ih =>
    obtain ⟨fuel', rfl⟩ : ∃ k, fuel' = k + 1 := ⟨fuel' - 1, by omega⟩
    rw [chain, chain, hts.peek_append, hts.tail_append]
    cases hl : level (peek ts) with
    | none => exact .read left hts (Nat.lt_succ_self _)
    | some build =>
      have hk : (peek ts).kind ≠ .finish := by
        intro hk
        rw [hlevel _ hk] at hl
        cases hl
      obtain ⟨htail, hlt⟩ := hts.tail hk
      obtain ⟨g, ha, hb⟩ | ⟨right, rest, ha, hb, hrest, hlt'⟩ :=
        (h ts.tail more htail (by omega)).cases
      · rw [ha, hb]
        exact .refused g
      · rw [ha, hb]
        exact (ih hrest (by omega) (by omega) (by omega) hrest.length_pos).mono (by omega)

theorem atLevel_settles (hlevel : ∀ t, t.kind = .finish → level t = none) (h : Settles n p) :
    Settles n (atLevel level p) := by
  intro ts more hts hn
  rw [atLevel, atLevel]
  obtain ⟨g, ha, hb⟩ | ⟨left, rest, ha, hb, hrest, hlt⟩ := (h ts more hts hn).cases
  · rw [ha, hb]
    exact .refused g
  · rw [ha, hb]
    exact (chain_settled hlevel h hrest (by omega) (Nat.le_refl _) (by simp)).mono (by omega)

end Combinators

variable {p : Parse Tree}

theorem ladder_settles (h : Settles n p) : Settles n (ladder p) :=
  ladder_keeps h fun _ hlevel _ => atLevel_settles fun _ => level_finish hlevel

/-! ### Lists and suffixes -/

theorem listTail_settled (h : Settles n p) (close : String) {fuel fuel' : Nat}
    (hts : Finished ts) (hn : ts.length ≤ n) (hfuel : ts.length ≤ fuel)
    (hfuel' : ts.length ≤ fuel') :
    Settled more ts.length (listTail p close fuel ts) (listTail p close fuel' (ts ++ more)) := by
  have hpos := hts.length_pos
  induction fuel generalizing fuel' ts with
  | zero => exact absurd hpos (by omega)
  | succ fuel ih =>
    obtain ⟨fuel', rfl⟩ : ∃ k, fuel' = k + 1 := ⟨fuel' - 1, by omega⟩
    rw [listTail, listTail]
    obtain ⟨g, ha, hb⟩ | ⟨item, rest, ha, hb, hrest, hlt⟩ := (h ts more hts hn).cases
    · rw [ha, hb]
      exact .refused g
    · rw [ha, hb]
      dsimp only
      rw [hrest.peek_append, hrest.tail_append]
      split_ifs with hclose
      · obtain ⟨htail, hlt'⟩ := hrest.tail (not_finish_of_isOperator hclose)
        exact .read _ htail (by omega)
      · obtain ⟨g, hc, hd⟩ | ⟨hc, hd, htail, hlt'⟩ :=
          expectOperator_settled hrest "," more
        · rw [hc, hd]
          exact .refused g
        · rw [hc, hd]
          dsimp only
          have hfuel'' : rest.tail.length ≤ fuel' := by omega
          obtain ⟨g, he, hf⟩ | ⟨items, rest', he, hf, hrest', hlt''⟩ := (ih htail
            (by omega) (by omega) hfuel'' htail.length_pos).cases
          · rw [he, hf]
            exact .refused g
          · rw [he, hf]
            exact .read _ hrest' (by omega)

theorem listUpTo_settles (h : Settles n p) (close : String) : Settles n (listUpTo p close) := by
  intro ts more hts hn
  rw [listUpTo, listUpTo, hts.peek_append, hts.tail_append]
  split_ifs with hclose
  · obtain ⟨htail, hlt⟩ := hts.tail (not_finish_of_isOperator hclose)
    exact .read _ htail hlt
  · exact listTail_settled h close hts hn (Nat.le_refl _) (by simp)

theorem suffixes_settled (h : Settles n p) {fuel fuel' : Nat} {left : Tree}
    (hts : Finished ts) (hn : ts.length ≤ n) (hfuel : ts.length ≤ fuel)
    (hfuel' : ts.length ≤ fuel') :
    Settled more (ts.length + 1) (suffixes p fuel left ts)
      (suffixes p fuel' left (ts ++ more)) := by
  have hpos := hts.length_pos
  induction fuel generalizing fuel' left ts with
  | zero => exact absurd hpos (by omega)
  | succ fuel ih =>
    obtain ⟨fuel', rfl⟩ : ∃ k, fuel' = k + 1 := ⟨fuel' - 1, by omega⟩
    rw [suffixes, suffixes, hts.peek_append, hts.tail_append]
    dsimp only
    by_cases hdot : isOperator "." (peek ts) = true
    · obtain ⟨htail, hlt⟩ := hts.tail (not_finish_of_isOperator hdot)
      rw [if_pos hdot, if_pos hdot, htail.peek_append, htail.tail_append]
      split_ifs with hname
      · have hk : (peek ts.tail).kind ≠ .finish := by simp [beq_iff_eq.1 hname]
        obtain ⟨hrest, hlt'⟩ := htail.tail hk
        exact (ih hrest (by omega) (by omega) (by omega) hrest.length_pos).mono (by omega)
      · exact .refused _
    rw [if_neg hdot, if_neg hdot]
    split_ifs with hopen hcall
    · obtain ⟨htail, hlt⟩ := hts.tail (not_finish_of_isOperator hopen)
      obtain ⟨g, ha, hb⟩ | ⟨key, rest, ha, hb, hrest, hlt'⟩ :=
        (h ts.tail more htail (by omega)).cases
      · rw [ha, hb]
        exact .refused g
      · rw [ha, hb]
        dsimp only
        obtain ⟨g, hc, hd⟩ | ⟨hc, hd, hend, hlt''⟩ :=
          expectOperator_settled hrest "]" more
        · rw [hc, hd]
          exact .refused g
        · rw [hc, hd]
          exact (ih hend (by omega) (by omega) (by omega) hend.length_pos).mono (by omega)
    · obtain ⟨htail, hlt⟩ := hts.tail (not_finish_of_isOperator hcall)
      obtain ⟨g, ha, hb⟩ | ⟨arguments, rest, ha, hb, hrest, hlt'⟩ :=
        (listUpTo_settles h ")" ts.tail more htail (by omega)).cases
      · rw [ha, hb]
        exact .refused g
      · rw [ha, hb]
        exact (ih hrest (by omega) (by omega) (by omega) hrest.length_pos).mono (by omega)
    · exact .read left hts (Nat.lt_succ_self _)

/-! ### Operands and expressions -/

theorem primary_settles (h : Settles n p) : Settles (n + 1) (primary p) := by
  intro ts more hts hn
  rw [primary, primary, hts.peek_append, hts.tail_append]
  cases hkind : (peek ts).kind with
  | finish => exact .refused _
  | number =>
    obtain ⟨htail, hlt⟩ := hts.tail (by simp [hkind])
    obtain ⟨v, hv⟩ := numeralValue_eq_ok hts.isReadable_peek hkind
    dsimp only
    rw [hv]
    exact .read _ htail hlt
  | string | name =>
    obtain ⟨htail, hlt⟩ := hts.tail (by simp [hkind])
    exact .read _ htail hlt
  | keyword =>
    obtain ⟨htail, hlt⟩ := hts.tail (by simp [hkind])
    dsimp only
    cases keywordValue? (peek ts).text with
    | none => exact .refused _
    | some v => exact .read _ htail hlt
  | operator =>
    obtain ⟨htail, hlt⟩ := hts.tail (by simp [hkind])
    dsimp only
    split_ifs
    · obtain ⟨g, ha, hb⟩ | ⟨e, rest, ha, hb, hrest, hlt'⟩ :=
        (h ts.tail more htail (by omega)).cases
      · rw [ha, hb]
        exact .refused g
      · rw [ha, hb]
        dsimp only
        obtain ⟨g, hc, hd⟩ | ⟨hc, hd, hend, hlt''⟩ :=
          expectOperator_settled hrest ")" more
        · rw [hc, hd]
          exact .refused g
        · rw [hc, hd]
          exact .read e hend (by omega)
    · obtain ⟨g, ha, hb⟩ | ⟨items, rest, ha, hb, hrest, hlt'⟩ :=
        (listUpTo_settles h "]" ts.tail more htail (by omega)).cases
      · rw [ha, hb]
        exact .refused g
      · rw [ha, hb]
        exact .read _ hrest (by omega)
    · exact .refused _

theorem unaryOp?_finish {t : Token} (ht : t.kind = .finish) : unaryOp? t = none := by
  rw [unaryOp?, isKeyword, ht]
  rfl

/-- The parsers of operands and expressions settle up to `n` tokens, when the budget allows ten
steps for each of them. -/
theorem parsers_settle (n : Nat) :
    (∀ budget, 10 * n + 1 ≤ budget → Settles n (unary budget)) ∧
      ∀ budget, 10 * n + 2 ≤ budget → Settles n (conditional budget) := by
  induction n with
  | zero =>
    have hnone (p : Parse Tree) : Settles 0 p := fun _ _ hts hn =>
      absurd hts.length_pos (by omega)
    exact ⟨fun _ _ => hnone _, fun _ _ => hnone _⟩
  | succ n ih =>
  have hunary : ∀ budget, 10 * (n + 1) + 1 ≤ budget → Settles (n + 1) (unary budget) := by
    intro budget hb ts more hts hn
    obtain ⟨budget, rfl⟩ : ∃ b, budget = b + 1 := ⟨budget - 1, by omega⟩
    rw [unary, unary, hts.peek_append, hts.tail_append]
    cases ho : unaryOp? (peek ts) with
    | some op =>
      have hk : (peek ts).kind ≠ .finish := by
        intro hk
        rw [unaryOp?_finish hk] at ho
        cases ho
      obtain ⟨htail, hlt⟩ := hts.tail hk
      dsimp only
      obtain ⟨g, ha, hb⟩ | ⟨operand, rest, ha, hb, hrest, hlt'⟩ :=
        (ih.1 budget (by omega) ts.tail more htail (by omega)).cases
      · rw [ha, hb]
        exact .refused g
      · rw [ha, hb]
        exact .read _ hrest (by omega)
    | none =>
      have hinner : Settles n (enclosed budget) := by
        obtain ⟨budget, rfl⟩ : ∃ b, budget = b + 8 := ⟨budget - 8, by omega⟩
        exact ih.2 budget (by omega)
      dsimp only
      obtain ⟨g, ha, hb⟩ | ⟨e, rest, ha, hb, hrest, hlt⟩ :=
        (primary_settles hinner ts more hts hn).cases
      · rw [ha, hb]
        exact .refused g
      · rw [ha, hb]
        exact (suffixes_settled hinner hrest (by omega) (Nat.le_refl _) (by simp)).mono (by omega)
  refine ⟨hunary, fun budget hb ts more hts hn => ?_⟩
  obtain ⟨budget, rfl⟩ : ∃ b, budget = b + 1 := ⟨budget - 1, by omega⟩
  have hinner := ih.2 budget (by omega)
  rw [conditional, conditional]
  obtain ⟨g, ha, hb⟩ | ⟨test, rest, ha, hb, hrest, hlt⟩ :=
    (ladder_settles (hunary budget (by omega)) ts more hts hn).cases
  · rw [ha, hb]
    exact .refused g
  rw [ha, hb]
  dsimp only
  rw [hrest.peek_append, hrest.tail_append]
  split_ifs with hmark
  · obtain ⟨htail, hlt'⟩ := hrest.tail (not_finish_of_isOperator hmark)
    obtain ⟨g, hc, hd⟩ | ⟨yes, rest', hc, hd, hrest', hyes⟩ :=
      (hinner rest.tail more htail (by omega)).cases
    · rw [hc, hd]
      exact .refused g
    rw [hc, hd]
    dsimp only
    obtain ⟨g, he, hf⟩ | ⟨he, hf, hend, hcolon⟩ := expectOperator_settled hrest' ":" more
    · rw [he, hf]
      exact .refused g
    rw [he, hf]
    dsimp only
    obtain ⟨g, hx, hy⟩ | ⟨no, rest'', hx, hy, hrest'', hno⟩ :=
      (hinner rest'.tail more hend (by omega)).cases
    · rw [hx, hy]
      exact .refused g
    · rw [hx, hy]
      exact .read _ hrest'' (by omega)
  · exact .read test hrest hlt

/-- Tokens with an end are a tree or a fault of parsing, and stay so with others behind the end. -/
theorem parseTokens_settled (hts : Finished ts) {budget : Nat}
    (hb : 10 * ts.length + 2 ≤ budget) (more : List Token) :
    ((∃ e, parseTokens budget ts = .ok e) ∨ ∃ g, parseTokens budget ts = .error (.parse g)) ∧
      parseTokens budget (ts ++ more) = parseTokens budget ts := by
  rw [parseTokens, parseTokens, hts.peek_append]
  split_ifs
  · exact ⟨.inr ⟨_, rfl⟩, rfl⟩
  · obtain ⟨g, ha, hb⟩ | ⟨e, rest, ha, hb, hrest, -⟩ :=
      ((parsers_settle ts.length).2 budget hb ts more hts (Nat.le_refl _)).cases
    · rw [ha, hb]
      exact ⟨.inr ⟨g, rfl⟩, rfl⟩
    · rw [ha, hb]
      dsimp only
      rw [hrest.peek_append]
      split_ifs
      · exact ⟨.inl ⟨e, rfl⟩, rfl⟩
      · exact ⟨.inr ⟨_, rfl⟩, rfl⟩

end RuleLedger.Expr
