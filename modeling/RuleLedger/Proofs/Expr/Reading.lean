import RuleLedger.Proofs.Expr.Forms

/-! What the parser of expressions reads is derived: at every budget it reads the tokens of forms
of the grammar and leaves the others. -/
namespace RuleLedger.Expr

variable {p : Parse Form} {ts rest : List Token} {f left : Form} {n : Nat} {close : String}

/-! ### The next token -/

/-- A token that is not at the end stands in front of what is left after it. -/
theorem cons_of_kind {us : List Token} (h : (peek ts).kind ≠ .finish) (hu : ts.tail = us) :
    peek ts :: us = ts := by
  subst hu
  cases ts with
  | nil => exact absurd rfl h
  | cons t ts => rfl

theorem kind_of_isOperator {s : String} {t : Token} (h : isOperator s t = true) :
    t.kind = .operator := by
  rw [isOperator, Bool.and_eq_true, beq_iff_eq] at h
  exact h.1

theorem not_finish_of_isOperator {s : String} {t : Token} (h : isOperator s t = true) :
    t.kind ≠ .finish := by
  rw [kind_of_isOperator h]
  nofun

theorem cons_of_isOperator {us : List Token} {s : String} (h : isOperator s (peek ts) = true)
    (hu : ts.tail = us) : peek ts :: us = ts :=
  cons_of_kind (not_finish_of_isOperator h) hu

theorem expectOperator_eq_ok {s : String} (h : expectOperator s ts = .ok rest) :
    isOperator s (peek ts) = true ∧ rest = ts.tail := by
  rw [expectOperator] at h
  split_ifs at h with hs
  · exact ⟨hs, (Except.ok.inj h).symm⟩
  · cases h

theorem kind_of_binaryRule? {t : Token} {r : BinaryRule} (h : binaryRule? t = some r) :
    t.kind ≠ .finish := by
  have hkinds : ∀ r ∈ binaryRules, r.kind ≠ .finish := by decide
  have hr := List.find?_some h
  rw [Bool.and_eq_true, beq_iff_eq] at hr
  rw [hr.1]
  exact hkinds r (List.mem_of_find?_eq_some h)

theorem kind_of_unaryRule? {t : Token} {op : UnaryOp} (h : unaryRule? t = some op) :
    t.kind ≠ .finish := by
  have hkinds : ∀ r ∈ unaryRules, r.1 ≠ .finish := by decide
  obtain ⟨r, hr, -⟩ := Option.map_eq_some_iff.1 h
  have hkind := List.find?_some hr
  rw [Bool.and_eq_true, beq_iff_eq] at hkind
  rw [hkind.1]
  exact hkinds r (List.mem_of_find?_eq_some hr)

/-! ### Reading -/

/-- Whether a parser reads nothing but the tokens of forms of one kind. -/
def Reads (p : Parse Form) (φ : Phrase) : Prop :=
  ∀ ts f rest, p ts = .ok (f, rest) → f.Derives φ ∧ ts = f.tokens ++ rest

theorem chain_reads (h : Reads p (.level (n + 1))) {fuel : Nat} (hl : left.Derives (.level n))
    (hc : chain (Forms.level n) p fuel left ts = .ok (f, rest)) :
    f.Derives (.level n) ∧ left.tokens ++ ts = f.tokens ++ rest := by
  induction fuel generalizing left ts with
  | zero =>
    obtain ⟨rfl, rfl⟩ := Prod.mk.inj (Except.ok.inj hc)
    exact ⟨hl, rfl⟩
  | succ fuel ih =>
    rw [chain] at hc
    split at hc
    · obtain ⟨rfl, rfl⟩ := Prod.mk.inj (Except.ok.inj hc)
      exact ⟨hl, rfl⟩
    · rename_i build hb
      obtain ⟨r, hr, hb⟩ := Option.bind_eq_some_iff.1 hb
      split_ifs at hb with hn
      obtain rfl := Option.some.inj hb
      subst hn
      split at hc
      · cases hc
      · rename_i right ts' hp
        obtain ⟨hright, hts⟩ := h _ _ _ hp
        obtain ⟨hf, htokens⟩ := ih (.binary hl hr hright) hc
        refine ⟨hf, ?_⟩
        rw [← htokens, Form.tokens, List.append_assoc, List.cons_append,
          cons_of_kind (kind_of_binaryRule? hr) hts]

theorem atLevel_reads (hn : n < levelCount) (h : Reads p (.level (n + 1))) :
    Reads (atLevel (Forms.level n) p) (.level n) := by
  intro ts f rest hp
  rw [atLevel] at hp
  split at hp
  · cases hp
  · rename_i left ts' hl
    obtain ⟨hleft, hts⟩ := h _ _ _ hl
    obtain ⟨hf, htokens⟩ := chain_reads h (.level hn hleft) hp
    exact ⟨hf, hts.trans htokens⟩

theorem ladder_reads (h : Reads p .operand) : Reads (Forms.ladder p) (.level 0) := by
  have hbase : Reads p (.level levelCount) := fun ts f rest hp =>
    ⟨.operand (h ts f rest hp).1, (h ts f rest hp).2⟩
  have hlevel (k : Nat) (hk : k < levelCount) {q : Parse Form} (hq : Reads q (.level (k + 1))) :
      Reads (atLevel (Forms.level k) q) (.level k) := atLevel_reads hk hq
  exact hlevel 0 (by decide) (hlevel 1 (by decide) (hlevel 2 (by decide) (hlevel 3 (by decide)
    (hlevel 4 (by decide) (hlevel 5 (by decide) hbase)))))

theorem items_reads (h : Reads p .expression) (close : String) (fuel : Nat) :
    Reads (Forms.items p close fuel) (.items close) := by
  induction fuel with
  | zero => exact fun _ _ _ hi => nomatch hi
  | succ fuel ih =>
    intro ts f rest hi
    rw [Forms.items] at hi
    split at hi
    · cases hi
    · rename_i item ts' hp
      obtain ⟨hitem, hts⟩ := h _ _ _ hp
      split_ifs at hi with hclose
      · obtain ⟨rfl, rfl⟩ := Prod.mk.inj (Except.ok.inj hi)
        refine ⟨.last hitem hclose, ?_⟩
        rw [hts, Form.tokens, List.append_assoc, List.singleton_append,
          cons_of_isOperator hclose rfl]
      · split at hi
        · cases hi
        · rename_i ts'' hexpect
          obtain ⟨hcomma, rfl⟩ := expectOperator_eq_ok hexpect
          split at hi
          · cases hi
          · rename_i more ts'' hmore
            obtain ⟨rfl, rfl⟩ := Prod.mk.inj (Except.ok.inj hi)
            obtain ⟨hmore, htail⟩ := ih _ _ _ hmore
            refine ⟨.more hitem hcomma hmore, ?_⟩
            rw [hts, Form.tokens, List.append_assoc, List.cons_append,
              cons_of_isOperator hcomma htail]

theorem arguments_reads (h : Reads p .expression) (close : String) :
    Reads (Forms.arguments p close) (.arguments close) := by
  intro ts f rest ha
  rw [Forms.arguments] at ha
  split_ifs at ha with hclose
  · obtain ⟨rfl, rfl⟩ := Prod.mk.inj (Except.ok.inj ha)
    exact ⟨.none hclose, (cons_of_isOperator hclose rfl).symm⟩
  · obtain ⟨hf, hts⟩ := items_reads h close _ _ _ _ ha
    exact ⟨.arguments hf, hts⟩

theorem suffixes_reads (h : Reads p .expression) {fuel : Nat} (hl : left.Derives .suffixed)
    (hs : Forms.suffixes p fuel left ts = .ok (f, rest)) :
    f.Derives .suffixed ∧ left.tokens ++ ts = f.tokens ++ rest := by
  induction fuel generalizing left ts with
  | zero =>
    obtain ⟨rfl, rfl⟩ := Prod.mk.inj (Except.ok.inj hs)
    exact ⟨hl, rfl⟩
  | succ fuel ih =>
    rw [Forms.suffixes] at hs
    dsimp only at hs
    split_ifs at hs with hdot hkind hopen hcall
    · have hname : (peek ts.tail).kind = .name := beq_iff_eq.1 hkind
      obtain ⟨hf, htokens⟩ := ih (.member hl hdot hname) hs
      refine ⟨hf, ?_⟩
      rw [← htokens, Form.tokens, List.append_assoc, List.cons_append, List.singleton_append,
        cons_of_kind (by simp [hname]) rfl, cons_of_isOperator hdot rfl]
    · cases hs
    · split at hs
      · cases hs
      · rename_i key ts' hp
        obtain ⟨hkey, hts⟩ := h _ _ _ hp
        split at hs
        · cases hs
        · rename_i ts'' hexpect
          obtain ⟨hclose, rfl⟩ := expectOperator_eq_ok hexpect
          obtain ⟨hf, htokens⟩ := ih (.index hl hopen hkey hclose) hs
          refine ⟨hf, ?_⟩
          rw [← htokens, Form.tokens, List.append_assoc, List.cons_append, List.append_assoc,
            List.singleton_append, cons_of_isOperator hclose rfl, cons_of_isOperator hopen hts]
    · split at hs
      · cases hs
      · rename_i items ts' ha
        obtain ⟨hitems, hts⟩ := arguments_reads h ")" _ _ _ ha
        obtain ⟨hf, htokens⟩ := ih (.call hl hcall hitems) hs
        refine ⟨hf, ?_⟩
        rw [← htokens, Form.tokens, List.append_assoc, List.cons_append,
          cons_of_isOperator hcall hts]
    · obtain ⟨rfl, rfl⟩ := Prod.mk.inj (Except.ok.inj hs)
      exact ⟨hl, rfl⟩

theorem primary_reads (h : Reads p .expression) : Reads (Forms.primary p) .primary := by
  intro ts f rest hp
  have hleaf (hsome : (leaf? (peek ts)).isSome = true)
      (ho : (.ok (.leaf (peek ts), ts.tail) : Except Fault (Form × List Token)) = .ok (f, rest)) :
      f.Derives .primary ∧ ts = f.tokens ++ rest := by
    obtain ⟨rfl, rfl⟩ := Prod.mk.inj (Except.ok.inj ho)
    refine ⟨.leaf hsome, (cons_of_kind (fun hk => ?_) rfl).symm⟩
    rw [leaf?, hk] at hsome
    cases hsome
  rw [Forms.primary] at hp
  cases hkind : (peek ts).kind with
  | number =>
    simp only [hkind] at hp
    split at hp
    · rename_i v hv
      exact hleaf (by simp [leaf?, hkind, hv, Except.toOption]) hp
    · cases hp
  | string =>
    simp only [hkind] at hp
    exact hleaf (by simp [leaf?, hkind]) hp
  | name =>
    simp only [hkind] at hp
    exact hleaf (by simp [leaf?, hkind]) hp
  | keyword =>
    simp only [hkind] at hp
    split at hp
    · rename_i v hv
      exact hleaf (by simp [leaf?, hkind, hv]) hp
    · cases hp
  | operator =>
    simp only [hkind] at hp
    have hop {s : String} (hs : ((peek ts).text == Text.ofString s) = true) :
        isOperator s (peek ts) = true := by
      rw [isOperator, hkind, hs]
      rfl
    split_ifs at hp with hgroup harray
    · split at hp
      · cases hp
      · rename_i g ts' hg
        obtain ⟨hg, hts⟩ := h _ _ _ hg
        split at hp
        · cases hp
        · rename_i ts'' hexpect
          obtain ⟨hclose, rfl⟩ := expectOperator_eq_ok hexpect
          obtain ⟨rfl, rfl⟩ := Prod.mk.inj (Except.ok.inj hp)
          refine ⟨.group (hop hgroup) hg hclose, ?_⟩
          rw [Form.tokens, List.cons_append, List.append_assoc, List.singleton_append,
            cons_of_isOperator hclose rfl, cons_of_isOperator (hop hgroup) hts]
    · split at hp
      · cases hp
      · rename_i items ts' ha
        obtain ⟨hitems, hts⟩ := arguments_reads h "]" _ _ _ ha
        obtain ⟨rfl, rfl⟩ := Prod.mk.inj (Except.ok.inj hp)
        refine ⟨.array (hop harray) hitems, ?_⟩
        rw [Form.tokens, List.cons_append, cons_of_isOperator (hop harray) hts]
    · cases hp
  | finish =>
    simp only [hkind] at hp
    cases hp

/-- The parsers of expressions, operands and enclosed expressions, at every budget. -/
theorem parsers_read (budget : Nat) :
    Reads (Forms.conditional budget) .expression ∧ Reads (Forms.unary budget) .operand ∧
      Reads (Forms.enclosed budget) .expression := by
  induction budget using Nat.strongRecOn with
  | _ budget ih =>
  have henclosed : Reads (Forms.enclosed budget) .expression := by
    intro ts f rest h
    match budget with
    | 0 | 1 | 2 | 3 | 4 | 5 | 6 | 7 => cases h
    | budget + 8 => exact (ih budget (by omega)).1 ts f rest h
  cases budget with
  | zero => exact ⟨fun _ _ _ => nofun, fun _ _ _ => nofun, henclosed⟩
  | succ budget =>
    obtain ⟨hconditional, hunary, hinner⟩ := ih budget (Nat.lt_succ_self budget)
    refine ⟨fun ts f rest h => ?_, fun ts f rest h => ?_, henclosed⟩
    · rw [Forms.conditional] at h
      split at h
      · cases h
      · rename_i test ts' ht
        obtain ⟨htest, hts⟩ := ladder_reads hunary _ _ _ ht
        split_ifs at h with hmark
        · split at h
          · cases h
          · rename_i yes ts'' hy
            obtain ⟨hyes, hts'⟩ := hconditional _ _ _ hy
            split at h
            · cases h
            · rename_i ts''' hexpect
              obtain ⟨hcolon, rfl⟩ := expectOperator_eq_ok hexpect
              split at h
              · cases h
              · rename_i no rest' hn
                obtain ⟨hno, htail⟩ := hconditional _ _ _ hn
                obtain ⟨rfl, rfl⟩ := Prod.mk.inj (Except.ok.inj h)
                refine ⟨.conditional htest hmark hyes hcolon hno, ?_⟩
                rw [hts, Form.tokens, List.append_assoc, List.cons_append, List.append_assoc,
                  List.cons_append, cons_of_isOperator hcolon htail,
                  cons_of_isOperator hmark hts']
        · obtain ⟨rfl, rfl⟩ := Prod.mk.inj (Except.ok.inj h)
          exact ⟨.expression htest, hts⟩
    · rw [Forms.unary] at h
      split at h
      · rename_i op hop
        split at h
        · cases h
        · rename_i operand rest' ho
          obtain ⟨hoperand, htail⟩ := hunary _ _ _ ho
          obtain ⟨rfl, rfl⟩ := Prod.mk.inj (Except.ok.inj h)
          refine ⟨.unary (Option.isSome_iff_exists.2 ⟨op, hop⟩) hoperand, ?_⟩
          rw [Form.tokens, List.cons_append, cons_of_kind (kind_of_unaryRule? hop) htail]
      · rw [Forms.suffixed] at h
        split at h
        · cases h
        · rename_i g ts' hg
          obtain ⟨hprimary, hts⟩ := primary_reads hinner _ _ _ hg
          obtain ⟨hf, htokens⟩ := suffixes_reads hinner (.primary hprimary) h
          exact ⟨.suffixed hf, hts.trans htokens⟩

end RuleLedger.Expr
