import RuleLedger.Proofs.Expr.Language

/-! Where the parser of expressions stops. Main statement: besides the faults of the grammar there
are two, a numeral of more digits than are read, and brackets that nest too deep, which takes a text
of many tokens. -/
namespace RuleLedger.Expr

variable {α : Type} {T ts rest : List Token} {f : Fault} {n : Nat}

/-- The faults of a parser among tokens. -/
inductive Stops (T : List Token) : Fault → Prop
  | refused (g : ParseFault) : Stops T (.parse g)
  | nesting : Stops T .nesting
  | numeral {t : Token} {g : NumericFault} : t ∈ T → t.kind = .number →
    numeralValue t.text = .error g → Stops T (.numeric g)

/-- What a parser comes to that stays among tokens: it stops there, or it leaves some of them. -/
inductive Within (T : List Token) : Except Fault (α × List Token) → Prop
  | stops {f : Fault} : Stops T f → Within T (.error f)
  | leaves {a : α} {rest : List Token} : rest ⊆ T → Within T (.ok (a, rest))

/-- Whether a parser stays among tokens. -/
def Stays (T : List Token) (p : Parse α) : Prop := ∀ ts, ts ⊆ T → Within T (p ts)

theorem tail_subset (h : ts ⊆ T) : ts.tail ⊆ T := fun _ ht => h (List.mem_of_mem_tail ht)

theorem within_refuse (g : ParseFault) : Within T (refuse g : Except Fault (α × List Token)) :=
  .stops (.refused g)

/-- Stepping over an operator fails as the grammar says, or it leaves what is behind. -/
theorem expectOperator_cases (s : String) (hts : ts ⊆ T) :
    (∃ g, expectOperator s ts = .error (.parse g)) ∨
      ∃ rest, expectOperator s ts = .ok rest ∧ rest ⊆ T := by
  rw [expectOperator]
  split_ifs
  · exact .inr ⟨_, rfl, tail_subset hts⟩
  · exact .inl ⟨_, rfl⟩

/-! ### Levels of operators -/

section Combinators

variable {level : Level α} {p : Parse α}

theorem chain_stays (h : Stays T p) (fuel : Nat) (left : α) :
    Stays T (chain level p fuel left) := by
  induction fuel generalizing left with
  | zero => exact fun ts hts => .leaves hts
  | succ fuel ih =>
    intro ts hts
    rw [chain]
    cases level (peek ts) with
    | none => exact .leaves hts
    | some build =>
      have hright := h _ (tail_subset hts)
      generalize p ts.tail = right at hright
      cases hright with
      | stops hf => exact .stops hf
      | leaves hrest => exact ih _ _ hrest

theorem atLevel_stays (h : Stays T p) : Stays T (atLevel level p) := by
  intro ts hts
  have hleft := h ts hts
  rw [atLevel]
  generalize p ts = left at hleft
  cases hleft with
  | stops hf => exact .stops hf
  | leaves hrest => exact chain_stays h _ _ _ hrest

end Combinators

variable {p : Parse Tree}

theorem ladder_stays (h : Stays T p) : Stays T (ladder p) :=
  ladder_keeps h fun _ _ _ => atLevel_stays

/-! ### Lists and suffixes -/

theorem listTail_stays (h : Stays T p) (close : String) (fuel : Nat) :
    Stays T (listTail p close fuel) := by
  induction fuel with
  | zero => exact fun ts _ => .stops .nesting
  | succ fuel ih =>
    intro ts hts
    have hitem := h ts hts
    rw [listTail]
    generalize p ts = item at hitem
    cases hitem with
    | stops hf => exact .stops hf
    | @leaves item ts' hts' =>
      dsimp only
      split_ifs
      · exact .leaves (tail_subset hts')
      · obtain ⟨g, hg⟩ | ⟨rest, hrest, hsub⟩ := expectOperator_cases "," hts'
        · rw [hg]
          exact .stops (.refused g)
        · have hitems := ih rest hsub
          rw [hrest]
          dsimp only
          generalize listTail p close fuel rest = items at hitems
          cases hitems with
          | stops hf => exact .stops hf
          | leaves h => exact .leaves h

theorem listUpTo_stays (h : Stays T p) (close : String) : Stays T (listUpTo p close) := by
  intro ts hts
  rw [listUpTo]
  split_ifs
  · exact .leaves (tail_subset hts)
  · exact listTail_stays h close _ ts hts

theorem suffixes_stays (h : Stays T p) (fuel : Nat) (left : Tree) :
    Stays T (suffixes p fuel left) := by
  induction fuel generalizing left with
  | zero => exact fun ts hts => .leaves hts
  | succ fuel ih =>
    intro ts hts
    have htail := tail_subset hts
    rw [suffixes]
    split_ifs
    · dsimp only
      split_ifs
      · exact ih _ _ (tail_subset htail)
      · exact within_refuse _
    · have hkey := h _ htail
      generalize p ts.tail = key at hkey
      cases hkey with
      | stops hf => exact .stops hf
      | leaves hrest =>
        dsimp only
        obtain ⟨g, hg⟩ | ⟨rest, hr, hsub⟩ := expectOperator_cases "]" hrest
        · rw [hg]
          exact .stops (.refused g)
        · rw [hr]
          exact ih _ _ hsub
    · have harguments := listUpTo_stays h ")" _ htail
      generalize listUpTo p ")" ts.tail = arguments at harguments
      cases harguments with
      | stops hf => exact .stops hf
      | leaves hrest => exact ih _ _ hrest
    · exact .leaves hts

/-! ### Operands and expressions -/

/-- A token that is not at the end is one of those that are left. -/
theorem peek_mem (h : (peek ts).kind ≠ .finish) : peek ts ∈ ts := by
  cases ts with
  | nil => exact absurd rfl h
  | cons t ts => exact List.mem_cons_self

theorem primary_stays (h : Stays T p) : Stays T (primary p) := by
  intro ts hts
  have htail := tail_subset hts
  rw [primary]
  cases hkind : (peek ts).kind with
  | number =>
    dsimp only
    cases hv : numeralValue (peek ts).text with
    | ok v => exact .leaves htail
    | error g => exact .stops (.numeral (hts (peek_mem (by simp [hkind]))) hkind hv)
  | string | name => exact .leaves htail
  | keyword =>
    dsimp only
    cases keywordValue? (peek ts).text with
    | none => exact within_refuse _
    | some v => exact .leaves htail
  | operator =>
    dsimp only
    split_ifs
    · have hinner := h _ htail
      generalize p ts.tail = inner at hinner
      cases hinner with
      | stops hf => exact .stops hf
      | leaves hrest =>
        dsimp only
        obtain ⟨g, hg⟩ | ⟨rest, hr, hsub⟩ := expectOperator_cases ")" hrest
        · rw [hg]
          exact .stops (.refused g)
        · rw [hr]
          exact .leaves hsub
    · have hitems := listUpTo_stays h "]" _ htail
      generalize listUpTo p "]" ts.tail = items at hitems
      cases hitems with
      | stops hf => exact .stops hf
      | leaves hrest => exact .leaves hrest
    · exact within_refuse _
  | finish => exact within_refuse _

/-- The parsers of every budget stay among the tokens. -/
theorem parsers_stay (T : List Token) (budget : Nat) :
    Stays T (conditional budget) ∧ Stays T (unary budget) ∧ Stays T (enclosed budget) := by
  -- an enclosed expression leaves eight levels of the budget, so plain induction does not reach it
  induction budget using Nat.strongRecOn with
  | ind budget ih =>
    have henclosed : Stays T (enclosed budget) := by
      intro ts hts
      rw [enclosed.eq_def]
      split
      · exact (ih _ (by omega)).1 ts hts
      · exact .stops .nesting
    cases budget with
    | zero => exact ⟨fun ts _ => .stops .nesting, fun ts _ => .stops .nesting, henclosed⟩
    | succ budget =>
      obtain ⟨hcond, hunary, hinner⟩ := ih budget (Nat.lt_succ_self budget)
      refine ⟨fun ts hts => ?_, fun ts hts => ?_, henclosed⟩
      · have htest := ladder_stays hunary ts hts
        rw [conditional]
        generalize ladder (unary budget) ts = test at htest
        cases htest with
        | stops hf => exact .stops hf
        | @leaves test ts' hts' =>
          dsimp only
          split_ifs
          · have hyes := hcond _ (tail_subset hts')
            generalize conditional budget ts'.tail = yes at hyes
            cases hyes with
            | stops hf => exact .stops hf
            | leaves hrest =>
              dsimp only
              obtain ⟨g, hg⟩ | ⟨rest, hr, hsub⟩ := expectOperator_cases ":" hrest
              · rw [hg]
                exact .stops (.refused g)
              · have hno := hcond rest hsub
                rw [hr]
                dsimp only
                generalize conditional budget rest = no at hno
                cases hno with
                | stops hf => exact .stops hf
                | leaves hrest => exact .leaves hrest
          · exact .leaves hts'
      · rw [unary]
        cases unaryOp? (peek ts) with
        | some op =>
          have hoperand := hunary _ (tail_subset hts)
          dsimp only
          generalize unary budget ts.tail = operand at hoperand
          cases hoperand with
          | stops hf => exact .stops hf
          | leaves hrest => exact .leaves hrest
        | none =>
          have hfirst := primary_stays hinner ts hts
          dsimp only
          generalize primary (enclosed budget) ts = first at hfirst
          cases hfirst with
          | stops hf => exact .stops hf
          | leaves hrest => exact suffixes_stays hinner _ _ _ hrest

theorem parseTokens_stops (h : parseTokens n ts = .error f) : Stops ts f := by
  have hall := (parsers_stay ts n).1 ts (List.Subset.refl ts)
  rw [parseTokens] at h
  split_ifs at h
  · obtain rfl := Except.error.inj h
    exact .refused _
  · generalize conditional n ts = r at hall h
    cases hall with
    | stops hf => exact Except.error.inj h ▸ hf
    | leaves hrest =>
      dsimp only at h
      split_ifs at h
      obtain rfl := Except.error.inj h
      exact .refused _

/-! ### Texts -/

/-- Why a text that the grammar may well allow is not read: it has a numeral of too many digits, or
so many tokens that brackets among them may nest too deep. -/
inductive Overlong (source : Text) : Fault → Prop
  | numeral {ts : List Token} {t : Token} {count : Nat} : tokenize source = .ok ts → t ∈ ts →
    t.kind = .number → t.text.toList.length = count → digitLimit < count →
    Overlong source (.numeric (.tooManyDigits count))
  | nesting {ts : List Token} : tokenize source = .ok ts →
    (∃ t ∈ ts, t.isReadable = false) ∨ nestingBudget < 10 * ts.length + 2 →
    Overlong source .nesting

/-- The fault of a text that is not read, though not for the grammar. -/
structure Unread (source : Text) (f : Fault) : Prop where
  fails : parse source = .error f
  overlong : Overlong source f

theorem numeralValue_eq_error {text : Text} {g : NumericFault} (h : numeralValue text = .error g) :
    g = .tooManyDigits text.toList.length ∧ digitLimit < text.toList.length := by
  rw [numeralValue] at h
  split_ifs at h
  rw [map_eq_error, readDigits] at h
  split_ifs at h with hlong
  · exact ⟨(Except.error.inj h).symm, hlong⟩
  · cases h

/-- A text has a tree, or it is against the grammar, or it is not read. -/
theorem parse_stops {source : Text} (h : parse source = .error f) :
    (∃ g, f = .parse g) ∨ Unread source f := by
  have hfails := h
  rw [parse] at h
  split at h
  · exact .inl ⟨_, (Except.error.inj h).symm⟩
  · rename_i ts hts
    cases parseTokens_stops h with
    | refused g => exact .inl ⟨g, rfl⟩
    | numeral ht hkind hg =>
      obtain ⟨rfl, hlong⟩ := numeralValue_eq_error hg
      exact .inr ⟨hfails, .numeral hts ht hkind rfl hlong⟩
    | nesting =>
      refine .inr ⟨hfails, .nesting hts (Classical.byContradiction fun hshort => ?_)⟩
      -- few tokens with readable numerals settle, and then nothing nests too deep
      simp only [not_or, not_exists, not_and, Bool.not_eq_false, Nat.not_lt] at hshort
      obtain ⟨before, last, rfl, hlast, -⟩ := exists_finish hts
      have hfinished : Finished (before ++ [last]) := ⟨⟨last, by simp, hlast⟩, hshort.1⟩
      obtain ⟨e, he⟩ | ⟨g, hg⟩ := (parseTokens_settled hfinished hshort.2 []).1
      · rw [he] at h
        cases h
      · rw [hg] at h
        cases h

end RuleLedger.Expr
