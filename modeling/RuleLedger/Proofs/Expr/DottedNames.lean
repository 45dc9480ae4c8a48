import RuleLedger.Proofs.Expr.Refusing
import RuleLedger.Text.Split

/-! Dotted texts of identifiers. Main statements: cut at its full stops such a text gives the
identifiers back, and as an expression it is read as the first name with a member for each further
one. -/
namespace RuleLedger

variable {n : Text} {ns : List Text}

/-! ### Texts with full stops -/

namespace Text

section Split

variable {α : Type} [DecidableEq α] {sep : α} {w : List α}

end Split

/-- The symbols of texts with a full stop before each. -/
def dotted (ns : List Text) : List Symbol := ns.flatMap fun n => .char '.' :: n.toList

theorem dotted_cons (n : Text) (ns : List Text) :
    dotted (n :: ns) = .char '.' :: (n.toList ++ dotted ns) := rfl

theorem toList_intercalate (n : Text) (ns : List Text) :
    (intercalate "." (n :: ns)).toList = n.toList ++ dotted ns := by
  change [Symbol.char '.'].intercalate ((n :: ns).map toList) = n.toList ++ dotted ns
  induction ns generalizing n with
  | nil => simp [List.intercalate, dotted]
  | cons m ns ih =>
    have hm := ih m
    rw [List.intercalate, List.map_cons] at hm
    rw [List.intercalate, List.map_cons, List.map_cons, List.intersperse_cons_cons,
      List.flatten_cons, List.flatten_cons, hm, dotted_cons, List.singleton_append]

/-- A name that an expression can ask for: ASCII letters, digits, underscores and dollar signs, the
first of them no digit. Keywords are none. -/
structure IsIdentifier (n : Text) : Prop where
  symbols : ∀ c ∈ n.toList, c.isIn (fun d => d.isAlphanum || d = '_' || d = '$') = true
  start : ∃ c, n.toList.head? = some c ∧ c.isIn Char.isDigit = false
  free : n ∉ Expr.keywords

end Text

namespace Expr

variable {c : Symbol} {cs rest : List Symbol} {offset : Nat}

/-! ### Identifiers -/

theorem isNameRest_iff : isNameRest c = true ↔
    c.isIn (fun d => d.isAlphanum || d = '_' || d = '$') = true := by
  cases c with
  | half s => simp [isNameRest, isNameStart, Symbol.isIn]
  | char c =>
    simp only [isNameRest, isNameStart, Symbol.isIn, Char.isAlphanum, Symbol.char.injEq,
      Bool.or_eq_true, decide_eq_true_eq]
    rw [or_assoc, or_assoc, or_assoc, or_assoc, ← or_assoc (a := c = '_'),
      or_comm (b := c.isDigit = true)]

theorem exists_start (h : n.IsIdentifier) : ∃ c cs, n.toList = c :: cs ∧ isNameStart c = true ∧
    ∀ d ∈ cs, isNameRest d = true := by
  obtain ⟨c, hhead, hdigit⟩ := h.start
  obtain ⟨cs, hcs⟩ := List.head?_eq_some_iff.1 hhead
  have hall : ∀ d ∈ c :: cs, isNameRest d = true :=
    fun d hd => isNameRest_iff.2 (h.symbols d (hcs ▸ hd))
  obtain ⟨hc, hall⟩ := List.forall_mem_cons.1 hall
  rw [isNameRest, hdigit, Bool.or_false] at hc
  exact ⟨c, cs, hcs, hc, hall⟩

/-- The numbers of the symbols that start a name. -/
theorem code_of_isNameStart (h : isNameStart c = true) :
    (0x41 ≤ c.code ∧ c.code ≤ 0x5A ∨ 0x61 ≤ c.code ∧ c.code ≤ 0x7A) ∨ c.code = 0x5F ∨
      c.code = 0x24 := by
  rw [isNameStart, Bool.or_eq_true, Bool.or_eq_true, decide_eq_true_eq, decide_eq_true_eq] at h
  obtain (h | rfl) | rfl := h
  · cases c with
    | half s => cases h
    | char c =>
      have halpha : (c.isUpper || c.isLower) = true := h
      obtain hupper | hlower := Bool.or_eq_true_iff.1 halpha
      · exact .inl (.inl (of_decide_eq_true hupper))
      · obtain ⟨ha, hz⟩ := Bool.and_eq_true_iff.1 hlower
        exact .inl (.inr ⟨of_decide_eq_true ha, of_decide_eq_true hz⟩)
  · exact .inr (.inl rfl)
  · exact .inr (.inr rfl)

/-- No symbol that starts a name counts as a digit in any script. -/
theorem isDigit_of_isNameStart (h : isNameStart c = true) : Text.isDigit c = false := by
  have hcode := code_of_isNameStart h
  have hzeros : ∀ z ∈ Text.zeros.toList, z = 0x30 ∨ 0x660 ≤ z := by decide
  have hornaments : ∀ r ∈ Text.ornamentalDigits.toList, 0xB2 ≤ r.1 := by decide
  have hdecimal : Text.zeros.find? (fun z => z ≤ c.code && c.code < z + 10) = none := by
    rw [← Array.find?_toList, List.find?_eq_none]
    intro z hz
    have := hzeros z hz
    simp only [Bool.and_eq_true, decide_eq_true_eq]
    omega
  have hornament : Text.ornamentalDigits.has c = false := by
    rw [Text.Ranges.has_eq_any_toList, List.any_eq_false]
    intro r hr
    have := hornaments r hr
    simp only [Bool.and_eq_true, decide_eq_true_eq]
    omega
  rw [Text.isDigit, Text.isDecimal, Text.digitValue?, hdecimal, hornament]
  rfl

theorem isDecimal_of_isNameStart (h : isNameStart c = true) : Text.isDecimal c = false :=
  (Bool.or_eq_false_iff.1 (isDigit_of_isNameStart h)).1

/-! ### Tokens -/

theorem digitCount_of_isNameStart (h : isNameStart c = true) (cs : List Symbol) :
    Numeral.digitCount (c :: cs) = 0 := by
  rw [Numeral.digitCount, List.takeWhile_cons_of_neg (by simp [isDecimal_of_isNameStart h])]
  rfl

/-- A numeral starts with a digit or a point. -/
theorem length?_eq_none (hdigit : Text.isDecimal c = false) (hdot : c ≠ .char '.')
    (cs : List Symbol) : Numeral.length? (c :: cs) = none := by
  have hwhole : Numeral.digitCount (c :: cs) = 0 := by
    rw [Numeral.digitCount, List.takeWhile_cons_of_neg (by simp [hdigit])]
    rfl
  have hnone : Numeral.mantissaLength? (c :: cs) = none := by
    rw [Numeral.mantissaLength?, hwhole, List.drop_zero]
    split
    · rename_i he
      exact absurd (List.cons.inj he).1 hdot
    · rfl
  rw [Numeral.length?, hnone]
  rfl

theorem length?_of_isNameStart (h : isNameStart c = true) (cs : List Symbol) :
    Numeral.length? (c :: cs) = none := by
  refine length?_eq_none (isDecimal_of_isNameStart h) ?_ cs
  rintro rfl
  exact absurd h (by decide)

theorem stringLength?_eq_none (hdouble : c ≠ .char '"') (hsingle : c ≠ .char '\'')
    (cs : List Symbol) : stringLength? (c :: cs) = none := by
  rw [stringLength?, if_neg (by simp [hdouble, hsingle])]

theorem stringLength?_of_isNameStart (h : isNameStart c = true) (cs : List Symbol) :
    stringLength? (c :: cs) = none := by
  refine stringLength?_eq_none ?_ ?_ cs <;>
  · rintro rfl
    exact absurd h (by decide)

theorem operatorLength?_eq_none (h : ∀ o ∈ operators, o.head? ≠ some c) (cs : List Symbol) :
    operatorLength? (c :: cs) = none := by
  have hne : ∀ o ∈ operators, o ≠ [] := by decide
  rw [operatorLength?, Option.map_eq_none_iff, List.find?_eq_none]
  intro o ho hprefix
  obtain ⟨t, ht⟩ := List.isPrefixOf_iff_prefix.1 hprefix
  cases o with
  | nil => exact hne [] ho rfl
  | cons d ds => exact h (d :: ds) ho (congrArg some (List.cons.inj ht).1)

/-- No operator starts like a name. -/
theorem operatorLength?_of_isNameStart (h : isNameStart c = true) (cs : List Symbol) :
    operatorLength? (c :: cs) = none := by
  have hheads : ∀ o ∈ operators, ∀ d ∈ o.head?, isNameStart d = false := by decide
  refine operatorLength?_eq_none (fun o ho hd => ?_) cs
  rw [hheads o ho c hd] at h
  cases h

/-- A name goes as far as its symbols do. -/
theorem lexeme?_name (hc : isNameStart c = true) (hcs : ∀ d ∈ cs, isNameRest d = true)
    (hrest : ∀ d ∈ rest.head?, isNameRest d = false) :
    lexeme? (c :: (cs ++ rest)) =
      some (some (if keywords.contains ⟨c :: cs⟩ then .keyword else .name), cs.length + 1) := by
  have hend : rest.takeWhile isNameRest = [] := by
    cases rest with
    | nil => rfl
    | cons d rest => exact List.takeWhile_cons_of_neg (by simp [hrest d rfl])
  have hname : nameLength? (c :: (cs ++ rest)) = some (cs.length + 1) := by
    rw [nameLength?, if_pos hc, List.takeWhile_append_of_pos hcs, hend, List.append_nil,
      Nat.add_comm]
  have htake : (c :: (cs ++ rest)).take (cs.length + 1) = c :: cs := by
    rw [List.take_succ_cons, List.take_left]
  rw [lexeme?, length?_of_isNameStart hc, stringLength?_of_isNameStart hc,
    operatorLength?_of_isNameStart hc, hname]
  simp only [htake]

/-- A full stop before a name is an operator. -/
theorem lexeme?_dot (hc : isNameStart c = true) (cs : List Symbol) :
    lexeme? (.char '.' :: c :: cs) = some (some .operator, 1) := by
  have hnumeral : Numeral.length? (.char '.' :: c :: cs) = none := by
    have hwhole : Numeral.digitCount (.char '.' :: c :: cs) = 0 := by
      rw [Numeral.digitCount, List.takeWhile_cons_of_neg (by decide)]
      rfl
    rw [Numeral.length?, Numeral.mantissaLength?, hwhole, List.drop_zero]
    simp only [digitCount_of_isNameStart hc]
    rfl
  have hoperator : operatorLength? (.char '.' :: c :: cs) = some 1 := rfl
  rw [lexeme?, hnumeral, hoperator]
  rfl

/-- The tokens of names behind full stops, from an offset on. -/
def dottedTokens : Nat → List Text → List Token
  | offset, [] => [⟨.finish, "", offset⟩]
  | offset, n :: ns =>
    ⟨.operator, ".", offset⟩ :: ⟨.name, n, offset + 1⟩ :: dottedTokens (offset + 1 + n.length) ns

/-- An identifier in front of symbols that no name has is a token. -/
theorem tokensFrom_name (h : n.IsIdentifier) (hrest : ∀ d ∈ rest.head?, isNameRest d = false)
    (offset : Nat) :
    tokensFrom offset (n.toList ++ rest) =
      (tokensFrom (offset + n.length) rest).map (⟨.name, n, offset⟩ :: ·) := by
  obtain ⟨c, cs, hn, hc, hcs⟩ := exists_start h
  have hkeyword : keywords.contains n = false := by
    rw [List.contains_eq_mem, decide_eq_false_iff_not]
    exact h.free
  obtain ⟨s⟩ := n
  obtain rfl : s = c :: cs := hn
  have hlexeme := lexeme?_name hc hcs hrest
  rw [hkeyword] at hlexeme
  have htake : (c :: (cs ++ rest)).take (cs.length + 1) = c :: cs := by
    rw [List.take_succ_cons, List.take_left]
  have hdrop : (cs ++ rest).drop (cs.length + 1 - 1) = rest := by
    rw [Nat.add_sub_cancel, List.drop_left]
  rw [List.cons_append, tokensFrom, hlexeme]
  simp only [htake, hdrop]
  rfl

theorem tokensFrom_dot (h : n.IsIdentifier) (rest : List Symbol) (offset : Nat) :
    tokensFrom offset (.char '.' :: (n.toList ++ rest)) =
      (tokensFrom (offset + 1) (n.toList ++ rest)).map (⟨.operator, ".", offset⟩ :: ·) := by
  obtain ⟨c, cs, hn, hc, -⟩ := exists_start h
  rw [hn, List.cons_append, tokensFrom, lexeme?_dot hc]
  rfl

/-- A full stop goes on with no name. -/
theorem isNameRest_of_dotted (ns : List Text) :
    ∀ d ∈ (Text.dotted ns).head?, isNameRest d = false := by
  intro d hd
  cases ns with
  | nil => cases hd
  | cons n ns =>
    obtain rfl := Option.some.inj hd
    decide

theorem tokensFrom_dotted (h : ∀ m ∈ ns, m.IsIdentifier) (offset : Nat) :
    tokensFrom offset (Text.dotted ns) = .ok (dottedTokens offset ns) := by
  induction ns generalizing offset with
  | nil => rw [Text.dotted, List.flatMap_nil, tokensFrom, dottedTokens]
  | cons n ns ih =>
    obtain ⟨hn, hns⟩ := List.forall_mem_cons.1 h
    rw [Text.dotted_cons, tokensFrom_dot hn, tokensFrom_name hn (isNameRest_of_dotted ns), ih hns]
    rfl

theorem tokenize_intercalate (h : ∀ m ∈ n :: ns, m.IsIdentifier) :
    tokenize (Text.intercalate "." (n :: ns)) =
      .ok (⟨.name, n, 0⟩ :: dottedTokens n.length ns) := by
  obtain ⟨hn, hns⟩ := List.forall_mem_cons.1 h
  rw [tokenize, Text.toList_intercalate, tokensFrom_name hn (isNameRest_of_dotted ns),
    tokensFrom_dotted hns, Nat.zero_add]
  rfl

/-! ### Trees -/

/-- The tree that takes members one after the other, from a tree on. -/
def Tree.members (t : Tree) (ns : List Text) : Tree := ns.foldl .member t

/-- The levels of operators add nothing to what stands before the end. -/
theorem ladder_finish {operand : Parse Tree} {ts : List Token} {t : Tree} {last : Token}
    (h : operand ts = .ok (t, [last])) (hlast : last.kind = .finish) :
    ladder operand ts = .ok (t, [last]) := by
  refine ladder_keeps (motive := fun p => p ts = .ok (t, [last])) h fun level hlevel p hp => ?_
  have hnone : level (peek [last]) = none := level_finish hlevel hlast
  rw [atLevel, hp]
  change chain level p 1 t [last] = _
  rw [chain, hnone]

/-- An operand up to the end is a whole expression. -/
theorem conditional_operand {budget : Nat} {ts : List Token} {t : Tree} {last : Token}
    (h : unary budget ts = .ok (t, [last])) (hlast : last.kind = .finish) :
    conditional (budget + 1) ts = .ok (t, [last]) := by
  have hmark : isOperator "?" (peek [last]) = false := by
    rw [isOperator, peek, List.headD_cons, hlast]
    rfl
  rw [conditional, ladder_finish h hlast]
  simp only [hmark]
  rfl

theorem parseTokens_operand {budget : Nat} {ts : List Token} {t : Tree} {last : Token}
    (h : unary budget ts = .ok (t, [last])) (hlast : last.kind = .finish)
    (hfirst : (peek ts).kind ≠ .finish) : parseTokens (budget + 1) ts = .ok t := by
  rw [parseTokens, if_neg (by simpa using hfirst), conditional_operand h hlast]
  simp [peek, hlast]

end Expr
end RuleLedger
