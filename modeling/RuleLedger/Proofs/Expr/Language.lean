import RuleLedger.Proofs.Expr.Accepting
import RuleLedger.Proofs.Expr.Refusing

/-! The language of expressions. Main statement: of the tokens of a text the parser makes the tree
of the only form that the grammar derives with them, or, when there is none, a fault of parsing, and
nothing behind the end matters. -/
namespace RuleLedger.Expr

variable {ts : List Token} {f : Form} {budget : Nat}

/-! ### The end of a text -/

theorem lexeme?_ne_finish {cs : List Symbol} {kind : Option TokenKind} {n : Nat}
    (h : lexeme? cs = some (kind, n)) : kind ≠ some .finish := by
  rw [lexeme?] at h
  split at h
  · obtain ⟨rfl, -⟩ := Prod.mk.inj (Option.some.inj h)
    nofun
  · obtain ⟨rfl, -⟩ := Prod.mk.inj (Option.some.inj h)
    nofun
  · obtain ⟨rfl, -⟩ := Prod.mk.inj (Option.some.inj h)
    nofun
  · obtain ⟨rfl, -⟩ := Prod.mk.inj (Option.some.inj h)
    split <;> nofun
  · dsimp only at h
    split at h
    · cases h
    · obtain ⟨rfl, -⟩ := Prod.mk.inj (Option.some.inj h)
      nofun

/-- The tokens of a text end with the only token of their end. -/
theorem exists_finish {offset : Nat} {cs : List Symbol} (h : tokensFrom offset cs = .ok ts) :
    ∃ before last, ts = before ++ [last] ∧ last.kind = .finish ∧
      ∀ t ∈ before, t.kind ≠ .finish := by
  induction offset, cs using tokensFrom.induct generalizing ts with
  | case1 offset =>
    rw [tokensFrom] at h
    obtain rfl := Except.ok.inj h
    exact ⟨[], _, rfl, rfl, nofun⟩
  | case2 offset c rest hl =>
    rw [tokensFrom, hl] at h
    cases h
  | case3 offset c rest n hl ih =>
    rw [tokensFrom, hl] at h
    exact ih h
  | case4 offset c rest kind n hl ih =>
    rw [tokensFrom, hl] at h
    obtain ⟨more, hmore, hts⟩ := bind_eq_ok.1 h
    obtain rfl := Except.ok.inj hts
    obtain ⟨before, last, rfl, hlast, hbefore⟩ := ih hmore
    refine ⟨_ :: before, last, rfl, hlast, fun t ht => ?_⟩
    obtain rfl | ht := List.mem_cons.1 ht
    · exact fun hk => lexeme?_ne_finish hl (congrArg some hk)
    · exact hbefore t ht

theorem Form.Derives.kind_of_mem {φ : Phrase} (h : f.Derives φ) :
    ∀ t ∈ f.tokens, t.kind ≠ .finish := by
  induction h with
  | leaf ht =>
    intro t hmem hk
    obtain rfl := List.mem_singleton.1 hmem
    rw [leaf?, hk] at ht
    cases ht
  | unary hop _ ih =>
    obtain ⟨o, ho⟩ := Option.isSome_iff_exists.1 hop
    exact List.forall_mem_cons.2 ⟨kind_of_unaryRule? ho, ih⟩
  | binary _ hr _ hl hright =>
    exact List.forall_mem_append.2 ⟨hl, List.forall_mem_cons.2 ⟨kind_of_binaryRule? hr, hright⟩⟩
  | member _ hdot hname ih =>
    refine List.forall_mem_append.2 ⟨ih, List.forall_mem_cons.2 ⟨not_finish_of_isOperator hdot, ?_⟩⟩
    intro t hmem
    obtain rfl := List.mem_singleton.1 hmem
    simp [hname]
  | expression _ ih | level _ _ ih | operand _ ih | suffixed _ ih | primary _ ih
  | arguments _ ih => exact ih
  | _ => grind [Form.tokens, not_finish_of_isOperator]

theorem continues_finish {t : Token} (h : t.kind = .finish) : continues .expression t = false := by
  have hop (s : String) : isOperator s t = false := by
    rw [Bool.eq_false_iff]
    exact fun hs => not_finish_of_isOperator hs h
  have hnone : binaryRule? t = none :=
    Option.eq_none_iff_forall_ne_some.2 fun r hr => kind_of_binaryRule? hr h
  rw [continues, isSuffix, hop, hop, hop, hop, hnone]
  rfl

/-- What stands before the first end is the same, however the tokens are split. -/
theorem before_inj {a b : List Token} {t u : Token} {r s : List Token}
    (ha : ∀ x ∈ a, x.kind ≠ .finish) (hb : ∀ x ∈ b, x.kind ≠ .finish) (ht : t.kind = .finish)
    (hu : u.kind = .finish) (h : a ++ t :: r = b ++ u :: s) : a = b := by
  have htake {a : List Token} {t : Token} (ha : ∀ x ∈ a, x.kind ≠ .finish)
      (ht : t.kind = .finish) (r : List Token) :
      (a ++ t :: r).takeWhile (fun x => x.kind != .finish) = a := by
    rw [List.takeWhile_append_of_pos fun x hx => bne_iff_ne.2 (ha x hx),
      List.takeWhile_cons_of_neg (by simp [ht]), List.append_nil]
  rw [← htake ha ht r, h, htake hb hu s]

/-! ### The language -/

/-- Tokens before an end are read when the grammar derives them. -/
theorem parseTokens_eq_ok {before : List Token} {last : Token} {e : Tree}
    (hlast : last.kind = .finish) (hbefore : ∀ t ∈ before, t.kind ≠ .finish)
    (hb : 10 * (before ++ [last]).length + 2 ≤ budget) :
    parseTokens budget (before ++ [last]) = .ok e ↔
      ∃ f : Form, f.Derives .expression ∧ f.tokens = before ∧ f.tree = e := by
  have hmirror := (parsers_mirror budget).1 (before ++ [last])
  constructor
  · intro h
    rw [parseTokens, hmirror] at h
    split_ifs at h with hempty
    · cases h
    cases hf : Forms.conditional budget (before ++ [last]) with
    | error g =>
      rw [hf] at h
      cases h
    | ok r =>
      obtain ⟨f, rest⟩ := r
      obtain ⟨hderives, htokens⟩ := (parsers_read budget).1 _ _ _ hf
      rw [hf] at h
      dsimp only [Except.map] at h
      have hend : ((peek rest).kind == .finish) = true := by
        split_ifs at h with hend
        · exact hend
        · cases h
      rw [if_pos hend] at h
      refine ⟨f, hderives, ?_, Except.ok.inj h⟩
      cases rest with
      | nil =>
        have hmem : last ∈ f.tokens := by
          rw [List.append_nil] at htokens
          exact htokens ▸ List.mem_append_right _ (List.mem_singleton_self last)
        exact absurd hlast (hderives.kind_of_mem last hmem)
      | cons t rest =>
        exact before_inj hderives.kind_of_mem hbefore (beq_iff_eq.1 hend) hlast htokens.symm
  · rintro ⟨f, hf, rfl, rfl⟩
    have hread := (parsers_accept (f.tokens ++ [last]).length).2 budget hb f [last] hf (by simp)
      (continues_finish hlast)
    have hpeek : ¬((peek (f.tokens ++ [last])).kind == .finish) = true := by
      obtain ⟨t, ts, hts⟩ := List.exists_cons_of_length_pos f.tokens_length_pos
      rw [hts, beq_iff_eq]
      exact hbefore t (hts ▸ List.mem_cons_self)
    rw [parseTokens, if_neg hpeek, hmirror, hread]
    exact if_pos (beq_iff_eq.2 hlast)

/-- Of the tokens of a text whose numerals can be read, the parser makes the tree of the expression
that the grammar derives with those before the end. There is at most one; where there is none it
refuses them, and whatever follows the end changes nothing. -/
theorem parseTokens_of_tokenize {source : Text} (h : tokenize source = .ok ts)
    (hreadable : ∀ t ∈ ts, t.isReadable = true) (hb : 10 * ts.length + 2 ≤ budget) :
    ∃ before last, ts = before ++ [last] ∧ last.kind = .finish ∧
      (∀ t ∈ before, t.kind ≠ .finish) ∧
      (∀ e, parseTokens budget ts = .ok e ↔
        ∃ f : Form, f.Derives .expression ∧ f.tokens = before ∧ f.tree = e) ∧
      (∀ f g : Form, f.Derives .expression → g.Derives .expression → f.tokens = before →
        g.tokens = before → f = g) ∧
      ((∀ e, parseTokens budget ts ≠ .ok e) → ∃ g, parseTokens budget ts = .error (.parse g)) ∧
      ∀ more, parseTokens budget (ts ++ more) = parseTokens budget ts := by
  obtain ⟨before, last, rfl, hlast, hbefore⟩ := exists_finish h
  have hfinished : Finished (before ++ [last]) := ⟨⟨last, by simp, hlast⟩, hreadable⟩
  refine ⟨before, last, rfl, hlast, hbefore, fun e => parseTokens_eq_ok hlast hbefore hb,
    fun f g hf hg hft hgt => hf.unique hg (hft.trans hgt.symm), fun hnone => ?_,
    fun more => (parseTokens_settled hfinished hb more).2⟩
  obtain ⟨e, he⟩ | hrefused := (parseTokens_settled hfinished hb []).1
  · exact absurd he (hnone e)
  · exact hrefused

/-- The tokens of two differences in a row. -/
def differences : List Token :=
  [⟨.name, "a", 0⟩, ⟨.operator, "-", 1⟩, ⟨.name, "b", 2⟩, ⟨.operator, "-", 3⟩, ⟨.number, "1", 4⟩,
    ⟨.finish, "", 5⟩]

theorem tokenize_differences : tokenize "a-b-1" = .ok differences := by
  have ha : lexeme? ['a', '-', 'b', '-', '1'] = some (some .name, 1) := by decide +kernel
  have hfirst : lexeme? ['-', 'b', '-', '1'] = some (some .operator, 1) := by decide +kernel
  have hb : lexeme? ['b', '-', '1'] = some (some .name, 1) := by decide +kernel
  have hsecond : lexeme? ['-', '1'] = some (some .operator, 1) := by decide +kernel
  have hone : lexeme? ['1'] = some (some .number, 1) := by decide +kernel
  have hsource : (Text.ofString "a-b-1").toList =
      [.char 'a', .char '-', .char 'b', .char '-', .char '1'] := by decide +kernel
  rw [tokenize, hsource]
  simp only [tokensFrom, Nat.sub_self, List.drop_zero, ha, hfirst, hb, hsecond, hone]
  rfl

/-- Differences group to the left, and what stands behind the end is not read. -/
theorem parseTokens_differences :
    (∃ f : Form, f.Derives .expression ∧ f.tokens = differences.dropLast ∧
      f.tree = .binary (.arith .sub) (.binary (.arith .sub) (.name "a") (.name "b"))
        (.literal (.int 1))) ∧
      ∀ more, parseTokens 62 (differences ++ more) = parseTokens 62 differences := by
  have hbudget : 10 * differences.length + 2 ≤ 62 := by decide
  obtain ⟨before, last, hts, -, -, hiff, -, -, hmore⟩ :=
    parseTokens_of_tokenize tokenize_differences (by decide +kernel) hbudget
  have hbefore : before = differences.dropLast := by rw [hts, List.dropLast_concat]
  exact ⟨hbefore ▸ (hiff _).1 rfl, hmore⟩
end RuleLedger.Expr
