import RuleLedger.Proofs.Expr.Tokens

/-! Text literals. Main statement: a text between quotes, with a backslash before each of its
backslashes and quotes, is one token, and as an expression it is the literal of the text. -/
namespace RuleLedger.Expr

variable {c : Symbol}

/-- The quotes that a literal may stand between. -/
inductive Quote where
  | single | double
deriving Repr, DecidableEq

def Quote.symbol : Quote → Symbol
  | .single => '\''
  | .double => '"'

theorem Quote.symbol_ne_backslash (q : Quote) : q.symbol ≠ .char '\\' := by
  cases q <;> decide

/-- Symbols with a backslash before every backslash and every quote. -/
def escape (q : Quote) (cs : List Symbol) : List Symbol :=
  cs.flatMap fun c => if c = .char '\\' ∨ c = q.symbol then [.char '\\', c] else [c]

theorem escape_cons (q : Quote) (c : Symbol) (cs : List Symbol) :
    escape q (c :: cs) =
      if c = .char '\\' ∨ c = q.symbol then .char '\\' :: c :: escape q cs
      else c :: escape q cs := by
  rw [escape, List.flatMap_cons]
  split_ifs <;> rfl

/-- A text as the source of an expression. -/
def literalText (q : Quote) (s : Text) : Text := ⟨q.symbol :: (escape q s.toList ++ [q.symbol])⟩

/-! ### The end of a literal -/

/-- The symbols of an escaped text do not end the literal, the quote behind them does. -/
theorem bodyLength?_escape (q : Quote) (cs rest : List Symbol) :
    bodyLength? q.symbol (escape q cs ++ q.symbol :: rest) =
      some ((escape q cs).length + 1) := by
  induction cs with
  | nil =>
    rw [escape, List.flatMap_nil, List.nil_append, bodyLength?_cons q.symbol_ne_backslash,
      if_pos rfl]
    rfl
  | cons c cs ih =>
    rw [escape_cons]
    split_ifs with hc
    · -- what is escaped is a backslash or a quote, so it does not end the line
      have hline : c ≠ .char '\n' := by
        rintro rfl
        cases q <;> simp [Quote.symbol] at hc
      rw [List.cons_append, List.cons_append, bodyLength?, if_neg hline, ih]
      rfl
    · obtain ⟨hslash, hquote⟩ := not_or.1 hc
      rw [List.cons_append, bodyLength?_cons hslash, if_neg hquote, ih]
      rfl

theorem stringLength?_literalText (q : Quote) (s : Text) :
    stringLength? (literalText q s).toList = some (literalText q s).length := by
  have hquote : (q.symbol = .char '"' || q.symbol = .char '\'') = true := by cases q <;> rfl
  rw [literalText, stringLength?, if_pos hquote, bodyLength?_escape]
  simp [Text.length]

theorem lexeme?_literalText (q : Quote) (s : Text) :
    lexeme? (literalText q s).toList = some (some .string, (literalText q s).length) := by
  refine lexeme?_string ?_ (stringLength?_literalText q s)
  cases q <;> exact length?_eq_none (by decide) (by decide) _

theorem tokenize_literalText (q : Quote) (s : Text) :
    tokenize (literalText q s) =
      .ok [⟨.string, literalText q s, 0⟩, ⟨.finish, "", (literalText q s).length⟩] := by
  have hlexeme : lexeme? ((literalText q s).toList ++ []) =
      some (some .string, (literalText q s).toList.length) := by
    rw [List.append_nil]
    exact lexeme?_literalText q s
  have hread := tokensFrom_token hlexeme 0
  rw [List.append_nil, tokensFrom, Nat.zero_add] at hread
  exact hread

/-! ### The text of a literal -/

theorem unescapeAll_cons (hc : c ≠ .char '\\') (cs : List Symbol) :
    unescapeAll (c :: cs) = c :: unescapeAll cs := by
  rw [unescapeAll]
  exact fun _ _ he => absurd he hc

/-- A backslash and a quote stand for themselves behind a backslash. -/
theorem unescape_of_escaped (q : Quote) (hc : c = .char '\\' ∨ c = q.symbol) : unescape c = c := by
  obtain rfl | rfl := hc
  · rfl
  · cases q <;> rfl

theorem unescapeAll_escape (q : Quote) (cs : List Symbol) :
    unescapeAll (escape q cs) = cs := by
  induction cs with
  | nil => rfl
  | cons c cs ih =>
    rw [escape_cons]
    split_ifs with hc
    · rw [unescapeAll, unescape_of_escaped q hc, ih]
    · rw [unescapeAll_cons (not_or.1 hc).1, ih]

theorem unquote_literalText (q : Quote) (s : Text) : unquote (literalText q s) = s := by
  rw [literalText, unquote, List.drop_one, List.tail_cons, List.dropLast_concat, unescapeAll_escape]

/-! ### The tree of a literal -/

/-- A text between quotes, with a backslash before each of its backslashes and quotes, is one token
and the literal of the text. -/
theorem parse_literalText (q : Quote) (s : Text) :
    tokenize (literalText q s) =
        .ok [⟨.string, literalText q s, 0⟩, ⟨.finish, "", (literalText q s).length⟩] ∧
      parse (literalText q s) = .ok (.literal (.str s)) := by
  refine ⟨tokenize_literalText q s, ?_⟩
  have hoperand :
      unary 944 [⟨.string, literalText q s, 0⟩, ⟨.finish, "", (literalText q s).length⟩] =
        .ok (.literal (.str (unquote (literalText q s))),
          [⟨.finish, "", (literalText q s).length⟩]) := rfl
  have hfirst : TokenKind.string ≠ .finish := by decide
  rw [unquote_literalText] at hoperand
  rw [parse, tokenize_literalText]
  exact parseTokens_operand hoperand rfl hfirst

end RuleLedger.Expr
