import RuleLedger.Proofs.Expr.Language
import RuleLedger.Proofs.Expr.Lexemes

/-! The tokens of an expression text. Main statement: they account for the whole text, whose other
symbols are blanks, and the same kinds and texts are read where single spaces stand between them; a
text without tokens stops at a symbol where no lexeme begins. -/
namespace RuleLedger.Expr

variable {cs t rest before gap : List Symbol} {ts : List Token} {offset n : Nat} {k : TokenKind}

/-! ### One step -/

theorem part_of_lexeme? {kind : Option TokenKind} {c : Symbol}
    (h : lexeme? (c :: rest) = some (kind, n)) :
    (c :: rest).take n ++ rest.drop (n - 1) = c :: rest ∧ ((c :: rest).take n).length = n := by
  obtain ⟨hpos, hle⟩ := (lexeme_of_eq_some h).bounds
  have hdrop : rest.drop (n - 1) = (c :: rest).drop n := by
    cases n with
    | zero => exact absurd hpos (Nat.lt_irrefl 0)
    | succ n => rfl
  rw [hdrop, List.length_take, Nat.min_eq_left hle]
  exact ⟨List.take_append_drop n _, rfl⟩

theorem isBlank_of_mem_take (h : lexeme? cs = some (none, n)) :
    ∀ c ∈ cs.take n, Text.isBlank c = true := by
  cases lexeme_of_eq_some h with
  | blank =>
    have hpart := List.takeWhile_prefix (l := cs) Text.isBlank
    rw [← List.prefix_iff_eq_take.1 hpart]
    exact fun c hc => List.mem_takeWhile_imp hc

theorem tokensFrom_blank (h : lexeme? (gap ++ rest) = some (none, gap.length)) (offset : Nat) :
    tokensFrom offset (gap ++ rest) = tokensFrom (offset + gap.length) rest := by
  cases gap with
  | nil => exact absurd (lexeme_of_eq_some h).bounds.1 (Nat.lt_irrefl 0)
  | cons c gap =>
    rw [List.cons_append] at h ⊢
    rw [tokensFrom, h]
    simp

theorem tokensFrom_token (h : lexeme? (t ++ rest) = some (some k, t.length)) (offset : Nat) :
    tokensFrom offset (t ++ rest) =
      (tokensFrom (offset + t.length) rest).map (⟨k, ⟨t⟩, offset⟩ :: ·) := by
  cases t with
  | nil => exact absurd (lexeme_of_eq_some h).bounds.1 (Nat.lt_irrefl 0)
  | cons c t =>
    have htake : (c :: (t ++ rest)).take (c :: t).length = c :: t := List.take_left
    have hdrop : (t ++ rest).drop ((c :: t).length - 1) = rest := List.drop_left
    rw [List.cons_append] at h ⊢
    rw [tokensFrom, h]
    simp only [htake, hdrop]
    rfl

/-! ### Tokens along a text -/

/-- Tokens along a text that stands behind other symbols. -/
inductive Along : List Symbol → List Symbol → List Token → Prop
  | finish (before : List Symbol) : Along before [] [⟨.finish, "", before.length⟩]
  | blank {before gap rest : List Symbol} {ts : List Token} :
      (∀ c ∈ gap, Text.isBlank c = true) → Along (before ++ gap) rest ts →
        Along before (gap ++ rest) ts
  | token {before t rest : List Symbol} {k : TokenKind} {ts : List Token} :
      lexeme? (t ++ rest) = some (some k, t.length) → Along (before ++ t) rest ts →
        Along before (t ++ rest) (⟨k, ⟨t⟩, before.length⟩ :: ts)

theorem along_of_tokensFrom (h : tokensFrom offset cs = .ok ts) (hbefore : before.length = offset) :
    Along before cs ts := by
  induction offset, cs using tokensFrom.induct generalizing before ts with
  | case1 offset =>
    rw [tokensFrom] at h
    obtain rfl := Except.ok.inj h
    exact hbefore ▸ .finish before
  | case2 offset c rest hl =>
    rw [tokensFrom, hl] at h
    cases h
  | case3 offset c rest n hl ih =>
    obtain ⟨hpart, hlength⟩ := part_of_lexeme? hl
    rw [tokensFrom, hl] at h
    have hnext : (before ++ (c :: rest).take n).length = offset + n := by
      rw [List.length_append, hlength, hbefore]
    have hrest := ih h hnext
    exact hpart ▸ .blank (isBlank_of_mem_take hl) hrest
  | case4 offset c rest kind n hl ih =>
    obtain ⟨hpart, hlength⟩ := part_of_lexeme? hl
    rw [tokensFrom, hl] at h
    obtain ⟨more, hmore, hts⟩ := bind_eq_ok.1 h
    obtain rfl := Except.ok.inj hts
    have hnext : (before ++ (c :: rest).take n).length = offset + n := by
      rw [List.length_append, hlength, hbefore]
    have hlexeme : lexeme? ((c :: rest).take n ++ rest.drop (n - 1)) =
        some (some kind, ((c :: rest).take n).length) := by
      rw [hpart, hlength, hl]
    have halong := Along.token hlexeme (ih hmore hnext)
    rwa [hpart, hbefore] at halong

/-- A symbol of a text at which no lexeme begins, and the fault that names it. -/
def StopsAt (offset : Nat) (cs : List Symbol) (f : ParseFault) : Prop :=
  ∃ before c rest, cs = before ++ c :: rest ∧ lexeme? (c :: rest) = none ∧
    f = .unexpectedCharacter c (offset + before.length)

theorem StopsAt.behind {f : ParseFault} (h : StopsAt (offset + n) rest f) (ht : t.length = n) :
    StopsAt offset (t ++ rest) f := by
  obtain ⟨before, c, more, hrest, hnone, hf⟩ := h
  refine ⟨t ++ before, c, more, ?_, hnone, ?_⟩
  · rw [List.append_assoc, ← hrest]
  · rw [hf, List.length_append, ht, Nat.add_assoc]

/-- A text without tokens stops where no lexeme begins. -/
theorem stopsAt_of_tokensFrom {f : ParseFault} (h : tokensFrom offset cs = .error f) :
    StopsAt offset cs f := by
  induction offset, cs using tokensFrom.induct with
  | case1 offset =>
    rw [tokensFrom] at h
    cases h
  | case2 offset c rest hl =>
    rw [tokensFrom, hl] at h
    exact ⟨[], c, rest, rfl, hl, (Except.error.inj h).symm⟩
  | case3 offset c rest n hl ih =>
    obtain ⟨hpart, hlength⟩ := part_of_lexeme? hl
    rw [tokensFrom, hl] at h
    exact hpart ▸ (ih h).behind hlength
  | case4 offset c rest kind n hl ih =>
    obtain ⟨hpart, hlength⟩ := part_of_lexeme? hl
    rw [tokensFrom, hl] at h
    obtain h | ⟨more, -, h⟩ := bind_eq_error.1 h
    · exact hpart ▸ (ih h).behind hlength
    · cases h

namespace Along

/-- No token lies in the symbols before the text. -/
theorem le_offset (h : Along before cs ts) : ∀ t ∈ ts, before.length ≤ t.offset := by
  induction h with
  | finish before => simp
  | blank _ _ ih =>
    intro t ht
    have := ih t ht
    rw [List.length_append] at this
    omega
  | token _ _ ih =>
    refine List.forall_mem_cons.2 ⟨le_refl _, fun t ht => ?_⟩
    have := ih t ht
    rw [List.length_append] at this
    omega

/-- A token ends before the next one starts. -/
theorem apart (h : Along before cs ts) :
    ts.Pairwise fun t u => t.offset + t.text.length ≤ u.offset := by
  induction h with
  | finish before => exact List.pairwise_singleton _ _
  | blank _ _ ih => exact ih
  | token _ hrest ih =>
    refine List.pairwise_cons.2 ⟨fun u hu => ?_, ih⟩
    have := hrest.le_offset u hu
    rwa [List.length_append] at this

theorem increasing (h : Along before cs ts) : ts.Pairwise fun t u => t.offset < u.offset := by
  induction h with
  | finish before => exact List.pairwise_singleton _ _
  | blank _ _ ih => exact ih
  | token hlexeme hrest ih =>
    refine List.pairwise_cons.2 ⟨fun u hu => ?_, ih⟩
    have hpos := (lexeme_of_eq_some hlexeme).bounds.1
    have := hrest.le_offset u hu
    rw [List.length_append] at this
    dsimp only
    omega

/-- The text of a token is what stands at its offset. -/
theorem slice (h : Along before cs ts) :
    ∀ t ∈ ts, ((before ++ cs).drop t.offset).take t.text.length = t.text.toList := by
  induction h with
  | finish before => exact List.forall_mem_singleton.2 rfl
  | blank _ _ ih => rwa [List.append_assoc] at ih
  | token _ _ ih =>
    rw [List.append_assoc] at ih
    refine List.forall_mem_cons.2 ⟨?_, ih⟩
    dsimp only
    rw [List.drop_left]
    exact List.take_left

/-- What belongs to no token is blank. -/
theorem isBlank (h : Along before cs ts) {i : Nat} {c : Symbol} (hi : before.length ≤ i)
    (hc : (before ++ cs)[i]? = some c)
    (hfree : ∀ t ∈ ts, ¬(t.offset ≤ i ∧ i < t.offset + t.text.length)) :
    Text.isBlank c = true := by
  induction h with
  | finish before =>
    rw [List.append_nil, List.getElem?_eq_none hi] at hc
    cases hc
  | @blank before gap rest ts hgap _ ih =>
    rw [← List.append_assoc] at hc
    by_cases hin : i < (before ++ gap).length
    · rw [List.getElem?_append_left hin, List.getElem?_append_right hi] at hc
      exact hgap c (List.mem_of_getElem? hc)
    · exact ih (Nat.le_of_not_lt hin) hc hfree
  | @token before t rest k ts _ _ ih =>
    obtain ⟨hfirst, hfree⟩ := List.forall_mem_cons.1 hfree
    have hout : (before ++ t).length ≤ i := by
      have hlength : (⟨t⟩ : Text).length = t.length := rfl
      rw [List.length_append]
      dsimp only at hfirst
      omega
    rw [← List.append_assoc] at hc
    exact ih hout hc hfree

/-- The last token, and no other, is that of the end. -/
theorem ends (h : Along before cs ts) :
    ∃ tokens, ts = tokens ++ [⟨.finish, "", (before ++ cs).length⟩] ∧
      ∀ t ∈ tokens, t.kind ≠ .finish := by
  induction h with
  | finish before => exact ⟨[], by simp, nofun⟩
  | blank _ _ ih => rwa [List.append_assoc] at ih
  | token hlexeme _ ih =>
    obtain ⟨tokens, hts, hkinds⟩ := ih
    rw [List.append_assoc] at hts
    refine ⟨_ :: tokens, congrArg _ hts, List.forall_mem_cons.2 ⟨?_, hkinds⟩⟩
    exact fun hk => lexeme?_ne_finish hlexeme (congrArg some hk)

end Along

/-! ### Single spaces -/

/-- The texts of tokens with a space between any two. -/
def spaced (ts : List Token) : Text := Text.intercalate " " (ts.map Token.text)

/-- A token apart from its place. -/
def Token.word (t : Token) : TokenKind × Text := (t.kind, t.text)

theorem toList_spaced (t : Token) (hne : ts ≠ []) :
    (spaced (t :: ts)).toList = t.text.toList ++ .char ' ' :: (spaced ts).toList := by
  cases ts with
  | nil => exact absurd rfl hne
  | cons u ts =>
    simp only [spaced, Text.intercalate, List.map_cons, List.intercalate,
      List.intersperse_cons_cons, List.flatten_cons]
    rfl

/-- A single space is passed over. -/
theorem tokensFrom_space (hhead : ∀ c ∈ cs.head?, Text.isBlank c = false) (offset : Nat) :
    tokensFrom offset (.char ' ' :: cs) = tokensFrom (offset + 1) cs := by
  have hspace : Text.isBlank (.char ' ') = true := by
    rw [Text.isBlank, Text.Ranges.has_eq_any_toList]
    decide
  have hnone : cs.takeWhile Text.isBlank = [] := by
    cases cs with
    | nil => rfl
    | cons c cs => exact List.takeWhile_cons_of_neg (by simp [hhead c rfl])
  have hlexeme : lexeme? ([.char ' '] ++ cs) = some (none, [Symbol.char ' '].length) := by
    rw [List.singleton_append, lexeme?_of_isBlank hspace, List.takeWhile_cons_of_pos hspace, hnone]
  exact tokensFrom_blank hlexeme offset

namespace Along

theorem ne_nil (h : Along before cs ts) : ts ≠ [] := by
  induction h with
  | finish => exact List.cons_ne_nil _ _
  | blank _ _ ih => exact ih
  | token => exact List.cons_ne_nil _ _

/-- The first token does not start with a blank. -/
theorem head_spaced (h : Along before cs ts) :
    ∀ c ∈ (spaced ts).toList.head?, Text.isBlank c = false := by
  induction h with
  | finish => exact nofun
  | blank _ _ ih => exact ih
  | @token before t rest k ts hlexeme hrest ih =>
    cases t with
    | nil => exact absurd (lexeme_of_eq_some hlexeme).bounds.1 (Nat.lt_irrefl 0)
    | cons c t =>
      have hhead := not_isBlank_of_lexeme? hlexeme
      rw [toList_spaced _ hrest.ne_nil]
      exact hhead

/-- Tokens are read again where single spaces stand between their texts. -/
theorem tokensFrom_spaced (h : Along before cs ts) (offset : Nat) :
    ∃ us, tokensFrom offset (spaced ts).toList = .ok us ∧ us.map Token.word = ts.map Token.word := by
  induction h generalizing offset with
  | finish before =>
    refine ⟨[⟨.finish, "", offset⟩], ?_, rfl⟩
    change tokensFrom offset [] = _
    rw [tokensFrom]
  | blank _ _ ih => exact ih offset
  | @token before t rest k ts hlexeme hrest ih =>
    obtain ⟨us, hus, hwords⟩ := ih (offset + t.length + 1)
    have hspaced : Spaced (.char ' ' :: (spaced ts).toList) := by
      intro c hc
      exact (Option.some.inj hc).symm
    have hagain := (lexeme_of_eq_some hlexeme).congr hspaced
    refine ⟨⟨k, ⟨t⟩, offset⟩ :: us, ?_, ?_⟩
    · rw [toList_spaced _ hrest.ne_nil, tokensFrom_token hagain, tokensFrom_space hrest.head_spaced, hus]
      rfl
    · rw [List.map_cons, List.map_cons, hwords]
      rfl

end Along

/-! ### Whole texts -/

/-- Tokens that account for a text. -/
structure Accounts (source : Text) (ts : List Token) : Prop where
  increasing : ts.Pairwise fun t u => t.offset < u.offset
  /-- No token reaches into the next one. -/
  apart : ts.Pairwise fun t u => t.offset + t.text.length ≤ u.offset
  /-- A token stands for what is found at its offset. -/
  slice : ∀ t ∈ ts, (source.toList.drop t.offset).take t.text.length = t.text.toList
  /-- What belongs to no token is blank. -/
  blank : ∀ i c, source.toList[i]? = some c →
    (∀ t ∈ ts, ¬(t.offset ≤ i ∧ i < t.offset + t.text.length)) → Text.isBlank c = true
  /-- There is one token of the end, at the length of the text, and it is the last one. -/
  ends : ∃ tokens, ts = tokens ++ [⟨.finish, "", source.length⟩] ∧ ∀ t ∈ tokens, t.kind ≠ .finish

theorem accounts_of_tokenize {source : Text} (h : tokenize source = .ok ts) :
    Accounts source ts := by
  have halong : Along [] source.toList ts := along_of_tokensFrom h rfl
  exact ⟨halong.increasing, halong.apart, halong.slice,
    fun i c hc hfree => halong.isBlank (Nat.zero_le i) hc hfree, halong.ends⟩

/-- A text has tokens that account for it, and the same kinds and texts are read where single spaces
stand between their texts; or it is refused at the first symbol where no lexeme begins. Whatever is
read at a time is a part of the text that is not empty. -/
theorem tokenize_lossless (source : Text) :
    ((∃ ts, tokenize source = .ok ts ∧ Accounts source ts ∧
        ∃ us, tokenize (spaced ts) = .ok us ∧ us.map Token.word = ts.map Token.word) ∨
      ∃ before c rest, source.toList = before ++ c :: rest ∧ lexeme? (c :: rest) = none ∧
        tokenize source = .error (.unexpectedCharacter c before.length)) ∧
    ∀ cs kind n, lexeme? cs = some (kind, n) → 0 < n ∧ n ≤ cs.length := by
  refine ⟨?_, fun cs kind n h => (lexeme_of_eq_some h).bounds⟩
  cases h : tokenize source with
  | ok ts =>
    have halong : Along [] source.toList ts := along_of_tokensFrom h rfl
    exact .inl ⟨ts, rfl, accounts_of_tokenize h, halong.tokensFrom_spaced 0⟩
  | error f =>
    obtain ⟨before, c, rest, hsource, hnone, rfl⟩ := stopsAt_of_tokensFrom h
    exact .inr ⟨before, c, rest, hsource, hnone, by rw [Nat.zero_add]⟩

/-- The same tokens of `a.b` and of the text with spaces, and what is read at the full stop. -/
theorem tokenize_lossless_dotted :
    Accounts "a.b" [⟨.name, "a", 0⟩, ⟨.operator, ".", 1⟩, ⟨.name, "b", 2⟩, ⟨.finish, "", 3⟩] ∧
      (∃ us, tokenize "a . b " = .ok us ∧
        us.map Token.word = [(TokenKind.name, Text.ofString "a"), (TokenKind.operator, "."),
          (TokenKind.name, "b"), (TokenKind.finish, "")]) ∧
      lexeme? [.char '.', .char 'b'] = some (some .operator, 1) ∧
      0 < 1 ∧ 1 ≤ [Symbol.char '.', Symbol.char 'b'].length := by
  have hnames : ∀ m ∈ [Text.ofString "a", Text.ofString "b"], m.IsIdentifier := by
    refine List.forall_mem_cons.2 ⟨⟨by decide, ⟨_, rfl, rfl⟩, by decide⟩, ?_⟩
    exact List.forall_mem_singleton.2 ⟨by decide, ⟨_, rfl, rfl⟩, by decide⟩
  have hread := tokenize_intercalate hnames
  have hdot : lexeme? [.char '.', .char 'b'] = some (some .operator, 1) := lexeme?_dot (by decide) []
  have hcase := tokenize_lossless (Text.intercalate "." ["a", "b"])
  obtain ⟨⟨ts, hts, hall, hagain⟩ | ⟨before, c, rest, -, -, hfault⟩, hadvance⟩ := hcase
  · obtain rfl := Except.ok.inj (hread.symm.trans hts)
    exact ⟨hall, hagain, hdot, hadvance _ _ _ hdot⟩
  · exact absurd (hread.symm.trans hfault) nofun

end RuleLedger.Expr
