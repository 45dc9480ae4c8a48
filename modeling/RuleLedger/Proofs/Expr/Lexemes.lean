import Mathlib.Data.List.TakeWhile
import RuleLedger.Proofs.Expr.DottedNames

/-! One lexeme of an expression text. Main statements: a lexeme is not empty and starts with a blank
only if it is one of blanks, and it stays the same lexeme where a space or nothing follows it. -/
namespace RuleLedger

variable {cs t rest rest' : List Symbol} {c : Symbol} {n : Nat}

/-- A run that ends within a text ends there whatever follows, if it does not go on. -/
theorem takeWhile_append_congr {α : Type} {p : α → Bool} {t rest rest' : List α}
    (hlength : ((t ++ rest).takeWhile p).length ≤ t.length)
    (hrest : ∀ a ∈ rest'.head?, p a = false) :
    (t ++ rest').takeWhile p = (t ++ rest).takeWhile p := by
  induction t with
  | nil =>
    have hnil : rest.takeWhile p = [] := List.eq_nil_of_length_eq_zero (Nat.le_zero.1 hlength)
    cases rest' with
    | nil => simp [hnil]
    | cons a rest' => simp [hnil, hrest a rfl]
  | cons a t ih =>
    cases hp : p a with
    | false => simp [hp]
    | true => simpa [hp] using ih (by simpa [hp] using hlength)

/-- What is found first among more is found first among fewer. -/
theorem find?_congr {α : Type} {p p' : α → Bool} {l : List α} {a : α} (h : l.find? p = some a)
    (hsub : ∀ b ∈ l, p' b = true → p b = true) (ha : p' a = true) : l.find? p' = some a := by
  induction l with
  | nil => cases h
  | cons b l ih =>
    obtain ⟨hb, hl⟩ := List.forall_mem_cons.1 hsub
    cases hp : p b with
    | true =>
      rw [List.find?_cons_of_pos hp] at h
      obtain rfl := Option.some.inj h
      exact List.find?_cons_of_pos ha
    | false =>
      have hp' : ¬p' b = true := fun hb' => by simp [hp] at hb; simp [hb] at hb'
      rw [List.find?_cons_of_neg (by simp [hp])] at h
      rw [List.find?_cons_of_neg hp']
      exact ih h hl

/-- A text that is empty or starts with a space. -/
def Spaced (cs : List Symbol) : Prop := ∀ c ∈ cs.head?, c = .char ' '

theorem Spaced.head_eq_false {p : Symbol → Bool} (h : Spaced cs) (hp : p (.char ' ') = false) :
    ∀ c ∈ cs.head?, p c = false := fun c hc => h c hc ▸ hp

theorem Spaced.ne_cons (h : Spaced cs) (hc : c ≠ .char ' ') : cs ≠ c :: rest := by
  rintro rfl
  exact hc (h c rfl)

/-- A symbol within a text, and the symbols of the text that stand behind it. -/
theorem exists_drop_append {more : List Symbol} (h : (t ++ rest).drop n = c :: more)
    (hn : n < t.length) :
    ∃ ds, more = ds ++ rest ∧ n + 1 + ds.length = t.length ∧
      ∀ cs, (t ++ cs).drop n = c :: (ds ++ cs) := by
  have hsplit (cs : List Symbol) : (t ++ cs).drop n = t.drop n ++ cs :=
    List.drop_append_of_le_length (Nat.le_of_lt hn)
  have htail : t.drop n = t[n] :: t.drop (n + 1) := List.drop_eq_getElem_cons hn
  have hcons (cs : List Symbol) : (t ++ cs).drop n = t[n] :: (t.drop (n + 1) ++ cs) := by
    rw [hsplit, htail, List.cons_append]
  rw [hcons] at h
  obtain ⟨rfl, rfl⟩ := List.cons.inj h
  refine ⟨t.drop (n + 1), rfl, ?_, hcons⟩
  rw [List.length_drop]
  omega

theorem drop_append_ne {more : List Symbol} (hn : n ≤ t.length)
    (h : ∀ more, (t ++ rest).drop n ≠ c :: more) (hrest : rest' ≠ c :: more) :
    (t ++ rest').drop n ≠ c :: more := by
  intro hdrop
  obtain hlt | rfl := Nat.lt_or_eq_of_le hn
  · obtain ⟨ds, -, -, hwithin⟩ := exists_drop_append hdrop hlt
    exact h (ds ++ rest) (hwithin rest)
  · rw [List.drop_left] at hdrop
    exact hrest hdrop

/-! ### Numerals -/

namespace Numeral

theorem digitCount_le (cs : List Symbol) : digitCount cs ≤ cs.length :=
  (List.takeWhile_sublist _).length_le

theorem digitCount_congr (h : digitCount (t ++ rest) ≤ t.length) (hrest : Spaced rest') :
    digitCount (t ++ rest') = digitCount (t ++ rest) := by
  rw [digitCount, takeWhile_append_congr h (hrest.head_eq_false (by decide)), digitCount]

theorem signLength_le (cs : List Symbol) : signLength cs ≤ cs.length := by
  cases cs with
  | nil => simp [signLength]
  | cons c cs =>
    simp only [signLength]
    split_ifs <;> simp

theorem powerLength_le (cs : List Symbol) : powerLength cs ≤ cs.length := by
  cases cs with
  | nil => simp [powerLength]
  | cons c cs =>
    have hdigits := digitCount_le (cs.drop (signLength cs))
    have hsign := signLength_le cs
    simp only [List.length_drop] at hdigits
    simp only [powerLength, List.length_cons]
    split_ifs <;> omega

theorem mantissaLength?_point (h : cs.drop (digitCount cs) = .char '.' :: rest) :
    mantissaLength? cs = if digitCount cs = 0 && digitCount rest = 0 then none
      else some (digitCount cs + 1 + digitCount rest) := by
  rw [mantissaLength?, h]
  rfl

theorem mantissaLength?_whole (h : ∀ rest, cs.drop (digitCount cs) ≠ .char '.' :: rest) :
    mantissaLength? cs = if digitCount cs = 0 then none else some (digitCount cs) := by
  rw [mantissaLength?]
  split
  · rename_i rest hdrop
    exact absurd hdrop (h rest)
  · rfl

/-- The length of a mantissa with a point or without one. -/
theorem mantissaLength?_cases (h : mantissaLength? cs = some n) :
    (∃ rest, cs.drop (digitCount cs) = .char '.' :: rest ∧ n = digitCount cs + 1 + digitCount rest) ∨
      (∀ rest, cs.drop (digitCount cs) ≠ .char '.' :: rest) ∧ n = digitCount cs ∧ 0 < n := by
  by_cases hpoint : ∃ rest, cs.drop (digitCount cs) = .char '.' :: rest
  · obtain ⟨rest, hdrop⟩ := hpoint
    rw [mantissaLength?_point hdrop] at h
    split_ifs at h
    exact .inl ⟨rest, hdrop, (Option.some.inj h).symm⟩
  · have hnone := not_exists.1 hpoint
    rw [mantissaLength?_whole hnone] at h
    split_ifs at h with hzero
    obtain rfl := Option.some.inj h
    exact .inr ⟨hnone, rfl, Nat.pos_of_ne_zero hzero⟩

theorem mantissaLength?_bounds (h : mantissaLength? cs = some n) : 0 < n ∧ n ≤ cs.length := by
  have hwhole := digitCount_le cs
  obtain ⟨rest, hdrop, rfl⟩ | ⟨-, rfl, hpos⟩ := mantissaLength?_cases h
  · have hfraction := digitCount_le rest
    have hlength := congrArg List.length hdrop
    simp only [List.length_drop, List.length_cons] at hlength
    omega
  · exact ⟨hpos, hwhole⟩

theorem length?_bounds (h : length? cs = some n) : 0 < n ∧ n ≤ cs.length := by
  obtain ⟨m, hm, rfl⟩ := Option.map_eq_some_iff.1 h
  have hmantissa := mantissaLength?_bounds hm
  have hpower := powerLength_le (cs.drop m)
  rw [List.length_drop] at hpower
  omega

theorem mantissaLength?_congr (h : mantissaLength? (t ++ rest) = some n) (hn : n ≤ t.length)
    (hrest : Spaced rest') : mantissaLength? (t ++ rest') = some n := by
  have hcases := mantissaLength?_cases h
  have hwhole : digitCount (t ++ rest) ≤ t.length := by
    obtain ⟨_, -, rfl⟩ | ⟨-, rfl, -⟩ := hcases <;> omega
  have hsame := digitCount_congr hwhole hrest
  obtain ⟨more, hdrop, hlast⟩ | ⟨hnone, -, -⟩ := hcases
  · -- the point lies within the text, and so do the digits after it
    obtain ⟨ds, rfl, hlength, hpoint⟩ := exists_drop_append hdrop (by omega)
    have hfraction : digitCount (ds ++ rest) ≤ ds.length := by omega
    rw [mantissaLength?_point hdrop] at h
    rw [mantissaLength?_point (hsame ▸ hpoint rest'), hsame, digitCount_congr hfraction hrest, h]
  · have hnone' (more : List Symbol) :
        (t ++ rest').drop (digitCount (t ++ rest)) ≠ .char '.' :: more :=
      drop_append_ne hwhole hnone (hrest.ne_cons (by decide))
    rw [mantissaLength?_whole hnone] at h
    rw [mantissaLength?_whole (hsame ▸ hnone'), hsame, h]

/-- A sign counts before anything that is not empty. -/
theorem signLength_append (hne : t ≠ []) (rest : List Symbol) :
    signLength (t ++ rest) = signLength t := by
  cases t with
  | nil => exact absurd rfl hne
  | cons c t => rfl

theorem powerLength_congr (h : powerLength (t ++ rest) = t.length) (hrest : Spaced rest') :
    powerLength (t ++ rest') = t.length := by
  cases t with
  | nil =>
    cases rest' with
    | nil => rfl
    | cons c rest' =>
      obtain rfl := hrest c rfl
      rfl
  | cons c t =>
    simp only [List.cons_append, powerLength, List.length_cons] at h ⊢
    split_ifs at h with hletter hzero
    rw [if_pos hletter]
    have hne : t ≠ [] := by
      rintro rfl
      rw [List.length_nil] at h
      omega
    have hsign := signLength_le t
    rw [signLength_append hne] at h hzero ⊢
    rw [List.drop_append_of_le_length hsign] at h hzero ⊢
    have hdigits : digitCount (t.drop (signLength t) ++ rest) ≤ (t.drop (signLength t)).length := by
      rw [List.length_drop]
      omega
    rw [digitCount_congr hdigits hrest, if_neg hzero, h]

/-- A numeral ends where a space follows. -/
theorem length?_congr (h : length? (t ++ rest) = some t.length) (hrest : Spaced rest') :
    length? (t ++ rest') = some t.length := by
  obtain ⟨n, hn, hlength⟩ := Option.map_eq_some_iff.1 h
  have hle : n ≤ t.length := by omega
  have hpower : powerLength (t.drop n ++ rest) = (t.drop n).length := by
    rw [List.drop_append_of_le_length hle] at hlength
    rw [List.length_drop]
    omega
  rw [length?, mantissaLength?_congr hn hle hrest, Option.map_some,
    List.drop_append_of_le_length hle, powerLength_congr hpower hrest, List.length_drop,
    Nat.add_sub_cancel' hle]

end Numeral

namespace Expr

/-! ### Texts between quotes -/

theorem bodyLength?_cons {quote : Symbol} (hc : c ≠ .char '\\') (cs : List Symbol) :
    bodyLength? quote (c :: cs) =
      if c = quote then some 1 else (bodyLength? quote cs).map (· + 1) := by
  rw [bodyLength?]
  · exact fun he => absurd he hc
  · exact fun _ _ he => absurd he hc

/-- The rest of a literal is told by its own symbols, whatever follows them. -/
theorem bodyLength?_append {quote : Symbol} (h : bodyLength? quote cs = some n) :
    0 < n ∧ n ≤ cs.length ∧ ∀ rest, bodyLength? quote (cs.take n ++ rest) = some n := by
  have hplain {c : Symbol} {cs : List Symbol} (hnil : c = .char '\\' → cs = [] → False)
      (hcons : ∀ d ds, c = .char '\\' → cs = d :: ds → False) : c ≠ .char '\\' := by
    intro hc
    cases cs with
    | nil => exact hnil hc rfl
    | cons d ds => exact hcons d ds hc rfl
  induction cs using bodyLength?.induct quote generalizing n with
  | case1 => cases h
  | case2 => cases h
  | case3 cs => simp [bodyLength?] at h
  | case4 c cs hne ih =>
    rw [bodyLength?, if_neg hne] at h
    obtain ⟨m, hm, rfl⟩ := Option.map_eq_some_iff.1 h
    obtain ⟨-, hle, hkeep⟩ := ih hm
    refine ⟨Nat.succ_pos _, by simpa using hle, fun rest => ?_⟩
    rw [List.take_succ_cons, List.take_succ_cons, List.cons_append, List.cons_append, bodyLength?,
      if_neg hne, hkeep, Option.map_some]
  | case5 cs hnil hcons =>
    rw [bodyLength?_cons (hplain hnil hcons), if_pos rfl] at h
    obtain rfl := Option.some.inj h
    refine ⟨Nat.one_pos, by simp, fun rest => ?_⟩
    rw [List.take_succ_cons, List.cons_append, bodyLength?_cons (hplain hnil hcons), if_pos rfl]
  | case6 c cs hnil hcons hne ih =>
    rw [bodyLength?_cons (hplain hnil hcons), if_neg hne] at h
    obtain ⟨m, hm, rfl⟩ := Option.map_eq_some_iff.1 h
    obtain ⟨-, hle, hkeep⟩ := ih hm
    refine ⟨Nat.succ_pos _, by simpa using hle, fun rest => ?_⟩
    rw [List.take_succ_cons, List.cons_append, bodyLength?_cons (hplain hnil hcons), if_neg hne,
      hkeep, Option.map_some]

/-- What a literal starts with. -/
theorem exists_quote (h : stringLength? cs = some n) :
    ∃ quote body m, cs = quote :: body ∧ (quote = .char '"' ∨ quote = .char '\'') ∧
      bodyLength? quote body = some m ∧ n = m + 1 := by
  cases cs with
  | nil => cases h
  | cons c cs =>
    rw [stringLength?] at h
    split_ifs at h with hquote
    obtain ⟨m, hm, rfl⟩ := Option.map_eq_some_iff.1 h
    exact ⟨c, cs, m, rfl, by simpa using hquote, hm, rfl⟩

theorem stringLength?_bounds (h : stringLength? cs = some n) : 0 < n ∧ n ≤ cs.length := by
  obtain ⟨quote, body, m, rfl, -, hm, rfl⟩ := exists_quote h
  exact ⟨Nat.succ_pos m, by simpa using (bodyLength?_append hm).2.1⟩

theorem stringLength?_congr (h : stringLength? (t ++ rest) = some t.length)
    (rest' : List Symbol) : stringLength? (t ++ rest') = some t.length := by
  obtain ⟨quote, body, m, hcs, hquote, hm, hlength⟩ := exists_quote h
  cases t with
  | nil => cases hlength
  | cons c t =>
    rw [List.cons_append] at hcs
    obtain ⟨rfl, rfl⟩ := List.cons.inj hcs
    obtain rfl : t.length = m := Nat.succ.inj hlength
    have hbody := (bodyLength?_append hm).2.2 rest'
    rw [List.take_left] at hbody
    rw [List.cons_append, stringLength?, if_pos (by simpa using hquote), hbody]
    rfl

/-! ### Operators -/

theorem exists_operator (h : operatorLength? cs = some n) :
    ∃ o, operators.find? (·.isPrefixOf cs) = some o ∧ o ∈ operators ∧ o <+: cs ∧ o.length = n := by
  obtain ⟨o, ho, hn⟩ := Option.map_eq_some_iff.1 h
  have hstarts : o.isPrefixOf cs = true :=
    List.find?_some (p := fun o : List Symbol => o.isPrefixOf cs) ho
  exact ⟨o, ho, List.mem_of_find?_eq_some ho, List.isPrefixOf_iff_prefix.1 hstarts, hn⟩

theorem operatorLength?_bounds (h : operatorLength? cs = some n) : 0 < n ∧ n ≤ cs.length := by
  have hpos : ∀ o ∈ operators, 0 < o.length := by decide
  obtain ⟨o, -, ho, hstarts, rfl⟩ := exists_operator h
  exact ⟨hpos o ho, hstarts.length_le⟩

/-- What starts a text that a space follows, and has no space, starts the text itself. -/
theorem prefix_of_spaced {o : List Symbol} (ho : .char ' ' ∉ o) (hrest : Spaced rest)
    (h : o <+: t ++ rest) : o <+: t := by
  obtain hle | hshort := Nat.le_total o.length t.length
  · exact List.prefix_of_prefix_length_le h (List.prefix_append t rest) hle
  · obtain ⟨u, rfl⟩ := List.prefix_of_prefix_length_le (List.prefix_append t rest) h hshort
    rw [List.prefix_append_right_inj] at h
    cases u with
    | nil => simp
    | cons c u =>
      obtain ⟨more, rfl⟩ := h
      obtain rfl := hrest c rfl
      simp at ho

theorem mem_operators (h : operatorLength? (t ++ rest) = some t.length) :
    operators.find? (·.isPrefixOf (t ++ rest)) = some t ∧ t ∈ operators := by
  obtain ⟨o, hfind, ho, hstarts, hlength⟩ := exists_operator h
  have hself : o <+: t :=
    List.prefix_of_prefix_length_le hstarts (List.prefix_append t rest) (Nat.le_of_eq hlength)
  obtain rfl := hself.eq_of_length hlength
  exact ⟨hfind, ho⟩

/-- An operator ends where a space follows. -/
theorem operatorLength?_congr (h : operatorLength? (t ++ rest) = some t.length)
    (hrest : Spaced rest') : operatorLength? (t ++ rest') = some t.length := by
  have hspace : ∀ o ∈ operators, .char ' ' ∉ o := by decide
  have hfewer (o : List Symbol) (ho : o ∈ operators) (hstarts : o.isPrefixOf (t ++ rest') = true) :
      o.isPrefixOf (t ++ rest) = true := by
    have hpart := List.isPrefixOf_iff_prefix.1 hstarts
    have hwithin := prefix_of_spaced (hspace o ho) hrest hpart
    exact List.isPrefixOf_iff_prefix.2 (hwithin.trans (List.prefix_append t rest))
  have hfound : t.isPrefixOf (t ++ rest') = true :=
    List.isPrefixOf_iff_prefix.2 (List.prefix_append t rest')
  rw [operatorLength?, find?_congr (mem_operators h).1 hfewer hfound, Option.map_some]

/-! ### Blanks -/

theorem isDecimal_of_isBlank (h : Text.isBlank c = true) : Text.isDecimal c = false := by
  have hapart : ∀ r ∈ Text.blanks.toList, ∀ z ∈ Text.zeros.toList, r.2 < z ∨ z + 9 < r.1 := by
    decide
  rw [Text.isBlank, Text.Ranges.has_eq_any_toList, List.any_eq_true] at h
  obtain ⟨r, hr, hin⟩ := h
  have hnone : Text.zeros.find? (fun z => z ≤ c.code && c.code < z + 10) = none := by
    rw [← Array.find?_toList, List.find?_eq_none]
    intro z hz
    have := hapart r hr z hz
    simp only [Bool.and_eq_true, decide_eq_true_eq] at hin ⊢
    omega
  rw [Text.isDecimal, Text.digitValue?, hnone]
  rfl

/-- The numbers of blanks lie below and above those of all that is no digit and starts a lexeme. -/
theorem code_of_isBlank (h : Text.isBlank c = true) : c.code ≤ 0x20 ∨ 0x85 ≤ c.code := by
  have hcodes : ∀ r ∈ Text.blanks.toList, r.2 ≤ 0x20 ∨ 0x85 ≤ r.1 := by decide
  rw [Text.isBlank, Text.Ranges.has_eq_any_toList, List.any_eq_true] at h
  obtain ⟨r, hr, hin⟩ := h
  have := hcodes r hr
  simp only [Bool.and_eq_true, decide_eq_true_eq] at hin
  omega

theorem trim_eq_self (h : ∀ c ∈ cs, Text.isBlank c = false) : Text.trim cs = cs := by
  have hkeep {l : List Symbol} (hl : ∀ c ∈ l, Text.isBlank c = false) :
      l.dropWhile Text.isBlank = l := by
    cases l with
    | nil => rfl
    | cons c l => exact List.dropWhile_cons_of_neg (by simp [hl c List.mem_cons_self])
  rw [Text.trim, hkeep h, hkeep fun c hc => h c (List.mem_reverse.1 hc), List.reverse_reverse]

/-- What starts with a blank starts with blanks alone. -/
theorem lexeme?_of_isBlank (h : Text.isBlank c = true) (cs : List Symbol) :
    lexeme? (c :: cs) = some (none, ((c :: cs).takeWhile Text.isBlank).length) := by
  have hcode := code_of_isBlank h
  have hne (d : Char) (hd : 0x20 < d.toNat ∧ d.toNat < 0x85) : c ≠ .char d := by
    rintro rfl
    simp only [Symbol.code] at hcode
    omega
  have hheads : ∀ o ∈ operators, ∀ d ∈ o.head?, 0x20 < d.code ∧ d.code < 0x85 := by decide
  have hoperator (o : List Symbol) (ho : o ∈ operators) : o.head? ≠ some c := by
    intro hd
    have := hheads o ho c hd
    omega
  have hname : isNameStart c = false := by
    rw [Bool.eq_false_iff]
    intro hstart
    have := code_of_isNameStart hstart
    omega
  rw [lexeme?, length?_eq_none (isDecimal_of_isBlank h) (hne '.' (by decide)),
    stringLength?_eq_none (hne '"' (by decide)) (hne '\'' (by decide)),
    operatorLength?_eq_none hoperator, nameLength?, hname, List.takeWhile_cons_of_pos h]
  rfl

/-! ### Lexemes -/

/-- The lexemes that a text may begin with. -/
inductive Lexeme (cs : List Symbol) : Option TokenKind → Nat → Prop
  | number {n : Nat} : Numeral.length? cs = some n → Lexeme cs (some .number) n
  | string {n : Nat} : stringLength? cs = some n → Lexeme cs (some .string) n
  | operator {n : Nat} : operatorLength? cs = some n → Lexeme cs (some .operator) n
  | name {n : Nat} : nameLength? cs = some n →
      Lexeme cs (some (if keywords.contains ⟨cs.take n⟩ then .keyword else .name)) n
  | blank : 0 < (cs.takeWhile Text.isBlank).length →
      Lexeme cs none (cs.takeWhile Text.isBlank).length

theorem lexeme_of_eq_some {kind : Option TokenKind} (h : lexeme? cs = some (kind, n)) :
    Lexeme cs kind n := by
  rw [lexeme?] at h
  split at h
  · rename_i hn
    obtain ⟨rfl, rfl⟩ := Prod.mk.inj (Option.some.inj h)
    exact .number hn
  · rename_i hn _
    obtain ⟨rfl, rfl⟩ := Prod.mk.inj (Option.some.inj h)
    exact .string hn
  · rename_i hn _ _
    obtain ⟨rfl, rfl⟩ := Prod.mk.inj (Option.some.inj h)
    exact .operator hn
  · rename_i hn _ _ _
    obtain ⟨rfl, rfl⟩ := Prod.mk.inj (Option.some.inj h)
    exact .name hn
  · dsimp only at h
    split_ifs at h with hzero
    obtain ⟨rfl, rfl⟩ := Prod.mk.inj (Option.some.inj h)
    exact .blank (Nat.pos_of_ne_zero hzero)

/-- A numeral goes before all other lexemes. -/
theorem lexeme?_number (h : Numeral.length? cs = some n) : lexeme? cs = some (some .number, n) := by
  rw [lexeme?, h]

theorem lexeme?_string (hnumber : Numeral.length? cs = none) (h : stringLength? cs = some n) :
    lexeme? cs = some (some .string, n) := by
  rw [lexeme?, hnumber, h]

theorem lexeme?_operator (hnumber : Numeral.length? cs = none) (hstring : stringLength? cs = none)
    (h : operatorLength? cs = some n) : lexeme? cs = some (some .operator, n) := by
  rw [lexeme?, hnumber, hstring, h]

/-- A point is no numeral where no digit follows. -/
theorem length?_point (hrest : Spaced rest) : Numeral.length? (.char '.' :: rest) = none := by
  have hwhole : Numeral.digitCount (.char '.' :: rest) = 0 := by
    rw [Numeral.digitCount, List.takeWhile_cons_of_neg (by decide)]
    rfl
  have hfraction : Numeral.digitCount ([] ++ rest) = Numeral.digitCount ([] ++ []) :=
    Numeral.digitCount_congr (Nat.zero_le _) hrest
  rw [List.nil_append] at hfraction
  rw [Numeral.length?, Numeral.mantissaLength?_point (hwhole ▸ List.drop_zero), hwhole, hfraction]
  rfl

/-- No numeral starts as an operator does where a space follows. -/
theorem length?_operator (h : t ∈ operators) (hrest : Spaced rest) :
    Numeral.length? (t ++ rest) = none := by
  have hheads : ∀ o ∈ operators, ∃ d ∈ o.head?, Text.isDecimal d = false := by decide
  have hpoint : ∀ o ∈ operators, o.head? = some (.char '.') → o = [.char '.'] := by decide
  obtain ⟨d, hd, hdigit⟩ := hheads t h
  obtain ⟨ds, rfl⟩ := List.head?_eq_some_iff.1 hd
  by_cases hd : d = .char '.'
  · obtain rfl := hd
    rw [hpoint _ h rfl]
    exact length?_point hrest
  · exact length?_eq_none hdigit hd _

theorem nameLength?_bounds (h : nameLength? cs = some n) : 0 < n ∧ n ≤ cs.length := by
  cases cs with
  | nil => cases h
  | cons c cs =>
    rw [nameLength?] at h
    split_ifs at h
    have := (List.takeWhile_sublist (l := cs) isNameRest).length_le
    simp only [Option.some.injEq, List.length_cons] at h ⊢
    omega

namespace Lexeme

variable {kind : Option TokenKind} {k : TokenKind}

/-- A lexeme takes a part of the text that is not empty. -/
theorem bounds (h : Lexeme cs kind n) : 0 < n ∧ n ≤ cs.length := by
  cases h with
  | number hn => exact Numeral.length?_bounds hn
  | string hn => exact stringLength?_bounds hn
  | operator hn => exact operatorLength?_bounds hn
  | name hn => exact nameLength?_bounds hn
  | blank hpos => exact ⟨hpos, (List.takeWhile_sublist _).length_le⟩

/-- A lexeme is the same where a space or nothing follows it. -/
theorem congr (h : Lexeme (t ++ rest) (some k) t.length) (hrest : Spaced rest') :
    lexeme? (t ++ rest') = some (some k, t.length) := by
  cases h with
  | number hn => exact lexeme?_number (Numeral.length?_congr hn hrest)
  | string hn =>
    refine lexeme?_string ?_ (stringLength?_congr hn rest')
    obtain ⟨quote, body, m, hcs, hquote, -, hlength⟩ := exists_quote hn
    cases t with
    | nil => cases hlength
    | cons c t =>
      obtain rfl := (List.cons.inj hcs).1
      obtain rfl | rfl := hquote <;> exact length?_eq_none (by decide) (by decide) _
  | operator hn =>
    have ht := (mem_operators hn).2
    have hheads : ∀ o ∈ operators, ∃ d ∈ o.head?, d ≠ .char '"' ∧ d ≠ .char '\'' := by decide
    refine lexeme?_operator (length?_operator ht hrest) ?_ (operatorLength?_congr hn hrest)
    obtain ⟨d, hd, hdouble, hsingle⟩ := hheads t ht
    obtain ⟨ds, rfl⟩ := List.head?_eq_some_iff.1 hd
    exact stringLength?_eq_none hdouble hsingle _
  | name hn =>
    rw [List.take_left]
    cases t with
    | nil => exact absurd (nameLength?_bounds hn).1 (Nat.lt_irrefl 0)
    | cons c t =>
      rw [List.cons_append, nameLength?] at hn
      split_ifs at hn with hc
      have hrun : ((t ++ rest).takeWhile isNameRest).length = t.length := by
        simpa [Nat.add_comm] using hn
      have hpart := List.takeWhile_prefix (l := t ++ rest) isNameRest
      have hstarts : (t ++ rest).takeWhile isNameRest <+: t :=
        List.prefix_of_prefix_length_le hpart (List.prefix_append t rest) (Nat.le_of_eq hrun)
      have hall : ∀ d ∈ t, isNameRest d = true := fun d hd =>
        List.mem_takeWhile_imp (hstarts.eq_of_length hrun ▸ hd)
      exact lexeme?_name hc hall (hrest.head_eq_false (by decide))

end Lexeme

/-- A lexeme that is not one of blanks does not start with one. -/
theorem not_isBlank_of_lexeme? {k : TokenKind} (h : lexeme? cs = some (some k, n)) :
    ∀ c ∈ cs.head?, Text.isBlank c = false := by
  intro c hc
  obtain ⟨cs, rfl⟩ := List.head?_eq_some_iff.1 hc
  rw [Bool.eq_false_iff]
  intro hblank
  rw [lexeme?_of_isBlank hblank] at h
  cases h

end Expr
end RuleLedger
