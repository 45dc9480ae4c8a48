import RuleLedger.Primitive.RuleApplicator
import RuleLedger.Proofs.Expr.Lexemes
import RuleLedger.Proofs.Expr.Paths
import RuleLedger.Proofs.Json.Numbers
import RuleLedger.Proofs.Number.Whole

/-! Integers and their text. Main statement: the digits of an integer are read as the double nearest
to it, so an integer is equal to its text, and to what is assigned from that, exactly if it is a
double. -/
namespace RuleLedger

open Decimal (AllDigits)

variable {ds : List Char} {n : Int}

/-! ### Digits as numerals -/

namespace Numeral

theorem isDecimal_of_mem (h : AllDigits ds) :
    ∀ c ∈ ds.map Symbol.char, Text.isDecimal c = true := by
  intro c hc
  obtain ⟨d, hd, rfl⟩ := List.mem_map.1 hc
  rw [Text.isDecimal, Json.digitValue?_of_isDigit (h d hd)]
  rfl

theorem length?_map (h : AllDigits ds) (hne : ds ≠ []) :
    length? (ds.map .char) = some ds.length := by
  have hcount : digitCount (ds.map .char) = ds.length := by
    rw [digitCount, List.takeWhile_eq_self_iff.2 (isDecimal_of_mem h), List.length_map]
  have hrest : (ds.map Symbol.char).drop ds.length = [] :=
    List.drop_eq_nil_of_le (Nat.le_of_eq (List.length_map _))
  have hmantissa : mantissaLength? (ds.map .char) = some ds.length := by
    rw [mantissaLength?, hcount, hrest]
    exact if_neg (by simpa using hne)
  rw [length?, hmantissa, Option.map_some, hrest]
  rfl

theorem decimal_map (h : AllDigits ds) :
    decimal (ds.map .char) = ⟨Nat.ofDigitChars 10 ds 0, 0⟩ := by
  have hnot {c : Symbol} (hc : Text.isDecimal c = false) : ∀ d ∈ ds.map Symbol.char, d ≠ c := by
    rintro d hd rfl
    rw [isDecimal_of_mem h d hd] at hc
    cases hc
  -- without a letter and a point the digits are the whole mantissa
  have he : ∀ d ∈ ds.map Symbol.char, (d ≠ .char 'e' && d ≠ .char 'E') = true := by
    intro d hd
    rw [Bool.and_eq_true, decide_eq_true_eq, decide_eq_true_eq]
    exact ⟨hnot (by decide) d hd, hnot (by decide) d hd⟩
  have hpoint : ∀ d ∈ ds.map Symbol.char, decide (d ≠ .char '.') = true :=
    fun d hd => decide_eq_true (hnot (by decide) d hd)
  rw [decimal, List.takeWhile_eq_self_iff.2 he, List.dropWhile_eq_nil_iff.2 he,
    List.dropWhile_eq_nil_iff.2 hpoint, List.filter_eq_self.2 (isDecimal_of_mem h),
    Json.digitsValue_map h]
  rfl

theorem signLength_map (h : AllDigits ds) : signLength (ds.map .char) = 0 := by
  cases ds with
  | nil => rfl
  | cons d ds =>
    refine if_neg ?_
    rw [Bool.or_eq_true, decide_eq_true_eq, decide_eq_true_eq, Symbol.char.injEq, Symbol.char.injEq]
    rintro (rfl | rfl)
    · exact h.not_mem (by decide) List.mem_cons_self
    · exact h.not_mem (by decide) List.mem_cons_self

/-- Digits after a minus sign, or after none. -/
def signedSymbols (negative : Bool) (ds : List Char) : List Symbol :=
  ((if negative then ['-'] else []) ++ ds).map .char

theorem signedLength?_signedSymbols (negative : Bool) (h : AllDigits ds) (hne : ds ≠ []) :
    signedLength? (signedSymbols negative ds) = some (signedSymbols negative ds).length := by
  cases negative
  · change (length? ((ds.map .char).drop (signLength (ds.map .char)))).map _ = _
    rw [signLength_map h, List.drop_zero, length?_map h hne]
    simp [signedSymbols, signLength_map h]
  · change (length? (ds.map .char)).map _ = _
    rw [length?_map h hne]
    simp [signedSymbols, signLength, Nat.add_comm]

theorem signedFloat_signedSymbols (negative : Bool) (h : AllDigits ds) :
    signedFloat (signedSymbols negative ds) = Binary64.withSign negative
      ((Binary64.ofRatio? (Nat.ofDigitChars 10 ds 0) 1).getD Binary64.infinity) := by
  have hvalue : (decimal (ds.map .char)).toFloat =
      (Binary64.ofRatio? (Nat.ofDigitChars 10 ds 0) 1).getD Binary64.infinity := by
    have hexponent : (-400 : Int) ≤ 0 := by decide
    have hnum (k : Nat) : Decimal.num ⟨k, 0⟩ = k := Nat.mul_one k
    rw [decimal_map h, Decimal.toFloat_eq hexponent, hnum]
    rfl
  rw [← hvalue]
  cases negative
  · cases ds with
    | nil => rfl
    | cons d ds =>
      have hne {c : Char} (hc : c.isDigit = false) : d ≠ c :=
        fun he => h.not_mem hc (he ▸ List.mem_cons_self)
      -- a digit in front is neither sign
      change signedFloat (.char d :: ds.map .char) = _
      rw [signedFloat.eq_def]
      split
      · rename_i heq
        exact absurd (Symbol.char.inj (List.cons.inj heq).1) (hne (by decide))
      · rename_i heq
        exact absurd (Symbol.char.inj (List.cons.inj heq).1) (hne (by decide))
      · rfl
  · rfl

end Numeral

/-! ### The number that an integer is read back as -/

theorem Binary64.infinity_parts (negative : Bool) :
    Dyadic.ofFloat? (withSign negative infinity) = none ∧
      (withSign negative infinity).isNaN = false := by
  cases negative <;> decide +kernel

namespace Number

/-- The double nearest to an integer, which is infinite beyond the range. -/
def nearest (n : Int) : Number :=
  match (int n).toFloat with
  | .ok x => (float x).normalize
  | .error _ => .float (Binary64.withSign (decide (n < 0)) Binary64.infinity)

theorem normalize_withSign_eq_nearest (n : Int) :
    (float (Binary64.withSign (decide (n < 0))
      ((Binary64.ofRatio? n.natAbs 1).getD Binary64.infinity))).normalize = nearest n := by
  rw [nearest, toFloat, Binary64.ofInt?]
  cases Binary64.ofRatio? n.natAbs 1 with
  | some x => rfl
  | none =>
    rw [Option.getD_none, normalize, (Binary64.infinity_parts _).1]
    rfl

/-- The double nearest to an integer is equal to it exactly if some double is. -/
theorem nearest_eq_iff : (nearest n).eq (int n) = true ↔ (int n).IsDouble := by
  rw [nearest]
  cases h : (int n).toFloat with
  | ok x =>
    obtain ⟨N, hN, -, hexact⟩ := exists_rounded h
    rw [hN.normalize.eq_iff (hasValue_int n), Int.cast_inj]
    exact ⟨fun heq => isDouble_int_iff.2 ⟨x, heq ▸ hN⟩, hexact⟩
  | error f =>
    refine ⟨fun heq => ?_, fun hdouble => ?_⟩
    · rw [eq_swap] at heq
      obtain ⟨d, hd, -⟩ := (hasValue_int n).of_eq heq
      rw [(Binary64.infinity_parts _).1] at hd
      cases hd
    · obtain ⟨x, hx, -⟩ := toFloat_of_isDouble hdouble
      rw [h] at hx
      cases hx

theorem isNaN_nearest (n : Int) : (nearest n).isNaN = false := by
  rw [nearest]
  cases h : (int n).toFloat with
  | ok x =>
    obtain ⟨N, hN, -⟩ := exists_rounded h
    exact hN.normalize.isNaN
  | error f => exact (Binary64.infinity_parts _).2

end Number

/-! ### The text of an integer -/

namespace Number

/-- An integer in decimal digits. -/
def spelling (n : Int) : Text := .ofString (int n).numeral

theorem toList_spelling (n : Int) : (spelling n).toList =
    Numeral.signedSymbols (decide (n < 0)) (Nat.toDigits 10 n.natAbs) := by
  rw [spelling, Text.ofString, Json.numeral_int]
  rfl

theorem toText_int (h : n.natAbs < 10 ^ digitLimit) : (Value.int n).toText = .ok (spelling n) := by
  rw [Value.int, Value.toText, Value.numberText, Json.integerText_eq_ok.2 ⟨h, rfl⟩]
  rfl

/-- Whether a symbol occurs in the text of no integer. -/
def isForeign (c : Symbol) : Bool := c ≠ .char '-' && !Text.isDecimal c

theorem not_isForeign {c : Symbol} (hc : c ∈ (spelling n).toList) : isForeign c = false := by
  rw [toList_spelling, Numeral.signedSymbols, List.map_append, List.mem_append] at hc
  obtain hc | hc := hc
  · obtain ⟨d, hd, rfl⟩ := List.mem_map.1 hc
    split_ifs at hd
    · obtain rfl := List.mem_singleton.1 hd
      rfl
    · cases hd
  · rw [isForeign, Numeral.isDecimal_of_mem (Decimal.allDigits_toDigits n.natAbs) c hc]
    exact Bool.and_false _

theorem spelling_ne {s : Text} (h : s.toList.any isForeign = true) (n : Int) : spelling n ≠ s := by
  rintro rfl
  obtain ⟨c, hc, hforeign⟩ := List.any_eq_true.1 h
  rw [not_isForeign hc] at hforeign
  cases hforeign

theorem isBlank_spelling {c : Symbol} (hc : c ∈ (spelling n).toList) : Text.isBlank c = false := by
  by_contra hblank
  rw [Bool.not_eq_false] at hblank
  have hminus : c ≠ .char '-' := by
    rintro rfl
    exact absurd (Expr.code_of_isBlank hblank) (by decide)
  have hforeign := not_isForeign hc
  rw [isForeign, decide_eq_true hminus, Expr.isDecimal_of_isBlank hblank] at hforeign
  cases hforeign

theorem spelling_ne_nil (n : Int) : (spelling n).toList ≠ [] := by
  rw [toList_spelling, Numeral.signedSymbols]
  simp

end Number

open Number

theorem numberOfText_spelling (n : Int) : Value.numberOfText (spelling n) = nearest n := by
  have hdigits := Decimal.allDigits_toDigits n.natAbs
  have hword : ["Infinity", "+Infinity"].any
      (fun s => Text.ofList (spelling n).toList == Text.ofString s) = false := by
    have hforeign : ∀ s ∈ ["Infinity", "+Infinity"],
        (Text.ofString s).toList.any isForeign = true := by decide
    refine List.any_eq_false.2 fun s hs => ?_
    rw [beq_iff_eq]
    exact spelling_ne (hforeign s hs) n
  have hminus : (spelling n).toList ≠ (Text.ofString "-Infinity").toList := fun he =>
    spelling_ne (by decide) n (congrArg Text.ofList he)
  have hlength := Numeral.signedLength?_signedSymbols (decide (n < 0)) hdigits
    Nat.toDigits_ne_nil
  rw [← toList_spelling] at hlength
  rw [Value.numberOfText, Expr.trim_eq_self fun c hc => isBlank_spelling hc,
    if_neg (by simpa using spelling_ne_nil n), hword, if_neg Bool.false_ne_true, if_neg hminus,
    if_pos hlength, toList_spelling, Numeral.signedFloat_signedSymbols _ hdigits,
    Nat.ofDigitChars_ten_toDigits, normalize_withSign_eq_nearest]

theorem templateBody?_spelling (n : Int) : templateBody? (spelling n) = none := by
  refine if_neg ?_
  rw [Bool.and_eq_true, List.isPrefixOf_iff_prefix]
  rintro ⟨hopening, -⟩
  have hbrace := not_isForeign (hopening.subset (a := Symbol.char '\x7b') List.mem_cons_self)
  exact absurd hbrace (by decide)

theorem literalOfText_spelling (n : Int) : literalOfText (spelling n) = .num (nearest n) := by
  have hblank : Text.isBlankText (spelling n) = false := by
    obtain ⟨c, cs, hcs⟩ := List.exists_cons_of_ne_nil (spelling_ne_nil n)
    have hc : Text.isBlank c = false := isBlank_spelling (n := n) (hcs ▸ List.mem_cons_self)
    rw [Text.isBlankText, hcs, List.all_cons, hc, Bool.false_and]
  rw [literalOfText, if_neg (spelling_ne (by decide) n),
    if_neg (spelling_ne (by decide) n), hblank, if_neg Bool.false_ne_true,
    numberOfText_spelling]
  dsimp only
  rw [isNaN_nearest, if_neg Bool.false_ne_true]

namespace Expr

variable {fs : Fields Value} {generators : Option Generators} {m : Text} {place : Seed}
  {budget : Nat}

/-- The conversion of a member to text, where the record does not hide the helper. -/
theorem eval_stringOf (hm : Fields.get? fs m = some (.int n)) (hs : Fields.get? fs "String" = none)
    (hn : n.natAbs < 10 ^ digitLimit) (hbudget : budget ≠ 0) (seed : Seed) :
    eval ⟨.ofValue place (.map fs), generators⟩ seed (budget + 2)
      (.call (.name "String") [.name m]) = .ok (.str (spelling n)) := by
  have hhelper : Environment.name ⟨.ofValue place (.map fs), generators⟩ "String" =
      .ok (shelved (.convert .string)) := by
    have hnone : Environment.recordName? ⟨.ofValue place (.map fs), generators⟩ "String" =
        .ok none := by
      refine congrArg Except.ok ?_
      rw [Datum.get?_ofFields, hs]
      rfl
    rw [Environment.name, hnone]
    rfl
  have harguments : evalAll ⟨.ofValue place (.map fs), generators⟩ seed 1 budget [.name m] =
      .ok [.int n] := by
    rw [evalAll, eval_name_ofValue hm place generators hbudget]
    rfl
  have hcall : callHelper seed (.convert .string) [.int n] = .ok (.str (spelling n)) := by
    change attempt _ ((Value.int n).toText.map .str) = _
    rw [toText_int hn]
    rfl
  rw [eval, Nat.add_sub_cancel, eval, if_neg hbudget, hhelper]
  dsimp only
  rw [harguments]
  change Except.map Datum.plain (callHelper seed (.convert .string) [.int n]) = _
  rw [hcall]
  rfl

end Expr

theorem looseEqual_spelling (n : Int) :
    (Datum.int n).looseEqual (.str (spelling n)) = (nearest n).eq (.int n) := by
  change (int n).eq (Value.numberOfText (spelling n)) = _
  rw [numberOfText_spelling, eq_swap]

/-- What reads the text of an integer reads the double nearest to it. Conversion, comparison and
assignment agree, and they give the integer back exactly if it is a double. -/
theorem integer_read_back {fs : Fields Value} {m : Text} (hn : n.natAbs < 10 ^ digitLimit)
    (hm : Fields.get? fs m = some (.int n)) (hs : Fields.get? fs "String" = none)
    (generators : Option Expr.Generators) (place seed : Seed) (record : Record)
    (rules : Expr.Generators) :
    (Value.int n).toText = .ok (spelling n) ∧
      (Value.str (spelling n)).toNumber = nearest n ∧
      resolveAssignment record rules seed (.str (spelling n)) = .ok (.num (nearest n)) ∧
      Expr.evaluateTree ⟨.ofValue place (.map fs), generators⟩ seed
        (.binary .equal (.name m) (.call (.name "String") [.name m])) =
          .ok (.bool ((nearest n).eq (.int n))) ∧
      ((nearest n).eq (.int n) = true ↔ (Number.int n).IsDouble) ∧
      (n.natAbs ≤ 2 ^ 53 → (nearest n).eq (.int n) = true) := by
  have hassigned : resolveAssignment record rules seed (.str (spelling n)) =
      .ok (.num (nearest n)) := by
    rw [resolveAssignment, templateBody?_spelling]
    dsimp only
    rw [literalOfText_spelling]
    rfl
  have hequal : Expr.evaluateTree ⟨.ofValue place (.map fs), generators⟩ seed
      (.binary .equal (.name m) (.call (.name "String") [.name m])) =
        .ok (.bool ((nearest n).eq (.int n))) := by
    have hname (s : Seed) : Expr.eval ⟨.ofValue place (.map fs), generators⟩ s
        (Expr.depthBudget - 1) (.name m) = .ok (.int n) :=
      Expr.eval_name_ofValue hm place generators (by decide) s
    have hstring (s : Seed) : Expr.eval ⟨.ofValue place (.map fs), generators⟩ s
        (Expr.depthBudget - 1) (.call (.name "String") [.name m]) = .ok (.str (spelling n)) :=
      Expr.eval_stringOf hm hs hn (by decide : Expr.depthBudget - 3 ≠ 0) s
    have hresult : Expr.binaryResult .equal (.int n) (.str (spelling n)) =
        .ok (.bool ((nearest n).eq (.int n))) := by
      rw [Expr.binaryResult, looseEqual_spelling]
    exact Expr.evaluateTree_binary hname hstring hresult rfl seed
  exact ⟨toText_int hn, numberOfText_spelling n, hassigned, hequal, nearest_eq_iff,
    fun hle => nearest_eq_iff.2 (isDouble_of_natAbs_le hle)⟩

/-- An integer of 54 bits that is not equal to its own text, nor to what is assigned from that. -/
theorem integer_read_back_odd :
    Expr.evaluateTree ⟨.ofValue ⟨[1]⟩ (.map [("n", .int 9007199254740993)]), none⟩ ⟨[0]⟩
        (.binary .equal (.name "n") (.call (.name "String") [.name "n"])) = .ok (.bool false) ∧
      ∃ r, resolveAssignment .empty ⟨⟨0⟩, ⟨[2]⟩⟩ ⟨[0]⟩ (.str "9007199254740993") = .ok (.num r) ∧
        r.eq (.int 9007199254740993) = false := by
  have hm : Fields.get? [("n", Value.int 9007199254740993)] "n" = some (.int 9007199254740993) :=
    rfl
  have hs : Fields.get? [("n", Value.int 9007199254740993)] "String" = none := by decide
  have hn : (9007199254740993 : Int).natAbs < 10 ^ digitLimit := by decide +kernel
  obtain ⟨-, -, hassigned, hequal, -, -⟩ :=
    integer_read_back hn hm hs none ⟨[1]⟩ ⟨[0]⟩ .empty ⟨⟨0⟩, ⟨[2]⟩⟩
  have hspelling : spelling 9007199254740993 = "9007199254740993" := by decide +kernel
  have hrounded : (nearest 9007199254740993).eq (.int 9007199254740993) = false := by
    decide +kernel
  rw [hspelling] at hassigned
  rw [hrounded] at hequal
  exact ⟨hequal, nearest 9007199254740993, hassigned, hrounded⟩

end RuleLedger
