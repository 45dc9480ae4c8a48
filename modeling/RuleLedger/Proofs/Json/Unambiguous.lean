import Mathlib.Tactic.IntervalCases
import RuleLedger.Json.Reader
import RuleLedger.Proofs.Json.Compact
import RuleLedger.Proofs.Number.FloatText

/-! Compact texts are unambiguous: the value at the start of a text can be told, whatever mark comes
after it. Texts are told by reading them back symbol by symbol, numbers by the marks that they do
not contain, and lists and mappings item by item. -/
namespace RuleLedger
namespace Json

/-! ### Texts -/

/-- The symbol at the start of a text after its opening quote; none at the closing quote. -/
def readSymbol : List Symbol → Option (Symbol × List Symbol)
  | .char '"' :: _ => none
  | .char '\\' :: .char 'u' :: .char a :: .char b :: .char c :: .char d :: rest =>
    (unit? a b c d).map fun n => (.ofCode n, rest)
  | .char '\\' :: .char c :: rest => (simpleEscape? c).map fun e => (.char e, rest)
  | c :: rest => some (c, rest)
  | [] => none

theorem readSymbol_unitEscape {n : Nat} (h : n < 0x20) (rest : List Symbol) :
    readSymbol (unitEscape n ++ rest) = some (.ofCode n, rest) := by
  interval_cases n <;> rfl

theorem readSymbol_cons {c : Symbol} (hq : c ≠ '"') (hb : c ≠ '\\') (rest : List Symbol) :
    readSymbol (c :: rest) = some (c, rest) := by
  unfold readSymbol
  split <;> simp_all

/-- A written symbol can be read back. -/
theorem readSymbol_writeSymbol (c : Symbol) (rest : List Symbol) :
    readSymbol (writeSymbol false c ++ rest) = some (c, rest) := by
  rw [writeSymbol]
  split_ifs with hq hb h₁ h₂ h₃ h₄ h₅ hc ha
  · rw [hq]; rfl
  · rw [hb]; rfl
  · rw [h₁]; rfl
  · rw [h₂]; rfl
  · rw [h₃]; rfl
  · rw [h₄]; rfl
  · rw [h₅]; rfl
  · rw [readSymbol_unitEscape hc, Symbol.ofCode_code]
  · simp at ha
  · exact readSymbol_cons hq hb rest

theorem flatMap_writeSymbol_inj {as bs r s : List Symbol}
    (h : as.flatMap (writeSymbol false) ++ .char '"' :: r =
      bs.flatMap (writeSymbol false) ++ .char '"' :: s) : as = bs ∧ r = s := by
  induction as generalizing bs with
  | nil =>
    cases bs with
    | nil => exact ⟨rfl, (List.cons.inj h).2⟩
    | cons b bs =>
      have hb := readSymbol_writeSymbol b (bs.flatMap (writeSymbol false) ++ .char '"' :: s)
      rw [← List.append_assoc, ← List.flatMap_cons, ← h] at hb
      cases hb
  | cons a as ih =>
    have ha := readSymbol_writeSymbol a (as.flatMap (writeSymbol false) ++ .char '"' :: r)
    rw [← List.append_assoc, ← List.flatMap_cons, h] at ha
    cases bs with
    | nil => cases ha
    | cons b bs =>
      rw [List.flatMap_cons, List.append_assoc, readSymbol_writeSymbol, Option.some.injEq,
        Prod.mk.injEq] at ha
      obtain ⟨rfl, ht⟩ := ha
      obtain ⟨rfl, rfl⟩ := ih ht.symm
      exact ⟨rfl, rfl⟩

/-- A written text ends where its closing quote stands. -/
theorem writeText_append_inj {a b : Text} {r s : List Symbol}
    (h : writeText false a ++ r = writeText false b ++ s) : a = b ∧ r = s := by
  simp only [writeText, List.cons_append, List.append_assoc, List.cons.injEq, true_and,
    List.nil_append] at h
  obtain ⟨ht, rfl⟩ := flatMap_writeSymbol_inj h
  cases a
  cases b
  exact ⟨congrArg Text.ofList ht, rfl⟩

/-! ### Numbers -/

theorem numeral_int (n : Int) : (Number.int n).numeral.toList =
    (if decide (n < 0) then ['-'] else []) ++ Nat.toDigits 10 n.natAbs := by
  rw [Number.numeral, Nat.toString_eq_repr, String.toList_append, Nat.toList_repr]
  by_cases h : n < 0 <;> simp [h]

theorem toDigits_head (n : Nat) :
    ∃ a rest, Nat.toDigits 10 n = a :: rest ∧ a.isDigit = true := by
  obtain ⟨a, rest, h⟩ := List.exists_cons_of_ne_nil (Nat.toDigits_ne_nil (b := 10) (n := n))
  exact ⟨a, rest, h, Decimal.allDigits_toDigits n a (h ▸ List.mem_cons_self)⟩

theorem numeral_int_injective {n m : Int}
    (h : (Number.int n).numeral = (Number.int m).numeral) : n = m := by
  have h := congrArg String.toList h
  rw [numeral_int, numeral_int] at h
  obtain ⟨hs, hd⟩ := signed_append_inj (toDigits_head n.natAbs) (toDigits_head m.natAbs) h
  have hn : n.natAbs = m.natAbs := by
    rw [← Nat.ofDigitChars_ten_toDigits (n := n.natAbs), hd, Nat.ofDigitChars_ten_toDigits]
  rw [decide_eq_decide] at hs
  omega

theorem writeFloat_of_ofFloat? {x : Float} {d : Dyadic} (h : Dyadic.ofFloat? x = some d) :
    writeFloat x = floatText x := by
  have hn : ¬(x.isNaN = true ∨ x.isInf = true) := fun hn => by
    rw [Dyadic.ofFloat?_eq_none_iff.2 hn] at h
    cases h
  rw [not_or] at hn
  rw [writeFloat, if_neg hn.1, if_neg hn.2]

/-- The texts of the doubles that are not finite. -/
theorem writeFloat_of_none {x : Float} (h : Dyadic.ofFloat? x = none) :
    writeFloat x = "NaN" ∨ writeFloat x = "-Infinity" ∨ writeFloat x = "Infinity" := by
  have hx := Dyadic.ofFloat?_eq_none_iff.1 h
  rw [writeFloat]
  split_ifs with hn hi hs
  · exact .inl rfl
  · exact .inr (.inl rfl)
  · exact .inr (.inr rfl)
  · exact absurd hx (not_or.2 ⟨hn, hi⟩)

theorem writeFloat_injective {x y : Float} (h : writeFloat x = writeFloat y) : x = y := by
  -- the names have a letter that the texts of finite doubles are never written with
  have hname (z : Float) (hz : Dyadic.ofFloat? z = none) :
      ∃ c ∈ (writeFloat z).toList, ¬Decimal.IsMark c := by
    rcases writeFloat_of_none hz with hm | hm | hm <;> rw [hm]
    · exact ⟨'N', by decide, by simp [Decimal.IsMark]⟩
    · exact ⟨'I', by decide, by simp [Decimal.IsMark]⟩
    · exact ⟨'I', by decide, by simp [Decimal.IsMark]⟩
  have hmark (z : Float) (d : Dyadic) (hz : Dyadic.ofFloat? z = some d) :
      ∀ c ∈ (writeFloat z).toList, Decimal.IsMark c := by
    rw [writeFloat_of_ofFloat? hz]
    exact fun c => isMark_of_mem_floatText hz
  cases hx : Dyadic.ofFloat? x with
  | none =>
    cases hy : Dyadic.ofFloat? y with
    | none =>
      have hx' := Dyadic.ofFloat?_eq_none_iff.1 hx
      have hy' := Dyadic.ofFloat?_eq_none_iff.1 hy
      simp only [writeFloat] at h
      split_ifs at h <;> first
        | exact Binary64.eq_of_isNaN ‹_› ‹_›
        | exact absurd h (by decide)
        | exact Binary64.eq_of_isInf ‹_› ‹_› (by simp_all)
        | simp_all
    | some d =>
      obtain ⟨c, hc, hn⟩ := hname x hx
      exact absurd (hmark y d hy c (h ▸ hc)) hn
  | some d =>
    cases hy : Dyadic.ofFloat? y with
    | none =>
      obtain ⟨c, hc, hn⟩ := hname y hy
      exact absurd (hmark x d hx c (h ▸ hc)) hn
    | some d' =>
      rw [writeFloat_of_ofFloat? hx, writeFloat_of_ofFloat? hy] at h
      exact floatText_injective h

/-- The characters of numbers: the marks of numerals and the letters of names. -/
def IsNumberMark (c : Char) : Prop := Decimal.IsMark c ∨ c ∈ "-NaInfity".toList

/-- The characters that numbers start with. -/
def IsNumberStart (c : Char) : Prop := c.isDigit = true ∨ c = '-' ∨ c = 'N' ∨ c = 'I'

theorem numeral_marks (n : Number) : ∀ c ∈ n.numeral.toList, IsNumberMark c := by
  intro c hc
  cases n with
  | int n =>
    rw [numeral_int] at hc
    rcases List.mem_append.1 hc with hc | hc
    · split_ifs at hc
      · obtain rfl := List.mem_singleton.1 hc
        exact .inl (.inr (.inr (.inr (.inr rfl))))
      · cases hc
    · exact .inl ((Decimal.allDigits_toDigits n.natAbs).isMark c hc)
  | float x =>
    rw [Number.numeral] at hc
    cases hx : Dyadic.ofFloat? x with
    | none =>
      have hs : (writeFloat x).toList ⊆ "-NaInfity".toList := by
        rcases writeFloat_of_none hx with hm | hm | hm <;> rw [hm] <;> decide
      exact .inr (hs hc)
    | some d =>
      rw [writeFloat_of_ofFloat? hx] at hc
      exact .inl (isMark_of_mem_floatText hx hc)

theorem signed_start {b : Bool} {cs : List Char} (h : ∃ a rest, cs = a :: rest ∧ a.isDigit = true) :
    ∃ a rest, (if b then ['-'] else []) ++ cs = a :: rest ∧ IsNumberStart a := by
  obtain ⟨a, rest, rfl, ha⟩ := h
  cases b
  · exact ⟨a, rest, rfl, .inl ha⟩
  · exact ⟨'-', a :: rest, rfl, .inr (.inl rfl)⟩

theorem numeral_start (n : Number) : ∃ a rest, n.numeral.toList = a :: rest ∧ IsNumberStart a := by
  cases n with
  | int n =>
    rw [numeral_int]
    exact signed_start (toDigits_head n.natAbs)
  | float x =>
    rw [Number.numeral]
    cases hx : Dyadic.ofFloat? x with
    | none =>
      rcases writeFloat_of_none hx with hm | hm | hm <;> rw [hm]
      · exact ⟨'N', _, rfl, .inr (.inr (.inl rfl))⟩
      · exact ⟨'-', _, rfl, .inr (.inl rfl)⟩
      · exact ⟨'I', _, rfl, .inr (.inr (.inr rfl))⟩
    | some d =>
      rw [writeFloat_of_ofFloat? hx, toList_floatText hx]
      exact signed_start (isNumeral_magnitudeText d).head

/-- Every double has a character in its text that no integer has. -/
theorem numeral_int_ne_float (n : Int) (x : Float) :
    (Number.int n).numeral ≠ (Number.float x).numeral := by
  intro h
  have hint : ∀ c ∈ (Number.int n).numeral.toList, c.isDigit = true ∨ c = '-' := by
    intro c hc
    rw [numeral_int] at hc
    rcases List.mem_append.1 hc with hc | hc
    · split_ifs at hc
      · exact .inr (List.mem_singleton.1 hc)
      · cases hc
    · exact .inl (Decimal.allDigits_toDigits n.natAbs c hc)
  have hfloat : ∃ c ∈ (Number.float x).numeral.toList, ¬(c.isDigit = true ∨ c = '-') := by
    rw [Number.numeral]
    cases hx : Dyadic.ofFloat? x with
    | none =>
      rcases writeFloat_of_none hx with hm | hm | hm <;> rw [hm]
      · exact ⟨'N', by decide, by decide⟩
      · exact ⟨'I', by decide, by decide⟩
      · exact ⟨'I', by decide, by decide⟩
    | some d =>
      rw [writeFloat_of_ofFloat? hx, toList_floatText hx]
      rcases (isNumeral_magnitudeText d).fraction with hd | he
      · exact ⟨'.', List.mem_append_right _ hd, by decide⟩
      · exact ⟨'e', List.mem_append_right _ he, by decide⟩
  obtain ⟨c, hc, hn⟩ := hfloat
  exact hn (hint c (h ▸ hc))

theorem numeral_injective {n m : Number} (h : n.numeral = m.numeral) : n = m := by
  cases n with
  | int a =>
    cases m with
    | int b => rw [numeral_int_injective h]
    | float y => exact absurd h (numeral_int_ne_float a y)
  | float x =>
    cases m with
    | int b => exact absurd h.symm (numeral_int_ne_float b x)
    | float y => rw [writeFloat_injective h]

/-! ### Values -/

/-- The marks that may stand after a value. -/
def IsDelimiter (c : Symbol) : Prop := c = ',' ∨ c = ']' ∨ c = '\x7d'

/-- A text that ends or goes on with a mark. -/
def Delimited (cs : List Symbol) : Prop := ∀ c ∈ cs.head?, IsDelimiter c

theorem append_inj_of_delimited {as bs r s : List Symbol} (ha : ∀ c ∈ as, ¬IsDelimiter c)
    (hb : ∀ c ∈ bs, ¬IsDelimiter c) (hr : Delimited r) (hs : Delimited s)
    (h : as ++ r = bs ++ s) : as = bs ∧ r = s := by
  induction as generalizing bs with
  | nil =>
    cases bs with
    | nil => exact ⟨rfl, h⟩
    | cons b bs =>
      obtain rfl : r = b :: bs ++ s := h
      exact absurd (hr b rfl) (hb b List.mem_cons_self)
  | cons a as ih =>
    cases bs with
    | nil =>
      obtain rfl : a :: as ++ r = s := h
      exact absurd (hs a rfl) (ha a List.mem_cons_self)
    | cons b bs =>
      obtain ⟨rfl, ht⟩ := List.cons.inj h
      obtain ⟨rfl, rfl⟩ := ih (fun c hc => ha c (List.mem_cons_of_mem _ hc))
        (fun c hc => hb c (List.mem_cons_of_mem _ hc)) ht
      exact ⟨rfl, rfl⟩

theorem word_injective {s t : String} (h : word s = word t) : s = t := by
  have hc : Function.Injective Symbol.char := fun _ _ h => Symbol.char.inj h
  exact String.toList_injective (List.map_injective_iff.2 hc h)

theorem not_isDelimiter_of_mem_numeral {n : Number} :
    ∀ c ∈ word n.numeral, ¬IsDelimiter c := by
  intro c hc
  obtain ⟨a, ha, rfl⟩ := List.mem_map.1 hc
  rintro (h | h | h) <;> obtain rfl := Symbol.char.inj h <;>
    exact absurd (numeral_marks n _ ha) (by simp [IsNumberMark, Decimal.IsMark])

theorem numeral_append_inj {n m : Number} {r s : List Symbol} (hr : Delimited r)
    (hs : Delimited s) (h : word n.numeral ++ r = word m.numeral ++ s) : n = m ∧ r = s := by
  obtain ⟨hw, ht⟩ := append_inj_of_delimited not_isDelimiter_of_mem_numeral
    not_isDelimiter_of_mem_numeral hr hs h
  exact ⟨numeral_injective (word_injective hw), ht⟩

/-- The kinds of values that the first character of a text tells apart. -/
inductive Shape where
  | null | truth | number | text | list | map
deriving DecidableEq

/-- The kind of value that a character starts. -/
def Shape.of (c : Symbol) : Shape :=
  if c = 'n' then .null
  else if c = 't' ∨ c = 'f' then .truth
  else if c = '"' then .text
  else if c = '[' then .list
  else if c = '\x7b' then .map
  else .number

/-- A callable is written as a text. -/
def shape : Value → Shape
  | .null => .null
  | .bool _ => .truth
  | .num _ => .number
  | .str _ | .helper _ | .method _ _ => .text
  | .list _ => .list
  | .map _ => .map

theorem Shape.of_numberStart {c : Char} (h : IsNumberStart c) : Shape.of c = .number := by
  have hne (a : Char) (ha : ¬IsNumberStart a) : (Symbol.char c = .char a) = False :=
    eq_false fun he => ha (Symbol.char.inj he ▸ h)
  simp [Shape.of, hne, IsNumberStart]

/-- The first character tells the kind of value, and is no mark that may stand after one. -/
theorem compact_start (v : Value) :
    ∃ c rest, v.compact = c :: rest ∧ Shape.of c = shape v ∧ ¬IsDelimiter c := by
  have hchar (c : Char) (rest : List Symbol) (hv : v.compact = .char c :: rest)
      (hs : Shape.of c = shape v) (hc : c ∉ [',', ']', '\x7d']) :
      ∃ c rest, v.compact = c :: rest ∧ Shape.of c = shape v ∧ ¬IsDelimiter c := by
    refine ⟨c, rest, hv, hs, ?_⟩
    rintro (h | h | h) <;> obtain rfl := Symbol.char.inj h <;> exact hc (by decide)
  cases v with
  | null => exact hchar 'n' _ rfl rfl (by decide)
  | bool b =>
    cases b
    · exact hchar 'f' _ rfl rfl (by decide)
    · exact hchar 't' _ rfl rfl (by decide)
  | num n =>
    obtain ⟨a, rest, ha, hs⟩ := numeral_start n
    have hv : word n.numeral = .char a :: rest.map .char := by rw [word, ha, List.map_cons]
    exact ⟨a, rest.map .char, hv, Shape.of_numberStart hs,
      not_isDelimiter_of_mem_numeral _ (hv ▸ List.mem_cons_self)⟩
  | str s => exact hchar '"' _ rfl rfl (by decide)
  | list xs => cases xs <;> exact hchar '[' _ rfl rfl (by decide)
  | map fs => cases fs <;> exact hchar '\x7b' _ rfl rfl (by decide)
  | helper h => exact hchar '"' _ rfl rfl (by decide)
  | method r m => exact hchar '"' _ rfl rfl (by decide)

theorem shape_eq {v w : Value} {r s : List Symbol} (h : v.compact ++ r = w.compact ++ s) :
    shape v = shape w := by
  obtain ⟨c, rest, hv, hc, -⟩ := compact_start v
  obtain ⟨c', rest', hw, hc', -⟩ := compact_start w
  rw [hv, hw] at h
  rw [← hc, ← hc', (List.cons.inj h).1]

/-- A value is never taken for the end of a list or a mapping. -/
theorem compact_ne_delimiter {v : Value} {c : Symbol} (hc : IsDelimiter c) {r s : List Symbol} :
    v.compact ++ r ≠ c :: s := by
  intro h
  obtain ⟨c', rest, hv, -, hn⟩ := compact_start v
  rw [hv] at h
  exact hn ((List.cons.inj h).1 ▸ hc)

open Value (compactItems compactFields)

theorem delimited_cons {c : Symbol} (hc : IsDelimiter c) (cs : List Symbol) :
    Delimited (c :: cs) := by
  rintro _ ⟨⟩
  exact hc

theorem delimited_compactItems (xs : List Value) {c : Symbol} (hc : IsDelimiter c)
    (r : List Symbol) : Delimited (compactItems xs ++ c :: r) := by
  cases xs with
  | nil => exact delimited_cons hc r
  | cons x xs => exact delimited_cons (.inl rfl) _

theorem delimited_compactFields (fs : List (Text × Value)) {c : Symbol} (hc : IsDelimiter c)
    (r : List Symbol) : Delimited (compactFields fs ++ c :: r) := by
  cases fs with
  | nil => exact delimited_cons hc r
  | cons f fs => exact delimited_cons (.inl rfl) _

/-- That a value can be told from the start of a text. -/
def Told (v : Value) : Prop := ∀ {w : Value}, w.isData = true → ∀ {r s : List Symbol},
  Delimited r → Delimited s → v.compact ++ r = w.compact ++ s → v = w ∧ r = s

theorem items_told {xs ys : List Value} (hx : ∀ x ∈ xs, Told x) (hy : ∀ y ∈ ys, y.isData = true)
    {r s : List Symbol}
    (h : compactItems xs ++ .char ']' :: r = compactItems ys ++ .char ']' :: s) :
    xs = ys ∧ r = s := by
  have hd : IsDelimiter (.char ']') := .inr (.inl rfl)
  induction xs generalizing ys with
  | nil =>
    cases ys with
    | nil => exact ⟨rfl, (List.cons.inj h).2⟩
    | cons y ys => cases (List.cons.inj h).1
  | cons x xs ih =>
    cases ys with
    | nil => cases (List.cons.inj h).1
    | cons y ys =>
      simp only [compactItems, List.cons_append, List.append_assoc, List.cons.injEq,
        true_and] at h
      obtain ⟨rfl, ht⟩ := hx x List.mem_cons_self (hy y List.mem_cons_self)
        (delimited_compactItems xs hd r) (delimited_compactItems ys hd s) h
      obtain ⟨rfl, rfl⟩ := ih (fun a ha => hx a (List.mem_cons_of_mem x ha))
        (fun a ha => hy a (List.mem_cons_of_mem x ha)) ht
      exact ⟨rfl, rfl⟩

theorem fields_told {fs gs : List (Text × Value)} (hf : ∀ f ∈ fs, Told f.2)
    (hg : ∀ g ∈ gs, g.2.isData = true) {r s : List Symbol}
    (h : compactFields fs ++ .char '\x7d' :: r = compactFields gs ++ .char '\x7d' :: s) :
    fs = gs ∧ r = s := by
  have hd : IsDelimiter (.char '\x7d') := .inr (.inr rfl)
  induction fs generalizing gs with
  | nil =>
    cases gs with
    | nil => exact ⟨rfl, (List.cons.inj h).2⟩
    | cons g gs => cases (List.cons.inj h).1
  | cons f fs ih =>
    cases gs with
    | nil => cases (List.cons.inj h).1
    | cons g gs =>
      obtain ⟨k, v⟩ := f
      obtain ⟨l, w⟩ := g
      simp only [compactFields, List.cons_append, List.append_assoc, List.cons.injEq,
        true_and] at h
      obtain ⟨rfl, hc⟩ := writeText_append_inj h
      obtain ⟨rfl, ht⟩ := hf (k, v) List.mem_cons_self (hg (k, w) List.mem_cons_self)
        (delimited_compactFields fs hd r) (delimited_compactFields gs hd s) (List.cons.inj hc).2
      obtain ⟨rfl, rfl⟩ := ih (fun a ha => hf a (List.mem_cons_of_mem _ ha))
        (fun a ha => hg a (List.mem_cons_of_mem _ ha)) ht
      exact ⟨rfl, rfl⟩

theorem told_list {xs : List Value} (hx : ∀ x ∈ xs, Told x) : Told (.list xs) := by
  intro w hw r s _ _ h
  have hshape := shape_eq h
  cases w with
  | list ys =>
    rw [Value.isData_list] at hw
    have hd : IsDelimiter (.char ']') := .inr (.inl rfl)
    cases xs with
    | nil =>
      cases ys with
      | nil => exact ⟨rfl, List.append_cancel_left h⟩
      | cons y ys =>
        simp only [Value.compact, List.cons_append, List.append_assoc, List.cons.injEq,
          true_and] at h
        exact absurd h.symm (compact_ne_delimiter hd)
    | cons x xs =>
      cases ys with
      | nil =>
        simp only [Value.compact, List.cons_append, List.append_assoc, List.cons.injEq,
          true_and] at h
        exact absurd h (compact_ne_delimiter hd)
      | cons y ys =>
        have hi : compactItems (x :: xs) ++ .char ']' :: r =
            compactItems (y :: ys) ++ .char ']' :: s := by
          simpa [Value.compact, compactItems] using h
        obtain ⟨he, rfl⟩ := items_told hx hw hi
        exact ⟨congrArg Value.list he, rfl⟩
  | _ => cases hshape

theorem told_map {fs : List (Text × Value)} (hf : ∀ f ∈ fs, Told f.2) : Told (.map fs) := by
  intro w hw r s _ _ h
  have hshape := shape_eq h
  cases w with
  | map gs =>
    rw [Value.isData_map] at hw
    cases fs with
    | nil =>
      cases gs with
      | nil => exact ⟨rfl, List.append_cancel_left h⟩
      | cons g gs => simp [Value.compact, writeText] at h
    | cons f fs =>
      cases gs with
      | nil => simp [Value.compact, writeText] at h
      | cons g gs =>
        have hi : compactFields (f :: fs) ++ .char '\x7d' :: r =
            compactFields (g :: gs) ++ .char '\x7d' :: s := by
          simpa [Value.compact, compactFields] using h
        obtain ⟨he, rfl⟩ := fields_told hf hw hi
        exact ⟨congrArg Value.map he, rfl⟩
  | _ => cases hshape

/-- Of the values without callables, each can be told from the start of a text. -/
theorem told_of_isData {v : Value} (hv : v.isData = true) : Told v := by
  induction v with
  | null =>
    intro w _ r s _ _ h
    have hshape := shape_eq h
    cases w with
    | null => exact ⟨rfl, List.append_cancel_left h⟩
    | _ => cases hshape
  | bool b =>
    intro w _ r s _ _ h
    have hshape := shape_eq h
    cases w with
    | bool b' => cases b <;> cases b' <;> simp_all [Value.compact, word]
    | _ => cases hshape
  | num n =>
    intro w _ r s hr hs h
    have hshape := shape_eq h
    cases w with
    | num m =>
      obtain ⟨rfl, ht⟩ := numeral_append_inj hr hs h
      exact ⟨rfl, ht⟩
    | _ => cases hshape
  | str a =>
    intro w hw r s _ _ h
    have hshape := shape_eq h
    cases w with
    | str b =>
      obtain ⟨rfl, ht⟩ := writeText_append_inj h
      exact ⟨rfl, ht⟩
    | helper | method => cases hw
    | _ => cases hshape
  | list xs ih =>
    rw [Value.isData_list] at hv
    exact told_list fun x hx => ih x hx (hv x hx)
  | map fs ih =>
    rw [Value.isData_map] at hv
    exact told_map fun f hf => ih f hf (hv f hf)
  | helper => cases hv
  | method => cases hv

/-- Different values without callables have different compact texts. -/
theorem compact_injective {v w : Value} (hv : v.isData = true) (hw : w.isData = true)
    (h : v.compact = w.compact) : v = w := by
  have hd : Delimited [] := fun _ h => nomatch h
  exact (told_of_isData hv hw hd hd (congrArg (· ++ []) h)).1

end Json
end RuleLedger
