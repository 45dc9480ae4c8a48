import Mathlib.Data.List.TakeWhile
import RuleLedger.Proofs.Number.Shortest

/-! The texts of doubles. The text of a finite double spells a number that rounds to it, so that
different doubles have different texts. -/
namespace RuleLedger
namespace Decimal

/-- The number that digits with a point among them spell. -/
def pointed (cs : List Char) : ℚ :=
  Nat.ofDigitChars 10 (cs.filter (· ≠ '.')) 0 / 10 ^ ((cs.dropWhile (· ≠ '.')).length - 1)

/-- The power of ten that a letter and an integer with a sign spell. -/
def power : List Char → Int
  | 'e' :: '-' :: ds => -Nat.ofDigitChars 10 ds 0
  | 'e' :: '+' :: ds => Nat.ofDigitChars 10 ds 0
  | _ => 0

/-- The number that a numeral without a sign spells. -/
def spelled (cs : List Char) : ℚ :=
  pointed (cs.takeWhile (· ≠ 'e')) * 10 ^ power (cs.dropWhile (· ≠ 'e'))

theorem toNat_of_isDigit {c : Char} (h : c.isDigit = true) : 48 ≤ c.toNat ∧ c.toNat ≤ 57 := by
  rw [Char.isDigit, Bool.and_eq_true, decide_eq_true_eq, decide_eq_true_eq] at h
  exact h

/-- Digits alone. -/
def AllDigits (cs : List Char) : Prop := ∀ c ∈ cs, c.isDigit = true

theorem AllDigits.append {as bs : List Char} (ha : AllDigits as) (hb : AllDigits bs) :
    AllDigits (as ++ bs) := fun c hc => (List.mem_append.1 hc).elim (ha c) (hb c)

theorem AllDigits.not_mem {cs : List Char} (h : AllDigits cs) {c : Char} (hc : c.isDigit = false) :
    c ∉ cs := fun hm => by simp [h c hm] at hc

theorem allDigits_zeros (n : Nat) : AllDigits (List.replicate n '0') := by
  intro c hc
  rw [List.eq_of_mem_replicate hc]
  rfl

theorem allDigits_toDigits (n : Nat) : AllDigits (Nat.toDigits 10 n) :=
  fun _ hc => Nat.isDigit_of_mem_toDigits (by decide) (by decide) hc

theorem all_ne {c : Char} {cs : List Char} (h : c ∉ cs) : ∀ a ∈ cs, decide (a ≠ c) = true := by
  intro a ha
  rw [decide_eq_true_eq]
  rintro rfl
  exact h ha

theorem pointed_of_allDigits {as : List Char} (ha : AllDigits as) :
    pointed as = Nat.ofDigitChars 10 as 0 := by
  have hn := all_ne (ha.not_mem (c := '.') rfl)
  rw [pointed, List.filter_eq_self.2 hn, List.dropWhile_eq_nil_iff.2 hn]
  simp

theorem pointed_append {as bs : List Char} (ha : AllDigits as) (hb : AllDigits bs) :
    pointed (as ++ '.' :: bs) = Nat.ofDigitChars 10 (as ++ bs) 0 / 10 ^ bs.length := by
  have hna := all_ne (ha.not_mem (c := '.') rfl)
  have hnb := all_ne (hb.not_mem (c := '.') rfl)
  rw [pointed, List.filter_append, List.filter_cons_of_neg (by simp), List.filter_eq_self.2 hna,
    List.filter_eq_self.2 hnb, List.dropWhile_append_of_pos hna,
    List.dropWhile_cons_of_neg (by simp)]
  simp

/-- Without a letter there is no power of ten. -/
theorem spelled_of_not_mem {cs : List Char} (h : 'e' ∉ cs) : spelled cs = pointed cs := by
  rw [spelled, List.takeWhile_eq_self_iff.2 (all_ne h), List.dropWhile_eq_nil_iff.2 (all_ne h)]
  simp [power]

theorem spelled_append {cs ps : List Char} (h : 'e' ∉ cs) :
    spelled (cs ++ 'e' :: ps) = pointed cs * 10 ^ power ('e' :: ps) := by
  rw [spelled, List.takeWhile_append_of_pos (all_ne h), List.dropWhile_append_of_pos (all_ne h),
    List.takeWhile_cons_of_neg (by simp), List.dropWhile_cons_of_neg (by simp), List.append_nil]

theorem spelled_point {as bs : List Char} (ha : AllDigits as) (hb : AllDigits bs) :
    spelled (as ++ '.' :: bs) = Nat.ofDigitChars 10 (as ++ bs) 0 * 10 ^ (-bs.length : Int) := by
  have h : 'e' ∉ as ++ '.' :: bs := by
    simp [ha.not_mem (c := 'e') rfl, hb.not_mem (c := 'e') rfl]
  rw [spelled_of_not_mem h, pointed_append ha hb, zpow_neg, zpow_natCast, div_eq_mul_inv]

theorem spelled_positional {ds : List Char} (hd : AllDigits ds) (p : Int) :
    spelled (positional ds p) = Nat.ofDigitChars 10 ds 0 * 10 ^ (p - ds.length) := by
  rw [positional]
  split_ifs with h₁ h₂
  · have hz : AllDigits ['0'] := allDigits_zeros 1
    have h := spelled_point hz ((allDigits_zeros (-p).toNat).append hd)
    rw [List.singleton_append] at h
    rw [List.cons_append, List.cons_append, h, List.singleton_append, Nat.ofDigitChars_cons,
      Nat.ofDigitChars_append, Nat.ofDigitChars_replicate_zero]
    congr 2
    rw [List.length_append, List.length_replicate]
    push_cast
    omega
  · have h := @spelled_point (ds.take p.toNat) (ds.drop p.toNat)
      (fun c hc => hd c (List.mem_of_mem_take hc)) (fun c hc => hd c (List.mem_of_mem_drop hc))
    rw [h, List.take_append_drop]
    congr 2
    rw [List.length_drop]
    omega
  · have hz : AllDigits ['0'] := allDigits_zeros 1
    have h := spelled_point (hd.append (allDigits_zeros (p.toNat - ds.length))) hz
    rw [h, List.append_assoc, Nat.ofDigitChars_append, Nat.ofDigitChars_append,
      Nat.ofDigitChars_replicate_zero, Nat.ofDigitChars_cons, Nat.ofDigitChars_nil]
    push_cast
    have hp : (10 : ℚ) ^ (p - ds.length) = 10 ^ (p.toNat - ds.length) := by
      rw [← zpow_natCast]
      congr 1
      omega
    rw [hp]
    simp only [List.length_singleton]
    ring

/-- A power of ten after the letter: its sign and at least two digits. -/
def powerText (p : Int) : List Char :=
  let size := (toString p.natAbs).toList
  (if p < 0 then '-' else '+') :: (if size.length < 2 then '0' :: size else size)

theorem scientific_cons (c : Char) (tail : List Char) (p : Int) :
    scientific (c :: tail) p =
      (c :: if tail.isEmpty then [] else '.' :: tail) ++ 'e' :: powerText p := rfl

theorem power_powerText (p : Int) : power ('e' :: powerText p) = p := by
  have hv (cs : List Char) (h : cs = (toString p.natAbs).toList ∨
      cs = '0' :: (toString p.natAbs).toList) : Nat.ofDigitChars 10 cs 0 = p.natAbs := by
    rw [Nat.toString_eq_repr, Nat.toList_repr] at h
    rcases h with rfl | rfl
    · exact Nat.ofDigitChars_ten_toDigits
    · exact Nat.ofDigitChars_ten_toDigits
  have hsize := hv (if (toString p.natAbs).toList.length < 2 then
    '0' :: (toString p.natAbs).toList else (toString p.natAbs).toList) (by split_ifs <;> simp)
  rw [powerText]
  generalize (if (toString p.natAbs).toList.length < 2 then
    '0' :: (toString p.natAbs).toList else (toString p.natAbs).toList) = cs at hsize
  by_cases hp : p < 0
  · rw [if_pos hp, power, hsize]
    omega
  · rw [if_neg hp, power, hsize]
    omega

theorem spelled_scientific {ds : List Char} (hd : AllDigits ds) (hne : ds ≠ []) (p : Int) :
    spelled (scientific ds p) = Nat.ofDigitChars 10 ds 0 * 10 ^ (p + 1 - ds.length) := by
  obtain ⟨c, tail, rfl⟩ := List.exists_cons_of_ne_nil hne
  have hc : AllDigits [c] := fun a ha => hd a (by simp_all)
  have ht : AllDigits tail := fun a ha => hd a (List.mem_cons_of_mem _ ha)
  have hpow : (10 : ℚ) ^ (p + 1 - (c :: tail).length) = 10 ^ p / 10 ^ tail.length := by
    rw [← zpow_natCast, ← zpow_sub₀ (by norm_num), List.length_cons]
    congr 1
    push_cast
    ring
  have hhead : 'e' ∉ (c :: if tail.isEmpty then [] else '.' :: tail) ∧
      pointed (c :: if tail.isEmpty then [] else '.' :: tail) =
        Nat.ofDigitChars 10 (c :: tail) 0 / 10 ^ tail.length := by
    cases tail with
    | nil => exact ⟨hc.not_mem rfl, by simpa using pointed_of_allDigits hc⟩
    | cons d tail =>
      refine ⟨?_, pointed_append hc ht⟩
      simpa using hd.not_mem (c := 'e') rfl
  rw [scientific_cons, spelled_append hhead.1, hhead.2, power_powerText, hpow]
  ring

/-! ### The shape of numerals -/

/-- The characters of the numerals of finite doubles. -/
def IsMark (c : Char) : Prop := c.isDigit = true ∨ c = '.' ∨ c = 'e' ∨ c = '+' ∨ c = '-'

/-- A digit, and after it marks with a point or a letter among them. -/
structure IsNumeral (cs : List Char) : Prop where
  head : ∃ a rest, cs = a :: rest ∧ a.isDigit = true
  marks : ∀ c ∈ cs, IsMark c
  fraction : '.' ∈ cs ∨ 'e' ∈ cs

theorem AllDigits.isMark {cs : List Char} (h : AllDigits cs) : ∀ c ∈ cs, IsMark c :=
  fun c hc => .inl (h c hc)

theorem isNumeral_point {a : Char} {as bs : List Char} (ha : AllDigits (a :: as))
    (hb : AllDigits bs) : IsNumeral (a :: as ++ '.' :: bs) where
  head := ⟨a, as ++ '.' :: bs, rfl, ha a (by simp)⟩
  marks c hc := by
    rcases List.mem_append.1 hc with h | h
    · exact ha.isMark c h
    · rcases List.mem_cons.1 h with rfl | h
      · exact .inr (.inl rfl)
      · exact hb.isMark c h
  fraction := .inl (by simp)

theorem isNumeral_positional {ds : List Char} (hd : AllDigits ds) (hne : ds ≠ []) (p : Int) :
    IsNumeral (positional ds p) := by
  have hz : AllDigits ['0'] := allDigits_zeros 1
  obtain ⟨c, tail, rfl⟩ := List.exists_cons_of_ne_nil hne
  rw [positional]
  split_ifs with h₁ h₂
  · exact isNumeral_point hz ((allDigits_zeros _).append hd)
  · obtain ⟨k, hk⟩ : ∃ k, p.toNat = k + 1 := ⟨p.toNat - 1, by omega⟩
    rw [hk, List.take_succ_cons, List.drop_succ_cons]
    refine isNumeral_point (fun a ha => hd a ?_) (fun a ha => hd a ?_)
    · rcases List.mem_cons.1 ha with rfl | ha
      · exact List.mem_cons_self
      · exact List.mem_cons_of_mem _ (List.mem_of_mem_take ha)
    · exact List.mem_cons_of_mem _ (List.mem_of_mem_drop ha)
  · rw [List.cons_append]
    exact isNumeral_point (hd.append (allDigits_zeros _)) hz

theorem allDigits_powerText (p : Int) :
    ∃ s ds, powerText p = s :: ds ∧ (s = '+' ∨ s = '-') ∧ AllDigits ds := by
  have hs : AllDigits (toString p.natAbs).toList := by
    rw [Nat.toString_eq_repr, Nat.toList_repr]
    exact allDigits_toDigits _
  refine ⟨_, _, rfl, ?_, ?_⟩
  · split_ifs <;> simp
  · split_ifs
    · exact (allDigits_zeros 1).append hs
    · exact hs

theorem isNumeral_scientific {ds : List Char} (hd : AllDigits ds) (hne : ds ≠ []) (p : Int) :
    IsNumeral (scientific ds p) := by
  obtain ⟨c, tail, rfl⟩ := List.exists_cons_of_ne_nil hne
  obtain ⟨s, es, he, hs, hes⟩ := allDigits_powerText p
  have ht : AllDigits tail := fun a ha => hd a (List.mem_cons_of_mem _ ha)
  have hhead : ∀ a ∈ (c :: if tail.isEmpty then [] else '.' :: tail), IsMark a := by
    intro a ha
    rcases List.mem_cons.1 ha with rfl | ha
    · exact hd.isMark a List.mem_cons_self
    · split_ifs at ha
      · cases ha
      · rcases List.mem_cons.1 ha with rfl | ha
        · exact .inr (.inl rfl)
        · exact ht.isMark a ha
  rw [scientific_cons, he]
  refine ⟨⟨c, _, rfl, hd c List.mem_cons_self⟩, fun a ha => ?_, .inr (by simp)⟩
  rcases List.mem_append.1 ha with ha | ha
  · exact hhead a ha
  · rcases List.mem_cons.1 ha with rfl | ha
    · exact .inr (.inr (.inl rfl))
    · rcases List.mem_cons.1 ha with rfl | ha
      · exact .inr (.inr (.inr hs))
      · exact hes.isMark a ha

end Decimal

/-- The numeral of a finite double without its sign. -/
def magnitudeText (d : Dyadic) : List Char :=
  if d.mantissa = 0 then ['0', '.', '0'] else
    let s := Decimal.shortest d
    let digits := (toString s.digits).toList
    let point := s.exponent + digits.length
    if -4 < point && point ≤ 16 then positional digits point else scientific digits (point - 1)

theorem toList_floatText {x : Float} {d : Dyadic} (h : Dyadic.ofFloat? x = some d) :
    (floatText x).toList = (if d.negative then ['-'] else []) ++ magnitudeText d := by
  simp only [floatText, h, magnitudeText]
  split_ifs <;> simp

theorem spelled_magnitudeText {d : Dyadic} (h : d.mantissa ≠ 0) :
    Decimal.spelled (magnitudeText d) = (Decimal.shortest d).value := by
  have hd : (toString (Decimal.shortest d).digits).toList =
      Nat.toDigits 10 (Decimal.shortest d).digits := by
    rw [Nat.toString_eq_repr, Nat.toList_repr]
  have ha := Decimal.allDigits_toDigits (Decimal.shortest d).digits
  rw [magnitudeText, if_neg h]
  simp only [hd]
  split_ifs
  · rw [Decimal.spelled_positional ha, Nat.ofDigitChars_ten_toDigits, Decimal.value,
      Int.add_sub_cancel]
  · rw [Decimal.spelled_scientific ha (by simp), Nat.ofDigitChars_ten_toDigits, Decimal.value,
      Int.sub_add_cancel, Int.add_sub_cancel]

theorem isNumeral_magnitudeText (d : Dyadic) : Decimal.IsNumeral (magnitudeText d) := by
  have ha : Decimal.AllDigits (toString (Decimal.shortest d).digits).toList := by
    rw [Nat.toString_eq_repr, Nat.toList_repr]
    exact Decimal.allDigits_toDigits _
  have hne : (toString (Decimal.shortest d).digits).toList ≠ [] := by
    rw [Nat.toString_eq_repr, Nat.toList_repr]
    exact Nat.toDigits_ne_nil
  rw [magnitudeText]
  split_ifs
  · exact Decimal.isNumeral_point (Decimal.allDigits_zeros 1) (Decimal.allDigits_zeros 1)
  · dsimp only
    split_ifs
    · exact Decimal.isNumeral_positional ha hne _
    · exact Decimal.isNumeral_scientific ha hne _

theorem magnitudeText_injective {d d' : Dyadic} (hn : Dyadic.Normal d.mantissa d.exponent)
    (hn' : Dyadic.Normal d'.mantissa d'.exponent) (h : magnitudeText d = magnitudeText d') :
    d.mantissa = d'.mantissa ∧ d.exponent = d'.exponent := by
  have hzero (e : Dyadic) (he : e.mantissa = 0) : Decimal.spelled (magnitudeText e) = 0 := by
    rw [magnitudeText, if_pos he]
    have h0 := Decimal.spelled_point (Decimal.allDigits_zeros 1) (Decimal.allDigits_zeros 1)
    rw [← List.replicate_add, Nat.ofDigitChars_replicate_zero] at h0
    simpa using h0
  have hrounds (e : Dyadic) (hne : Dyadic.Normal e.mantissa e.exponent) (he : e.mantissa ≠ 0) :
      Decimal.RoundsTo e.mantissa e.exponent (Decimal.spelled (magnitudeText e)) := by
    rw [spelled_magnitudeText he]
    exact Decimal.roundsTo_shortest hne (Nat.pos_of_ne_zero he)
  by_cases hm : d.mantissa = 0 <;> by_cases hm' : d'.mantissa = 0
  · have hq := hn.full.resolve_right (by omega)
    have hq' := hn'.full.resolve_right (by omega)
    exact ⟨hm.trans hm'.symm, hq.trans hq'.symm⟩
  · have hp := (hrounds d' hn' hm').pos (Nat.pos_of_ne_zero hm')
    rw [← h, hzero d hm] at hp
    exact absurd hp (lt_irrefl _)
  · have hp := (hrounds d hn hm).pos (Nat.pos_of_ne_zero hm)
    rw [h, hzero d' hm'] at hp
    exact absurd hp (lt_irrefl _)
  · exact (hrounds d hn hm).unique hn hn' (h ▸ hrounds d' hn' hm')

theorem isMark_of_mem_floatText {x : Float} {d : Dyadic} (h : Dyadic.ofFloat? x = some d) {c : Char}
    (hc : c ∈ (floatText x).toList) : Decimal.IsMark c := by
  rw [toList_floatText h] at hc
  rcases List.mem_append.1 hc with hc | hc
  · split_ifs at hc
    · obtain rfl := List.mem_singleton.1 hc
      exact .inr (.inr (.inr (.inr rfl)))
    · cases hc
  · exact (isNumeral_magnitudeText d).marks c hc

theorem floatText_of_none {x : Float} (h : Dyadic.ofFloat? x = none) :
    floatText x = if x.isNaN then "nan" else if Binary64.isNegative x then "-inf" else "inf" := by
  rw [floatText, h]

/-- What starts with a digit does not start with a sign. -/
theorem signed_append_inj {cs ds : List Char} (hc : ∃ a rest, cs = a :: rest ∧ a.isDigit = true)
    (hd : ∃ a rest, ds = a :: rest ∧ a.isDigit = true) {b b' : Bool}
    (h : (if b then ['-'] else []) ++ cs = (if b' then ['-'] else []) ++ ds) :
    b = b' ∧ cs = ds := by
  obtain ⟨a, rest, rfl, ha⟩ := hc
  obtain ⟨a', rest', rfl, ha'⟩ := hd
  cases b <;> cases b'
  · exact ⟨rfl, h⟩
  · obtain ⟨rfl, -⟩ := List.cons.inj h
    exact absurd ha (by decide)
  · obtain ⟨rfl, -⟩ := List.cons.inj h
    exact absurd ha' (by decide)
  · exact ⟨rfl, (List.cons.inj h).2⟩

/-- Different doubles have different texts. -/
theorem floatText_injective {x y : Float} (h : floatText x = floatText y) : x = y := by
  -- the names of the values that are not finite hold a letter that no numeral has
  have hname (z : Float) (hz : Dyadic.ofFloat? z = none) : 'n' ∈ (floatText z).toList := by
    rw [floatText_of_none hz]
    split_ifs <;> decide
  have hmark (z : Float) (d : Dyadic) (hz : Dyadic.ofFloat? z = some d) :
      'n' ∉ (floatText z).toList := fun hn =>
    absurd (isMark_of_mem_floatText hz hn) (by simp [Decimal.IsMark])
  cases hx : Dyadic.ofFloat? x with
  | none =>
    cases hy : Dyadic.ofFloat? y with
    | none =>
      rw [floatText_of_none hx, floatText_of_none hy] at h
      have hx' := Dyadic.ofFloat?_eq_none_iff.1 hx
      have hy' := Dyadic.ofFloat?_eq_none_iff.1 hy
      split_ifs at h <;> first
        | exact Binary64.eq_of_isNaN ‹_› ‹_›
        | exact absurd h (by decide)
        | exact Binary64.eq_of_isInf (hx'.resolve_left ‹_›) (hy'.resolve_left ‹_›) (by simp_all)
    | some d => exact absurd (h ▸ hname x hx) (hmark y d hy)
  | some d =>
    cases hy : Dyadic.ofFloat? y with
    | none => exact absurd (h ▸ hname y hy) (h ▸ hmark x d hx)
    | some d' =>
      have ht : (floatText x).toList = (floatText y).toList := congrArg String.toList h
      rw [toList_floatText hx, toList_floatText hy] at ht
      obtain ⟨hs, hm⟩ := signed_append_inj (isNumeral_magnitudeText d).head
        (isNumeral_magnitudeText d').head ht
      obtain ⟨he, hq⟩ := magnitudeText_injective (Dyadic.normal_of_ofFloat? hx)
        (Dyadic.normal_of_ofFloat? hy) hm
      obtain rfl : d = d' := by
        cases d
        cases d'
        simp_all
      exact Dyadic.ofFloat?_injective hx hy

end RuleLedger
