import RuleLedger.Proofs.Number.Shortest

/-! The nearest double to a fraction. Main statement: a decimal is read as the double that it rounds
to. -/
namespace RuleLedger

open Decimal (RoundsTo lowEnd highEnd)

/-- The nearest whole number is at most a half away, and an odd one less. -/
theorem divNearest_spec {n d : Nat} (hd : 0 < d) :
    2 * (divNearest n d * d) ≤ 2 * n + d ∧ 2 * n ≤ 2 * (divNearest n d * d) + d ∧
      (divNearest n d % 2 = 1 →
        2 * (divNearest n d * d) < 2 * n + d ∧ 2 * n < 2 * (divNearest n d * d) + d) := by
  have h : divNearest n d =
      if d < 2 * (n % d) || (d == 2 * (n % d) && n / d % 2 == 1) then n / d + 1 else n / d := rfl
  have hn : n / d * d + n % d = n := Nat.div_add_mod' n d
  have hr : n % d < d := Nat.mod_lt n hd
  simp only [Bool.or_eq_true, Bool.and_eq_true, decide_eq_true_eq, beq_iff_eq] at h
  rw [h]
  split_ifs with hup
  · rw [Nat.add_mul, Nat.one_mul]
    omega
  · omega

variable {num den m : Nat} {q : Int}

namespace Decimal

theorem RoundsTo.mantissa_le {v : ℚ} (h : RoundsTo m q v) (hv : v < 2 ^ 53 * 2 ^ q) :
    m ≤ 2 ^ 53 := by
  have hlow := h.bounds.1.trans_lt hv
  rw [lowEnd] at hlow
  have hlt := lt_of_mul_lt_mul_right hlow (by positivity)
  have hm : (m : ℚ) < (2 ^ 53 + 1 : Nat) := by
    push_cast
    split_ifs at hlt <;> linarith
  exact Nat.le_of_lt_succ (by exact_mod_cast hm)

theorem RoundsTo.le_mantissa {v : ℚ} (h : RoundsTo m q v) (hv : 2 ^ 52 * 2 ^ q ≤ v) :
    2 ^ 52 ≤ m := by
  have hhigh := hv.trans h.bounds.2
  rw [highEnd] at hhigh
  have hle := le_of_mul_le_mul_right hhigh (by positivity)
  have hm : ((2 ^ 52 : Nat) : ℚ) < (m + 1 : Nat) := by
    push_cast
    linarith
  exact Nat.le_of_lt_succ (by exact_mod_cast hm)

/-- Where a mantissa is rounded up to 54 bits, the fraction rounds to the least mantissa of the next
exponent. -/
theorem RoundsTo.carry {v : ℚ} (hq : Dyadic.minExponent ≤ q) (h : RoundsTo (2 ^ 53) q v)
    (hv : v < 2 ^ 53 * 2 ^ q) : RoundsTo (2 ^ 52) (q + 1) v := by
  have hp : (0 : ℚ) < 2 ^ q := by positivity
  have hpow : (2 : ℚ) ^ (q + 1) = 2 * 2 ^ q := by
    rw [zpow_add_one₀ two_ne_zero]
    ring
  have hlow := h.bounds.1
  rw [lowEnd, if_neg (by omega)] at hlow
  push_cast at hlow
  rw [RoundsTo, if_pos (by decide), lowEnd, highEnd, if_pos ⟨rfl, by omega⟩, hpow]
  push_cast
  constructor <;> linarith

end Decimal

namespace Binary64

/-- The comparison that the leading exponent is adjusted by. -/
theorem shift_lt_iff (hden : 0 < den) (e : Int) :
    num <<< (-e).toNat < den <<< e.toNat ↔ (num : ℚ) / den < 2 ^ e := by
  have hd : (0 : ℚ) < den := by exact_mod_cast hden
  rw [div_lt_iff₀ hd, ← Nat.cast_lt (α := ℚ), Nat.shiftLeft_eq, Nat.shiftLeft_eq]
  push_cast
  rw [← zpow_mul_pow_toNat two_ne_zero e, mul_comm (den : ℚ), mul_right_comm,
    mul_lt_mul_iff_left₀ (show (0 : ℚ) < 2 ^ (-e).toNat by positivity)]

theorem lt_two_zpow (hden : 0 < den) :
    (num : ℚ) / den < 2 ^ ((num.log2 : Int) - den.log2 + 1) := by
  have hd : ((2 ^ den.log2 : Nat) : ℚ) ≤ den := by exact_mod_cast Nat.log2_self_le hden.ne'
  have hn : (num : ℚ) < (2 ^ (num.log2 + 1) : Nat) := by exact_mod_cast Nat.lt_log2_self
  rw [div_lt_iff₀ (by exact_mod_cast hden)]
  calc (num : ℚ) < (2 ^ (num.log2 + 1) : Nat) := hn
    _ = 2 ^ ((num.log2 : Int) - den.log2 + 1) * (2 ^ den.log2 : Nat) := by
      push_cast
      rw [← zpow_natCast, ← zpow_natCast (2 : ℚ) den.log2, ← zpow_add₀ two_ne_zero]
      congr 1
      push_cast
      ring
    _ ≤ 2 ^ ((num.log2 : Int) - den.log2 + 1) * den :=
      mul_le_mul_of_nonneg_left hd (by positivity)

/-- A fraction lies between its leading power of two and the next. -/
theorem leadingExponent_spec (hnum : 0 < num) (hden : 0 < den) :
    (2 : ℚ) ^ leadingExponent num den ≤ num / den ∧
      (num : ℚ) / den < 2 ^ (leadingExponent num den + 1) := by
  have h : leadingExponent num den =
      if num <<< (-((num.log2 : Int) - den.log2)).toNat <
        den <<< ((num.log2 : Int) - den.log2).toNat
      then (num.log2 : Int) - den.log2 - 1 else (num.log2 : Int) - den.log2 := rfl
  rw [h]
  split_ifs with hlt
  · refine ⟨Decimal.two_zpow_le hnum hden, ?_⟩
    rw [sub_add_cancel]
    exact (shift_lt_iff hden _).1 hlt
  · exact ⟨not_lt.1 fun hv => hlt ((shift_lt_iff hden _).2 hv), lt_two_zpow hden⟩

/-- The quotient that is rounded is the fraction in units of 2^q. -/
theorem shift_div_shift (hden : 0 < den) (q : Int) :
    ((num <<< (-q).toNat : Nat) : ℚ) / (den <<< q.toNat : Nat) = num / den / 2 ^ q := by
  have hd : (den : ℚ) ≠ 0 := by exact_mod_cast hden.ne'
  rw [Nat.shiftLeft_eq, Nat.shiftLeft_eq]
  push_cast
  rw [← zpow_mul_pow_toNat two_ne_zero q]
  field_simp

/-- The rounded mantissa at an exponent, unless rounding up has made it the least there. -/
theorem roundsTo_divNearest (hden : 0 < den) (q : Int)
    (hlow : divNearest (num <<< (-q).toNat) (den <<< q.toNat) = 2 ^ 52 → q ≠ Dyadic.minExponent →
      (2 : ℚ) ^ 52 * 2 ^ q ≤ num / den) :
    RoundsTo (divNearest (num <<< (-q).toNat) (den <<< q.toNat)) q (num / den) := by
  have hp : (0 : ℚ) < 2 ^ q := by positivity
  have hd : 0 < den <<< q.toNat := by
    rw [Nat.shiftLeft_eq]
    exact Nat.mul_pos hden (Nat.two_pow_pos _)
  have hdq : (0 : ℚ) < (den <<< q.toNat : Nat) := by exact_mod_cast hd
  obtain ⟨hle, hge, hodd⟩ := divNearest_spec (n := num <<< (-q).toNat) hd
  have hv : (num : ℚ) / den =
      ((num <<< (-q).toNat : Nat) : ℚ) / (den <<< q.toNat : Nat) * 2 ^ q := by
    rw [shift_div_shift hden, div_mul_cancel₀ _ hp.ne']
  generalize divNearest (num <<< (-q).toNat) (den <<< q.toNat) = a at *
  generalize num <<< (-q).toNat = n at *
  generalize den <<< q.toNat = d at *
  have hleq : (2 : ℚ) * (a * d) ≤ 2 * n + d := by exact_mod_cast hle
  have hgeq : (2 : ℚ) * n ≤ 2 * (a * d) + d := by exact_mod_cast hge
  rw [RoundsTo]
  split_ifs with heven
  · have hhigh : (num : ℚ) / den ≤ highEnd a q := by
      rw [hv, highEnd]
      refine mul_le_mul_of_nonneg_right ?_ hp.le
      rw [div_le_iff₀ hdq]
      linarith
    refine ⟨?_, hhigh⟩
    rw [lowEnd]
    split_ifs with hspecial
    · have h52 := hlow hspecial.1 hspecial.2
      rw [hspecial.1]
      refine le_trans (mul_le_mul_of_nonneg_right ?_ hp.le) h52
      norm_num
    · rw [hv]
      refine mul_le_mul_of_nonneg_right ?_ hp.le
      rw [le_div_iff₀ hdq]
      linarith
  · obtain ⟨hlt, hgt⟩ := hodd (by omega)
    have hltq : (2 : ℚ) * (a * d) < 2 * n + d := by exact_mod_cast hlt
    have hgtq : (2 : ℚ) * n < 2 * (a * d) + d := by exact_mod_cast hgt
    rw [lowEnd, highEnd, if_neg (by omega), hv]
    refine ⟨mul_lt_mul_of_pos_right ?_ hp, mul_lt_mul_of_pos_right ?_ hp⟩
    · rw [lt_div_iff₀ hdq]
      linarith
    · rw [div_lt_iff₀ hdq]
      linarith

/-- What `ofRatio?` finds: a mantissa of at most 53 bits that the fraction rounds to, or 2^53 where
rounding up carries over. -/
structure Found (num den a : Nat) (p : Int) : Prop where
  exponent_eq : p = max (leadingExponent num den - 52) Dyadic.minExponent
  rounds : RoundsTo a p (num / den)
  below : (num : ℚ) / den < 2 ^ 53 * 2 ^ p
  mantissa_le : a ≤ 2 ^ 53
  full : p = Dyadic.minExponent ∨ 2 ^ 52 ≤ a
  ratio_eq : ofRatio? num den =
    if (p - Dyadic.minExponent).toNat * 2 ^ 52 + a < 2047 * 2 ^ 52 then
      some (Float.ofBits (UInt64.ofNat ((p - Dyadic.minExponent).toNat * 2 ^ 52 + a)))
    else none

theorem exists_found (hnum : 0 < num) (hden : 0 < den) : ∃ a p, Found num den a p := by
  obtain ⟨hlead, hnext⟩ := leadingExponent_spec hnum hden
  obtain ⟨p, hp⟩ : ∃ p, p = max (leadingExponent num den - 52) Dyadic.minExponent := ⟨_, rfl⟩
  obtain ⟨a, ha⟩ : ∃ a, a = divNearest (num <<< (-p).toNat) (den <<< p.toNat) := ⟨_, rfl⟩
  have hvp : (num : ℚ) / den < 2 ^ 53 * 2 ^ p := by
    refine hnext.trans_le ?_
    rw [← zpow_natCast, ← zpow_add₀ two_ne_zero]
    exact zpow_le_zpow_right₀ one_le_two (by push_cast; omega)
  have hfull : p = Dyadic.minExponent ∨ (2 : ℚ) ^ 52 * 2 ^ p ≤ num / den := by
    refine or_iff_not_imp_left.2 fun hne => le_trans ?_ hlead
    rw [← zpow_natCast, ← zpow_add₀ two_ne_zero]
    exact zpow_le_zpow_right₀ one_le_two (by push_cast; omega)
  have hround : RoundsTo a p (num / den) := by
    rw [ha]
    exact roundsTo_divNearest hden p fun _ hne => hfull.resolve_left hne
  have hratio : ofRatio? num den =
      if num = 0 then some 0.0 else
        if (p - Dyadic.minExponent).toNat <<< 52 + a < 2047 <<< 52 then
          some (Float.ofBits (UInt64.ofNat ((p - Dyadic.minExponent).toNat <<< 52 + a)))
        else none := by
    rw [ha, hp]
    rfl
  rw [if_neg hnum.ne', Nat.shiftLeft_eq, Nat.shiftLeft_eq] at hratio
  exact ⟨a, p, hp, hround, hvp, hround.mantissa_le hvp, hfull.imp_right hround.le_mantissa, hratio⟩

/-- The mantissa and the exponent that the fraction rounds to have the bits that were found. -/
theorem Found.exists_normal {a : Nat} {p : Int} (h : Found num den a p) (hp : p ≤ 971)
    (htop : a = 2 ^ 53 → p ≤ 970) :
    ∃ m q, Dyadic.Normal m q ∧ RoundsTo m q (num / den) ∧
      (p - Dyadic.minExponent).toNat * 2 ^ 52 + a =
        (q - Dyadic.minExponent).toNat * 2 ^ 52 + m := by
  have hmin : Dyadic.minExponent ≤ p := by
    rw [h.exponent_eq]
    exact le_max_right _ _
  obtain hlt | rfl := h.mantissa_le.lt_or_eq
  · exact ⟨a, p, ⟨hlt, hmin, hp, h.full⟩, h.rounds, rfl⟩
  · have htop := htop rfl
    refine ⟨2 ^ 52, p + 1, ⟨by decide, by omega, by omega, .inr (Nat.le_refl _)⟩,
      h.rounds.carry hmin h.below, by omega⟩

/-- The double that a fraction rounds to is the nearest one. -/
theorem ofRatio?_of_roundsTo (hnum : 0 < num) (hden : 0 < den) (hn : Dyadic.Normal m q)
    (h : RoundsTo m q (num / den)) :
    ofRatio? num den =
      some (Float.ofBits (UInt64.ofNat ((q - Dyadic.minExponent).toNat * 2 ^ 52 + m))) := by
  obtain ⟨hlead, -⟩ := leadingExponent_spec hnum hden
  have hmin := hn.le_exponent
  have hmax := hn.exponent_le
  have hm := hn.mantissa_lt
  -- the exponent of the rounded mantissa is at most that of the double
  have hexponent : leadingExponent num den < q + 53 := by
    have hmq : (m : ℚ) + 1 ≤ 2 ^ 53 := by exact_mod_cast hm
    have hv : (num : ℚ) / den < 2 ^ 53 * 2 ^ q := by
      refine h.bounds.2.trans_lt ?_
      rw [highEnd]
      exact mul_lt_mul_of_pos_right (by linarith) (by positivity)
    have hlt : (2 : ℚ) ^ leadingExponent num den < 2 ^ (q + 53) := by
      rw [zpow_add₀ two_ne_zero, mul_comm]
      exact hlead.trans_lt hv
    exact (zpow_lt_zpow_iff_right₀ one_lt_two).1 hlt
  obtain ⟨a, p, hfound⟩ := exists_found hnum hden
  have hp : p ≤ q := by
    have := hfound.exponent_eq
    omega
  have hcarry : a = 2 ^ 53 → p ≤ 970 := by
    rintro rfl
    have hpq : p ≠ q := by
      rintro rfl
      exact absurd (h.le_of_same hfound.rounds) (by omega)
    omega
  obtain ⟨m', q', hn', hrounds, hbits⟩ := hfound.exists_normal (by omega) hcarry
  obtain ⟨rfl, rfl⟩ := h.unique hn hn' hrounds
  have hmin' : Dyadic.minExponent = -1074 := rfl
  rw [hfound.ratio_eq, hbits, if_pos (by omega)]

/-- What a fraction rounds to, where its nearest double is within the range. -/
theorem exists_normal_of_ofRatio? {x : Float} (hnum : 0 < num) (hden : 0 < den)
    (h : ofRatio? num den = some x) :
    ∃ m q, Dyadic.Normal m q ∧ RoundsTo m q (num / den) ∧
      x = Float.ofBits (UInt64.ofNat ((q - Dyadic.minExponent).toNat * 2 ^ 52 + m)) := by
  obtain ⟨a, p, hfound⟩ := exists_found hnum hden
  rw [hfound.ratio_eq] at h
  split_ifs at h with hbits
  have hmin : Dyadic.minExponent = -1074 := rfl
  have hfull := hfound.full
  obtain ⟨m, q, hn, hrounds, hsame⟩ := hfound.exists_normal (by omega) (by omega)
  exact ⟨m, q, hn, hrounds, by rw [← hsame, Option.some.inj h]⟩

/-- A double with the sign, and the other bits, of a finite one is that one. -/
theorem withSign_eq {x y : Float} {d : Dyadic} (hx : Dyadic.ofFloat? x = some d)
    (hy : y.toBits.toNat = (d.exponent - Dyadic.minExponent).toNat * 2 ^ 52 + d.mantissa) :
    withSign d.negative y = x := by
  have hn := Dyadic.normal_of_ofFloat? hx
  have hm := hn.mantissa_lt
  have hq := hn.exponent_le
  have hmin : Dyadic.minExponent = -1074 := rfl
  apply toBits_injective
  rw [Dyadic.toBits_of_ofFloat? hx, withSign]
  cases d.negative
  · rw [if_neg Bool.false_ne_true, if_neg Bool.false_ne_true, hy, Nat.zero_add]
  · rw [if_pos rfl, if_pos rfl, toBits_neg (by omega), hy, Nat.add_assoc]

end Binary64

namespace Decimal

theorem le_exponent_stripZeros (fuel : Nat) (d : Decimal) :
    d.exponent ≤ (stripZeros fuel d).exponent := by
  induction fuel generalizing d with
  | zero => exact Int.le_refl _
  | succ fuel ih =>
    rw [stripZeros]
    split_ifs
    · have h := ih ⟨d.digits / 10, d.exponent + 1⟩
      dsimp only at h
      omega
    · exact Int.le_refl _

theorem exponent_neighbours (num den : Nat) (t : Int) :
    (neighbours num den t).1.exponent = t ∧ (neighbours num den t).2.exponent = t := by
  unfold neighbours
  dsimp only
  split_ifs <;> exact ⟨rfl, rfl⟩

theorem le_exponent_searchFrom (m : Nat) (q : Int) (num den : Nat) (k : Int) (fuel n : Nat) :
    k - (n + fuel : Nat) ≤ (searchFrom m q num den k fuel n).exponent := by
  induction fuel generalizing n with
  | zero =>
    rw [searchFrom, (exponent_neighbours num den _).1]
    omega
  | succ fuel ih =>
    have hrest := ih (n + 1)
    rw [searchFrom]
    split_ifs
    · rw [(exponent_neighbours num den _).1]
      omega
    · rw [(exponent_neighbours num den _).2]
      omega
    · omega

theorem le_scaleFrom_self (fuel num den : Nat) (k : Int) : k ≤ scaleFrom fuel num den k := by
  induction fuel generalizing k with
  | zero => exact Int.le_refl k
  | succ fuel ih =>
    have hrest := ih (k + 1)
    rw [scaleFrom]
    split_ifs <;> omega

/-- The exponent of the shortest decimal of a double has at most three digits. -/
theorem le_exponent_shortest {x : Dyadic} (hn : Dyadic.Normal x.mantissa x.exponent) :
    -400 ≤ (shortest x).exponent := by
  have hmin : Dyadic.minExponent = -1074 := rfl
  have hq := hn.le_exponent
  have hden : x.den.log2 = (-x.exponent).toNat := by
    rw [Dyadic.den, Nat.one_shiftLeft, Nat.log2_two_pow]
  have hscale : -340 ≤ scale x.num x.den :=
    le_trans (by omega) (le_scaleFrom_self 5 x.num x.den _)
  have hsearch := le_exponent_searchFrom x.mantissa x.exponent x.num x.den (scale x.num x.den) 16 1
  refine le_trans ?_ (le_exponent_stripZeros 20 _)
  omega

theorem RoundsTo.lt_top {v : ℚ} (hn : Dyadic.Normal m q) (h : RoundsTo m q v) :
    v < 2 ^ 1024 := by
  have hm : (m : ℚ) + 1 ≤ 2 ^ 53 := by exact_mod_cast hn.mantissa_lt
  calc v ≤ (m + 1 / 2) * 2 ^ q := h.bounds.2
    _ < 2 ^ 53 * 2 ^ q := mul_lt_mul_of_pos_right (by linarith) (by positivity)
    _ ≤ 2 ^ 53 * 2 ^ (971 : Int) :=
      mul_le_mul_of_nonneg_left (zpow_le_zpow_right₀ one_le_two hn.exponent_le) (by positivity)
    _ = 2 ^ 1024 := by
      rw [← zpow_natCast, ← zpow_natCast, ← zpow_add₀ two_ne_zero]
      rfl

/-- The size that a decimal is judged by when it is read. -/
theorem size_le {d : Decimal} (hdigits : d.digits ≠ 0) (hd : -400 ≤ d.exponent)
    (h : d.value < 2 ^ 1024) : d.exponent + d.digits.log2 * 30103 / 100000 ≤ 400 := by
  have hlead : (2 : ℚ) ^ d.digits.log2 * 10 ^ d.exponent ≤ d.value := by
    refine mul_le_mul_of_nonneg_right ?_ (by positivity)
    exact_mod_cast Nat.log2_self_le hdigits
  have hlog : d.digits.log2 < 1024 + 17 * 80 := by
    have hten : (10 : ℚ) ^ (-(5 * 80 : Nat) : Int) ≤ 10 ^ d.exponent :=
      zpow_le_zpow_right₀ (by norm_num) (by omega)
    have hlt : (2 : ℚ) ^ d.digits.log2 * 10 ^ (-(5 * 80 : Nat) : Int) < 2 ^ 1024 :=
      (mul_le_mul_of_nonneg_left hten (by positivity)).trans_lt (hlead.trans_lt h)
    rw [zpow_neg, zpow_natCast, ← div_eq_mul_inv, div_lt_iff₀ (by positivity)] at hlt
    have hpow : (10 : ℚ) ^ (5 * 80) ≤ 2 ^ (17 * 80) := by
      rw [pow_mul, pow_mul]
      exact pow_le_pow_left₀ (by positivity) (by norm_num) 80
    have hle : (2 : ℚ) ^ d.digits.log2 < 2 ^ (1024 + 17 * 80) := by
      rw [pow_add]
      exact hlt.trans_le (mul_le_mul_of_nonneg_left hpow (by positivity))
    exact (pow_lt_pow_iff_right₀ one_lt_two).1 hle
  by_contra hsize
  have hten := ten_zpow_le_two_zpow (l := d.digits.log2) (by omega) (by omega)
  have hbig : (10 : ℚ) ^ (399 : Int) ≤ d.value := by
    refine le_trans ?_ hlead
    calc (10 : ℚ) ^ (399 : Int)
        ≤ 10 ^ ((d.digits.log2 : Int) * 30103 / 100000 - 2 + d.exponent) :=
          zpow_le_zpow_right₀ (by norm_num) (by omega)
      _ = 10 ^ ((d.digits.log2 : Int) * 30103 / 100000 - 2) * 10 ^ d.exponent :=
          zpow_add₀ (by norm_num) _ _
      _ ≤ 2 ^ d.digits.log2 * 10 ^ d.exponent :=
          mul_le_mul_of_nonneg_right (by simpa using hten) (by positivity)
  have hnat : 10 ^ 399 < 2 ^ 1024 := by exact_mod_cast hbig.trans_lt h
  exact absurd hnat (by decide +kernel)

/-- The bounds on the size keep no decimal from its nearest double. -/
theorem toFloat_eq {d : Decimal} (hd : -400 ≤ d.exponent) :
    d.toFloat = (Binary64.ofRatio? d.num d.den).getD Binary64.infinity := by
  by_cases hdigits : d.digits = 0
  · have hnum : d.num = 0 := by rw [num, hdigits, Nat.zero_mul]
    rw [toFloat, if_pos hdigits, hnum]
    rfl
  · have hnum : 0 < d.num := Nat.mul_pos (Nat.pos_of_ne_zero hdigits) (Nat.pow_pos (by decide))
    have hsmall : ¬d.exponent + d.digits.log2 * 30103 / 100000 < -400 := by omega
    rw [toFloat, if_neg hdigits]
    dsimp only
    rw [if_neg hsmall]
    cases hratio : Binary64.ofRatio? d.num d.den with
    | none => exact ite_self _
    | some x =>
      obtain ⟨m, q, hn, hrounds, -⟩ := Binary64.exists_normal_of_ofRatio? hnum d.den_pos hratio
      rw [num_div_den] at hrounds
      have hsize := size_le hdigits hd (hrounds.lt_top hn)
      rw [if_neg (by omega)]

/-- A decimal is read as the double that it rounds to. -/
theorem toBits_toFloat {d : Decimal} (hn : Dyadic.Normal m q) (hm : 0 < m)
    (hd : -400 ≤ d.exponent) (h : RoundsTo m q d.value) :
    d.toFloat.toBits.toNat = (q - Dyadic.minExponent).toNat * 2 ^ 52 + m := by
  have hpos : 0 < d.value := h.pos hm
  have hdigits : 0 < d.digits := by
    refine Nat.pos_of_ne_zero fun h0 => ?_
    rw [value, h0, Nat.cast_zero, zero_mul] at hpos
    exact hpos.false
  have hnum : 0 < d.num := Nat.mul_pos hdigits (Nat.pow_pos (by decide))
  have hmin : Dyadic.minExponent = -1074 := rfl
  have hq := hn.exponent_le
  have hmax := hn.mantissa_lt
  have hbits : (UInt64.ofNat ((q - Dyadic.minExponent).toNat * 2 ^ 52 + m)).toNat =
      (q - Dyadic.minExponent).toNat * 2 ^ 52 + m := by
    rw [UInt64.toNat_ofNat']
    omega
  rw [← num_div_den] at h
  rw [toFloat_eq hd, Binary64.ofRatio?_of_roundsTo hnum d.den_pos hn h, Option.getD_some,
    Binary64.toBits_ofBits (by omega), hbits]

end Decimal
end RuleLedger
