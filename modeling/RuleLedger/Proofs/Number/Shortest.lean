import Mathlib.Algebra.Order.Field.Power
import Mathlib.Tactic.Linarith
import Mathlib.Tactic.Ring
import Mathlib.Tactic.FieldSimp
import Mathlib.Tactic.NormNum
import Mathlib.Tactic.Positivity
import Mathlib.Data.Rat.Cast.Order
import RuleLedger.Number.Decimal
import RuleLedger.Proofs.Number.Binary64

/-! The decimal of fewest digits that `Decimal.shortest` finds always rounds to the double it was
made for, and a number rounds to one double only. -/
namespace RuleLedger

/-- A power with the negative part of its exponent moved to the other side. -/
theorem zpow_mul_pow_toNat {b : ℚ} (hb : b ≠ 0) (k : Int) :
    b ^ k * b ^ (-k).toNat = b ^ k.toNat := by
  rw [← zpow_natCast, ← zpow_natCast, ← zpow_add₀ hb]
  congr 1
  omega

namespace Dyadic

/-- The absolute value. -/
def magnitude (d : Dyadic) : ℚ := d.mantissa * 2 ^ d.exponent

theorem num_div_den (d : Dyadic) : (d.num : ℚ) / d.den = d.magnitude := by
  rw [num, den, magnitude, Nat.shiftLeft_eq, Nat.one_shiftLeft, div_eq_iff (by positivity)]
  push_cast
  rw [mul_assoc, zpow_mul_pow_toNat two_ne_zero]
end Dyadic
namespace Decimal

def value (d : Decimal) : ℚ := d.digits * 10 ^ d.exponent

theorem num_div_den (d : Decimal) : (d.num : ℚ) / d.den = d.value := by
  rw [num, den, value, Nat.pow_eq, Nat.pow_eq, div_eq_iff (by positivity)]
  push_cast
  rw [mul_assoc, zpow_mul_pow_toNat (by norm_num)]

theorem den_pos (d : Decimal) : 0 < d.den := by
  rw [den, Nat.pow_eq]
  exact Nat.pow_pos (by decide)

/-! ### Reading back -/

/-- The lower end of the numbers that round to the double m · 2^q. -/
def lowEnd (m : Nat) (q : Int) : ℚ :=
  (m - if m = 2 ^ 52 ∧ q ≠ Dyadic.minExponent then 1 / 4 else 1 / 2) * 2 ^ q

def highEnd (m : Nat) (q : Int) : ℚ := (m + 1 / 2) * 2 ^ q

/-- A number that rounds to the double m · 2^q. -/
def RoundsTo (m : Nat) (q : Int) (v : ℚ) : Prop :=
  if m % 2 = 0 then lowEnd m q ≤ v ∧ v ≤ highEnd m q else lowEnd m q < v ∧ v < highEnd m q

/-- What both sides of a comparison in `readsBack` are multiplied by. -/
def unitScale (d : Decimal) (q : Int) : ℚ := 4 * 2 ^ (-q).toNat * d.den

theorem unitScale_pos (d : Decimal) (q : Int) : 0 < d.unitScale q := by
  have hd : (0 : ℚ) < d.den := by exact_mod_cast d.den_pos
  unfold unitScale
  positivity

theorem cast_num_shift (d : Decimal) (q : Int) :
    ((4 * d.num <<< (-q).toNat : Nat) : ℚ) = d.value * d.unitScale q := by
  have hd : (d.den : ℚ) ≠ 0 := by exact_mod_cast d.den_pos.ne'
  rw [← num_div_den, unitScale, Nat.shiftLeft_eq]
  push_cast
  field_simp

theorem cast_den_shift (a : Nat) (d : Decimal) (q : Int) :
    ((a * d.den <<< q.toNat : Nat) : ℚ) = a / 4 * 2 ^ q * d.unitScale q := by
  rw [unitScale, Nat.shiftLeft_eq]
  push_cast
  rw [← zpow_mul_pow_toNat two_ne_zero]
  ring

/-- The lower end in quarters of a unit of the mantissa. -/
def lowQuarters (m : Nat) (q : Int) : Nat :=
  if m = 1 <<< 52 && q ≠ Dyadic.minExponent then 4 * m - 1 else 4 * m - 2

theorem cast_lowQuarters {m : Nat} (hm : 0 < m) (q : Int) :
    (lowQuarters m q : ℚ) / 4 * 2 ^ q = lowEnd m q := by
  have hb : (decide (m = 1 <<< 52) && decide (q ≠ Dyadic.minExponent)) = true ↔
      m = 2 ^ 52 ∧ q ≠ Dyadic.minExponent := by
    rw [Bool.and_eq_true, decide_eq_true_eq, decide_eq_true_eq, Nat.one_shiftLeft]
  unfold lowQuarters lowEnd
  simp only [hb]
  split_ifs <;> rw [Nat.cast_sub (by omega)] <;> push_cast <;> ring

theorem readsBack_iff {m : Nat} (hm : 0 < m) (q : Int) (d : Decimal) :
    readsBack m q d = true ↔ RoundsTo m q d.value := by
  have hs := d.unitScale_pos q
  have hhigh : ((4 * m + 2 : Nat) : ℚ) / 4 * 2 ^ q = highEnd m q := by
    rw [highEnd]
    push_cast
    ring
  have h : readsBack m q d =
      if m % 2 = 0 then
        decide (lowQuarters m q * d.den <<< q.toNat ≤ 4 * d.num <<< (-q).toNat) &&
          decide (4 * d.num <<< (-q).toNat ≤ (4 * m + 2) * d.den <<< q.toNat)
      else
        decide (lowQuarters m q * d.den <<< q.toNat < 4 * d.num <<< (-q).toNat) &&
          decide (4 * d.num <<< (-q).toNat < (4 * m + 2) * d.den <<< q.toNat) := rfl
  rw [h, RoundsTo, ← cast_lowQuarters hm, ← hhigh]
  split_ifs <;> rw [Bool.and_eq_true, decide_eq_true_eq, decide_eq_true_eq]
  · rw [← Nat.cast_le (α := ℚ), ← Nat.cast_le (α := ℚ), cast_num_shift, cast_den_shift,
      cast_den_shift, mul_le_mul_iff_left₀ hs, mul_le_mul_iff_left₀ hs]
  · rw [← Nat.cast_lt (α := ℚ), ← Nat.cast_lt (α := ℚ), cast_num_shift, cast_den_shift,
      cast_den_shift, mul_lt_mul_iff_left₀ hs, mul_lt_mul_iff_left₀ hs]

theorem RoundsTo.bounds {m : Nat} {q : Int} {v : ℚ} (h : RoundsTo m q v) :
    lowEnd m q ≤ v ∧ v ≤ highEnd m q := by
  unfold RoundsTo at h
  split_ifs at h
  · exact h
  · exact ⟨h.1.le, h.2.le⟩

/-- The ends belong to even mantissas only. -/
theorem RoundsTo.even {m : Nat} {q : Int} {v : ℚ} (h : RoundsTo m q v)
    (hv : v = lowEnd m q ∨ v = highEnd m q) : m % 2 = 0 := by
  by_contra hm
  rw [RoundsTo, if_neg hm] at h
  rcases hv with rfl | rfl
  · exact h.1.false
  · exact h.2.false

theorem RoundsTo.pos {m : Nat} {q : Int} {v : ℚ} (hm : 0 < m) (h : RoundsTo m q v) : 0 < v := by
  refine lt_of_lt_of_le ?_ h.bounds.1
  have hc : (1 : ℚ) ≤ m := by exact_mod_cast hm
  refine mul_pos ?_ (by positivity)
  split_ifs <;> linarith

/-- The mantissas at one exponent lie apart. -/
theorem RoundsTo.le_of_same {m m' : Nat} {q : Int} {v : ℚ} (h : RoundsTo m q v)
    (h' : RoundsTo m' q v) : m' ≤ m := by
  by_contra hlt
  have hp : (0 : ℚ) < 2 ^ q := by positivity
  have hc : (m : ℚ) + 1 ≤ m' := by exact_mod_cast Nat.lt_of_not_le hlt
  have hle := h'.bounds.1.trans h.bounds.2
  have hend : lowEnd m' q = highEnd m q ∧ m' = m + 1 := by
    rw [lowEnd, highEnd] at hle ⊢
    have := le_of_mul_le_mul_right hle hp
    split_ifs at this ⊢
    · linarith
    · have he : (m' : ℚ) = m + 1 := by linarith
      exact ⟨by rw [he]; ring, by exact_mod_cast he⟩
  have hv : v = highEnd m q := le_antisymm h.bounds.2 (hend.1 ▸ h'.bounds.1)
  have he := h.even (.inr hv)
  have ho := h'.even (.inl (hv.trans hend.1.symm))
  omega

/-- A greater exponent takes over where the mantissas of 53 bits end. -/
theorem RoundsTo.exponent_le {m m' : Nat} {q q' : Int} {v : ℚ} (hn : Dyadic.Normal m q)
    (hn' : Dyadic.Normal m' q') (h : RoundsTo m q v) (h' : RoundsTo m' q' v) : q' ≤ q := by
  by_contra hlt
  have hq : q' ≠ Dyadic.minExponent := by have := hn.le_exponent; omega
  have hf : 2 ^ 52 ≤ m' := hn'.full.resolve_left hq
  have hp : (0 : ℚ) < 2 ^ q := by positivity
  have hpow : (2 : ℚ) ^ q * 2 ≤ 2 ^ q' := by
    rw [← zpow_add_one₀ two_ne_zero]
    exact zpow_le_zpow_right₀ one_le_two (by omega)
  have hm : (m : ℚ) + 1 ≤ 2 ^ 53 := by exact_mod_cast hn.mantissa_lt
  have hlow (a : ℚ) (ha : 0 ≤ a) (hl : lowEnd m' q' = a * 2 ^ q') : 2 * a ≤ m + 1 / 2 := by
    have hle := h'.bounds.1.trans h.bounds.2
    rw [hl, highEnd] at hle
    refine le_of_mul_le_mul_right ?_ hp
    calc 2 * a * 2 ^ q = a * (2 ^ q * 2) := by ring
      _ ≤ a * 2 ^ q' := mul_le_mul_of_nonneg_left hpow ha
      _ ≤ (m + 1 / 2) * 2 ^ q := hle
  rcases hf.eq_or_lt with he | hg
  · have hl : lowEnd m' q' = (2 ^ 52 - 1 / 4) * 2 ^ q' := by
      rw [lowEnd, if_pos ⟨he.symm, hq⟩, ← he]
      norm_num
    have hm' : (m : ℚ) = 2 ^ 53 - 1 := by
      have := hlow _ (by norm_num) hl
      linarith
    have hv : v = highEnd m q := by
      refine le_antisymm h.bounds.2 (le_trans ?_ h'.bounds.1)
      rw [hl, highEnd, hm']
      calc ((2 : ℚ) ^ 53 - 1 + 1 / 2) * 2 ^ q = (2 ^ 52 - 1 / 4) * (2 ^ q * 2) := by ring
        _ ≤ (2 ^ 52 - 1 / 4) * 2 ^ q' := mul_le_mul_of_nonneg_left hpow (by norm_num)
    have hodd : m = 2 ^ 53 - 1 := by
      have : ((m + 1 : Nat) : ℚ) = (2 ^ 53 : Nat) := by push_cast; linarith
      have : m + 1 = 2 ^ 53 := by exact_mod_cast this
      omega
    have := h.even (.inr hv)
    omega
  · have hl : lowEnd m' q' = (m' - 1 / 2) * 2 ^ q' := by
      rw [lowEnd, if_neg (by omega)]
    have hc : (2 : ℚ) ^ 52 + 1 ≤ m' := by exact_mod_cast hg
    have := hlow _ (by linarith) hl
    linarith

/-- A number rounds to one double. -/
theorem RoundsTo.unique {m m' : Nat} {q q' : Int} {v : ℚ} (hn : Dyadic.Normal m q)
    (hn' : Dyadic.Normal m' q') (h : RoundsTo m q v) (h' : RoundsTo m' q' v) :
    m = m' ∧ q = q' := by
  obtain rfl : q = q' := le_antisymm (exponent_le hn' hn h' h) (exponent_le hn hn' h h')
  exact ⟨le_antisymm (h'.le_of_same h) (h.le_of_same h'), rfl⟩

/-! ### The search for the shortest decimal -/

theorem value_stripZeros (fuel : Nat) (d : Decimal) : (stripZeros fuel d).value = d.value := by
  induction fuel generalizing d with
  | zero => rfl
  | succ fuel ih =>
    rw [stripZeros]
    split_ifs with h
    · rw [Bool.and_eq_true, decide_eq_true_eq, decide_eq_true_eq] at h
      have hd : (d.digits : ℚ) = 10 * (d.digits / 10 : Nat) := by
        exact_mod_cast (Nat.mul_div_cancel' (Nat.dvd_of_mod_eq_zero h.2)).symm
      rw [ih, value, value, hd, zpow_add_one₀ (by norm_num)]
      ring
    · rfl

/-- The whole number that division and remainder round to is at most a half away. -/
theorem abs_nearest_sub_le {n d a : Nat} (hd : 0 < d)
    (ha : a = n / d ∧ 2 * (n % d) ≤ d ∨ a = n / d + 1 ∧ d ≤ 2 * (n % d)) :
    |(a : ℚ) - n / d| ≤ 1 / 2 := by
  have hdq : (0 : ℚ) < d := by exact_mod_cast hd
  have hdm : (n : ℚ) = d * (n / d : Nat) + (n % d : Nat) := by
    exact_mod_cast (Nat.div_add_mod n d).symm
  rcases ha with ⟨rfl, h⟩ | ⟨rfl, h⟩
  · have hq : 2 * ((n % d : Nat) : ℚ) ≤ d := by exact_mod_cast h
    rw [hdm, add_div, mul_div_cancel_left₀ _ hdq.ne', sub_add_cancel_left, abs_neg,
      abs_of_nonneg (by positivity), div_le_iff₀ hdq]
    linarith
  · have hq : (d : ℚ) ≤ 2 * ((n % d : Nat) : ℚ) := by exact_mod_cast h
    have hr : ((n % d : Nat) : ℚ) < d := by exact_mod_cast Nat.mod_lt n hd
    have he : ((n / d + 1 : Nat) : ℚ) - n / d = (d - (n % d : Nat)) / d := by
      rw [eq_div_iff hdq.ne', hdm]
      push_cast
      field_simp
      ring
    rw [he, abs_of_nonneg (div_nonneg (by linarith) hdq.le), div_le_iff₀ hdq]
    linarith

/-- The nearer neighbour on a grid is at most half a step away. -/
theorem abs_neighbours_sub_le {num den : Nat} (hden : 0 < den) (t : Int) :
    |(neighbours num den t).1.value - num / den| ≤ 10 ^ t / 2 := by
  let n := num * 10 ^ (-t).toNat
  let d := den * 10 ^ t.toNat
  have hd : 0 < d := Nat.mul_pos hden (Nat.pow_pos (by decide))
  have hp : (0 : ℚ) < 10 ^ t := by positivity
  have hnd : (num : ℚ) / den = n / d * 10 ^ t := by
    have hden' : (den : ℚ) ≠ 0 := by exact_mod_cast hden.ne'
    simp only [n, d]
    push_cast
    rw [← zpow_mul_pow_toNat (by norm_num) t]
    field_simp
  have near (a : Nat) (h : |(a : ℚ) - n / d| ≤ 1 / 2) :
      |(Decimal.mk a t).value - num / den| ≤ 10 ^ t / 2 := by
    rw [hnd, value, ← sub_mul, abs_mul, abs_of_pos hp]
    linarith [mul_le_mul_of_nonneg_right h hp.le]
  have hfirst : (neighbours num den t).1 =
      if 2 * (n % d) < d || (2 * (n % d) == d && n / d % 2 == 0) then ⟨n / d, t⟩
      else ⟨n / d + 1, t⟩ := apply_ite Prod.fst _ _ _
  rw [hfirst]
  split_ifs with h <;> apply near <;> apply abs_nearest_sub_le hd <;>
    simp only [Bool.or_eq_true, Bool.and_eq_true, decide_eq_true_eq, beq_iff_eq] at h
  · exact .inl ⟨rfl, by omega⟩
  · exact .inr ⟨rfl, by omega⟩

theorem not_belowPower_iff {num den : Nat} (hden : 0 < den) (k : Int) :
    belowPower num den k = false ↔ (10 : ℚ) ^ k ≤ num / den := by
  have hd : (0 : ℚ) < den := by exact_mod_cast hden
  rw [belowPower, decide_eq_false_iff_not, Nat.not_lt, le_div_iff₀ hd, Nat.pow_eq, Nat.pow_eq,
    ← Nat.cast_le (α := ℚ)]
  push_cast
  rw [← zpow_mul_pow_toNat (by norm_num), ← mul_assoc, mul_comm (den : ℚ),
    mul_le_mul_iff_left₀ (show (0 : ℚ) < 10 ^ (-k).toNat by positivity)]

theorem le_scaleFrom {num den : Nat} (hden : 0 < den) (fuel : Nat) (k : Int)
    (hk : (10 : ℚ) ^ (k - 1) ≤ num / den) :
    (10 : ℚ) ^ (scaleFrom fuel num den k - 1) ≤ num / den := by
  induction fuel generalizing k with
  | zero => exact hk
  | succ fuel ih =>
    rw [scaleFrom]
    split_ifs with h
    · exact hk
    · rw [Bool.not_eq_true, not_belowPower_iff hden] at h
      exact ih (k + 1) (by simpa using h)

/-- Ten thirds of a power of two make a power of ten, roughly; the slack of two covers the range of
doubles and of the digits that they are written in. -/
theorem ten_zpow_le_two_zpow {l : Int} (hl : -40000 ≤ l) (hu : l ≤ 10000) :
    (10 : ℚ) ^ (l * 30103 / 100000 - 2) ≤ 2 ^ l := by
  rcases le_or_gt 0 (l * 30103 / 100000 - 2) with hi | hi
  · obtain ⟨i, hi'⟩ := Int.eq_ofNat_of_zero_le hi
    obtain ⟨n, rfl⟩ := Int.eq_ofNat_of_zero_le (show 0 ≤ l by omega)
    rw [hi', zpow_natCast, zpow_natCast]
    have h : (10 ^ i) ^ 59 ≤ (2 ^ n) ^ 59 := by
      calc (10 ^ i) ^ 59 = (10 ^ 59) ^ i := by rw [← pow_mul, ← pow_mul, Nat.mul_comm]
        _ ≤ (2 ^ 196) ^ i := Nat.pow_le_pow_left (by decide) _
        _ = 2 ^ (196 * i) := by rw [← pow_mul]
        _ ≤ 2 ^ (n * 59) := Nat.pow_le_pow_right (by decide) (by omega)
        _ = (2 ^ n) ^ 59 := by rw [← pow_mul]
    exact_mod_cast le_of_pow_le_pow_left₀ (by decide) (by positivity) h
  · obtain ⟨i, hi'⟩ := Int.eq_ofNat_of_zero_le (show 0 ≤ -(l * 30103 / 100000 - 2) by omega)
    obtain ⟨n, hn⟩ : ∃ n : Nat, n = (-l).toNat := ⟨_, rfl⟩
    have h : (2 ^ n) ^ 93 ≤ (10 ^ i) ^ 93 := by
      calc (2 ^ n) ^ 93 = (2 ^ 93) ^ n := by rw [← pow_mul, ← pow_mul, Nat.mul_comm]
        _ ≤ (10 ^ 28) ^ n := Nat.pow_le_pow_left (by decide) _
        _ = 10 ^ (28 * n) := by rw [← pow_mul]
        _ ≤ 10 ^ (i * 93) := Nat.pow_le_pow_right (by decide) (by omega)
        _ = (10 ^ i) ^ 93 := by rw [← pow_mul]
    have hle : (2 : ℚ) ^ n ≤ 10 ^ i := by
      exact_mod_cast le_of_pow_le_pow_left₀ (by decide) (by positivity) h
    calc (10 : ℚ) ^ (l * 30103 / 100000 - 2) = (10 ^ i)⁻¹ := by
          rw [← neg_neg (l * 30103 / 100000 - 2), hi', zpow_neg, zpow_natCast]
      _ ≤ (2 ^ n)⁻¹ := inv_anti₀ (by positivity) hle
      _ = 2 ^ (-n : Int) := by rw [zpow_neg, zpow_natCast]
      _ ≤ 2 ^ l := zpow_le_zpow_right₀ one_le_two (by omega)

theorem two_zpow_le {num den : Nat} (hnum : 0 < num) (hden : 0 < den) :
    (2 : ℚ) ^ ((num.log2 : Int) - den.log2 - 1) ≤ num / den := by
  have hn : ((2 ^ num.log2 : Nat) : ℚ) ≤ num := by exact_mod_cast Nat.log2_self_le hnum.ne'
  have hd : (den : ℚ) ≤ (2 ^ (den.log2 + 1) : Nat) := by exact_mod_cast Nat.lt_log2_self.le
  rw [le_div_iff₀ (by exact_mod_cast hden)]
  calc (2 : ℚ) ^ ((num.log2 : Int) - den.log2 - 1) * den
      ≤ 2 ^ ((num.log2 : Int) - den.log2 - 1) * (2 ^ (den.log2 + 1) : Nat) :=
        mul_le_mul_of_nonneg_left hd (by positivity)
    _ = (2 ^ num.log2 : Nat) := by
      push_cast
      rw [← zpow_natCast, ← zpow_add₀ two_ne_zero, ← zpow_natCast]
      congr 1
      push_cast
      ring
    _ ≤ num := hn

theorem searchFrom_spec (m : Nat) (q : Int) (num den : Nat) (k : Int) (fuel n : Nat) :
    readsBack m q (searchFrom m q num den k fuel n) = true ∨
      searchFrom m q num den k fuel n = (neighbours num den (k - (n + fuel : Nat))).1 := by
  induction fuel generalizing n with
  | zero => exact .inr rfl
  | succ fuel ih =>
    rw [searchFrom]
    split_ifs with h₁ h₂
    · exact .inl h₁
    · exact .inl h₂
    · simpa only [Nat.add_right_comm n 1 fuel, Nat.add_assoc] using ih (n + 1)

/-- Seventeen digits always read back. -/
theorem roundsTo_of_abs_sub_le {m : Nat} {q k : Int} {v : ℚ} (hn : Dyadic.Normal m q)
    (hk : (10 : ℚ) ^ (k - 1) ≤ m * 2 ^ q) (hv : |v - m * 2 ^ q| ≤ 10 ^ (k - 17) / 2) :
    RoundsTo m q v := by
  have hp : (0 : ℚ) < 2 ^ q := by positivity
  have hlt : (m : ℚ) + 1 ≤ 2 ^ 53 := by exact_mod_cast hn.mantissa_lt
  -- the error in units of the mantissa
  have herr : |v - m * 2 ^ q| ≤ m / (2 * 10 ^ 16) * 2 ^ q := by
    refine hv.trans ?_
    have h16 : (10 : ℚ) ^ (k - 17) = 10 ^ (k - 1) / 10 ^ 16 := by
      rw [show k - 17 = k - 1 - (16 : Nat) by push_cast; ring, zpow_sub₀ (by norm_num),
        zpow_natCast]
    rw [h16]
    calc (10 : ℚ) ^ (k - 1) / 10 ^ 16 / 2 ≤ (m : ℚ) * 2 ^ q / 10 ^ 16 / 2 := by gcongr
      _ = (m : ℚ) / (2 * 10 ^ 16) * 2 ^ q := by ring
  have hends := abs_le.1 herr
  have hlow : lowEnd m q < v := by
    have hgap : (if m = 2 ^ 52 ∧ q ≠ Dyadic.minExponent then 1 / 4 else 1 / 2 : ℚ) >
        m / (2 * 10 ^ 16) := by
      split_ifs with h
      · rw [h.1]
        norm_num
      · rw [gt_iff_lt, div_lt_iff₀ (by norm_num)]
        linarith
    have := mul_lt_mul_of_pos_right hgap hp
    rw [lowEnd, sub_mul]
    linarith [hends.1]
  have hhigh : v < highEnd m q := by
    have hgap : (m : ℚ) / (2 * 10 ^ 16) < 1 / 2 := by
      rw [div_lt_iff₀ (by norm_num)]
      linarith
    have := mul_lt_mul_of_pos_right hgap hp
    rw [highEnd, add_mul]
    linarith [hends.2]
  unfold RoundsTo
  split_ifs
  · exact ⟨hlow.le, hhigh.le⟩
  · exact ⟨hlow, hhigh⟩

/-- The decimal of a double rounds to it. -/
theorem roundsTo_shortest {x : Dyadic} (hn : Dyadic.Normal x.mantissa x.exponent)
    (hm : 0 < x.mantissa) : RoundsTo x.mantissa x.exponent (shortest x).value := by
  rw [shortest, value_stripZeros]
  rcases searchFrom_spec x.mantissa x.exponent x.num x.den (scale x.num x.den) 16 1 with h | h
  · exact (readsBack_iff hm _ _).1 h
  · rw [h]
    have hnum : 0 < x.num := by
      rw [Dyadic.num, Nat.shiftLeft_eq]
      exact Nat.mul_pos hm (Nat.two_pow_pos _)
    have hle := hn.exponent_le
    have hge := hn.le_exponent
    have hden : x.den.log2 = (-x.exponent).toNat := by
      rw [Dyadic.den, Nat.one_shiftLeft, Nat.log2_two_pow]
    have hlog : x.num.log2 < 53 + x.exponent.toNat := by
      rw [Nat.log2_lt hnum.ne', Dyadic.num, Nat.shiftLeft_eq, Nat.pow_add]
      exact Nat.mul_lt_mul_of_pos_right hn.mantissa_lt (Nat.two_pow_pos _)
    have hmin : Dyadic.minExponent = -1074 := rfl
    have hmag : (x.num : ℚ) / x.den = x.mantissa * 2 ^ x.exponent := x.num_div_den
    apply roundsTo_of_abs_sub_le hn (k := scale x.num x.den)
    · rw [← hmag]
      apply le_scaleFrom x.den_pos
      refine le_trans ?_ (two_zpow_le hnum x.den_pos)
      rw [show ∀ a : Int, a - 1 - 1 = a - 2 by intro a; ring]
      apply ten_zpow_le_two_zpow
      · omega
      · omega
    · rw [← hmag]
      exact abs_neighbours_sub_le x.den_pos _

end Decimal
end RuleLedger
