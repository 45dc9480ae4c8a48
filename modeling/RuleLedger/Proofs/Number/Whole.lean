import RuleLedger.Proofs.Number.Exact

/-! Whole numbers and the doubles nearest to them. Main statements: the double nearest to a whole
number is whole, and is the number itself exactly if some double is; and the remainder of two whole
doubles is exact. -/
namespace RuleLedger

open Decimal (RoundsTo)

namespace Dyadic

variable {m k : Nat} {q : Int} {x : Float}

/-- The parts of the double that a sign, a mantissa and an exponent make up. -/
theorem ofFloat?_of_toBits {negative : Bool} (hn : Normal m q)
    (h : x.toBits.toNat =
      (if negative then 2 ^ 63 else 0) + (q - minExponent).toNat * 2 ^ 52 + m) :
    ofFloat? x = some ⟨negative, m, q⟩ := by
  have hmin : minExponent = -1074 := rfl
  have hm := hn.mantissa_lt
  have hlow := hn.le_exponent
  have hhigh := hn.exponent_le
  have hfull := hn.full
  have hsign : (x.toBits.toNat / 2 ^ 63 == 1) = negative := by
    cases negative
    · rw [if_neg Bool.false_ne_true] at h
      exact beq_eq_false_iff_ne.2 (by omega)
    · rw [if_pos rfl] at h
      exact beq_iff_eq.2 (by omega)
  have hsmall : (if negative then 2 ^ 63 else 0) % 2 ^ 63 = 0 := by cases negative <;> rfl
  generalize (if negative then 2 ^ 63 else 0) = sign at h hsmall
  rw [ofFloat?_eq, hsign, if_neg (by omega)]
  by_cases hone : m < 2 ^ 52
  · have hq : q = minExponent := hfull.resolve_right (by omega)
    rw [if_pos (by omega), hq]
    congr 2
    omega
  · rw [if_neg (by omega)]
    congr 2 <;> omega

/-- A number of at most 53 bits times a power of two is a double. -/
theorem exists_normal (hk : 0 < k) (hlt : k < 2 ^ 53) (hmin : minExponent ≤ q) (hmax : q ≤ 971) :
    ∃ m p, Normal m p ∧ (m : ℚ) * 2 ^ p = k * 2 ^ q := by
  have hlog : k.log2 < 53 := (Nat.log2_lt hk.ne').2 hlt
  -- the leading bit goes to the place 52, or as near as the least exponent lets it
  obtain ⟨s, hs⟩ : ∃ s, s = min (52 - k.log2) (q - minExponent).toNat := ⟨_, rfl⟩
  refine ⟨k * 2 ^ s, q - s, ⟨?_, by omega, by omega, ?_⟩, ?_⟩
  · calc k * 2 ^ s < 2 ^ (k.log2 + 1) * 2 ^ s :=
          Nat.mul_lt_mul_of_pos_right Nat.lt_log2_self (Nat.two_pow_pos s)
      _ = 2 ^ (k.log2 + 1 + s) := (Nat.pow_add 2 _ s).symm
      _ ≤ 2 ^ 53 := Nat.pow_le_pow_right (by decide) (by omega)
  · by_cases hshort : s = (q - minExponent).toNat
    · exact .inl (by omega)
    · refine .inr ?_
      calc 2 ^ 52 = 2 ^ k.log2 * 2 ^ s := by
            rw [← Nat.pow_add]
            congr 1
            omega
        _ ≤ k * 2 ^ s := Nat.mul_le_mul_right _ (Nat.log2_self_le hk.ne')
  · rw [zpow_sub₀ two_ne_zero, zpow_natCast]
    push_cast
    field_simp

end Dyadic

namespace Binary64

variable {num den m k : Nat} {q : Int} {x y : Float}

theorem ofFloat?_withSign (hn : Dyadic.Normal m q) (negative : Bool) :
    Dyadic.ofFloat? (withSign negative
      (Float.ofBits (UInt64.ofNat ((q - Dyadic.minExponent).toNat * 2 ^ 52 + m)))) =
        some ⟨negative, m, q⟩ := by
  have hmin : Dyadic.minExponent = -1074 := rfl
  have hm := hn.mantissa_lt
  have hhigh := hn.exponent_le
  have hword : (UInt64.ofNat ((q - Dyadic.minExponent).toNat * 2 ^ 52 + m)).toNat =
      (q - Dyadic.minExponent).toNat * 2 ^ 52 + m := by
    rw [UInt64.toNat_ofNat']
    omega
  have hbits := toBits_ofBits (b := UInt64.ofNat ((q - Dyadic.minExponent).toNat * 2 ^ 52 + m))
    (by omega)
  rw [hword] at hbits
  refine Dyadic.ofFloat?_of_toBits hn ?_
  rw [withSign]
  cases negative
  · rw [if_neg Bool.false_ne_true, if_neg Bool.false_ne_true, hbits, Nat.zero_add]
  · rw [if_pos rfl, if_pos rfl, toBits_neg (by omega), hbits, Nat.add_assoc]

theorem ofFloat?_zero (negative : Bool) :
    Dyadic.ofFloat? (withSign negative 0.0) = some ⟨negative, 0, Dyadic.minExponent⟩ := by
  cases negative <;> decide +kernel

/-- The nearest double to a fraction, with a sign before it. -/
theorem roundsTo_of_ofRatio? (hden : 0 < den) (h : ofRatio? num den = some x) (negative : Bool) :
    ∃ d, Dyadic.ofFloat? (withSign negative x) = some d ∧ d.negative = negative ∧
      RoundsTo d.mantissa d.exponent (num / den) := by
  obtain rfl | hnum := Nat.eq_zero_or_pos num
  · have hzero := Dyadic.roundsTo_self 0 Dyadic.minExponent
    obtain rfl : 0.0 = x := Option.some.inj h
    exact ⟨_, ofFloat?_zero negative, rfl, by simpa using hzero⟩
  · obtain ⟨m, q, hn, hrounds, rfl⟩ := exists_normal_of_ofRatio? hnum hden h
    exact ⟨_, ofFloat?_withSign hn negative, rfl, hrounds⟩

/-- A fraction that a double is equal to is its own nearest double. -/
theorem ofRatio?_exact (hden : 0 < den) (hk : k < 2 ^ 53) (hmin : Dyadic.minExponent ≤ q)
    (hmax : q ≤ 971) (h : (num : ℚ) / den = k * 2 ^ q) (negative : Bool) :
    ∃ x d, ofRatio? num den = some x ∧ Dyadic.ofFloat? (withSign negative x) = some d ∧
      d.negative = negative ∧ d.magnitude = num / den := by
  obtain rfl | hnum := Nat.eq_zero_or_pos num
  · exact ⟨0.0, _, rfl, ofFloat?_zero negative, rfl, by simp [Dyadic.magnitude]⟩
  · have hpos : 0 < k := by
      refine Nat.pos_of_ne_zero fun h0 => ?_
      have hd : (0 : ℚ) < den := by exact_mod_cast hden
      have hn : (0 : ℚ) < num := by exact_mod_cast hnum
      have hquotient := div_pos hn hd
      rw [h, h0, Nat.cast_zero, zero_mul] at hquotient
      exact hquotient.false
    obtain ⟨m, p, hn, hsame⟩ := Dyadic.exists_normal hpos hk hmin hmax
    have hself := Dyadic.roundsTo_self m p
    rw [hsame, ← h] at hself
    exact ⟨_, _, ofRatio?_of_roundsTo hnum hden hn hself, ofFloat?_withSign hn negative, rfl,
      hsame.trans h.symm⟩

end Binary64

namespace Number

variable {n : Int} {x y : Float}

theorem toFloat_int_eq_ok : (int n).toFloat = .ok x ↔ Binary64.ofInt? n = some x := by
  rw [toFloat]
  cases Binary64.ofInt? n <;> simp

/-- Whether some double is equal to a number. -/
def IsDouble (a : Number) : Prop := ∃ x : Float, a.eq (.float x) = true

theorem isDouble_int_iff : (int n).IsDouble ↔ ∃ x, (float x).HasValue n :=
  exists_congr fun _ =>
    ⟨(hasValue_int n).of_eq, fun h => ((hasValue_int n).eq_iff h).2 rfl⟩

/-- The value of a double whose sign and magnitude are known. -/
theorem hasValue_of_magnitude {d : Dyadic} (hd : Dyadic.ofFloat? x = some d) {k : Nat}
    (hk : d.magnitude = k) : (float x).HasValue (d.signed k) :=
  ⟨d, hd, by rw [Dyadic.value, hk, Dyadic.cast_signed]⟩

theorem signed_natAbs {d : Dyadic} (hd : d.negative = decide (n < 0)) : d.signed n.natAbs = n := by
  rw [Dyadic.signed, hd]
  by_cases hn : n < 0
  · rw [decide_eq_true hn, if_pos rfl]
    omega
  · rw [decide_eq_false hn, if_neg Bool.false_ne_true]
    omega

/-- A whole number of 53 bits at most, times a power of two within the range, is a double. -/
theorem toFloat_of_natAbs {k : Nat} {q : Int} (h : (n.natAbs : ℚ) = k * 2 ^ q) (hk : k < 2 ^ 53)
    (hmin : Dyadic.minExponent ≤ q) (hmax : q ≤ 971) :
    ∃ x, (int n).toFloat = .ok x ∧ (float x).HasValue n := by
  have hquotient : (n.natAbs : ℚ) / (1 : Nat) = k * 2 ^ q := by rw [Nat.cast_one, div_one, h]
  obtain ⟨x, d, hx, hd, hnegative, hmagnitude⟩ :=
    Binary64.ofRatio?_exact Nat.one_pos hk hmin hmax hquotient (decide (n < 0))
  rw [Nat.cast_one, div_one] at hmagnitude
  refine ⟨_, ?_, signed_natAbs hnegative ▸ hasValue_of_magnitude hd hmagnitude⟩
  rw [toFloat_int_eq_ok, Binary64.ofInt?, hx]
  rfl

theorem toFloat_of_natAbs_lt (h : n.natAbs < 2 ^ 53) :
    ∃ x, (int n).toFloat = .ok x ∧ (float x).HasValue n :=
  toFloat_of_natAbs (q := 0) (by simp) h (by decide) (by decide)

theorem isDouble_of_natAbs_le (h : n.natAbs ≤ 2 ^ 53) : (int n).IsDouble := by
  rw [isDouble_int_iff]
  obtain hlt | heq := h.lt_or_eq
  · obtain ⟨x, -, hx⟩ := toFloat_of_natAbs_lt hlt
    exact ⟨x, hx⟩
  · obtain ⟨x, -, hx⟩ := toFloat_of_natAbs (n := n) (k := 2 ^ 52) (q := 1)
      (by rw [heq]; norm_num) (by decide) (by decide) (by decide)
    exact ⟨x, hx⟩

/-- A whole number that is a double becomes that double. -/
theorem toFloat_of_isDouble (h : (int n).IsDouble) :
    ∃ x, (int n).toFloat = .ok x ∧ (float x).HasValue n := by
  obtain ⟨y, d, hd, hvalue⟩ := isDouble_int_iff.1 h
  have hn := Dyadic.normal_of_ofFloat? hd
  exact toFloat_of_natAbs (Dyadic.magnitude_of_value hvalue).symm hn.mantissa_lt hn.le_exponent
    hn.exponent_le

/-- What rounds to a double beyond 53 bits is rounded to a whole number. -/
theorem exists_magnitude {d : Dyadic} (hn : Dyadic.Normal d.mantissa d.exponent) {k : Nat}
    (hk : 2 ^ 53 ≤ k) (h : RoundsTo d.mantissa d.exponent k) :
    ∃ N : Nat, 0 < N ∧ d.magnitude = N := by
  have hm : (d.mantissa : ℚ) + 1 ≤ 2 ^ 53 := by exact_mod_cast hn.mantissa_lt
  have hkq : (2 : ℚ) ^ 53 ≤ k := by exact_mod_cast hk
  have hone : (2 : ℚ) ^ (0 : Int) < 2 ^ d.exponent := by
    have hhigh := hkq.trans h.bounds.2
    have hp : (0 : ℚ) < 2 ^ d.exponent := by positivity
    rw [Decimal.highEnd] at hhigh
    by_contra hle
    have hmul := mul_le_mul_of_nonneg_left (not_lt.1 hle)
      (show (0 : ℚ) ≤ d.mantissa + 1 / 2 by positivity)
    rw [zpow_zero, mul_one] at hmul
    linarith
  have hexponent : 0 < d.exponent := (zpow_lt_zpow_iff_right₀ one_lt_two).1 hone
  have hfull : 2 ^ 52 ≤ d.mantissa := hn.full.resolve_left (by
    have hmin : Dyadic.minExponent = -1074 := rfl
    omega)
  refine ⟨d.mantissa * 2 ^ d.exponent.toNat, by positivity, ?_⟩
  have hnat : ((d.exponent.toNat : Nat) : Int) = d.exponent := Int.toNat_of_nonneg hexponent.le
  rw [Dyadic.magnitude]
  push_cast
  rw [← zpow_natCast, hnat]

/-- The double nearest to a whole number is whole, and it is zero for zero alone. It is the number
itself, if some double is. -/
theorem exists_rounded (h : (int n).toFloat = .ok x) :
    ∃ N : Int, (float x).HasValue N ∧ (n ≠ 0 → N ≠ 0) ∧ ((int n).IsDouble → N = n) := by
  have hexact (N : Int) (hN : (float x).HasValue N) (hdouble : (int n).IsDouble) : N = n := by
    obtain ⟨y, hy, hvalue⟩ := toFloat_of_isDouble hdouble
    obtain rfl : x = y := Except.ok.inj (h.symm.trans hy)
    exact Int.cast_injective (hN.unique hvalue)
  by_cases hsmall : n.natAbs < 2 ^ 53
  · obtain ⟨y, hy, hvalue⟩ := toFloat_of_natAbs_lt hsmall
    obtain rfl : x = y := Except.ok.inj (h.symm.trans hy)
    exact ⟨n, hvalue, id, hexact n hvalue⟩
  · rw [toFloat_int_eq_ok] at h
    obtain ⟨y, hy, rfl⟩ := Option.map_eq_some_iff.1 h
    obtain ⟨d, hd, -, hrounds⟩ := Binary64.roundsTo_of_ofRatio? Nat.one_pos hy (decide (n < 0))
    have hn := Dyadic.normal_of_ofFloat? hd
    rw [Nat.cast_one, div_one] at hrounds
    obtain ⟨N, hN, hmagnitude⟩ := exists_magnitude hn (Nat.le_of_not_lt hsmall) hrounds
    have hvalue := hasValue_of_magnitude hd hmagnitude
    refine ⟨d.signed N, hvalue, fun _ => ?_, hexact _ hvalue⟩
    rw [Dyadic.signed]
    split_ifs <;> omega

end Number

namespace Binary64

/-! ### Remainders -/

/-- The remainder of two multiples of one power of two, of which one has 53 bits. -/
theorem exists_common {d e : Dyadic} (hd : Dyadic.Normal d.mantissa d.exponent)
    (he : Dyadic.Normal e.mantissa e.exponent) (h0 : 0 < e.mantissa) :
    ∃ A B : Nat, ∃ q : Int, Dyadic.minExponent ≤ q ∧ q ≤ 971 ∧ d.magnitude = A * 2 ^ q ∧
      e.magnitude = B * 2 ^ q ∧ A % B < 2 ^ 53 := by
  obtain hle | hlt := le_or_gt d.exponent e.exponent
  · refine ⟨d.mantissa, _, d.exponent, hd.le_exponent, hd.exponent_le, rfl,
      Dyadic.magnitude_shifted hle, ?_⟩
    exact (Nat.mod_le _ _).trans_lt hd.mantissa_lt
  · refine ⟨_, e.mantissa, e.exponent, he.le_exponent, he.exponent_le,
      Dyadic.magnitude_shifted hlt.le, rfl, ?_⟩
    exact (Nat.mod_lt _ h0).trans he.mantissa_lt

theorem cast_mod_eq {a b A B : Nat} {q : Int} (ha : (a : ℚ) = A * 2 ^ q)
    (hb : (b : ℚ) = B * 2 ^ q) : ((a % b : Nat) : ℚ) = (A % B : Nat) * 2 ^ q := by
  have hclear {c C : Nat} (hc : (c : ℚ) = C * 2 ^ q) : c * 2 ^ (-q).toNat = C * 2 ^ q.toNat := by
    have hcast : (c : ℚ) * 2 ^ (-q).toNat = C * 2 ^ q.toNat := by
      rw [hc, mul_assoc, zpow_mul_pow_toNat two_ne_zero]
    exact_mod_cast hcast
  have hmod : a % b * 2 ^ (-q).toNat = A % B * 2 ^ q.toNat := by
    rw [← Nat.mul_mod_mul_right, hclear ha, hclear hb, Nat.mul_mod_mul_right]
  have hp : (2 : ℚ) ^ (-q).toNat ≠ 0 := by positivity
  rw [← mul_left_inj' hp, mul_assoc, zpow_mul_pow_toNat two_ne_zero]
  exact_mod_cast hmod

/-- The whole number that a sign and the remainder of magnitudes make up. -/
theorem signed_natAbs_mod {d : Dyadic} {X : Int} (hd : d.value = X) (Y : Int) :
    d.signed (X.natAbs % Y.natAbs) = X.tmod Y := by
  have hX : X = d.signed X.natAbs := by
    have hcast : (X : ℚ) = (d.signed X.natAbs : Int) := by
      rw [← hd, Dyadic.cast_signed, Dyadic.value, Dyadic.magnitude_of_value hd]
    exact Int.cast_injective hcast
  have hmod (a : Nat) : ((a % Y.natAbs : Nat) : Int) = (a : Int).tmod Y := by
    cases Y <;> rfl
  rw [Dyadic.signed] at hX ⊢
  split_ifs at hX ⊢
  · rw [hmod, ← Int.neg_tmod, ← hX]
  · rw [hmod, ← hX]

/-- The remainder of whole doubles is exact. -/
theorem hasValue_remainder {x y : Float} {X Y : Int} (hx : (Number.float x).HasValue X)
    (hy : (Number.float y).HasValue Y) (hY : Y ≠ 0) :
    (Number.float (remainder x y)).HasValue (X.tmod Y : Int) := by
  obtain ⟨d, hd, hX⟩ := hx
  obtain ⟨e, he, hYe⟩ := hy
  have hXd := Dyadic.magnitude_of_value hX
  have hYd := Dyadic.magnitude_of_value hYe
  have hmantissa : 0 < e.mantissa := by
    refine Nat.pos_of_ne_zero fun h0 => hY ?_
    rw [Dyadic.magnitude, h0, Nat.cast_zero, zero_mul] at hYd
    exact Int.natAbs_eq_zero.1 (by exact_mod_cast hYd.symm)
  have hparts : d.num * e.den % (e.num * d.den) = X.natAbs % Y.natAbs * (d.den * e.den) := by
    rw [Dyadic.num_eq_of_value hX, Dyadic.num_eq_of_value hYe, ← Nat.mul_mod_mul_right]
    congr 1 <;> ring
  have hden : 0 < d.den * e.den := Nat.mul_pos d.den_pos e.den_pos
  obtain ⟨A, B, q, hmin, hmax, hA, hB, hlt⟩ :=
    exists_common (Dyadic.normal_of_ofFloat? hd) (Dyadic.normal_of_ofFloat? he) hmantissa
  have hquotient : ((X.natAbs % Y.natAbs * (d.den * e.den) : Nat) : ℚ) / (d.den * e.den : Nat) =
      (X.natAbs % Y.natAbs : Nat) := by
    rw [Nat.cast_mul, mul_div_cancel_right₀ _ (by exact_mod_cast hden.ne')]
  have hrest := cast_mod_eq (hXd.symm.trans hA) (hYd.symm.trans hB)
  obtain ⟨z, c, hz, hc, hnegative, hmagnitude⟩ :=
    ofRatio?_exact hden hlt hmin hmax (hquotient.trans hrest) d.negative
  rw [hquotient] at hmagnitude
  have hvalue := Number.hasValue_of_magnitude hc hmagnitude
  have hsigned : c.signed (X.natAbs % Y.natAbs) = d.signed (X.natAbs % Y.natAbs) := by
    rw [Dyadic.signed, hnegative, Dyadic.signed]
  rw [hsigned, signed_natAbs_mod hX] at hvalue
  have hremainder : remainder x y = withSign d.negative z := by
    rw [remainder, hd, he]
    dsimp only
    rw [if_neg hmantissa.ne', hparts, hz]
    rfl
  rw [hremainder]
  exact hvalue

end Binary64
end RuleLedger
