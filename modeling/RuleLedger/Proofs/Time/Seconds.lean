import RuleLedger.Clock
import RuleLedger.Proofs.Number.Whole

/-! The second that an instant belongs to. Main statements: below 2^38 seconds it is the whole
quotient of the milliseconds, although it is taken from a double that is rounded twice; and the
double of an instant beyond 53 bits is beyond 2^41 seconds. -/
namespace RuleLedger

open Decimal (RoundsTo lowEnd highEnd)

variable {m num den : Nat} {q e : Int} {v : ℚ}

/-! ### The distance to the nearest double -/

theorem Decimal.RoundsTo.half_step (h : RoundsTo m q v) : |m * 2 ^ q - v| ≤ 2 ^ q / 2 := by
  have hp : (0 : ℚ) < 2 ^ q := by positivity
  obtain ⟨hlow, hhigh⟩ := h.bounds
  have hlow' : (m - 1 / 2) * 2 ^ q ≤ v := by
    refine le_trans (mul_le_mul_of_nonneg_right ?_ hp.le) hlow
    split_ifs <;> linarith
  rw [highEnd] at hhigh
  rw [abs_le]
  constructor <;> linarith

/-- Below 2^e a double is at most 2^(e - 53) away from what rounds to it. -/
theorem Decimal.RoundsTo.abs_sub_le (hn : Dyadic.Normal m q) (h : RoundsTo m q v)
    (he : Dyadic.minExponent + 52 ≤ e) (hv : v < 2 ^ e) : |m * 2 ^ q - v| ≤ 2 ^ (e - 53) := by
  have hq : q ≤ e - 52 := by
    obtain rfl | hfull := hn.full
    · omega
    · -- the mantissa has 53 bits, so that its leading place is below that of 2^e
      have hm : (2 : ℚ) ^ 52 ≤ m := by exact_mod_cast hfull
      have hp : (0 : ℚ) < 2 ^ q := by positivity
      have hstep := abs_le.1 h.half_step
      have hlead : (2 : ℚ) ^ (51 : Int) * 2 ^ q < 2 ^ e := by
        have hmul := mul_le_mul_of_nonneg_right hm hp.le
        have h51 : (2 : ℚ) ^ (51 : Int) * 2 ^ q ≤ (2 ^ 52 - 1 / 2) * 2 ^ q :=
          mul_le_mul_of_nonneg_right (by norm_num) hp.le
        linarith
      rw [← zpow_add₀ two_ne_zero] at hlead
      have := (zpow_lt_zpow_iff_right₀ one_lt_two).1 hlead
      omega
  calc |m * 2 ^ q - v| ≤ 2 ^ q / 2 := h.half_step
    _ = 2 ^ (q - 1) := by rw [zpow_sub_one₀ two_ne_zero, div_eq_mul_inv]
    _ ≤ 2 ^ (e - 53) := zpow_le_zpow_right₀ one_le_two (by omega)

namespace Binary64

/-- A fraction below 2^e has a nearest double, with any sign before it. -/
theorem exists_nearest (hden : 0 < den) (hlow : Dyadic.minExponent + 52 ≤ e) (hhigh : e ≤ 971)
    (h : (num : ℚ) / den < 2 ^ e) (negative : Bool) :
    ∃ x d, ofRatio? num den = some x ∧ Dyadic.ofFloat? (withSign negative x) = some d ∧
      d.negative = negative ∧ |d.magnitude - num / den| ≤ 2 ^ (e - 53) := by
  have hsome : ∃ x, ofRatio? num den = some x := by
    obtain rfl | hnum := Nat.eq_zero_or_pos num
    · exact ⟨_, rfl⟩
    · obtain ⟨a, p, hfound⟩ := exists_found hnum hden
      have hlead : leadingExponent num den < e :=
        (zpow_lt_zpow_iff_right₀ one_lt_two).1 ((leadingExponent_spec hnum hden).1.trans_lt h)
      have hp := hfound.exponent_eq
      obtain ⟨m, q, hn, hrounds, -⟩ :=
        hfound.exists_normal (by omega) (fun _ => by omega)
      exact ⟨_, ofRatio?_of_roundsTo hnum hden hn hrounds⟩
  obtain ⟨x, hx⟩ := hsome
  obtain ⟨d, hd, hnegative, hrounds⟩ := roundsTo_of_ofRatio? hden hx negative
  exact ⟨x, d, hx, hd, hnegative, hrounds.abs_sub_le (Dyadic.normal_of_ofFloat? hd) hlow h⟩

/-- Rounding to a double takes away at most half of a fraction that is not tiny. -/
theorem le_two_mul_magnitude {x : Float} {d : Dyadic} {negative : Bool} (hden : 0 < den)
    (hx : ofRatio? num den = some x) (hd : Dyadic.ofFloat? (withSign negative x) = some d)
    (h : (1 : ℚ) ≤ num / den) : (num : ℚ) / den ≤ 2 * d.magnitude := by
  obtain ⟨d', hd', -, hrounds⟩ := roundsTo_of_ofRatio? hden hx negative
  obtain rfl := Option.some.inj (hd.symm.trans hd')
  have hp : (0 : ℚ) < 2 ^ d.exponent := by positivity
  have hhigh := hrounds.bounds.2
  rw [highEnd] at hhigh
  have hm : (1 : ℚ) ≤ d.mantissa := by
    have hpos : 0 < d.mantissa := by
      refine Nat.pos_of_ne_zero fun h0 => ?_
      have hmin : d.exponent = Dyadic.minExponent :=
        (Dyadic.normal_of_ofFloat? hd).full.resolve_right (by omega)
      have htiny : (2 : ℚ) ^ d.exponent ≤ 1 := by
        rw [hmin]
        exact zpow_le_one_of_nonpos₀ one_le_two (by decide)
      rw [h0, Nat.cast_zero] at hhigh
      linarith
    exact_mod_cast hpos
  have hmul := mul_le_mul_of_nonneg_right hm hp.le
  rw [Dyadic.magnitude]
  linarith

end Binary64

/-! ### Whole part and microseconds -/

theorem abs_divNearest_sub_le (hden : 0 < den) :
    |(divNearest num den : ℚ) - num / den| ≤ 1 / 2 := by
  have hd : (0 : ℚ) < den := by exact_mod_cast hden
  obtain ⟨hle, hge, -⟩ := divNearest_spec (n := num) hden
  have hleq : (2 : ℚ) * (divNearest num den * den) ≤ 2 * num + den := by exact_mod_cast hle
  have hgeq : (2 : ℚ) * num ≤ 2 * (divNearest num den * den) + den := by exact_mod_cast hge
  have hv : (num : ℚ) = num / den * den := (div_mul_cancel₀ _ hd.ne').symm
  rw [hv] at hleq hgeq
  rw [abs_le]
  constructor
  · refine le_of_mul_le_mul_right ?_ hd
    linarith
  · refine le_of_mul_le_mul_right ?_ hd
    linarith

namespace Dyadic

variable {d : Dyadic} {n : Nat}

/-- The part behind the point of the magnitude. -/
def fraction (d : Dyadic) : ℚ := (d.num % d.den : Nat) / d.den

theorem magnitude_eq (d : Dyadic) : d.magnitude = (d.num / d.den : Nat) + d.fraction := by
  have hden : (d.den : ℚ) ≠ 0 := by exact_mod_cast d.den_pos.ne'
  have hsplit : (d.num : ℚ) = d.den * (d.num / d.den : Nat) + (d.num % d.den : Nat) := by
    exact_mod_cast (Nat.div_add_mod d.num d.den).symm
  rw [← num_div_den, fraction, hsplit, add_div, mul_div_cancel_left₀ _ hden]

theorem fraction_nonneg (d : Dyadic) : 0 ≤ d.fraction := by
  unfold fraction
  positivity

theorem fraction_lt_one (d : Dyadic) : d.fraction < 1 := by
  have hden : (0 : ℚ) < d.den := by exact_mod_cast d.den_pos
  rw [fraction, div_lt_one hden]
  exact_mod_cast Nat.mod_lt _ d.den_pos

/-- The whole part of a magnitude between two whole numbers. -/
theorem whole_of_magnitude (hlow : n ≤ d.magnitude) (hhigh : d.magnitude < n + 1) :
    d.num / d.den = n := by
  have h := d.magnitude_eq
  have h0 := d.fraction_nonneg
  have h1 := d.fraction_lt_one
  have hle : (n : ℚ) < (d.num / d.den + 1 : Nat) := by
    push_cast
    linarith
  have hge : ((d.num / d.den : Nat) : ℚ) < (n + 1 : Nat) := by
    push_cast
    linarith
  have hle : n < d.num / d.den + 1 := by exact_mod_cast hle
  have hge : d.num / d.den < n + 1 := by exact_mod_cast hge
  omega

theorem microseconds_eq {c : Dyadic} {x : Float}
    (hx : Binary64.ofRatio? (d.num % d.den * 1000000) d.den = some x) (hc : ofFloat? x = some c) :
    d.microseconds = divNearest c.num c.den := by
  rw [microseconds, hx, Option.bind_some, hc, Option.elim_some]

theorem microseconds_of_fraction_eq (h : d.fraction = 0) : d.microseconds = 0 := by
  have hden : (d.den : ℚ) ≠ 0 := by exact_mod_cast d.den_pos.ne'
  have hrest : d.num % d.den = 0 := by
    rw [fraction, div_eq_zero_iff, or_iff_left hden] at h
    exact_mod_cast h
  have hratio : Binary64.ofRatio? (d.num % d.den * 1000000) d.den = some 0.0 := by
    rw [hrest, Nat.zero_mul]
    rfl
  have hzero : divNearest 0 (1 <<< 1074) = 0 := by decide +kernel
  rw [microseconds_eq hratio (Binary64.ofFloat?_zero false)]
  exact hzero

/-- A fraction that stays away from both ends of a second has microseconds, and not a million. -/
theorem microseconds_bounds (hlow : 1 / 2000 ≤ d.fraction) (hhigh : d.fraction ≤ 1 - 1 / 2000) :
    0 < d.microseconds ∧ d.microseconds < 1000000 := by
  have hscaled : ((d.num % d.den * 1000000 : Nat) : ℚ) / d.den = d.fraction * 1000000 := by
    rw [fraction, Nat.cast_mul, mul_div_right_comm]
    norm_num
  have hlt : ((d.num % d.den * 1000000 : Nat) : ℚ) / d.den < 2 ^ (20 : Int) := by
    rw [hscaled]
    norm_num
    linarith
  obtain ⟨x, c, hx, hc, -, hnear⟩ :=
    Binary64.exists_nearest d.den_pos (by decide) (by decide) hlt false
  rw [hscaled] at hnear
  have hround : |(divNearest c.num c.den : ℚ) - c.num / c.den| ≤ 1 / 2 :=
    abs_divNearest_sub_le c.den_pos
  rw [num_div_den, abs_le] at hround
  have hnear := abs_le.1 hnear
  have hstep : (2 : ℚ) ^ ((20 : Int) - 53) ≤ 1 := zpow_le_one_of_nonpos₀ one_le_two (by decide)
  have hpos : ((0 : Nat) : ℚ) < divNearest c.num c.den := by
    push_cast
    linarith
  have hlt : (divNearest c.num c.den : ℚ) < (1000000 : Nat) := by
    push_cast
    linarith
  rw [microseconds_eq hx hc]
  exact ⟨by exact_mod_cast hpos, by exact_mod_cast hlt⟩

theorem second_of_microseconds (h : d.microseconds < 1000000) :
    d.second = if d.negative = true ∧ 0 < d.microseconds then d.truncate - 1 else d.truncate := by
  have hsecond : d.second = if 1000000 ≤ d.signed d.microseconds then d.truncate + 1
      else if d.signed d.microseconds < 0 then d.truncate - 1 else d.truncate := rfl
  rw [hsecond, signed]
  cases d.negative
  · simp only [Bool.false_eq_true, ↓reduceIte, false_and]
    rw [if_neg (by omega), if_neg (by omega)]
  · simp only [↓reduceIte, true_and]
    rw [if_neg (by omega)]
    congr 1
    exact propext (by omega)

/-- Rounding to microseconds never leads toward zero. -/
theorem whole_le_natAbs_second (d : Dyadic) : d.num / d.den ≤ d.second.natAbs := by
  have hsecond : d.second = if 1000000 ≤ d.signed d.microseconds then d.truncate + 1
      else if d.signed d.microseconds < 0 then d.truncate - 1 else d.truncate := rfl
  rw [hsecond, truncate, signed, signed]
  cases d.negative
  · simp only [Bool.false_eq_true, ↓reduceIte]
    split_ifs <;> omega
  · simp only [↓reduceIte]
    split_ifs <;> omega

end Dyadic

/-! ### Instants -/

variable {ms : Int} {d : Dyadic}

theorem seconds?_eq_some (h : seconds? ms = some d) :
    ∃ x c y, Binary64.ofInt? ms = some x ∧ Dyadic.ofFloat? x = some c ∧
      Binary64.ofRatio? c.num (c.den * 1000) = some y ∧
      Dyadic.ofFloat? (Binary64.withSign c.negative y) = some d := by
  simp only [seconds?, Option.bind_eq_bind, Option.bind_eq_some_iff] at h
  obtain ⟨x, hx, c, hc, y, hy, hd⟩ := h
  exact ⟨x, c, y, hx, hc, hy, hd⟩

theorem cast_num_div (c : Dyadic) : (c.num : ℚ) / (c.den * 1000 : Nat) = c.magnitude / 1000 := by
  rw [Nat.cast_mul, ← div_div, Dyadic.num_div_den]
  norm_num

/-- An instant of at most 53 bits is divided exactly before the quotient is rounded. -/
theorem seconds?_of_natAbs_lt (h : ms.natAbs < 1000 * 2 ^ 38) :
    ∃ d, seconds? ms = some d ∧ (ms ≠ 0 → d.negative = decide (ms < 0)) ∧
      |d.magnitude - ms.natAbs / 1000| ≤ 2 ^ (-15 : Int) ∧
      (ms % 1000 = 0 → d.magnitude = ms.natAbs / 1000) := by
  obtain ⟨x, hx, c, hc, hvalue⟩ := Number.toFloat_of_natAbs_lt (n := ms) (by omega)
  rw [Number.toFloat_int_eq_ok] at hx
  have hmagnitude := Dyadic.magnitude_of_value hvalue
  have hden : 0 < c.den * 1000 := Nat.mul_pos c.den_pos (by decide)
  have hquotient : (c.num : ℚ) / (c.den * 1000 : Nat) = ms.natAbs / 1000 := by
    rw [cast_num_div, hmagnitude]
  have hlt : (c.num : ℚ) / (c.den * 1000 : Nat) < 2 ^ (38 : Int) := by
    have hcast : (ms.natAbs : ℚ) < 1000 * 2 ^ 38 := by exact_mod_cast h
    rw [hquotient, div_lt_iff₀ (by norm_num), mul_comm]
    exact_mod_cast hcast
  obtain ⟨y, d, hy, hd, hnegative, hnear⟩ :=
    Binary64.exists_nearest hden (by decide) (by decide) hlt c.negative
  have hseconds : seconds? ms = some d := by
    simp only [seconds?, Option.bind_eq_bind, hx, hc, hy, hd, Option.bind_some]
  rw [hquotient] at hnear
  refine ⟨d, hseconds, fun h0 => ?_, hnear, fun hwhole => ?_⟩
  · -- the sign of a double that is not zero is that of its value
    have hpos : 0 < c.magnitude := by
      rw [hmagnitude]
      exact_mod_cast Int.natAbs_pos.2 h0
    have hcast : ((ms : Int) : ℚ) = if c.negative then -c.magnitude else c.magnitude := hvalue.symm
    rw [hnegative, Bool.eq_iff_iff, decide_eq_true_eq, ← Int.cast_lt_zero (R := ℚ), hcast]
    cases c.negative
    · simp only [Bool.false_eq_true, ↓reduceIte, false_iff, not_lt]
      exact hpos.le
    · simp only [↓reduceIte, true_iff]
      exact neg_neg_of_pos hpos
  · have hexact : (c.num : ℚ) / (c.den * 1000 : Nat) =
        (ms.natAbs / 1000 : Nat) * 2 ^ (0 : Int) := by
      have hms : (ms.natAbs : ℚ) = (ms.natAbs / 1000 : Nat) * 1000 := by
        exact_mod_cast (Nat.div_mul_cancel (by omega : 1000 ∣ ms.natAbs)).symm
      rw [hquotient, zpow_zero, mul_one, div_eq_iff (by norm_num), hms]
    obtain ⟨y', d', hy', hd', -, hsame⟩ := Binary64.ofRatio?_exact hden
      (k := ms.natAbs / 1000) (by omega) (by decide) (by decide) hexact c.negative
    obtain rfl := Option.some.inj (hy.symm.trans hy')
    obtain rfl := Option.some.inj (hd.symm.trans hd')
    rw [hsame, hquotient]

theorem natAbs_div (ms : Int) :
    (ms.natAbs : ℚ) / 1000 = (ms.natAbs / 1000 : Nat) + (ms.natAbs % 1000 : Nat) / 1000 := by
  have hmod : (ms.natAbs : ℚ) = 1000 * (ms.natAbs / 1000 : Nat) + (ms.natAbs % 1000 : Nat) := by
    exact_mod_cast (Nat.div_add_mod ms.natAbs 1000).symm
  rw [hmod]
  ring

/-- The start of a second is exact, and has no microseconds. -/
theorem second_of_whole (hwhole : ms % 1000 = 0) (hsign : ms ≠ 0 → d.negative = decide (ms < 0))
    (hvalue : d.magnitude = ms.natAbs / 1000) : d.second = ms / 1000 := by
  rw [natAbs_div, show ms.natAbs % 1000 = 0 by omega, Nat.cast_zero, zero_div, add_zero] at hvalue
  have hpart : d.num / d.den = ms.natAbs / 1000 :=
    Dyadic.whole_of_magnitude hvalue.ge (by rw [hvalue]; exact lt_add_one _)
  have hmicros : d.microseconds = 0 := by
    refine Dyadic.microseconds_of_fraction_eq ?_
    have hmagnitude := d.magnitude_eq
    rw [hpart, hvalue] at hmagnitude
    linarith
  rw [Dyadic.second_of_microseconds (by omega), hmicros, if_neg (by omega), Dyadic.truncate,
    hpart, Dyadic.signed]
  by_cases h0 : ms = 0
  · subst h0
    cases d.negative <;> rfl
  · rw [hsign h0]
    simp only [decide_eq_true_eq]
    split_ifs <;> omega

/-- Within a second there are microseconds, so that a negative second is rounded down. -/
theorem second_of_rest (hrest : ms % 1000 ≠ 0) (hsign : ms ≠ 0 → d.negative = decide (ms < 0))
    (hnear : |d.magnitude - ms.natAbs / 1000| ≤ 1 / 2000) : d.second = ms / 1000 := by
  have hlow : (1 : ℚ) ≤ (ms.natAbs % 1000 : Nat) := by
    exact_mod_cast (show 1 ≤ ms.natAbs % 1000 by omega)
  have hhigh : ((ms.natAbs % 1000 : Nat) : ℚ) ≤ 999 := by
    exact_mod_cast (show ms.natAbs % 1000 ≤ 999 by omega)
  rw [natAbs_div, abs_le] at hnear
  have hpart : d.num / d.den = ms.natAbs / 1000 :=
    Dyadic.whole_of_magnitude (by linarith) (by linarith)
  have hmagnitude := d.magnitude_eq
  rw [hpart] at hmagnitude
  obtain ⟨hpos, hlt⟩ := d.microseconds_bounds (by linarith) (by linarith)
  have h0 : ms ≠ 0 := by
    rintro rfl
    exact hrest rfl
  rw [Dyadic.second_of_microseconds hlt, Dyadic.truncate, hpart, Dyadic.signed, hsign h0]
  simp only [decide_eq_true_eq, hpos, and_true]
  split_ifs <;> omega

/-- The second of an instant is the whole quotient of its milliseconds. -/
theorem second_of_natAbs_lt (h : ms.natAbs < 1000 * 2 ^ 38) :
    ∃ d, seconds? ms = some d ∧ d.second = ms / 1000 := by
  obtain ⟨d, hd, hsign, hnear, hexact⟩ := seconds?_of_natAbs_lt h
  refine ⟨d, hd, ?_⟩
  by_cases hwhole : ms % 1000 = 0
  · exact second_of_whole hwhole hsign (hexact hwhole)
  · exact second_of_rest hwhole hsign (hnear.trans (by norm_num))

/-- The second of an instant of more than 53 bits has more than 41 bits. -/
theorem le_natAbs_second (h : 2 ^ 53 ≤ ms.natAbs) (hd : seconds? ms = some d) :
    2 ^ 41 ≤ d.second.natAbs := by
  obtain ⟨x, c, y, hx, hc, hy, hd⟩ := seconds?_eq_some hd
  obtain ⟨z, hz, rfl⟩ := Option.map_eq_some_iff.1 hx
  have hfar : (2 : ℚ) ^ 53 ≤ ms.natAbs := by exact_mod_cast h
  have hdouble : (ms.natAbs : ℚ) ≤ 2 * c.magnitude := by
    have hhalf := Binary64.le_two_mul_magnitude Nat.one_pos hz hc
    rw [Nat.cast_one, div_one] at hhalf
    exact hhalf (by linarith)
  have hquotient : c.magnitude / 1000 ≤ 2 * d.magnitude := by
    have hhalf := Binary64.le_two_mul_magnitude (Nat.mul_pos c.den_pos (by decide)) hy hd
    rw [cast_num_div] at hhalf
    exact hhalf (by linarith)
  have hwhole : ((2 ^ 41 : Nat) : ℚ) < (d.num / d.den + 1 : Nat) := by
    have hmagnitude := d.magnitude_eq
    have hfraction := d.fraction_lt_one
    push_cast
    linarith
  have hwhole : 2 ^ 41 < d.num / d.den + 1 := by exact_mod_cast hwhole
  exact (Nat.le_of_lt_succ hwhole).trans d.whole_le_natAbs_second

end RuleLedger
