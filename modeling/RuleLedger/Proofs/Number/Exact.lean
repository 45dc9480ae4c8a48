import RuleLedger.Number.Basic
import RuleLedger.Proofs.Number.Nearest
import RuleLedger.Proofs.Value.Comparison

/-! Numbers by their exact values. Main statements: numbers are compared by their values, a whole
double below 2^53 becomes the integer of its value, and numbers of one value below 2^53 become one
number. -/
namespace RuleLedger

namespace Dyadic

variable {d d' : Dyadic} {n : Int}

/-- The exact value. -/
def value (d : Dyadic) : ℚ := if d.negative then -d.magnitude else d.magnitude

theorem magnitude_nonneg (d : Dyadic) : 0 ≤ d.magnitude := by
  unfold magnitude
  positivity

theorem cast_signed (d : Dyadic) (k : Nat) :
    (d.signed k : ℚ) = if d.negative then -(k : ℚ) else k := by
  rw [signed]
  split_ifs <;> push_cast <;> rfl

/-- The magnitude with the mantissa brought to a lesser exponent. -/
theorem magnitude_shifted {q : Int} (h : q ≤ d.exponent) :
    d.magnitude = (d.mantissa <<< (d.exponent - q).toNat : Nat) * 2 ^ q := by
  have hnat : ((d.exponent - q).toNat : Int) = d.exponent - q := Int.toNat_of_nonneg (by omega)
  rw [magnitude, Nat.shiftLeft_eq]
  push_cast
  rw [← zpow_natCast, hnat, mul_assoc, ← zpow_add₀ two_ne_zero, sub_add_cancel]

theorem cast_units (h : minExponent ≤ d.exponent) : (d.units : ℚ) = d.value * 2 ^ 1074 := by
  have hm : ((d.mantissa <<< (d.exponent - minExponent).toNat : Nat) : ℚ) =
      d.magnitude * 2 ^ 1074 := by
    rw [magnitude_shifted h, mul_assoc, ← zpow_natCast, ← zpow_add₀ two_ne_zero]
    norm_num [minExponent]
  rw [units, cast_signed, value, hm]
  split_ifs
  · rw [neg_mul]
  · rfl

theorem abs_value (d : Dyadic) : |d.value| = d.magnitude := by
  rw [value]
  split_ifs
  · rw [abs_neg, abs_of_nonneg d.magnitude_nonneg]
  · exact abs_of_nonneg d.magnitude_nonneg

theorem magnitude_of_value (h : d.value = n) : d.magnitude = n.natAbs := by
  rw [← abs_value, h, Nat.cast_natAbs, Int.cast_abs]

/-- The parts of a double whose value is whole. -/
theorem num_eq_of_value (h : d.value = n) : d.num = n.natAbs * d.den := by
  have hden : (d.den : ℚ) ≠ 0 := by exact_mod_cast d.den_pos.ne'
  have hquotient : (d.num : ℚ) / d.den = n.natAbs := by rw [num_div_den, magnitude_of_value h]
  rw [div_eq_iff hden] at hquotient
  exact_mod_cast hquotient

theorem isWhole_of_value (h : d.value = n) : d.isWhole = true := by
  rw [isWhole, num_eq_of_value h, Nat.mul_mod_left]
  rfl

theorem truncate_of_value (h : d.value = n) : d.truncate = n := by
  have hquotient : d.num / d.den = n.natAbs := by
    rw [num_eq_of_value h, Nat.mul_div_cancel _ d.den_pos]
  have hcast : ((d.truncate : Int) : ℚ) = (n : Int) := by
    rw [truncate, cast_signed, hquotient, ← magnitude_of_value h, ← h, value]
  exact_mod_cast hcast

theorem value_of_isWhole (h : d.isWhole = true) : d.value = d.truncate := by
  have hden : (d.den : ℚ) ≠ 0 := by exact_mod_cast d.den_pos.ne'
  have hquotient : ((d.num / d.den : Nat) : ℚ) = d.magnitude := by
    have hnum : d.num / d.den * d.den = d.num :=
      Nat.div_mul_cancel (Nat.dvd_of_mod_eq_zero (beq_iff_eq.1 h))
    rw [← num_div_den, eq_div_iff hden]
    exact_mod_cast hnum
  rw [truncate, cast_signed, hquotient, value]

/-- A double lies among the numbers that round to it. -/
theorem roundsTo_self (m : Nat) (q : Int) : Decimal.RoundsTo m q (m * 2 ^ q) := by
  have hp : (0 : ℚ) < 2 ^ q := by positivity
  have hlow : Decimal.lowEnd m q < m * 2 ^ q := by
    refine mul_lt_mul_of_pos_right ?_ hp
    split_ifs <;> linarith
  have hhigh : m * 2 ^ q < Decimal.highEnd m q := mul_lt_mul_of_pos_right (by linarith) hp
  rw [Decimal.RoundsTo]
  split_ifs
  · exact ⟨hlow.le, hhigh.le⟩
  · exact ⟨hlow, hhigh⟩

/-- The sign, mantissa and exponent of a value that is not zero. -/
theorem value_injective (hd : Normal d.mantissa d.exponent) (hd' : Normal d'.mantissa d'.exponent)
    (h : d.value = d'.value) (h0 : d.value ≠ 0) : d = d' := by
  have hmagnitude : d.magnitude = d'.magnitude := by rw [← abs_value, h, abs_value]
  have hself := roundsTo_self d'.mantissa d'.exponent
  change Decimal.RoundsTo _ _ d'.magnitude at hself
  rw [← hmagnitude] at hself
  obtain ⟨hm, hq⟩ := (roundsTo_self d.mantissa d.exponent).unique hd hd' hself
  have hpos : 0 < d.magnitude := by
    rw [← abs_value]
    exact abs_pos.2 h0
  have hsign : d.negative = d'.negative := by
    rw [value, value, ← hmagnitude] at h
    cases hs : d.negative <;> cases hs' : d'.negative <;> simp only [hs, hs', ↓reduceIte,
      Bool.false_eq_true] at h ⊢ <;> linarith
  cases d
  cases d'
  simp_all

end Dyadic

namespace Number

variable {a b : Number} {x y : Float} {v w : ℚ} {n : Int}

/-- That a number is finite and has a value. -/
def HasValue : Number → ℚ → Prop
  | .int n, v => (n : ℚ) = v
  | .float x, v => ∃ d, Dyadic.ofFloat? x = some d ∧ d.value = v

theorem hasValue_int (n : Int) : (int n).HasValue n := rfl

theorem position?_int (n : Int) : (int n).position? = some (.finite (n * (1 <<< 1074 : Nat))) := rfl

theorem HasValue.unique (h : a.HasValue v) (h' : a.HasValue w) : v = w := by
  cases a with
  | int n => exact h.symm.trans h'
  | float x =>
    obtain ⟨d, hd, rfl⟩ := h
    obtain ⟨d', hd', rfl⟩ := h'
    rw [Option.some.inj (hd.symm.trans hd')]

/-- A double with a value is finite. -/
theorem HasValue.finite (h : (float x).HasValue v) : (x.isInf || x.isNaN) = false := by
  obtain ⟨d, hd, -⟩ := h
  have hnone := mt Dyadic.ofFloat?_eq_none_iff.2 (by rw [hd]; exact Option.some_ne_none d)
  rw [not_or, Bool.not_eq_true, Bool.not_eq_true] at hnone
  rw [hnone.1, hnone.2]
  rfl

theorem HasValue.isNaN (h : a.HasValue v) : a.isNaN = false := by
  cases a with
  | int n => rfl
  | float x => exact (Bool.or_eq_false_iff.1 h.finite).2

/-- The place of a number is its value in units of the least positive double. -/
theorem HasValue.position? (h : a.HasValue v) :
    ∃ u : Int, a.position? = some (.finite u) ∧ (u : ℚ) = v * 2 ^ 1074 := by
  cases a with
  | int n =>
    obtain rfl : (n : ℚ) = v := h
    have hunit (k : Nat) : ((n * (1 <<< k : Nat) : Int) : ℚ) = n * 2 ^ k := by
      rw [Nat.one_shiftLeft]
      push_cast
      rfl
    exact ⟨_, position?_int n, hunit 1074⟩
  | float x =>
    obtain ⟨d, hd, rfl⟩ := h
    refine ⟨d.units, ?_, Dyadic.cast_units (Dyadic.normal_of_ofFloat? hd).le_exponent⟩
    rw [Number.position?, hd]

theorem exists_hasValue {u : Int} (h : a.position? = some (.finite u)) : ∃ v, a.HasValue v := by
  cases a with
  | int n => exact ⟨n, rfl⟩
  | float x =>
    cases hd : Dyadic.ofFloat? x with
    | some d => exact ⟨d.value, d, hd, rfl⟩
    | none =>
      rw [Number.position?, hd] at h
      split_ifs at h <;> simp at h

/-- Numbers are equal if their values are. -/
theorem HasValue.eq_iff (ha : a.HasValue v) (hb : b.HasValue w) : a.eq b = true ↔ v = w := by
  obtain ⟨t, hat, ht⟩ := ha.position?
  obtain ⟨u, hbu, hu⟩ := hb.position?
  have hp : (2 : ℚ) ^ 1074 ≠ 0 := by positivity
  rw [eq, hat, hbu, decide_eq_true_eq, Position.finite.injEq, ← Int.cast_inj (α := ℚ), ht, hu]
  exact mul_left_inj' hp

theorem HasValue.lt_iff (ha : a.HasValue v) (hb : b.HasValue w) : a.lt b = true ↔ v < w := by
  obtain ⟨t, hat, ht⟩ := ha.position?
  obtain ⟨u, hbu, hu⟩ := hb.position?
  have hp : (0 : ℚ) < 2 ^ 1074 := by positivity
  have hlt : a.lt b = decide (t < u) := by
    rw [lt, hat, hbu]
    rfl
  rw [hlt, decide_eq_true_eq, ← Int.cast_lt (R := ℚ), ht, hu]
  exact mul_lt_mul_iff_left₀ hp

/-- What is equal to a number with a value has that value. -/
theorem HasValue.of_eq (ha : a.HasValue v) (h : a.eq b = true) : b.HasValue v := by
  obtain ⟨p, hpa, hpb⟩ := Number.eq_iff.1 h
  obtain ⟨u, hu, -⟩ := ha.position?
  obtain rfl := Option.some.inj (hu.symm.trans hpa)
  obtain ⟨w, hw⟩ := exists_hasValue hpb
  rwa [(ha.eq_iff hw).1 h]

theorem eq_of_hasValue (hx : (float x).HasValue v) (hy : (float y).HasValue v) (hv : v ≠ 0) :
    x = y := by
  obtain ⟨d, hd, rfl⟩ := hx
  obtain ⟨d', hd', h⟩ := hy
  have hsame := Dyadic.value_injective (Dyadic.normal_of_ofFloat? hd)
    (Dyadic.normal_of_ofFloat? hd') h.symm hv
  exact Dyadic.ofFloat?_injective hd (hsame ▸ hd')

/-! ### Whole doubles as integers -/

theorem normalize_float {d : Dyadic} (h : Dyadic.ofFloat? x = some d) :
    (float x).normalize =
      if d.isWhole && d.truncate.natAbs < exactBound then .int d.truncate else .float x := by
  rw [normalize, h]

theorem HasValue.normalize (h : a.HasValue v) : a.normalize.HasValue v := by
  cases a with
  | int n => exact h
  | float x =>
    obtain ⟨d, hd, rfl⟩ := h
    rw [normalize_float hd]
    split_ifs with hwhole
    · exact (Dyadic.value_of_isWhole (Bool.and_eq_true_iff.1 hwhole).1).symm
    · exact ⟨d, hd, rfl⟩

/-- Whole numbers of moderate size are integers. -/
theorem HasValue.normalize_eq (h : a.HasValue n) (hn : n.natAbs < exactBound) :
    a.normalize = .int n := by
  cases a with
  | int m =>
    obtain rfl : m = n := Int.cast_injective h
    rfl
  | float x =>
    obtain ⟨d, hd, hvalue⟩ := h
    rw [normalize_float hd, Dyadic.isWhole_of_value hvalue, Dyadic.truncate_of_value hvalue,
      decide_eq_true hn]
    rfl

/-- Whether a number lies between -2^53 and 2^53. -/
def IsModerate (a : Number) : Prop :=
  (int (-exactBound)).lt a = true ∧ a.lt (int exactBound) = true

/-- A number of moderate size has a value, which is of moderate size. -/
theorem IsModerate.exists_hasValue (h : a.IsModerate) :
    ∃ v, a.HasValue v ∧ -(2 ^ 53 : ℚ) < v ∧ v < 2 ^ 53 := by
  obtain ⟨hlow, hhigh⟩ := h
  have hbound : ((exactBound : Int) : ℚ) = 2 ^ 53 := by
    rw [exactBound, Nat.one_shiftLeft]
    norm_num
  cases hp : a.position? with
  | none => simp [lt, hp] at hhigh
  | some p =>
    cases p with
    | low =>
      rw [lt, position?_int, hp] at hlow
      cases hlow
    | high =>
      rw [lt, position?_int, hp] at hhigh
      cases hhigh
    | finite u =>
      obtain ⟨v, hv⟩ := Number.exists_hasValue hp
      have hlow := ((hasValue_int _).lt_iff hv).1 hlow
      have hhigh := (hv.lt_iff (hasValue_int _)).1 hhigh
      rw [Int.cast_neg, hbound] at hlow
      rw [hbound] at hhigh
      exact ⟨v, hv, hlow, hhigh⟩

/-- Equal numbers of moderate size become one number. -/
theorem normalize_eq_of_eq (h : a.eq b = true) (ha : a.IsModerate) : a.normalize = b.normalize := by
  obtain ⟨v, hv, hlow, hhigh⟩ := ha.exists_hasValue
  have hb := hv.of_eq h
  by_cases hwhole : ∃ n : Int, v = n
  · obtain ⟨n, rfl⟩ := hwhole
    have hn : n.natAbs < exactBound := by
      have hlow : -(2 ^ 53 : Int) < n := by exact_mod_cast hlow
      have hhigh : n < 2 ^ 53 := by exact_mod_cast hhigh
      rw [exactBound, Nat.one_shiftLeft]
      omega
    rw [hv.normalize_eq hn, hb.normalize_eq hn]
  · -- a value that is not whole belongs to one double, and to no integer
    have hne : v ≠ 0 := fun h0 => hwhole ⟨0, by rw [h0, Int.cast_zero]⟩
    cases a with
    | int n => exact absurd ⟨n, Eq.symm hv⟩ hwhole
    | float x =>
      cases b with
      | int n => exact absurd ⟨n, Eq.symm hb⟩ hwhole
      | float y => rw [eq_of_hasValue hv hb hne]

end Number
end RuleLedger
