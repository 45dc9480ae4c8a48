import RuleLedger.Proofs.Number.Whole

/-! Sums and quotients of doubles. Main statements: a sum of doubles is exact if some double is
equal to it, so whole numbers up to 2^53 are counted without a loss; and a finite double divided by
one that is not zero is a number, which is at most infinity. -/
namespace RuleLedger

namespace Dyadic

open Float.Model Float.Model.UnpackedFloat

variable {x : Float} {d : Dyadic}

/-! ### Forms -/

def sign (d : Dyadic) : Sign := if d.negative then .negative else .positive

/-- The form in which doubles are computed with. -/
def unpacked (d : Dyadic) : UnpackedFloat :=
  if h : d.mantissa = 0 then .zero d.sign
  else .finite d.sign d.mantissa d.exponent (Nat.pos_of_ne_zero h)

theorem unpackSign_eq (b : BitVec 64) :
    Sign.ofBitVec (@unpackSign Format.binary64 b) =
      if b.toNat / 2 ^ 63 == 1 then .negative else .positive := by
  have h := Binary64.toNat_unpackSign b
  cases hs : Sign.ofBitVec (@unpackSign Format.binary64 b) <;> rw [hs] at h <;> rw [← h] <;> rfl

theorem finite_congr {s : Sign} {m m' : Nat} {e e' : Int} {hm : 0 < m} {hm' : 0 < m'} (h : m = m')
    (he : e = e') : finite s m e hm = finite s m' e' hm' := by
  subst h he
  rfl

theorem unpack_eq (h : ofFloat? x = some d) : x.toModel.unpack = d.unpacked := by
  have hexponent := Binary64.toNat_unpackExponent x
  have hmantissa := Binary64.toNat_unpackMantissa x
  have hsign := unpackSign_eq x.toBits.toBitVec
  change UnpackedFloat.unpack Format.binary64 x.toBits.toBitVec = _
  rw [ofFloat?_eq] at h
  split_ifs at h with hinfinite hsmall
  · obtain rfl := Option.some.inj h
    have he : @unpackExponent Format.binary64 x.toBits.toBitVec = 0#_ :=
      BitVec.eq_of_toNat_eq (hexponent.trans hsmall)
    unfold UnpackedFloat.unpack
    dsimp only
    rw [if_neg (mt (Binary64.unpackExponent_eq_iff x).1 hinfinite), if_pos he, hsign]
    by_cases hm : x.toBits.toNat % 2 ^ 52 = 0
    · rw [dif_pos ((Binary64.unpackMantissa_eq_iff x).2 hm), unpacked, dif_pos hm]
      rfl
    · rw [dif_neg (mt (Binary64.unpackMantissa_eq_iff x).1 hm), unpacked, dif_neg hm]
      refine finite_congr hmantissa ?_
      rw [he]
      rfl
  · obtain rfl := Option.some.inj h
    have he : @unpackExponent Format.binary64 x.toBits.toBitVec ≠ 0#_ := fun he =>
      hsmall (hexponent.symm.trans (congrArg BitVec.toNat he))
    unfold UnpackedFloat.unpack
    dsimp only
    rw [if_neg (mt (Binary64.unpackExponent_eq_iff x).1 hinfinite), if_neg he, hsign, unpacked,
      dif_neg (by dsimp only; omega)]
    refine finite_congr ?_ ?_
    · rw [Binary64.toNat_implicit, hmantissa]
    · rw [hexponent]
      rfl

/-- A double is packed again from its form. -/
theorem pack_unpacked (h : ofFloat? x = some d) : Float.Model.pack d.unpacked = x.toModel := by
  have hfinite : x.toBits.toNat / 2 ^ 52 % 2048 ≠ 2047 := by
    intro he
    rw [ofFloat?_eq, if_pos he] at h
    cases h
  obtain ⟨u, hu, -, hpack⟩ := Binary64.exists_unpack (b := x.toBits.toBitVec) hfinite
  have hbits : (Float.ofModel (Float.Model.pack d.unpacked)).toBits.toNat = x.toBits.toNat := by
    rw [← unpack_eq h]
    change (UnpackedFloat.pack Format.binary64
      (UnpackedFloat.unpack Format.binary64 x.toBits.toBitVec)).toNat = _
    rw [hu, hpack, Binary64.toNat_unpackSign]
    change x.toBits.toNat / 2 ^ 63 * 2 ^ 63 + x.toBits.toNat % 2 ^ 63 = x.toBits.toNat
    omega
  exact congrArg Float.toModel (Binary64.toBits_injective hbits)

theorem ofFloat?_pack (hn : Normal d.mantissa d.exponent) :
    ofFloat? (.ofModel (Float.Model.pack d.unpacked)) = some d := by
  have hx := Binary64.ofFloat?_withSign hn d.negative
  rw [pack_unpacked hx]
  exact hx

/-! ### Rounding -/

theorem log2_mul_two_pow {m : Nat} (hm : 0 < m) (j : Nat) : (m * 2 ^ j).log2 = m.log2 + j := by
  induction j with
  | zero => rw [Nat.pow_zero, Nat.mul_one, Nat.add_zero]
  | succ j ih =>
    have hpos : m * 2 ^ j ≠ 0 := (Nat.mul_pos hm (Nat.two_pow_pos j)).ne'
    rw [Nat.pow_succ, ← Nat.mul_assoc, Nat.mul_comm _ 2, Nat.log2_two_mul hpos, ih, Nat.add_assoc]

/-- The exponent of a double is the one that the place of its leading bit asks for. -/
theorem targetExponent_eq {m : Nat} {p : Int} (hn : Normal m p) (hm : 0 < m) :
    Format.binary64.targetExponent (totalExponent m p) = p := by
  have hlog : m.log2 < 53 := (Nat.log2_lt hm.ne').2 hn.mantissa_lt
  have hmin : minExponent = -1074 := rfl
  have hlow := hn.le_exponent
  change max ((m.log2 : Int) + 1 + p - 53) (-1074) = p
  obtain hp | hfull := hn.full
  · omega
  · have := (Nat.le_log2 hm.ne').2 hfull
    omega

/-- Bits that are zero are shifted out without a trace. -/
theorem shiftRight_exact (m j : Nat) :
    ExtendedMantissa.ofMantissaAndAccuracy (m * 2 ^ j) .exact >>> j = ⟨m, false, false⟩ := by
  change j.repeat ExtendedMantissa.shiftRightOne ⟨m * 2 ^ j, false, false⟩ = _
  induction j generalizing m with
  | zero => rw [Nat.pow_zero, Nat.mul_one]; rfl
  | succ j ih =>
    rw [Nat.repeat, Nat.pow_succ', ← Nat.mul_assoc, ih]
    simp [ExtendedMantissa.shiftRightOne]

theorem shiftToTargetExponent_eq {m : Nat} {p : Int} (hn : Normal m p) (hm : 0 < m) (j : Nat) :
    shiftToTargetExponent Format.binary64 (m * 2 ^ j) (p - j) .exact = (⟨m, false, false⟩, p) := by
  have htotal : totalExponent (m * 2 ^ j) (p - j) = totalExponent m p := by
    rw [totalExponent, log2_mul_two_pow hm, totalExponent]
    omega
  have hshift : (p - (p - j)).toNat = j := by omega
  rw [shiftToTargetExponent, htotal, targetExponent_eq hn hm, shiftToExponent, hshift,
    shiftRight_exact, sub_add_cancel]

theorem roundWithAccuracy_eq {m : Nat} {p : Int} (hn : Normal m p) (hm : 0 < m) (s : Sign)
    (j : Nat) :
    roundWithAccuracy Format.binary64 s (m * 2 ^ j) (p - j) .exact = .finite s m p hm := by
  have hagain := shiftToTargetExponent_eq hn hm 0
  rw [Nat.pow_zero, Nat.mul_one, Nat.cast_zero, sub_zero] at hagain
  have hrounded : (⟨m, false, false⟩ : ExtendedMantissa).roundedMantissa = m := rfl
  rw [roundWithAccuracy, shiftToTargetExponent_eq hn hm j]
  dsimp only
  rw [hrounded, hagain]
  exact dif_neg hm.ne'

/-- What is equal to a double is rounded to it. -/
theorem round_eq (hn : Normal d.mantissa d.exponent) {M : Nat} {q : Int} (hM : 0 < M)
    (h : (M : ℚ) * 2 ^ q = d.magnitude) :
    UnpackedFloat.round Format.binary64 d.sign M q = d.unpacked := by
  obtain ⟨negative, m, p⟩ := d
  have hm : 0 < m := by
    refine Nat.pos_of_ne_zero fun h0 => ?_
    have hpos : (0 : ℚ) < M * 2 ^ q := by positivity
    rw [h, magnitude, h0, Nat.cast_zero, zero_mul] at hpos
    exact hpos.false
  -- one of the two mantissas is the other with zeros after it
  have hsame : M * 2 ^ (q - p).toNat = m * 2 ^ (p - q).toNat := by
    have hp : (2 : ℚ) ^ p ≠ 0 := by positivity
    have hcast : (M : ℚ) * 2 ^ (q - p) = m := by
      rw [zpow_sub₀ two_ne_zero, ← mul_div_assoc, div_eq_iff hp]
      exact h
    have hclear : (M : ℚ) * 2 ^ (q - p).toNat = m * 2 ^ (p - q).toNat := by
      rw [← zpow_mul_pow_toNat two_ne_zero, ← mul_assoc, hcast, neg_sub]
    exact_mod_cast hclear
  have htotal : totalExponent M q = totalExponent m p := by
    have hlog := congrArg Nat.log2 hsame
    rw [log2_mul_two_pow hM, log2_mul_two_pow hm] at hlog
    rw [totalExponent, totalExponent]
    omega
  have hexponent : q - ((q - p).toNat : Int) = p - ((p - q).toNat : Int) := by omega
  rw [UnpackedFloat.round, htotal, targetExponent_eq hn hm]
  simp only [decreaseExponent, Nat.shiftLeft_eq]
  rw [hsame, hexponent, roundWithAccuracy_eq hn hm, unpacked, dif_neg hm.ne']

/-! ### Sums -/

theorem apply_sign (d : Dyadic) (k : Nat) : d.sign.apply k = d.signed k := by
  rw [sign, signed]
  cases d.negative <;> rfl

theorem normal_zero : Normal 0 minExponent := ⟨by decide, by decide, by decide, .inl rfl⟩

theorem value_of_mantissa (h : d.mantissa = 0) : d.value = 0 := by
  rw [value, magnitude, h, Nat.cast_zero, zero_mul, neg_zero, ite_self]

theorem value_shifted {q : Int} (h : q ≤ d.exponent) :
    (d.signed (d.mantissa <<< (d.exponent - q).toNat) : ℚ) * 2 ^ q = d.value := by
  rw [cast_signed, value, magnitude_shifted h]
  split_ifs
  · rw [neg_mul]
  · rfl

/-- A whole number times a power of two that is a double is rounded to it. -/
theorem normalize_eq (hn : Normal d.mantissa d.exponent) {S q : Int}
    (h : (S : ℚ) * 2 ^ q = d.value) :
    ∃ c : Dyadic, Normal c.mantissa c.exponent ∧ c.value = d.value ∧
      UnpackedFloat.normalize Format.binary64 S q .positive = c.unpacked := by
  have hp : (0 : ℚ) < 2 ^ q := by positivity
  have hmagnitude := d.magnitude_nonneg
  obtain hneg | rfl | hpos := lt_trichotomy S 0
  · have hvalue : d.value < 0 := h ▸ mul_neg_of_neg_of_pos (by exact_mod_cast hneg) hp
    have hsign : d.negative = true := by
      by_contra hs
      rw [value, if_neg hs] at hvalue
      exact hvalue.not_ge hmagnitude
    have hcast : ((-S).toNat : ℚ) * 2 ^ q = d.magnitude := by
      have hnat : ((-S).toNat : Int) = -S := Int.toNat_of_nonneg (by omega)
      rw [← Int.cast_natCast, hnat, Int.cast_neg, neg_mul, h, value, if_pos hsign, neg_neg]
    have hround := round_eq hn (by omega) hcast
    rw [sign, if_pos hsign] at hround
    rw [UnpackedFloat.normalize, Int.compare_eq_lt.2 hneg]
    exact ⟨d, hn, rfl, hround⟩
  · rw [Int.cast_zero, zero_mul] at h
    refine ⟨⟨false, 0, minExponent⟩, normal_zero, ?_, rfl⟩
    rw [← h, value_of_mantissa rfl]
  · have hvalue : 0 < d.value := h ▸ mul_pos (by exact_mod_cast hpos) hp
    have hsign : ¬d.negative = true := by
      intro hs
      rw [value, if_pos hs] at hvalue
      linarith
    have hcast : (S.toNat : ℚ) * 2 ^ q = d.magnitude := by
      have hnat : (S.toNat : Int) = S := Int.toNat_of_nonneg (by omega)
      rw [← Int.cast_natCast, hnat, h, value, if_neg hsign]
    have hround := round_eq hn (by omega) hcast
    rw [sign, if_neg hsign] at hround
    rw [UnpackedFloat.normalize, Int.compare_eq_gt.2 hpos]
    exact ⟨d, hn, rfl, hround⟩

theorem add_eq {e f : Dyadic} (hd : Normal d.mantissa d.exponent)
    (he : Normal e.mantissa e.exponent) (hf : Normal f.mantissa f.exponent)
    (h : f.value = d.value + e.value) :
    ∃ c : Dyadic, Normal c.mantissa c.exponent ∧ c.value = f.value ∧
      UnpackedFloat.add Format.binary64 d.unpacked e.unpacked = c.unpacked := by
  by_cases hd0 : d.mantissa = 0 <;> by_cases he0 : e.mantissa = 0
  · rw [value_of_mantissa hd0, value_of_mantissa he0, add_zero] at h
    rw [h, unpacked, dif_pos hd0, unpacked, dif_pos he0]
    refine ⟨⟨d.negative && e.negative, 0, minExponent⟩, normal_zero, value_of_mantissa rfl, ?_⟩
    rw [sign, sign]
    cases d.negative <;> cases e.negative <;> rfl
  · rw [value_of_mantissa hd0, zero_add] at h
    refine ⟨e, he, h.symm, ?_⟩
    rw [unpacked, dif_pos hd0, unpacked, dif_neg he0]
    rfl
  · rw [value_of_mantissa he0, add_zero] at h
    refine ⟨d, hd, h.symm, ?_⟩
    rw [unpacked, dif_neg hd0, unpacked, dif_pos he0]
    rfl
  · have hsum : ((d.signed (d.mantissa <<< (d.exponent - min d.exponent e.exponent).toNat) +
        e.signed (e.mantissa <<< (e.exponent - min d.exponent e.exponent).toNat) : Int) : ℚ) *
          2 ^ min d.exponent e.exponent = f.value := by
      rw [Int.cast_add, add_mul, value_shifted (min_le_left _ _), value_shifted (min_le_right _ _),
        h]
    obtain ⟨c, hc, hvalue, hnormalize⟩ := normalize_eq hf hsum
    refine ⟨c, hc, hvalue, ?_⟩
    rw [unpacked, dif_neg hd0, unpacked, dif_neg he0, ← hnormalize, ← apply_sign, ← apply_sign]
    rfl

end Dyadic

namespace Number

variable {x y z : Float} {v w : ℚ}

/-- The sum of two doubles is exact if it is a double. -/
theorem HasValue.add (hx : (float x).HasValue v) (hy : (float y).HasValue w)
    (hz : (float z).HasValue (v + w)) : (float (x + y)).HasValue (v + w) := by
  obtain ⟨d, hd, rfl⟩ := hx
  obtain ⟨e, he, rfl⟩ := hy
  obtain ⟨f, hf, hvalue⟩ := hz
  obtain ⟨c, hc, hcf, hadd⟩ := Dyadic.add_eq (Dyadic.normal_of_ofFloat? hd)
    (Dyadic.normal_of_ofFloat? he) (Dyadic.normal_of_ofFloat? hf) hvalue
  have hsum : x + y = .ofModel (Float.Model.pack c.unpacked) := by
    rw [← hadd, ← Dyadic.unpack_eq hd, ← Dyadic.unpack_eq he]
    rfl
  exact ⟨c, hsum ▸ Dyadic.ofFloat?_pack hc, hcf.trans hvalue⟩

theorem hasValue_zero : (float 0.0).HasValue (0 : Nat) :=
  ⟨_, Binary64.ofFloat?_zero false, (Dyadic.value_of_mantissa rfl).trans Nat.cast_zero.symm⟩

theorem hasValue_one : (float 1.0).HasValue (1 : Nat) :=
  ⟨⟨false, 2 ^ 52, -52⟩, by decide +kernel, by norm_num [Dyadic.value, Dyadic.magnitude]⟩

/-- Counting with doubles is exact up to 2^53. -/
theorem HasValue.add_nat {m n : Nat} (hx : (float x).HasValue m) (hy : (float y).HasValue n)
    (h : m + n ≤ 2 ^ 53) : (float (x + y)).HasValue (m + n : Nat) := by
  have hdouble : (int (m + n : Nat)).IsDouble := isDouble_of_natAbs_le h
  obtain ⟨z, hz⟩ := isDouble_int_iff.1 hdouble
  rw [Int.cast_natCast, Nat.cast_add] at hz
  rw [Nat.cast_add]
  exact hx.add hy hz

end Number

namespace Binary64

open Float.Model Float.Model.UnpackedFloat

variable {x y : Float} {v w : ℚ}

/-! ### Quotients -/

theorem isNaN_pack {u : UnpackedFloat} (h : u ≠ .notANumber) :
    (Float.ofModel (Float.Model.pack u)).isNaN = false := by
  have hfields {s : Sign} {e : BitVec 11} {m : BitVec 52}
      (hu : UnpackedFloat.pack Format.binary64 u = packComponents Format.binary64 s e m)
      (he : e.toNat = 2047 → m.toNat = 0) :
      (Float.ofModel (Float.Model.pack u)).isNaN = false := by
    have hbits : (Float.ofModel (Float.Model.pack u)).toBits.toNat =
        s.toBitVec.toNat * 2 ^ 63 + e.toNat * 2 ^ 52 + m.toNat :=
      (congrArg BitVec.toNat hu).trans (toNat_packComponents s e m)
    have hlt : e.toNat < 2 ^ 11 := e.isLt
    have hm : m.toNat < 2 ^ 52 := m.isLt
    rw [← Bool.not_eq_true, isNaN_iff, hbits]
    omega
  cases u with
  | notANumber => exact absurd rfl h
  | infinity s => exact hfields rfl fun _ => rfl
  | zero s => exact hfields rfl fun _ => rfl
  | finite s m e hm =>
    by_cases hlarge : 2 ^ 11 ≤ (e + Format.exponentBias Format.binary64 + 52).toNat + 1
    · exact hfields (s := s) (if_pos hlarge) fun _ => rfl
    by_cases hnormal : m.log2 + 1 = Format.mantissaBits Format.binary64
    · refine hfields (s := s) ((if_neg hlarge).trans (if_pos hnormal)) fun he => ?_
      have hbiased := (BitVec.toNat_ofNat _ _).symm.trans he
      dsimp only at hbiased
      omega
    · refine hfields (s := s) ((if_neg hlarge).trans (if_neg hnormal)) fun he => ?_
      cases he

theorem roundWithAccuracy_ne (s : Sign) (m : Nat) (e : Int) (accuracy : Accuracy) :
    roundWithAccuracy Format.binary64 s m e accuracy ≠ .notANumber := by
  unfold roundWithAccuracy
  dsimp only
  intro h
  obtain ⟨_, hz⟩ | ⟨_, hf⟩ := dite_eq_iff.1 h
  · exact UnpackedFloat.noConfusion hz
  · exact UnpackedFloat.noConfusion hf

/-- The quotient of a finite double by one that is not zero is a number. -/
theorem isNaN_div (hx : (Number.float x).HasValue v) (hy : (Number.float y).HasValue w)
    (hw : w ≠ 0) : (x / y).isNaN = false := by
  obtain ⟨d, hd, rfl⟩ := hx
  obtain ⟨e, he, rfl⟩ := hy
  have hzero : e.mantissa ≠ 0 := fun h0 => hw (Dyadic.value_of_mantissa h0)
  have hdiv : x / y =
      .ofModel (Float.Model.pack (UnpackedFloat.div Format.binary64 d.unpacked e.unpacked)) := by
    rw [← Dyadic.unpack_eq hd, ← Dyadic.unpack_eq he]
    rfl
  rw [hdiv]
  refine isNaN_pack ?_
  by_cases hnone : d.mantissa = 0
  · rw [Dyadic.unpacked, dif_pos hnone, Dyadic.unpacked, dif_neg hzero]
    exact UnpackedFloat.noConfusion
  · rw [Dyadic.unpacked, dif_neg hnone, Dyadic.unpacked, dif_neg hzero]
    exact roundWithAccuracy_ne _ _ _ _

theorem unpack_infinity : infinity.toModel.unpack = .infinity .positive := rfl

theorem le_infinity (h : x.isNaN = false) : x ≤ infinity := by
  refine decide_eq_true (p := x.toModel ≤ infinity.toModel) ?_
  change (x.toModel.unpack.compare infinity.toModel.unpack).any (·.isLE) = true
  change x.toModel.unpack.isNaN = false at h
  rw [unpack_infinity]
  cases hx : x.toModel.unpack with
  | notANumber =>
    rw [hx] at h
    cases h
  | infinity s => cases s <;> rfl
  | zero s => rfl
  | finite s m e hm => cases s <;> rfl

end Binary64
end RuleLedger
