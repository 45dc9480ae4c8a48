import Mathlib.Algebra.Group.Nat.Defs
import Mathlib.Logic.Basic
import Mathlib.Tactic.SplitIfs
import RuleLedger.Number.Binary64

/-! The bits of doubles. A finite double is told by its sign, mantissa and exponent, an infinity by
its sign, and there is one NaN. A double of given bits has them, and its opposite has the other
sign. -/
namespace RuleLedger
namespace Binary64

/-- A double is its bits. -/
theorem toBits_injective {x y : Float} (h : x.toBits.toNat = y.toBits.toNat) : x = y := by
  obtain ⟨⟨a, ha⟩⟩ := x
  obtain ⟨⟨b, hb⟩⟩ := y
  obtain rfl : a = b := UInt64.toNat_inj.1 h
  rfl

section Fields

open Float.Model

variable (x : Float)

theorem toNat_unpackExponent :
    (@UnpackedFloat.unpackExponent Format.binary64 x.toBits.toBitVec).toNat =
      x.toBits.toNat / 2 ^ 52 % 2048 := by
  simp [UnpackedFloat.unpackExponent, Nat.shiftRight_eq_div_pow]

theorem toNat_unpackMantissa :
    (@UnpackedFloat.unpackMantissa Format.binary64 x.toBits.toBitVec).toNat =
      x.toBits.toNat % 2 ^ 52 := by
  simp [UnpackedFloat.unpackMantissa]

theorem unpackExponent_eq_iff :
    @UnpackedFloat.unpackExponent Format.binary64 x.toBits.toBitVec = -1#_ ↔
      x.toBits.toNat / 2 ^ 52 % 2048 = 2047 := by
  rw [← BitVec.toNat_inj, toNat_unpackExponent]
  rfl

theorem unpackMantissa_eq_iff :
    @UnpackedFloat.unpackMantissa Format.binary64 x.toBits.toBitVec = 0#_ ↔
      x.toBits.toNat % 2 ^ 52 = 0 := by
  rw [← BitVec.toNat_inj, toNat_unpackMantissa]
  rfl

/-- A test that no finite number passes looks at the doubles of the greatest exponent alone. -/
theorem test_unpack {p : UnpackedFloat → Bool} {b : Bool} (hi : ∀ s, p (.infinity s) = b)
    (hz : ∀ s, p (.zero s) = false) (hf : ∀ s m e h, p (.finite s m e h) = false) :
    p (UnpackedFloat.unpack Format.binary64 x.toBits.toBitVec) = true ↔
      x.toBits.toNat / 2 ^ 52 % 2048 = 2047 ∧
        (if x.toBits.toNat % 2 ^ 52 = 0 then b else p .notANumber) = true := by
  rw [← unpackExponent_eq_iff]
  simp only [← unpackMantissa_eq_iff]
  unfold UnpackedFloat.unpack
  dsimp only
  by_cases he : @UnpackedFloat.unpackExponent Format.binary64 x.toBits.toBitVec = -1#_
  · rw [if_pos he, and_iff_right he]
    by_cases hm : @UnpackedFloat.unpackMantissa Format.binary64 x.toBits.toBitVec = 0#_
    · rw [if_pos hm, if_pos hm, hi]
    · rw [if_neg hm, if_neg hm]
  · rw [if_neg he]
    refine iff_of_false (Bool.not_eq_true _ ▸ ?_) fun h => he h.1
    by_cases h₀ : @UnpackedFloat.unpackExponent Format.binary64 x.toBits.toBitVec = 0#_
    · rw [if_pos h₀]
      by_cases hm : @UnpackedFloat.unpackMantissa Format.binary64 x.toBits.toBitVec = 0#_
      · rw [dif_pos hm]
        exact hz _
      · rw [dif_neg hm]
        exact hf _ _ _ _
    · rw [if_neg h₀]
      exact hf _ _ _ _

theorem isNaN_iff :
    x.isNaN = true ↔ x.toBits.toNat / 2 ^ 52 % 2048 = 2047 ∧ x.toBits.toNat % 2 ^ 52 ≠ 0 := by
  have h := @test_unpack x UnpackedFloat.isNaN false (fun _ => rfl) (fun _ => rfl)
    (fun _ _ _ _ => rfl)
  refine Iff.trans h (and_congr_right fun _ => ?_)
  by_cases hm : x.toBits.toNat % 2 ^ 52 = 0
  · rw [if_pos hm]
    exact ⟨nofun, fun h => absurd hm h⟩
  · rw [if_neg hm]
    exact ⟨fun _ => hm, fun _ => rfl⟩

theorem isInf_iff :
    x.isInf = true ↔ x.toBits.toNat / 2 ^ 52 % 2048 = 2047 ∧ x.toBits.toNat % 2 ^ 52 = 0 := by
  have h := @test_unpack x UnpackedFloat.isInf true (fun _ => rfl) (fun _ => rfl)
    (fun _ _ _ _ => rfl)
  refine Iff.trans h (and_congr_right fun _ => ?_)
  by_cases hm : x.toBits.toNat % 2 ^ 52 = 0
  · rw [if_pos hm]
    exact ⟨fun _ => hm, fun _ => rfl⟩
  · rw [if_neg hm]
    exact ⟨nofun, fun h => absurd h hm⟩

/-- There is one NaN. -/
theorem eq_of_isNaN {x y : Float} (hx : x.isNaN = true) (hy : y.isNaN = true) : x = y := by
  have key (z : Float) (hz : z.isNaN = true) :
      z.toBits.toBitVec = UnpackedFloat.packedNaN Format.binary64 := by
    rw [isNaN_iff, ← unpackExponent_eq_iff, Ne, ← unpackMantissa_eq_iff] at hz
    exact z.toModel.valid.eq_packedNaN hz.1 hz.2
  apply toBits_injective
  have h := (key x hx).trans (key y hy).symm
  exact congrArg BitVec.toNat h

end Fields
end Binary64

namespace Dyadic

/-- The bits of a double in their three fields. -/
theorem ofFloat?_eq (x : Float) :
    ofFloat? x =
      if x.toBits.toNat / 2 ^ 52 % 2048 = 2047 then none
      else if x.toBits.toNat / 2 ^ 52 % 2048 = 0 then
        some ⟨x.toBits.toNat / 2 ^ 63 == 1, x.toBits.toNat % 2 ^ 52, minExponent⟩
      else some ⟨x.toBits.toNat / 2 ^ 63 == 1, 2 ^ 52 + x.toBits.toNat % 2 ^ 52,
        (x.toBits.toNat / 2 ^ 52 % 2048 : Nat) - 1075⟩ := by
  simp only [ofFloat?, Nat.shiftRight_eq_div_pow, Nat.shiftLeft_eq, Nat.one_mul]
  split <;> simp_all

/-- The mantissas and exponents of finite doubles: a mantissa has 53 bits, save at the least
exponent, where it may have fewer. -/
structure Normal (m : Nat) (q : Int) : Prop where
  mantissa_lt : m < 2 ^ 53
  le_exponent : minExponent ≤ q
  exponent_le : q ≤ 971
  full : q = minExponent ∨ 2 ^ 52 ≤ m

theorem normal_of_ofFloat? {x : Float} {d : Dyadic} (h : ofFloat? x = some d) :
    Normal d.mantissa d.exponent := by
  have hm : x.toBits.toNat % 2 ^ 52 < 2 ^ 52 := Nat.mod_lt _ (by decide)
  rw [ofFloat?_eq] at h
  split_ifs at h with h₁ h₂
  · obtain rfl := Option.some.inj h
    exact ⟨by dsimp only; omega, Int.le_refl _, by simp [minExponent], .inl rfl⟩
  · obtain rfl := Option.some.inj h
    have he : x.toBits.toNat / 2 ^ 52 % 2048 < 2048 := Nat.mod_lt _ (by decide)
    exact ⟨by dsimp only; omega, by simp only [minExponent]; omega, by dsimp only; omega,
      .inr (by dsimp only; omega)⟩

/-- The mantissa, the exponent above the least one, and the sign make up the bits. -/
theorem toBits_of_ofFloat? {x : Float} {d : Dyadic} (h : ofFloat? x = some d) :
    x.toBits.toNat = (if d.negative then 2 ^ 63 else 0) +
      (d.exponent - minExponent).toNat * 2 ^ 52 + d.mantissa := by
  have hx : x.toBits.toNat < 2 ^ 64 := x.toBits.toNat_lt
  rw [ofFloat?_eq] at h
  have hs : (if x.toBits.toNat / 2 ^ 63 == 1 then 2 ^ 63 else 0) =
      x.toBits.toNat / 2 ^ 63 * 2 ^ 63 := by
    split <;> rename_i hs <;> rw [beq_iff_eq] at hs <;> omega
  split_ifs at h <;> obtain rfl := Option.some.inj h <;> dsimp only [minExponent] <;>
    rw [hs] <;> omega

theorem ofFloat?_injective {x y : Float} {d : Dyadic} (hx : ofFloat? x = some d)
    (hy : ofFloat? y = some d) : x = y :=
  Binary64.toBits_injective ((toBits_of_ofFloat? hx).trans (toBits_of_ofFloat? hy).symm)

theorem ofFloat?_eq_none_iff {x : Float} : ofFloat? x = none ↔ x.isNaN = true ∨ x.isInf = true := by
  rw [ofFloat?_eq, Binary64.isNaN_iff, Binary64.isInf_iff, ← and_or_left,
    and_iff_left (ne_or_eq _ _)]
  split_ifs <;> simp_all

end Dyadic

namespace Binary64

/-- There is one infinity of each sign. -/
theorem eq_of_isInf {x y : Float} (hx : x.isInf = true) (hy : y.isInf = true)
    (h : isNegative x = isNegative y) : x = y := by
  have bx : x.toBits.toNat < 2 ^ 64 := x.toBits.toNat_lt
  have hb : y.toBits.toNat < 2 ^ 64 := y.toBits.toNat_lt
  rw [isInf_iff] at hx hy
  simp only [isNegative, Nat.shiftRight_eq_div_pow, Bool.beq_eq_decide_eq, decide_eq_decide] at h
  apply toBits_injective
  omega

section Packing

open Float.Model Float.Model.UnpackedFloat

theorem toNat_packComponents (s : Sign) (e : BitVec 11) (m : BitVec 52) :
    (packComponents Format.binary64 s e m).toNat =
      s.toBitVec.toNat * 2 ^ 63 + e.toNat * 2 ^ 52 + m.toNat := by
  have he : e.toNat < 2 ^ 11 := e.isLt
  have hm : m.toNat < 2 ^ 52 := m.isLt
  unfold packComponents
  rw [BitVec.toNat_append, BitVec.toNat_append, ← Nat.shiftLeft_add_eq_or_of_lt he,
    ← Nat.shiftLeft_add_eq_or_of_lt hm, Nat.shiftLeft_eq, Nat.shiftLeft_eq]
  omega

theorem toNat_implicit (m : BitVec 52) : (1#1 ++ m).toNat = 2 ^ 52 + m.toNat := by
  rw [BitVec.toNat_append, ← Nat.shiftLeft_add_eq_or_of_lt m.isLt, Nat.shiftLeft_eq]
  rfl

theorem pack_subnormal (s : Sign) (m : BitVec 52) (h : 0 < m.toNat) :
    UnpackedFloat.pack Format.binary64 (.finite s m.toNat (-1074) h) =
      packComponents Format.binary64 s 0#11 m := by
  have hlog : m.toNat.log2 < 52 := (Nat.log2_lt (Nat.ne_of_gt h)).2 m.isLt
  unfold UnpackedFloat.pack
  dsimp only
  have hshort : ¬m.toNat.log2 + 1 = Format.mantissaBits Format.binary64 := by
    change ¬m.toNat.log2 + 1 = 53
    omega
  rw [if_neg (by decide), if_neg hshort, BitVec.ofNat_toNat]
  rfl

theorem pack_normal (s : Sign) {e : BitVec 11} (he : e ≠ -1#_) (m : BitVec 52)
    (h : 0 < (1#1 ++ m).toNat) :
    UnpackedFloat.pack Format.binary64 (.finite s (1#1 ++ m).toNat (e.toNat - 1075) h) =
      packComponents Format.binary64 s e m := by
  have hm : m.toNat < 2 ^ 52 := m.isLt
  have hlog : (1#1 ++ m).toNat.log2 = 52 := by
    rw [toNat_implicit, Nat.log2_eq_iff (by omega)]
    omega
  have hlt : e.toNat < 2047 := by
    have hl : e.toNat < 2 ^ 11 := e.isLt
    have hne : e.toNat ≠ 2047 := fun h => he (BitVec.eq_of_toNat_eq h)
    omega
  have hbiased : ((e.toNat - 1075 : Int) + (Format.exponentBias Format.binary64 : Nat) +
      (Format.mantissaBitsWithoutImplicit Format.binary64 : Nat)).toNat = e.toNat := by
    simp only [Format.exponentBias]
    omega
  unfold UnpackedFloat.pack
  dsimp only
  rw [hbiased, if_neg (by omega), if_pos (by rw [hlog]; rfl), toNat_implicit]
  congr 1
  · simp
  · exact BitVec.eq_of_toNat_eq (by simp; omega)

/-- A finite double is unpacked to a number with its sign, which is packed again of the same fields
with any sign. -/
theorem exists_unpack {b : BitVec 64} (hb : b.toNat / 2 ^ 52 % 2048 ≠ 2047) :
    ∃ u : Sign → UnpackedFloat,
      UnpackedFloat.unpack Format.binary64 b =
        u (Sign.ofBitVec (@unpackSign Format.binary64 b)) ∧
      (∀ s, (u s).neg = u (-s)) ∧
      ∀ s, (UnpackedFloat.pack Format.binary64 (u s)).toNat =
        s.toBitVec.toNat * 2 ^ 63 + b.toNat % 2 ^ 63 := by
  have hexponent : (@unpackExponent Format.binary64 b).toNat = b.toNat / 2 ^ 52 % 2048 := by
    simp [unpackExponent, Nat.shiftRight_eq_div_pow]
  have hmantissa : (@unpackMantissa Format.binary64 b).toNat = b.toNat % 2 ^ 52 := by
    simp [unpackMantissa]
  have he : @unpackExponent Format.binary64 b ≠ -1#_ := fun h =>
    hb (hexponent.symm.trans (congrArg BitVec.toNat h))
  have hfields (s : Sign) : (packComponents Format.binary64 s
      (@unpackExponent Format.binary64 b) (@unpackMantissa Format.binary64 b)).toNat =
        s.toBitVec.toNat * 2 ^ 63 + b.toNat % 2 ^ 63 := by
    rw [toNat_packComponents, hexponent, hmantissa]
    omega
  unfold UnpackedFloat.unpack
  dsimp only
  rw [if_neg he]
  by_cases hzero : @unpackExponent Format.binary64 b = 0#_
  · rw [if_pos hzero]
    by_cases hm : @unpackMantissa Format.binary64 b = 0#_
    · rw [dif_pos hm]
      refine ⟨fun s => .zero s, rfl, fun s => rfl, fun s => ?_⟩
      rw [← hfields s, hzero, hm]
      rfl
    have hpos : 0 < (@unpackMantissa Format.binary64 b).toNat :=
      Nat.pos_of_ne_zero fun h => hm (BitVec.eq_of_toNat_eq h)
    rw [dif_neg hm]
    refine ⟨fun s => .finite s _ _ hpos, rfl, fun s => rfl, fun s => ?_⟩
    rw [← hfields s, hzero]
    exact congrArg BitVec.toNat (pack_subnormal s _ hpos)
  · have hpos : 0 < (1#1 ++ @unpackMantissa Format.binary64 b).toNat := by
      rw [toNat_implicit]
      omega
    rw [if_neg hzero]
    refine ⟨fun s => .finite s _ _ hpos, rfl, fun s => rfl, fun s => ?_⟩
    rw [← hfields s]
    exact congrArg BitVec.toNat (pack_normal s he _ hpos)

theorem toNat_unpackSign (b : BitVec 64) :
    (Sign.ofBitVec (@unpackSign Format.binary64 b)).toBitVec.toNat = b.toNat / 2 ^ 63 := by
  have hlt : b.toNat < 2 ^ 64 := b.isLt
  have hsign : (@unpackSign Format.binary64 b).toNat = b.toNat / 2 ^ 63 := by
    change (BitVec.extractLsb 63 63 b).toNat = b.toNat / 2 ^ 63
    simp [Nat.shiftRight_eq_div_pow]
    omega
  have hsame (c : BitVec 1) : (Sign.ofBitVec c).toBitVec = c := by
    revert c
    decide
  rw [hsame, hsign]

/-- A double of given bits has them. -/
theorem toBits_ofBits {b : UInt64} (hb : b.toNat / 2 ^ 52 % 2048 ≠ 2047) :
    (Float.ofBits b).toBits.toNat = b.toNat := by
  obtain ⟨u, hu, -, hpack⟩ := exists_unpack (b := b.toBitVec) hb
  change (UnpackedFloat.pack Format.binary64
    (UnpackedFloat.unpack Format.binary64 b.toBitVec)).toNat = _
  rw [hu, hpack, toNat_unpackSign]
  change b.toNat / 2 ^ 63 * 2 ^ 63 + b.toNat % 2 ^ 63 = b.toNat
  omega

/-- The bits of the opposite of a finite double that is not negative. -/
theorem toBits_neg {x : Float} (hx : x.toBits.toNat / 2 ^ 52 < 2047) :
    (-x).toBits.toNat = 2 ^ 63 + x.toBits.toNat := by
  obtain ⟨u, hu, hneg, hpack⟩ := exists_unpack (b := x.toBits.toBitVec) (by
    change x.toBits.toNat / 2 ^ 52 % 2048 ≠ 2047
    omega)
  change (UnpackedFloat.pack Format.binary64
    (UnpackedFloat.unpack Format.binary64 x.toBits.toBitVec).neg).toNat = _
  have hsign : Sign.ofBitVec (@unpackSign Format.binary64 x.toBits.toBitVec) = .positive := by
    have h := toNat_unpackSign x.toBits.toBitVec
    cases hs : Sign.ofBitVec (@unpackSign Format.binary64 x.toBits.toBitVec) with
    | positive => rfl
    | negative =>
      rw [hs] at h
      change 1 = x.toBits.toNat / 2 ^ 63 at h
      omega
  rw [hu, hneg, hpack, hsign]
  change 2 ^ 63 + x.toBits.toNat % 2 ^ 63 = 2 ^ 63 + x.toBits.toNat
  omega

end Packing

end Binary64
end RuleLedger
