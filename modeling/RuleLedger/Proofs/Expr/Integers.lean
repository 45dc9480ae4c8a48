import RuleLedger.Proofs.Expr.Paths
import RuleLedger.Proofs.Number.Whole

/-! Arithmetic on the integers of a record. Main statement: sums, differences and products are
exact, and a remainder is that of the doubles nearest to the operands, and so is exact if both
operands are doubles. -/
namespace RuleLedger

variable {x y : Int} {a b : Float}

/-- What is left of a division that rounds toward zero. -/
structure IsRemainder (x y r : Int) : Prop where
  divides : y ∣ x - r
  lt : r.natAbs < y.natAbs
  sign : r = 0 ∨ r.sign = x.sign

theorem isRemainder_tmod (hy : y ≠ 0) (x : Int) : IsRemainder x y (x.tmod y) where
  divides := Int.dvd_self_sub_tmod
  lt := by
    rw [Int.natAbs_tmod]
    exact Nat.mod_lt _ (Int.natAbs_pos.2 hy)
  sign := by
    by_cases hdvd : y ∣ x
    · exact .inl (Int.tmod_eq_zero_of_dvd hdvd)
    · exact .inr (by rw [Int.sign_tmod, if_neg hdvd])

namespace Number

theorem isZero_int (y : Int) : (int y).isZero = decide (y = 0) := by
  rw [isZero, Bool.eq_iff_iff, (hasValue_int y).eq_iff (hasValue_int 0), decide_eq_true_eq,
    Int.cast_inj]

theorem remainder_int (ha : (int x).toFloat = .ok a) (hb : (int y).toFloat = .ok b) (hy : y ≠ 0) :
    remainder (int x) (int y) = .ok (float (Binary64.remainder a b)) := by
  obtain ⟨X, hX, -⟩ := exists_rounded ha
  rw [remainder, isZero_int, decide_eq_false hy, ha, hb]
  change (if (a.isInf || a.isNaN) = true then _ else _) = _
  rw [hX.finite]
  rfl

end Number

namespace Expr

variable {fs : Fields Value} {generators : Option Generators} {m n : Text} {place : Seed}

/-- Arithmetic on two members of a record that are numbers. -/
theorem evaluateTree_arith {v w r : Number} {op : Arithmetic}
    (hm : Fields.get? fs m = some (.num v)) (hn : Fields.get? fs n = some (.num w))
    (h : Value.arithNumbers op v w = .ok r) (seed : Seed) :
    evaluateTree ⟨.ofValue place (.map fs), generators⟩ seed
      (.binary (.arith op) (.name m) (.name n)) = .ok (.num r) := by
  have hname {k : Text} {v : Number} (hk : Fields.get? fs k = some (.num v)) (s : Seed) :
      eval ⟨.ofValue place (.map fs), generators⟩ s (depthBudget - 1) (.name k) = .ok (.num v) :=
    eval_name_ofValue hk place generators (by decide) s
  have harith : (Value.num v).arith op (.num w) = .ok (.num r) := by
    have hjoins : (op = .add && ((Value.num v).joins || (Value.num w).joins)) = false := by
      simp [Value.joins]
    rw [Value.arith, hjoins, if_neg Bool.false_ne_true]
    change (Value.arithNumbers op v w).map _ = _
    rw [h]
    rfl
  have hresult : binaryResult (.arith op) (.num v) (.num w) = .ok (.num r) := by
    dsimp only [binaryResult, Datum.value]
    rw [harith]
    rfl
  exact evaluateTree_binary (hname hm) (hname hn) hresult rfl seed

/-- Sums, differences and products of integers are exact. A remainder is exact for the doubles
nearest to the operands, which are the operands themselves wherever these are doubles. -/
theorem evaluateTree_integers (hm : Fields.get? fs m = some (.int x))
    (hn : Fields.get? fs n = some (.int y)) (generators : Option Generators) (place seed : Seed) :
    let result (op : Arithmetic) := evaluateTree ⟨.ofValue place (.map fs), generators⟩ seed
      (.binary (.arith op) (.name m) (.name n))
    result .add = .ok (.int (x + y)) ∧ result .sub = .ok (.int (x - y)) ∧
      result .mul = .ok (.int (x * y)) ∧
      ∀ a b, (Number.int x).toFloat = .ok a → (Number.int y).toFloat = .ok b → y ≠ 0 →
        ∃ X Y r v, (Number.float a).eq (.int X) = true ∧ (Number.float b).eq (.int Y) = true ∧
          ((Number.int x).IsDouble → X = x) ∧ ((Number.int y).IsDouble → Y = y) ∧
          IsRemainder X Y r ∧ result .rem = .ok (.num v) ∧ v.eq (.int r) = true := by
  refine ⟨evaluateTree_arith hm hn rfl seed, evaluateTree_arith hm hn rfl seed,
    evaluateTree_arith hm hn rfl seed, fun a b ha hb hy => ?_⟩
  obtain ⟨X, hX, -, hx⟩ := Number.exists_rounded ha
  obtain ⟨Y, hY, hY0, hy'⟩ := Number.exists_rounded hb
  have hrest := (Binary64.hasValue_remainder hX hY (hY0 hy)).normalize
  have hrem : Value.arithNumbers .rem (.int x) (.int y) =
      .ok (Number.float (Binary64.remainder a b)).normalize := by
    rw [Value.arithNumbers]
    dsimp only
    rw [Number.remainder_int ha hb hy]
    rfl
  exact ⟨X, Y, X.tmod Y, _, (hX.eq_iff (Number.hasValue_int X)).2 rfl,
    (hY.eq_iff (Number.hasValue_int Y)).2 rfl, hx, hy', isRemainder_tmod (hY0 hy) X,
    evaluateTree_arith hm hn hrem seed, (hrest.eq_iff (Number.hasValue_int _)).2 rfl⟩

/-- The double nearest to 2^53 + 1 is even, and so the number modulo two comes to zero. -/
theorem evaluateTree_integers_even :
    ∃ v, evaluateTree ⟨.ofValue ⟨[1]⟩ (.map [("x", .int (2 ^ 53 + 1)), ("y", .int 2)]), none⟩ ⟨[0]⟩
        (.binary (.arith .rem) (.name "x") (.name "y")) = .ok (.num v) ∧
      v.eq (.int 0) = true ∧ ¬IsRemainder (2 ^ 53 + 1) 2 0 := by
  obtain ⟨a, ha, haeq⟩ := exists_ok (x := (Number.int (2 ^ 53 + 1)).toFloat)
    (fun a => (Number.float a).eq (.int (2 ^ 53))) (by decide +kernel)
  obtain ⟨b, hb, hbeq⟩ := exists_ok (x := (Number.int 2).toFloat)
    (fun b => (Number.float b).eq (.int 2)) (by decide +kernel)
  have hx : Fields.get? [("x", Value.int (2 ^ 53 + 1)), ("y", .int 2)] "x" =
      some (.int (2 ^ 53 + 1)) := rfl
  have hy : Fields.get? [("x", Value.int (2 ^ 53 + 1)), ("y", .int 2)] "y" = some (.int 2) := rfl
  obtain ⟨-, -, -, hrem⟩ := evaluateTree_integers hx hy none ⟨[1]⟩ ⟨[0]⟩
  obtain ⟨X, Y, r, v, hX, hY, -, -, hr, hresult, hv⟩ := hrem a b ha hb (by decide)
  have hsame {z : Float} {N M : Int} (hN : (Number.float z).eq (.int N) = true)
      (hM : (Number.float z).eq (.int M) = true) : N = M := by
    rw [Number.eq_swap] at hN
    exact Int.cast_inj.1 (((Number.hasValue_int N).eq_iff (Number.hasValue_int M)).1
      (Number.eq_trans hN hM))
  obtain rfl := hsame hX haeq
  obtain rfl := hsame hY hbeq
  obtain rfl : r = 0 := by
    have hdvd := hr.divides
    have hlt := hr.lt
    omega
  refine ⟨v, hresult, hv, fun h => ?_⟩
  have hdvd := h.divides
  omega

end Expr
end RuleLedger
