import RuleLedger.Expr.Coercion
import RuleLedger.Proofs.Number.Binary64
import RuleLedger.Proofs.Value.Sorted

/-! How values compare. Main statements: equality of either kind does not ask which value comes
first, equality without conversion is the stricter one, and values that are equal are in no
order. -/
namespace RuleLedger

/-- The same order seen from the other side. -/
def Expr.Ordering.converse : Expr.Ordering → Expr.Ordering
  | .lt => .gt
  | .le => .ge
  | .gt => .lt
  | .ge => .le

theorem Text.lt_irrefl (s : Text) : Text.lt s s = false := by
  rw [Text.lt, decide_eq_false_iff_not]
  exact List.lt_irrefl _

/-! ### Numbers -/

namespace Number

variable {x y z : Number}

theorem Position.lt_irrefl (p : Position) : p.lt p = false := by
  cases p with
  | finite n => exact decide_eq_false (Int.lt_irrefl n)
  | _ => rfl

/-- Only a NaN lies nowhere. -/
theorem position?_eq_none_iff : x.position? = none ↔ x.isNaN = true := by
  cases x with
  | int n => simp [position?, isNaN]
  | float x =>
    have hfinite := @Dyadic.ofFloat?_eq_none_iff x
    rw [position?, isNaN]
    cases hx : Dyadic.ofFloat? x with
    | some d =>
      rw [hx] at hfinite
      have hnan : ¬x.isNaN = true := fun hn => Option.some_ne_none d (hfinite.2 (.inl hn))
      exact iff_of_false (Option.some_ne_none _) hnan
    | none => cases hn : x.isNaN <;> simp

/-- Numbers are equal if both lie somewhere, and at one place. -/
theorem eq_iff : x.eq y = true ↔ ∃ p, x.position? = some p ∧ y.position? = some p := by
  rw [eq]
  cases x.position? with
  | none => simp
  | some p =>
    cases y.position? with
    | none => simp
    | some q => simp [eq_comm]

theorem eq_swap (x y : Number) : x.eq y = y.eq x := by
  rw [Bool.eq_iff_iff, eq_iff, eq_iff]
  exact exists_congr fun _ => And.comm

theorem eq_trans (hxy : x.eq y = true) (hyz : y.eq z = true) : x.eq z = true := by
  obtain ⟨p, hx, hy⟩ := eq_iff.1 hxy
  obtain ⟨q, hy', hz⟩ := eq_iff.1 hyz
  obtain rfl := Option.some.inj (hy.symm.trans hy')
  exact eq_iff.2 ⟨p, hx, hz⟩

theorem lt_irrefl (x : Number) : x.lt x = false := by
  rw [lt]
  cases x.position? with
  | none => rfl
  | some p => exact p.lt_irrefl

theorem not_lt_of_eq (h : x.eq y = true) : x.lt y = false := by
  obtain ⟨p, hx, hy⟩ := eq_iff.1 h
  rw [lt, hx, hy]
  exact p.lt_irrefl

/-- Whether numbers are in an order; a NaN is in none. -/
def ordered (op : Expr.Ordering) (x y : Number) : Bool :=
  if x.isNaN || y.isNaN then false else
    match op with
    | .lt => x.lt y
    | .le => x.le y
    | .gt => y.lt x
    | .ge => y.le x

theorem ordered_converse (op : Expr.Ordering) (x y : Number) :
    y.ordered op.converse x = x.ordered op y := by
  cases op <;> simp only [ordered, Expr.Ordering.converse, Bool.or_comm]

theorem not_ordered_of_eq (h : x.eq y = true) :
    x.ordered .lt y = false ∧ x.ordered .gt y = false := by
  have hyx : y.eq x = true := eq_swap x y ▸ h
  simp only [ordered, not_lt_of_eq h, not_lt_of_eq hyx, ite_self, and_self]

theorem not_ordered_self (x : Number) : x.ordered .lt x = false ∧ x.ordered .gt x = false := by
  simp only [ordered, lt_irrefl, ite_self, and_self]

end Number

namespace Value

variable {u v w : Value} {same : Bool}

/-! ### Equality -/

theorem strictEqual_swap (same : Bool) (v w : Value) :
    v.strictEqual same w = w.strictEqual same v := by
  cases v <;> cases w <;>
    simp only [strictEqual, isThing, Number.eq_swap, Bool.beq_comm, Bool.and_comm]

theorem strictEqual_trans (huv : u.strictEqual same v = true) (hvw : v.strictEqual same w = true) :
    u.strictEqual same w = true := by
  cases u <;> cases v <;> simp [strictEqual, isThing] at huv <;>
    cases w <;> simp [strictEqual, isThing] at hvw ⊢
  case num.num.num => exact Number.eq_trans huv hvw
  all_goals simp_all

/-- Values that are no things and equal are one value, or numbers that are equal. -/
theorem eq_or_of_strictEqual (h : v.strictEqual false w = true) :
    v = w ∨ v.toNumber.eq w.toNumber = true := by
  cases v <;> cases w <;> simp [strictEqual, isThing] at h
  case null.null => exact .inl rfl
  case num.num => exact .inr h
  case bool.bool | str.str => exact .inl (h ▸ rfl)

/-- Only null is equal to null. -/
theorem looseEqual_null (hv : v ≠ .null) :
    null.looseEqual same v = false ∧ v.looseEqual same null = false := by
  cases v with
  | null => exact absurd rfl hv
  | _ => exact ⟨rfl, rfl⟩

/-- Where no side is null, only scalars of different kinds are converted. -/
theorem looseEqual_eq (hv : v ≠ .null) (hw : w ≠ .null) :
    v.looseEqual same w =
      if v.scalarKind?.isSome && w.scalarKind?.isSome && v.scalarKind? != w.scalarKind?
      then v.toNumber.eq w.toNumber else v.strictEqual same w := by
  rw [looseEqual]
  · cases v.scalarKind? <;> cases w.scalarKind? <;> simp
  all_goals simp_all

theorem looseEqual_swap (same : Bool) (v w : Value) :
    v.looseEqual same w = w.looseEqual same v := by
  by_cases hv : v = .null
  · by_cases hw : w = .null
    · rw [hv, hw]
    · rw [hv, (looseEqual_null hw).1, (looseEqual_null hw).2]
  · by_cases hw : w = .null
    · rw [hw, (looseEqual_null hv).1, (looseEqual_null hv).2]
    · rw [looseEqual_eq hv hw, looseEqual_eq hw hv, Number.eq_swap, strictEqual_swap,
        Bool.and_comm v.scalarKind?.isSome, bne_comm]

/-- Values that are equal without conversion are equal when converted. -/
theorem looseEqual_of_strictEqual (h : v.strictEqual same w = true) :
    v.looseEqual same w = true := by
  by_cases hv : v = .null
  · obtain rfl := hv
    cases w with
    | null => rfl
    | _ => cases h
  · by_cases hw : w = .null
    · obtain rfl := hw
      rw [strictEqual_swap] at h
      cases v with
      | null => rfl
      | _ => cases h
    · rw [looseEqual_eq hv hw]
      split_ifs with hkinds
      · -- an integer beside a double
        cases v <;> cases w <;> simp [scalarKind?, strictEqual, isThing] at hkinds h
        case num.num => exact h
      · exact h

theorem eq_or_of_looseEqual (h : v.looseEqual false w = true) :
    v = w ∨ v.toNumber.eq w.toNumber = true := by
  by_cases hv : v = .null
  · by_cases hw : w = .null
    · exact .inl (hv.trans hw.symm)
    · rw [hv, (looseEqual_null hw).1] at h
      cases h
  · by_cases hw : w = .null
    · rw [hw, (looseEqual_null hv).2] at h
      cases h
    · rw [looseEqual_eq hv hw] at h
      split_ifs at h
      · exact .inr h
      · exact eq_or_of_strictEqual h

/-! ### Order -/

/-- Values are compared as texts, if both are texts, and else as numbers. -/
theorem compare_cases (v w : Value) :
    (∃ s t, v = .str s ∧ w = .str t) ∨
      (∀ op, v.compare op w = v.toNumber.ordered op w.toNumber) ∧
        ∀ op, w.compare op v = w.toNumber.ordered op v.toNumber := by
  cases v with
  | str s =>
    cases w with
    | str t => exact .inl ⟨s, t, rfl, rfl⟩
    | _ => exact .inr ⟨fun _ => rfl, fun _ => rfl⟩
  | _ => exact .inr ⟨fun _ => rfl, fun _ => by cases w <;> rfl⟩

/-- An order holds exactly when the converse one holds the other way round. -/
theorem compare_converse (op : Expr.Ordering) (v w : Value) :
    w.compare op.converse v = v.compare op w := by
  obtain ⟨s, t, rfl, rfl⟩ | ⟨hvw, hwv⟩ := compare_cases v w
  · cases op <;> rfl
  · rw [hvw, hwv, Number.ordered_converse]

theorem not_compare_self (v : Value) : v.compare .lt v = false ∧ v.compare .gt v = false := by
  obtain ⟨s, -, rfl, -⟩ | ⟨hvv, -⟩ := compare_cases v v
  · exact ⟨Text.lt_irrefl s, Text.lt_irrefl s⟩
  · rw [hvv, hvv]
    exact Number.not_ordered_self _

/-- Values that are equal are in no order. -/
theorem not_compare_of_looseEqual (h : v.looseEqual false w = true) :
    v.compare .lt w = false ∧ v.compare .gt w = false := by
  obtain ⟨s, t, rfl, rfl⟩ | ⟨hvw, -⟩ := compare_cases v w
  · obtain rfl := beq_iff_eq.1 h
    exact not_compare_self _
  · rw [hvw, hvw]
    obtain rfl | heq := eq_or_of_looseEqual h
    · exact Number.not_ordered_self _
    · exact Number.not_ordered_of_eq heq

end Value
end RuleLedger
