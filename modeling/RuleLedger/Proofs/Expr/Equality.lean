import RuleLedger.Expr.Evaluation
import RuleLedger.Proofs.Record.Nested
import RuleLedger.Proofs.Value.Comparison

/-! Equality, order and search agree. Main statement: the two kinds of equality are symmetric, the
stricter one is transitive and implies the other, data that are equal are in no order, orders turn
round with their sides, and a list includes what it has a position of, which is the first of an item
that is strictly equal. -/
namespace RuleLedger

namespace Datum

variable {a b c : Datum}

/-- Data are strictly equal if they are one thing, or no things and of equal values. -/
theorem strictEqual_iff : a.strictEqual b = true ↔
    a.identity? = b.identity? ∧
      (a.identity? = none → a.value.strictEqual false b.value = true) := by
  rw [strictEqual]
  cases a.identity? <;> cases b.identity? <;> simp

theorem looseEqual_iff : a.looseEqual b = true ↔
    a.identity? = b.identity? ∧
      (a.identity? = none → a.value.looseEqual false b.value = true) := by
  rw [looseEqual]
  cases a.identity? <;> cases b.identity? <;> simp

theorem strictEqual_symm (h : a.strictEqual b = true) : b.strictEqual a = true := by
  obtain ⟨hid, hvalue⟩ := strictEqual_iff.1 h
  refine strictEqual_iff.2 ⟨hid.symm, fun hb => ?_⟩
  rw [Value.strictEqual_swap]
  exact hvalue (hid.trans hb)

theorem strictEqual_trans (hab : a.strictEqual b = true) (hbc : b.strictEqual c = true) :
    a.strictEqual c = true := by
  obtain ⟨hid, hvalue⟩ := strictEqual_iff.1 hab
  obtain ⟨hid', hvalue'⟩ := strictEqual_iff.1 hbc
  exact strictEqual_iff.2 ⟨hid.trans hid',
    fun ha => Value.strictEqual_trans (hvalue ha) (hvalue' (hid ▸ ha))⟩

theorem looseEqual_of_strictEqual (h : a.strictEqual b = true) : a.looseEqual b = true := by
  obtain ⟨hid, hvalue⟩ := strictEqual_iff.1 h
  exact looseEqual_iff.2 ⟨hid, fun ha => Value.looseEqual_of_strictEqual (hvalue ha)⟩

theorem looseEqual_symm (h : a.looseEqual b = true) : b.looseEqual a = true := by
  obtain ⟨hid, hvalue⟩ := looseEqual_iff.1 h
  refine looseEqual_iff.2 ⟨hid.symm, fun hb => ?_⟩
  rw [Value.looseEqual_swap]
  exact hvalue (hid.trans hb)

/-- Whether the identity of two data, if they share one, is that of one datum. -/
def Coherent (a b : Datum) : Prop :=
  ∀ i, a.identity? = some i → b.identity? = some i → a = b

theorem not_compare_of_looseEqual (hcoherent : a.Coherent b) (h : a.looseEqual b = true) :
    a.value.compare .lt b.value = false ∧ a.value.compare .gt b.value = false := by
  obtain ⟨hid, hvalue⟩ := looseEqual_iff.1 h
  cases ha : a.identity? with
  | none => exact Value.not_compare_of_looseEqual (hvalue ha)
  | some i =>
    obtain rfl := hcoherent i ha (hid ▸ ha)
    exact Value.not_compare_self _

end Datum

namespace Expr

variable {a b c v : Datum} {E : Environment} {i : Identity} {xs : List Datum}

/-! ### Operators -/

/-- Whether an operator answers that it is so. -/
def Holds (op : BinaryOp) (a b : Datum) : Prop := binaryResult op a b = .ok (.bool true)

theorem holds_strictEqual : Holds .strictEqual a b ↔ a.strictEqual b = true := by
  simp [Holds, binaryResult]

theorem holds_equal : Holds .equal a b ↔ a.looseEqual b = true := by
  simp [Holds, binaryResult]

theorem holds_order {op : Ordering} :
    Holds (.order op) a b ↔ a.value.compare op b.value = true := by
  simp [Holds, binaryResult]

theorem holds_converse (op : Ordering) (a b : Datum) :
    Holds (.order op) a b ↔ Holds (.order op.converse) b a := by
  rw [holds_order, holds_order, Value.compare_converse]

theorem order_of_equal (hcoherent : a.Coherent b) (h : Holds .equal a b) :
    binaryResult (.order .lt) a b = .ok (.bool false) ∧
      binaryResult (.order .gt) a b = .ok (.bool false) := by
  obtain ⟨hlt, hgt⟩ := Datum.not_compare_of_looseEqual hcoherent (holds_equal.1 h)
  rw [binaryResult, binaryResult, hlt, hgt]
  exact ⟨rfl, rfl⟩

/-! ### Search -/

/-- A call of the method of a datum. -/
def invoke (E : Environment) (s : Seed) (d : Datum) (method : Text) (args : List Datum) :
    Except Fault Value := do
  callDatum E s (← member s d method) args

theorem invoke_list (hnow : E.record.current (.list i xs) = .list i xs) {m : Method}
    (hm : m = .includes ∨ m = .indexOf) (s : Seed) (v : Datum) :
    invoke E s (.list i xs) m.name [v] =
      callList (Value.methodName (Datum.list i xs).value m) xs m (some v) := by
  have hmember : member s (.list i xs) m.name = .ok (.method (.part s []) (.list i xs) m) := by
    rcases hm with rfl | rfl <;> rfl
  rw [invoke, hmember]
  change callMethod E (.list i xs) m [v] = _
  rw [callMethod, hnow]
  rcases hm with rfl | rfl <;> rfl

theorem index_list (s : Seed) {k : Nat} (hk : k < xs.length) :
    index s (.list i xs) (.int k) = .ok xs[k] := by
  have hposition : position? (.int k) xs.length = some k := by
    simp [position?, Value.int, Value.toNumber, hk]
  rw [index, hposition]
  simp [List.getD_eq_getElem?_getD, hk]

/-- What a search for a datum in a list comes to: a position, or a negative number. -/
structure Search (E : Environment) (s : Seed) (i : Identity) (xs : List Datum) (v : Datum)
    (n : Int) : Prop where
  indexOf : invoke E s (.list i xs) "indexOf" [v] = .ok (.int n)
  includes : invoke E s (.list i xs) "includes" [v] = .ok (.bool (decide (0 ≤ n)))
  equal : 0 ≤ n → ∃ x, index s (.list i xs) (.int n) = .ok x ∧ Holds .strictEqual x v
  first : ∀ k x, 0 ≤ k → k < n → index s (.list i xs) (.int k) = .ok x → ¬Holds .strictEqual x v
  absent : n < 0 → ∀ x ∈ xs, ¬Holds .strictEqual x v

theorem exists_search (hnow : E.record.current (.list i xs) = .list i xs) (s : Seed) (v : Datum) :
    ∃ n, Search E s i xs v n := by
  have hindexOf : invoke E s (.list i xs) "indexOf" [v] =
      .ok ((indexOf? xs v).elim (.int (-1)) .nat) := by
    refine (invoke_list (m := .indexOf) hnow (.inr rfl) s v).trans ?_
    simp only [callList, Option.getD_some]
    cases indexOf? xs v <;> rfl
  have hincludes : invoke E s (.list i xs) "includes" [v] = .ok (.bool (indexOf? xs v).isSome) :=
    invoke_list (m := .includes) hnow (.inl rfl) s v
  cases hfound : indexOf? xs v with
  | none =>
    rw [hfound] at hindexOf hincludes
    refine ⟨-1, hindexOf, hincludes, nofun, fun k x hk hlt => absurd hlt (by omega), ?_⟩
    intro _ x hx
    rw [holds_strictEqual, List.findIdx?_eq_none_iff.1 hfound x hx]
    exact Bool.false_ne_true
  | some k =>
    rw [hfound] at hindexOf hincludes
    obtain ⟨hk, heq, hfirst⟩ := List.findIdx?_eq_some_iff_getElem.1 hfound
    refine ⟨k, hindexOf, ?_, fun _ => ⟨_, index_list s hk, holds_strictEqual.2 heq⟩, ?_,
      fun hneg => absurd hneg (by omega)⟩
    · rw [decide_eq_true (Int.natCast_nonneg k)]
      exact hincludes
    · intro j x hj hlt hx
      obtain ⟨j, rfl⟩ := Int.eq_ofNat_of_zero_le hj
      have hjk : j < k := Int.ofNat_lt.1 hlt
      rw [index_list s (Nat.lt_trans hjk hk)] at hx
      obtain rfl := Except.ok.inj hx
      rw [holds_strictEqual]
      exact hfirst j hjk

/-- Equality, order and search agree with each other. -/
theorem comparisons_agree (hcoherent : a.Coherent b) (c v : Datum) (i : Identity)
    (xs : List Datum) (fs : Fields Value) (generators : Option Generators) (place s : Seed) :
    (Holds .strictEqual a b → Holds .strictEqual b a) ∧
      (Holds .strictEqual a b → Holds .strictEqual b c → Holds .strictEqual a c) ∧
      (Holds .strictEqual a b → Holds .equal a b) ∧
      (Holds .equal a b → Holds .equal b a) ∧
      (Holds .equal a b → binaryResult (.order .lt) a b = .ok (.bool false) ∧
        binaryResult (.order .gt) a b = .ok (.bool false)) ∧
      (Holds (.order .lt) a b ↔ Holds (.order .gt) b a) ∧
      (Holds (.order .le) a b ↔ Holds (.order .ge) b a) ∧
      ∃ n, Search ⟨.ofValue place (.map fs), generators⟩ s i xs v n := by
  -- nothing holds lists beside a record that was just made
  have hsearch : ∃ n, Search ⟨.ofValue place (.map fs), generators⟩ s i xs v n :=
    exists_search rfl s v
  simp only [holds_strictEqual, holds_equal]
  exact ⟨Datum.strictEqual_symm, Datum.strictEqual_trans, Datum.looseEqual_of_strictEqual,
    Datum.looseEqual_symm, fun h => order_of_equal hcoherent (holds_equal.2 h),
    holds_converse .lt a b, holds_converse .le a b, hsearch⟩

/-- True is one once it is converted, and so it is not below one; in a list of both it is found
behind one. -/
theorem comparisons_agree_true :
    Holds .equal (.bool true) (.int 1) ∧
      binaryResult (.order .lt) (.bool true) (.int 1) = .ok (.bool false) ∧
      Search ⟨.ofValue ⟨[1]⟩ (.map []), none⟩ ⟨[0]⟩ (.shelf "") [.int 1, .bool true]
        (.bool true) 1 := by
  have hequal : Holds .equal (.bool true) (.int 1) := holds_equal.2 (by decide +kernel)
  obtain ⟨-, -, -, -, horder, -, -, n, hn⟩ :=
    comparisons_agree (a := .bool true) (b := .int 1) nofun .null (.bool true) (.shelf "")
      [.int 1, .bool true] [] none ⟨[1]⟩ ⟨[0]⟩
  obtain rfl : n = 1 := by
    have hone : invoke ⟨.ofValue ⟨[1]⟩ (.map []), none⟩ ⟨[0]⟩
        (.list (.shelf "") [.int 1, .bool true]) "indexOf" [.bool true] = .ok (.int 1) := rfl
    simpa [Value.int] using hn.indexOf.symm.trans hone
  exact ⟨hequal, (horder hequal).1, hn⟩

end Expr
end RuleLedger
