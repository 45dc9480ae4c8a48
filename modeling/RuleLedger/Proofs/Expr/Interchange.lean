import RuleLedger.Proofs.Expr.Equality
import RuleLedger.Proofs.Number.Exact

/-! Equal numbers in each other's place. Main statement: numbers that are strictly equal and of
moderate size have one text and one truth value, compare alike with everything, and lead to one
member, unless one is an integer at which a list or a text has an item: the double does not find
it. -/
namespace RuleLedger

variable {a b : Number} {v : ℚ}

namespace Number

theorem eq_congr (h : a.eq b = true) (c : Number) : a.eq c = b.eq c := by
  obtain ⟨p, ha, hb⟩ := eq_iff.1 h
  rw [eq, eq, ha, hb]

theorem lt_congr (h : a.eq b = true) (c : Number) : a.lt c = b.lt c ∧ c.lt a = c.lt b := by
  obtain ⟨p, ha, hb⟩ := eq_iff.1 h
  constructor
  · rw [lt, lt, ha, hb]
  · rw [lt, lt, ha, hb]

theorem isNaN_of_eq (h : a.eq b = true) : a.isNaN = false := by
  obtain ⟨p, ha, -⟩ := eq_iff.1 h
  rw [← Bool.not_eq_true, ← position?_eq_none_iff, ha]
  exact Option.some_ne_none p

theorem ordered_congr (h : a.eq b = true) (op : Expr.Ordering) (c : Number) :
    a.ordered op c = b.ordered op c := by
  have h' : b.eq a = true := eq_swap a b ▸ h
  obtain ⟨hlt, hgt⟩ := lt_congr h c
  have hle : a.le c = b.le c := by rw [le, le, hlt, eq_congr h]
  have hge : c.le a = c.le b := by rw [le, le, hgt, eq_swap c a, eq_swap c b, eq_congr h]
  cases op <;> simp only [ordered, isNaN_of_eq h, isNaN_of_eq h', hlt, hgt, hle, hge]

end Number

namespace Value

theorem numberText_eq (h : a.HasValue v) : numberText a = a.normalize.text := by
  cases a with
  | int n => rfl
  | float x =>
    obtain ⟨hinf, hnan⟩ := Bool.or_eq_false_iff.1 h.finite
    rw [numberText, hnan, hinf]
    rfl

theorem toText_congr (h : a.eq b = true) (ha : a.IsModerate) :
    (Value.num a).toText = (Value.num b).toText := by
  obtain ⟨v, hv, -⟩ := ha.exists_hasValue
  rw [toText, toText, numberText_eq hv, numberText_eq (hv.of_eq h), Number.normalize_eq_of_eq h ha]

theorem truthy_congr (h : a.eq b = true) : (Value.num a).truthy = (Value.num b).truthy := by
  have h' : b.eq a = true := Number.eq_swap a b ▸ h
  rw [truthy, truthy, Number.isZero, Number.isZero, Number.eq_congr h, Number.isNaN_of_eq h,
    Number.isNaN_of_eq h']

theorem strictEqual_congr (h : a.eq b = true) (w : Value) :
    (Value.num a).strictEqual false w = (Value.num b).strictEqual false w := by
  cases w with
  | num c => exact Number.eq_congr h c
  | _ => rfl

theorem looseEqual_congr (h : a.eq b = true) (w : Value) :
    (Value.num a).looseEqual false w = (Value.num b).looseEqual false w := by
  -- a number beside a scalar is compared with it as a number, of whatever kind it is
  have hscalar (d : Number) (hw : w.scalarKind?.isSome = true) :
      (Value.num d).looseEqual false w = d.eq w.toNumber := by
    cases w with
    | num c => cases d <;> cases c <;> rfl
    | bool | str => cases d <;> rfl
    | _ => cases hw
  cases hw : w.scalarKind? with
  | some k => rw [hscalar a (by rw [hw]; rfl), hscalar b (by rw [hw]; rfl), Number.eq_congr h]
  | none =>
    cases w with
    | num c => cases c <;> cases hw
    | bool | str => cases hw
    | _ => cases a <;> cases b <;> rfl

theorem compare_congr (h : a.eq b = true) (op : Expr.Ordering) (w : Value) :
    (Value.num a).compare op w = (Value.num b).compare op w :=
  Number.ordered_congr h op w.toNumber

end Value

namespace Datum

theorem strictEqual_congr (h : a.eq b = true) (d : Datum) :
    (Datum.num a).strictEqual d = (Datum.num b).strictEqual d := by
  rw [strictEqual, strictEqual]
  cases d.identity? with
  | none => exact Value.strictEqual_congr h d.value
  | some i => rfl

theorem looseEqual_congr (h : a.eq b = true) (d : Datum) :
    (Datum.num a).looseEqual d = (Datum.num b).looseEqual d := by
  rw [looseEqual, looseEqual]
  cases d.identity? with
  | none => exact Value.looseEqual_congr h d.value
  | some i => rfl

/-- The item of a list or a text at a position. -/
def item? (d : Datum) (n : Int) : Option Datum :=
  match d with
  | .list _ xs => if 0 ≤ n then xs[n.toNat]? else none
  | .str s => if 0 ≤ n then (s.toList[n.toNat]?).map fun c => .str ⟨[c]⟩ else none
  | _ => none

end Datum

namespace Expr

variable {seed : Seed} {d : Datum} {n : Int}

/-- An operator that compares gives one answer for numbers that are equal, on either side. -/
theorem binaryResult_congr (h : a.eq b = true) {op : BinaryOp} (hop : ∀ o, op ≠ .arith o)
    (d : Datum) :
    binaryResult op (.num a) d = binaryResult op (.num b) d ∧
      binaryResult op d (.num a) = binaryResult op d (.num b) := by
  have hstrict (c : Number) : d.strictEqual (.num c) = (Datum.num c).strictEqual d :=
    Bool.eq_iff_iff.2 ⟨Datum.strictEqual_symm, Datum.strictEqual_symm⟩
  have hloose (c : Number) : d.looseEqual (.num c) = (Datum.num c).looseEqual d :=
    Bool.eq_iff_iff.2 ⟨Datum.looseEqual_symm, Datum.looseEqual_symm⟩
  cases op with
  | equal | notEqual =>
    simp only [binaryResult, hloose, Datum.looseEqual_congr h, and_self]
  | strictEqual | strictNotEqual =>
    simp only [binaryResult, hstrict, Datum.strictEqual_congr h, and_self]
  | order o =>
    have horder (c : Number) :
        d.value.compare o (.num c) = (Value.num c).compare o.converse d.value :=
      (Value.compare_converse o d.value (.num c)).symm
    simp only [binaryResult, Datum.value, horder, Value.compare_congr h, and_self]
  | arith o => exact absurd rfl (hop o)

theorem position?_int (n : Int) (length : Nat) : position? (.int n) length =
    if 0 ≤ n ∧ n < length then some n.toNat else none := by
  rw [position?, Value.int, Value.toNumber]
  simp only [Bool.and_eq_true, decide_eq_true_eq]

theorem index_list_int (i : Identity) (xs : List Datum) (n : Int) (seed : Seed) :
    index seed (.list i xs) (.int n) = .ok (((Datum.list i xs).item? n).getD .null) := by
  rw [index, position?_int, Datum.item?]
  by_cases hn : 0 ≤ n ∧ n < xs.length
  · rw [if_pos hn, if_pos hn.1, ← List.getD_eq_getElem?_getD]
  · rw [if_neg hn]
    by_cases h0 : 0 ≤ n
    · rw [if_pos h0, List.getElem?_eq_none (by omega)]
      rfl
    · rw [if_neg h0]
      rfl

theorem index_str_int (s : Text) (n : Int) (seed : Seed) :
    index seed (.str s) (.int n) = .ok (((Datum.str s).item? n).getD .null) := by
  rw [index, position?_int, Datum.item?, Text.length]
  by_cases hn : 0 ≤ n ∧ n < s.toList.length
  · have hlt : n.toNat < s.toList.length := by omega
    rw [if_pos hn, if_pos hn.1, List.getElem?_eq_getElem hlt]
    dsimp only
    rw [List.drop_eq_getElem_cons hlt]
    rfl
  · rw [if_neg hn]
    by_cases h0 : 0 ≤ n
    · rw [if_pos h0, List.getElem?_eq_none (by omega)]
      rfl
    · rw [if_neg h0]
      rfl

/-- An integer finds the item at its position, and no double finds it. -/
theorem index_item {x : Datum} (h : d.item? n = some x) (seed : Seed) (y : Float) :
    index seed d (.int n) = .ok x ∧ index seed d (.float y) = .ok .null := by
  cases d with
  | list i xs =>
    rw [index_list_int, h]
    exact ⟨rfl, rfl⟩
  | str s =>
    rw [index_str_int, h]
    exact ⟨rfl, rfl⟩
  | _ => cases h

/-- What holds items is indexed alike by an integer without an item and by a double. -/
theorem index_congr_of_items (h : a.eq b = true)
    (hint : ∀ n, index seed d (.int n) = .ok ((d.item? n).getD .null))
    (hfloat : ∀ y, index seed d (.float y) = .ok .null)
    (hd : ∀ n, (d.item? n).isSome = true → (a = .int n ↔ b = .int n)) :
    index seed d (.num a) = index seed d (.num b) := by
  have hmissing {n : Int} (y : Float) (hn : ¬(d.item? n).isSome = true) :
      index seed d (.int n) = index seed d (.float y) := by
    rw [Option.not_isSome_iff_eq_none] at hn
    rw [hint, hfloat, hn]
    rfl
  cases a with
  | int n =>
    cases b with
    | int m =>
      have hvalue := ((Number.hasValue_int n).eq_iff (Number.hasValue_int m)).1 h
      rw [Int.cast_injective hvalue]
    | float y => exact hmissing y fun hitem => nomatch (hd n hitem).1 rfl
  | float x =>
    cases b with
    | int m => exact (hmissing x fun hitem => nomatch (hd m hitem).2 rfl).symm
    | float y => exact (hfloat x).trans (hfloat y).symm

/-- Equal numbers lead to one member, unless one of them alone is the integer of an item. -/
theorem index_congr (h : a.eq b = true) (ha : a.IsModerate)
    (hd : ∀ n, (d.item? n).isSome = true → (a = .int n ↔ b = .int n)) (seed : Seed) :
    index seed d (.num a) = index seed d (.num b) := by
  have htext := Value.toText_congr h ha
  cases d with
  | null | map | group => simp only [index, htext]
  | list i xs => exact index_congr_of_items h (index_list_int i xs · seed) (fun _ => rfl) hd
  | str s => exact index_congr_of_items h (index_str_int s · seed) (fun _ => rfl) hd
  | _ => rfl

/-- Numbers that are strictly equal are shown, weighed and compared alike. They lead to one member
as well, but for the items of lists and texts, which no double finds. -/
theorem numbers_interchange (h : Holds .strictEqual (.num a) (.num b)) (ha : a.IsModerate)
    (d : Datum) (seed : Seed) :
    (Value.num a).toText = (Value.num b).toText ∧
      (Value.num a).truthy = (Value.num b).truthy ∧
      (∀ op : BinaryOp, (∀ o, op ≠ .arith o) →
        binaryResult op (.num a) d = binaryResult op (.num b) d ∧
          binaryResult op d (.num a) = binaryResult op d (.num b)) ∧
      ((∀ n, (d.item? n).isSome = true → (a = .int n ↔ b = .int n)) →
        index seed d (.num a) = index seed d (.num b)) ∧
      ∀ n x y, d.item? n = some x →
        index seed d (.int n) = .ok x ∧ index seed d (.float y) = .ok .null := by
  have heq : a.eq b = true := holds_strictEqual.1 h
  exact ⟨Value.toText_congr heq ha, Value.truthy_congr heq,
    fun _ hop => binaryResult_congr heq hop d, fun hd => index_congr heq ha hd seed,
    fun _ _ y hx => index_item hx seed y⟩

/-- Two as an integer finds the last of three items; two as a double finds none. -/
theorem numbers_interchange_two :
    Holds .strictEqual (.int 2) (.num (.float 2.0)) ∧
      index ⟨[0]⟩ (.list (.shelf "") [.int 10, .int 20, .int 30]) (.int 2) = .ok (.int 30) ∧
      index ⟨[0]⟩ (.list (.shelf "") [.int 10, .int 20, .int 30]) (.float 2.0) = .ok .null := by
  have heq : Holds .strictEqual (.int 2) (.num (.float 2.0)) :=
    holds_strictEqual.2 (by decide +kernel)
  have hmoderate : (Number.int 2).IsModerate := by
    constructor <;> decide +kernel
  obtain ⟨-, -, -, -, hitem⟩ := numbers_interchange heq hmoderate
    (.list (.shelf "") [.int 10, .int 20, .int 30]) ⟨[0]⟩
  exact ⟨heq, hitem 2 (.int 30) 2.0 rfl⟩

end Expr

end RuleLedger
