import RuleLedger.Expr.Evaluation
import RuleLedger.Proofs.Value.Nested

/-! What expressions see of a value. Operators, conversions and helpers look at the items of lists,
but at a mapping only as a whole, so that values of one surface are the same to them. -/
namespace RuleLedger

namespace Value

mutual

/-- The value with its mappings emptied. -/
def surface : Value → Value
  | .list xs => .list (surfaceItems xs)
  | .map _ => .map []
  | .method r m => .method r.surface m
  | v => v

def surfaceItems : List Value → List Value
  | [] => []
  | x :: xs => x.surface :: surfaceItems xs

end

theorem surface_list (xs : List Value) : (list xs).surface = .list (xs.map surface) := by
  have h : surfaceItems xs = xs.map surface := by
    induction xs with
    | nil => rfl
    | cons x xs ih => rw [surfaceItems, ih, List.map_cons]
  rw [surface, h]

theorem exists_list_of_surface {xs : List Value} {w : Value} (h : (list xs).surface = w.surface) :
    ∃ ys, w = .list ys ∧ xs.map surface = ys.map surface := by
  rw [surface_list] at h
  cases w with
  | list ys =>
    rw [surface_list, list.injEq] at h
    exact ⟨ys, rfl, h⟩
  | _ => simp [surface] at h

variable (v w : Value)

@[simp] theorem kindName_surface : v.surface.kindName = v.kindName := by cases v <;> rfl

@[simp] theorem receiverName_surface : v.surface.receiverName = v.receiverName := by
  cases v <;> rfl

@[simp] theorem methodName_surface (m : Method) : methodName v.surface m = methodName v m := by
  rw [methodName, receiverName_surface, methodName]

@[simp] theorem methodText_surface (m : Method) : methodText v.surface m = methodText v m := by
  rw [methodText, methodName_surface, methodText]

@[simp] theorem isNaN_surface : v.surface.isNaN = v.isNaN := by cases v <;> rfl

@[simp] theorem truthy_surface : v.surface.truthy = v.truthy := by cases v <;> rfl

@[simp] theorem joins_surface : v.surface.joins = v.joins := by cases v <;> rfl

@[simp] theorem toNumber_surface : v.surface.toNumber = v.toNumber := by
  induction v with
  | list xs ih =>
    rw [surface_list]
    cases xs with
    | nil => rfl
    | cons x xs =>
      cases xs with
      | nil => exact ih x List.mem_cons_self
      | cons => rfl
  | _ => rfl

theorem itemTexts_cons (hv : v ≠ .null) (vs : List Value) :
    itemTexts (v :: vs) = do return (← v.toText) :: (← itemTexts vs) := by
  cases v <;> first | rfl | exact absurd rfl hv

theorem itemTexts_surface {xs : List Value} (h : ∀ x ∈ xs, x.surface.toText = x.toText) :
    itemTexts (xs.map surface) = itemTexts xs := by
  induction xs with
  | nil => rfl
  | cons x xs ih =>
    have hx := h x List.mem_cons_self
    have hxs := ih fun y hy => h y (List.mem_cons_of_mem x hy)
    rw [List.map_cons]
    by_cases hnull : x = .null
    · rw [hnull, surface, itemTexts, hxs, itemTexts]
      all_goals simp
    · have hsurface : x.surface ≠ .null := by
        cases x <;> first | exact absurd rfl hnull | simp [surface]
      rw [itemTexts_cons _ hsurface, itemTexts_cons _ hnull, hx, hxs]

@[simp] theorem toText_surface : v.surface.toText = v.toText := by
  induction v with
  | list xs ih => rw [surface_list, toText, itemTexts_surface ih, toText]
  | method r m => rw [surface, toText, methodText_surface, toText]
  | _ => rfl

@[simp] theorem itemTexts_map_surface (xs : List Value) :
    itemTexts (xs.map surface) = itemTexts xs := itemTexts_surface fun x _ => toText_surface x

@[simp] theorem operand_surface : v.surface.operand = v.operand := by
  cases v with
  | null => rfl
  | list xs => exact toNumber_surface (.list xs)
  | _ => rfl

@[simp] theorem compare_surface (op : Expr.Ordering) :
    v.surface.compare op w.surface = v.compare op w := by
  have hv := toNumber_surface v
  have hw := toNumber_surface w
  cases v <;> cases w <;> simp_all [surface, compare]

@[simp] theorem arith_surface (op : Expr.Arithmetic) :
    v.surface.arith op w.surface = v.arith op w := by
  simp only [arith, joins_surface, toText_surface, operand_surface]

@[simp] theorem parseFloat_surface : v.surface.parseFloat = v.parseFloat := by
  rw [parseFloat, toText_surface, parseFloat]

@[simp] theorem parseInt_surface : v.surface.parseInt = v.parseInt := by
  rw [parseInt, toText_surface, parseInt]

end Value

namespace Expr

variable (v : Value)

@[simp] theorem isFiniteNumber_surface : isFiniteNumber v.surface = isFiniteNumber v := by
  cases v <;> rfl

@[simp] theorem isWholeNumber_surface : isWholeNumber v.surface = isWholeNumber v := by
  cases v <;> rfl

theorem callHelper_surface (s : Seed) (h : Helper) (args : List Value) :
    callHelper s h (args.map Value.surface) = callHelper s h args := by
  have hhead (d : Value) (hd : d.surface = d) :
      (args.map Value.surface).headD d = (args.headD d).surface := by
    cases args with
    | nil => exact hd.symm
    | cons => rfl
  have hnumbers : (args.map Value.surface).map Value.toNumber = args.map Value.toNumber := by
    rw [List.map_map]
    exact List.map_congr_left fun v _ => Value.toNumber_surface v
  cases h with
  | math f => rw [callHelper, hnumbers, callHelper]
  | number f =>
    rw [callHelper, List.length_map, hhead _ rfl, callHelper]
    cases f <;> simp only [NumberFunction.apply, Value.isNaN_surface, isFiniteNumber_surface,
      isWholeNumber_surface, Value.parseFloat_surface, Value.parseInt_surface]
  | convert f =>
    rw [callHelper, List.length_map, List.head?_map, callHelper]
    cases args.head? with
    | none => rfl
    | some v =>
      cases f <;> simp only [Conversion.apply, Option.map_some, Option.getD_some,
        Value.toText_surface, Value.truthy_surface, Value.toNumber_surface,
        Value.parseFloat_surface, Value.parseInt_surface]
  | group g => rw [callHelper, List.length_map, hhead _ rfl, Value.toNumber_surface, callHelper]
  | now clock => rw [callHelper, List.length_map, callHelper]
  | uuid => rw [callHelper, List.length_map, callHelper]

@[simp] theorem toFixed_surface (n : Number) : toFixed n v.surface = toFixed n v := by
  rw [toFixed, Value.toNumber_surface, toFixed]

theorem callText_surface (name : String) (s : Text) (m : Method) (arg? : Option Value) :
    callText name s m (arg?.map Value.surface) = callText name s m arg? := by
  cases arg? with
  | none => rfl
  | some v => simp only [callText, Option.map_some, Option.getD_some, Value.toText_surface]

@[simp] theorem signature_surface (m : Method) : m.signature v.surface = m.signature v := by
  cases v <;> rfl

@[simp] theorem unaryResult_surface (op : UnaryOp) :
    unaryResult op v.surface = unaryResult op v := by
  cases op <;> simp only [unaryResult, Value.truthy_surface, Value.operand_surface]

@[simp] theorem goesOn_surface (op : LogicalOp) : op.goesOn v.surface = op.goesOn v := by
  cases op <;> simp only [LogicalOp.goesOn, Value.truthy_surface]

@[simp] theorem position?_surface (n : Nat) : position? v.surface n = position? v n := by
  rw [position?, Value.toNumber_surface, position?]

@[simp] theorem memberByKey_surface (s : Seed) (d : Datum) :
    memberByKey s d v.surface = memberByKey s d v := by
  cases v <;> rfl

@[simp] theorem index_surface (s : Seed) (d : Datum) : index s d v.surface = index s d v := by
  cases d <;> simp only [index, Value.toText_surface, position?_surface, memberByKey_surface]

end Expr
end RuleLedger
