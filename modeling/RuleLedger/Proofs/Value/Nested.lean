import Mathlib.Data.List.Forall2
import RuleLedger.Canonical

/-! Values as trees. Induction reaches what lists and mappings hold, and the functions that pass
through a value member by member are maps over its members. -/
namespace RuleLedger

/-- Induction over a value with the members of its lists and mappings. -/
@[elab_as_elim, induction_eliminator]
theorem Value.nested {motive : Value → Prop} (null : motive .null) (bool : ∀ b, motive (.bool b))
    (num : ∀ n, motive (.num n)) (str : ∀ s, motive (.str s))
    (list : ∀ xs, (∀ x ∈ xs, motive x) → motive (.list xs))
    (map : ∀ fs, (∀ f ∈ fs, motive f.2) → motive (.map fs))
    (helper : ∀ h, motive (.helper h)) (method : ∀ r m, motive (.method r m)) (v : Value) :
    motive v :=
  @Value.rec motive (fun xs => ∀ x ∈ xs, motive x) (fun fs => ∀ f ∈ fs, motive f.2)
    (fun f => motive f.2)
    null bool num str list map helper (fun r m _ => method r m)
    (fun _ h => nomatch h)
    (fun _ _ hx hxs => List.forall_mem_cons.2 ⟨hx, hxs⟩)
    (fun _ h => nomatch h)
    (fun _ _ hf hfs => List.forall_mem_cons.2 ⟨hf, hfs⟩)
    (fun _ _ h => h) v

/-! ### Canonical form -/

theorem canonicalItems_eq (xs : List Value) : canonicalItems xs = xs.map Value.canonical := by
  induction xs with
  | nil => rfl
  | cons x xs ih => rw [canonicalItems, ih, List.map_cons]

theorem mapValues_cons {α β : Type} (g : α → β) (k : Text) (v : α) (fs : Fields α) :
    Fields.mapValues g ((k, v) :: fs) = (k, g v) :: Fields.mapValues g fs := rfl

theorem canonicalFields_eq (fs : List (Text × Value)) :
    canonicalFields fs = Fields.mapValues Value.canonical fs := by
  induction fs with
  | nil => rfl
  | cons f fs ih => rw [canonicalFields, ih, mapValues_cons]

theorem keys_mapValues {α β : Type} (g : α → β) (fs : Fields α) :
    (Fields.mapValues g fs).keys = fs.keys := by
  simp [Fields.keys, Fields.mapValues]

namespace Value

@[simp] theorem canonical_list (xs : List Value) :
    (list xs).canonical = .list (xs.map canonical) := by rw [canonical, canonicalItems_eq]

theorem canonical_map (fs : List (Text × Value)) :
    (map fs).canonical = .map (sortFields (Fields.mapValues canonical fs)) := by
  rw [canonical, canonicalFields_eq]

/-! ### Tests of every member -/

mutual

/-- Whether a test holds of a value and of all that its lists and mappings hold. -/
def all (p : Value → Bool) : Value → Bool
  | .list xs => p (.list xs) && allItems p xs
  | .map fs => p (.map fs) && allFields p fs
  | v => p v

def allItems (p : Value → Bool) : List Value → Bool
  | [] => true
  | v :: vs => all p v && allItems p vs

def allFields (p : Value → Bool) : List (Text × Value) → Bool
  | [] => true
  | (_, v) :: fs => all p v && allFields p fs

end

theorem all_list (p : Value → Bool) (xs : List Value) :
    (list xs).all p = true ↔ p (.list xs) = true ∧ ∀ x ∈ xs, x.all p = true := by
  have h : allItems p xs = xs.all (all p) := by
    induction xs with
    | nil => rfl
    | cons x xs ih => rw [allItems, ih, List.all_cons]
  rw [all, h, Bool.and_eq_true, List.all_eq_true]

theorem all_map (p : Value → Bool) (fs : List (Text × Value)) :
    (map fs).all p = true ↔ p (.map fs) = true ∧ ∀ f ∈ fs, f.2.all p = true := by
  have h : allFields p fs = fs.all fun f => f.2.all p := by
    induction fs with
    | nil => rfl
    | cons f fs ih => rw [allFields, ih, List.all_cons]
  rw [all, h, Bool.and_eq_true, List.all_eq_true]

theorem all_mono {v : Value} {p q : Value → Bool} (h : ∀ v, p v = true → q v = true)
    (hv : v.all p = true) : v.all q = true := by
  induction v with
  | list xs ih =>
    rw [all_list] at hv ⊢
    exact ⟨h _ hv.1, fun x hx => ih x hx (hv.2 x hx)⟩
  | map fs ih =>
    rw [all_map] at hv ⊢
    exact ⟨h _ hv.1, fun f hf => ih f hf (hv.2 f hf)⟩
  | _ => exact h _ hv

/-- Whether a value is a callable itself. -/
def isCallable : Value → Bool
  | .helper _ | .method _ _ => true
  | _ => false

theorem isData_list (xs : List Value) :
    (list xs).isData = true ↔ ∀ x ∈ xs, x.isData = true := by
  have h : isDataItems xs = xs.all isData := by
    induction xs with
    | nil => rfl
    | cons x xs ih => rw [isDataItems, ih, List.all_cons]
  rw [isData, h, List.all_eq_true]

theorem isData_map (fs : List (Text × Value)) :
    (map fs).isData = true ↔ ∀ f ∈ fs, f.2.isData = true := by
  have h : isDataFields fs = fs.all fun f => f.2.isData := by
    induction fs with
    | nil => rfl
    | cons f fs ih => rw [isDataFields, ih, List.all_cons]
  rw [isData, h, List.all_eq_true]

/-- Data are the values without a callable inside. -/
theorem isData_iff_all (v : Value) :
    v.isData = true ↔ v.all (fun w => !w.isCallable) = true := by
  induction v with
  | list xs ih =>
    rw [isData_list, all_list]
    exact ⟨fun h => ⟨rfl, fun x hx => (ih x hx).1 (h x hx)⟩, fun h x hx => (ih x hx).2 (h.2 x hx)⟩
  | map fs ih =>
    rw [isData_map, all_map]
    exact ⟨fun h => ⟨rfl, fun f hf => (ih f hf).1 (h f hf)⟩, fun h f hf => (ih f hf).2 (h.2 f hf)⟩
  | _ => rfl

end Value
end RuleLedger
