import RuleLedger.Proofs.Value.Nested
import RuleLedger.Record.Basic

/-! Data as trees. Induction reaches what lists, mappings and groups hold, and the functions that
pass through a datum member by member are maps over its members. -/
namespace RuleLedger

/-- Paths from one place, which are written backwards, are the same only if they start the same
way. -/
theorem path_inj {α : Type} {p q base : List α} {i j : α} :
    p ++ i :: base = q ++ j :: base ↔ p = q ∧ i = j := by
  rw [List.append_cons, List.append_cons q, List.append_cancel_right_eq]
  constructor
  · intro h
    obtain ⟨hp, hi⟩ := List.append_inj' h rfl
    exact ⟨hp, List.singleton_inj.1 hi⟩
  · rintro ⟨rfl, rfl⟩
    rfl

/-- Induction over a datum with the members of its lists, mappings and groups and the receivers of
its methods. -/
@[elab_as_elim, induction_eliminator]
theorem Datum.nested {motive : Datum → Prop} (null : motive .null) (bool : ∀ b, motive (.bool b))
    (num : ∀ n, motive (.num n)) (str : ∀ s, motive (.str s))
    (list : ∀ i xs, (∀ x ∈ xs, motive x) → motive (.list i xs))
    (map : ∀ i fs, (∀ f ∈ fs, motive f.2) → motive (.map i fs))
    (group : ∀ i g fs, (∀ f ∈ fs, motive f.2) → motive (.group i g fs))
    (helper : ∀ i h, motive (.helper i h))
    (method : ∀ i r m, motive r → motive (.method i r m)) (d : Datum) : motive d :=
  @Datum.rec motive (fun xs => ∀ x ∈ xs, motive x) (fun fs => ∀ f ∈ fs, motive f.2)
    (fun f => motive f.2)
    null bool num str list map group helper (fun i r m h => method i r m h)
    (fun _ h => nomatch h)
    (fun _ _ hx hxs => List.forall_mem_cons.2 ⟨hx, hxs⟩)
    (fun _ h => nomatch h)
    (fun _ _ hf hfs => List.forall_mem_cons.2 ⟨hf, hfs⟩)
    (fun _ _ h => h) d

namespace Datum

theorem itemValues_eq (xs : List Datum) : itemValues xs = xs.map value := by
  induction xs with
  | nil => rfl
  | cons x xs ih => rw [itemValues, ih, List.map_cons]

theorem fieldValues_eq (fs : List (Text × Datum)) :
    fieldValues fs = Fields.mapValues value fs := by
  induction fs with
  | nil => rfl
  | cons f fs ih => rw [fieldValues, ih, mapValues_cons]

@[simp] theorem value_list (i : Identity) (xs : List Datum) :
    (list i xs).value = .list (xs.map value) := by rw [value, itemValues_eq]

@[simp] theorem value_map (i : Identity) (fs : List (Text × Datum)) :
    (map i fs).value = .map (Fields.mapValues value fs) := by rw [value, fieldValues_eq]

@[simp] theorem copy_list (s : Seed) (i : Identity) (xs : List Datum) :
    (list i xs).copy s = .list (.copy s i) (xs.map (copy s)) := by
  have h : copyItems s xs = xs.map (copy s) := by
    induction xs with
    | nil => rfl
    | cons x xs ih => rw [copyItems, ih, List.map_cons]
  rw [copy, h]

theorem copyFields_eq (s : Seed) (fs : List (Text × Datum)) :
    copyFields s fs = Fields.mapValues (copy s) fs := by
  induction fs with
  | nil => rfl
  | cons f fs ih => rw [copyFields, ih, mapValues_cons]

@[simp] theorem copy_map (s : Seed) (i : Identity) (fs : List (Text × Datum)) :
    (map i fs).copy s = .map (.copy s i) (Fields.mapValues (copy s) fs) := by
  rw [copy, copyFields_eq]

@[simp] theorem copy_group (s : Seed) (i : Identity) (g : Group) (fs : List (Text × Datum)) :
    (group i g fs).copy s = .group (.copy s i) g (Fields.mapValues (copy s) fs) := by
  rw [copy, copyFields_eq]

theorem keys_ofFields (s : Seed) (p : Place) (fs : List (Text × Value)) :
    Fields.keys (ofFields s p fs) = Fields.keys fs := by
  induction fs with
  | nil => rfl
  | cons f fs ih => exact congrArg (f.1 :: ·) ih

theorem get?_ofFields (s : Seed) (p : Place) (fs : List (Text × Value)) (k : Text) :
    Fields.get? (ofFields s p fs) k = (Fields.get? fs k).map (ofValue s (.key k :: p)) := by
  induction fs with
  | nil => rfl
  | cons f fs ih =>
    obtain ⟨a, v⟩ := f
    rw [ofFields, Fields.get?_cons, Fields.get?_cons, ih]
    split_ifs with hk
    · rw [hk, Option.map_some]
    · rfl

theorem forall_mem_ofItems {p : Datum → Prop} {s : Seed} {vs : List Value}
    (h : ∀ v ∈ vs, ∀ q, p (ofValue s q v)) (q : Place) (n : Nat) :
    ∀ d ∈ ofItems s q n vs, p d := by
  induction vs generalizing n with
  | nil => exact List.forall_mem_nil _
  | cons v vs ih =>
    obtain ⟨hv, hvs⟩ := List.forall_mem_cons.1 h
    exact List.forall_mem_cons.2 ⟨hv _, ih hvs _⟩

theorem forall_mem_ofFields {p : Datum → Prop} {s : Seed} {vs : List (Text × Value)}
    (h : ∀ f ∈ vs, ∀ q, p (ofValue s q f.2)) (q : Place) : ∀ f ∈ ofFields s q vs, p f.2 := by
  induction vs with
  | nil => exact List.forall_mem_nil _
  | cons f vs ih =>
    obtain ⟨hf, hvs⟩ := List.forall_mem_cons.1 h
    exact List.forall_mem_cons.2 ⟨hf _, ih hvs⟩

mutual

/-- What is made of a value has that value. -/
@[simp] theorem value_ofValue (s : Seed) (p : Place) : ∀ v : Value, (ofValue s p v).value = v
  | .null | .bool _ | .num _ | .str _ => rfl
  | .list xs => by rw [ofValue, value, itemValues_ofItems s p 0 xs]
  | .map fs => by rw [ofValue, value, fieldValues_ofFields s p fs]
  | .helper h => by cases h <;> rfl
  | .method r m => by rw [ofValue, value, value_ofValue s _ r]

theorem itemValues_ofItems (s : Seed) (p : Place) (i : Nat) :
    ∀ xs : List Value, itemValues (ofItems s p i xs) = xs
  | [] => rfl
  | x :: xs => by rw [ofItems, itemValues, value_ofValue s _ x, itemValues_ofItems s p (i + 1) xs]

theorem fieldValues_ofFields (s : Seed) (p : Place) :
    ∀ fs : List (Text × Value), fieldValues (ofFields s p fs) = fs
  | [] => rfl
  | (k, v) :: fs => by
    rw [ofFields, fieldValues, value_ofValue s _ v, fieldValues_ofFields s p fs]

end

theorem applyItems_eq (c : Change) (xs : List Datum) : applyItems c xs = xs.map (apply c) := by
  induction xs with
  | nil => rfl
  | cons x xs ih => rw [applyItems, ih, List.map_cons]

theorem applyFields_eq (c : Change) (fs : List (Text × Datum)) :
    applyFields c fs = Fields.mapValues (apply c) fs := by
  induction fs with
  | nil => rfl
  | cons f fs ih => rw [applyFields, ih, mapValues_cons]

theorem anchorItems_eq (xs : List Datum) : anchorItems xs = xs.map anchor := by
  induction xs with
  | nil => rfl
  | cons x xs ih => rw [anchorItems, ih, List.map_cons]

theorem anchorFields_eq (fs : List (Text × Datum)) :
    anchorFields fs = Fields.mapValues anchor fs := by
  induction fs with
  | nil => rfl
  | cons f fs ih => rw [anchorFields, ih, mapValues_cons]

theorem itemReceivers_eq (xs : List Datum) : itemReceivers xs = xs.flatMap receivers := by
  induction xs with
  | nil => rfl
  | cons x xs ih => rw [itemReceivers, ih, List.flatMap_cons]

theorem fieldReceivers_eq (fs : List (Text × Datum)) :
    fieldReceivers fs = fs.flatMap fun f => receivers f.2 := by
  induction fs with
  | nil => rfl
  | cons f fs ih => rw [fieldReceivers, ih, List.flatMap_cons]

end Datum
end RuleLedger
