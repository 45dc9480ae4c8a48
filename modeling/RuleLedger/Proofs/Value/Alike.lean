import RuleLedger.Proofs.Pointwise
import RuleLedger.Proofs.Value.Sorted

/-! Equality up to the order of keys. Values are alike exactly when they have one canonical form,
as long as no mapping has a key twice. -/
namespace RuleLedger
namespace Value

mutual

/-- Equal up to the order in which every mapping holds its members. -/
def Alike : Value → Value → Prop
  | .list xs, .list ys => AlikeItems xs ys
  | .map fs, .map gs => ∃ hs, hs.Perm gs ∧ AlikeFields fs hs
  | v, w => v = w

def AlikeItems : List Value → List Value → Prop
  | [], [] => True
  | x :: xs, y :: ys => Alike x y ∧ AlikeItems xs ys
  | _, _ => False

def AlikeFields : List (Text × Value) → List (Text × Value) → Prop
  | [], [] => True
  | (k, v) :: fs, (l, w) :: gs => k = l ∧ Alike v w ∧ AlikeFields fs gs
  | _, _ => False

end

/-- Numbers are alike only if they are the same: an integer is no double, and zero has two signs. -/
theorem alike_num {a b : Number} : (num a).Alike (.num b) ↔ a = b := by
  rw [Alike, num.injEq]
  · simp
  · simp

example : ¬(int 1).Alike (float 1.0) ∧ ¬(float 0.0).Alike (float (-0.0)) := by
  simp only [int, float, alike_num]
  exact ⟨nofun, fun h => absurd (Number.float.inj h) (by decide +kernel)⟩

/-- Members under one key that are alike. -/
def AlikeMember (f g : Text × Value) : Prop := f.1 = g.1 ∧ f.2.Alike g.2

theorem alikeItems_iff {xs ys : List Value} : AlikeItems xs ys ↔ List.Forall₂ Alike xs ys := by
  induction xs generalizing ys with
  | nil => cases ys <;> simp [AlikeItems]
  | cons x xs ih => cases ys <;> simp [AlikeItems, ih]

theorem alikeFields_iff {fs gs : List (Text × Value)} :
    AlikeFields fs gs ↔ List.Forall₂ AlikeMember fs gs := by
  induction fs generalizing gs with
  | nil => cases gs <;> simp [AlikeFields]
  | cons f fs ih => cases gs <;> simp [AlikeFields, AlikeMember, ih, and_assoc]

theorem alike_list {xs ys : List Value} :
    (list xs).Alike (.list ys) ↔ List.Forall₂ Alike xs ys := alikeItems_iff

theorem alike_map {fs gs : List (Text × Value)} :
    (map fs).Alike (.map gs) ↔ ∃ hs, List.Forall₂ AlikeMember fs hs ∧ hs.Perm gs := by
  rw [Alike]
  exact exists_congr fun hs => by rw [alikeFields_iff, and_comm]

theorem Alike.refl (v : Value) : v.Alike v := by
  induction v with
  | list xs ih => exact alike_list.2 (List.forall₂_same.2 ih)
  | map fs ih =>
    exact alike_map.2 ⟨fs, List.forall₂_same.2 fun f hf => ⟨rfl, ih f hf⟩, .refl fs⟩
  | _ => rfl

/-- The order of keys makes no difference. -/
theorem alike_of_perm {fs gs : Fields Value} (h : fs.Perm gs) : (map fs).Alike (map gs) :=
  alike_map.2 ⟨fs, List.forall₂_same.2 fun f _ => ⟨rfl, .refl f.2⟩, h⟩

theorem alike_set {v w : Value} (h : v.Alike w) (xs : List Value) (i : Nat) :
    (list (xs.set i v)).Alike (list (xs.set i w)) :=
  alike_list.2 (forall₂_set (List.forall₂_same.2 fun x _ => .refl x) i h)

theorem alike_put {v w : Value} (h : v.Alike w) (fs : Fields Value) (k : Text) :
    (map (fs.put k v)).Alike (map (fs.put k w)) := by
  refine alike_map.2 ⟨fs.put k w, ?_, .refl _⟩
  induction fs with
  | nil => exact .cons ⟨rfl, h⟩ .nil
  | cons f fs ih =>
    rw [Fields.put, Fields.put]
    split_ifs
    · exact .cons ⟨rfl, h⟩ (List.forall₂_same.2 fun g _ => ⟨rfl, .refl g.2⟩)
    · exact .cons ⟨rfl, .refl f.2⟩ ih

/-- Values of one canonical form are alike. -/
theorem alike_of_canonical_eq {v w : Value} (h : v.canonical = w.canonical) : v.Alike w := by
  induction v generalizing w with
  | list xs ih =>
    cases w with
    | list ys =>
      rw [canonical_list, canonical_list, list.injEq, map_eq_map_iff] at h
      exact alike_list.2 (forall₂_of_mem (fun x hx _ _ => ih x hx) h)
    | _ => simp [canonical] at h
  | map fs ih =>
    cases w with
    | map gs =>
      rw [canonical_map, canonical_map, map.injEq] at h
      have hp : (Fields.mapValues canonical fs).Perm (Fields.mapValues canonical gs) := by
        have hs := sortFields_perm (Fields.mapValues canonical fs)
        exact (h ▸ hs.symm).trans (sortFields_perm _)
      -- the fields on the right in the order of those on the left
      have hc : Relation.Comp (· = List.map (fun f => (f.1, canonical f.2)) ·) List.Perm
          (Fields.mapValues canonical fs) gs := by
        rw [List.eq_map_comp_perm]
        exact hp
      obtain ⟨hs, he, hp⟩ := hc
      refine alike_map.2 ⟨hs, forall₂_of_mem (fun f hf g _ hfg => ?_) (map_eq_map_iff.1 he), hp⟩
      rw [Prod.mk.injEq] at hfg
      exact ⟨hfg.1, ih f hf hfg.2⟩
    | _ => simp [canonical] at h
  | _ => cases w <;> simp_all [canonical, Alike]

/-- Whether a value itself, if it is a mapping, has no key twice. -/
def hasDistinctKeys : Value → Bool
  | .map fs => decide (Fields.keys fs).Nodup
  | _ => true

theorem keys_eq_of_alike {fs gs : List (Text × Value)} (h : List.Forall₂ AlikeMember fs gs) :
    Fields.keys fs = Fields.keys gs :=
  map_eq_map_iff.2 (h.imp fun _ _ hfg => hfg.1)

/-- Values that are alike have one canonical form, if none of their mappings has a key twice. -/
theorem canonical_eq_of_alike {v w : Value} (hv : v.all hasDistinctKeys = true) (h : v.Alike w) :
    v.canonical = w.canonical := by
  induction v generalizing w with
  | list xs ih =>
    cases w with
    | list ys =>
      rw [all_list] at hv
      rw [canonical_list, canonical_list, list.injEq, map_eq_map_iff]
      exact forall₂_of_mem (fun x hx _ _ => ih x hx (hv.2 x hx)) (alike_list.1 h)
    | _ => simp [Alike] at h
  | map fs ih =>
    cases w with
    | map gs =>
      rw [all_map, hasDistinctKeys, decide_eq_true_eq] at hv
      obtain ⟨hs, hf, hp⟩ := alike_map.1 h
      have he : Fields.mapValues canonical fs = Fields.mapValues canonical hs :=
        map_eq_map_iff.2 (forall₂_of_mem (fun f hm _ _ hfg =>
          Prod.ext hfg.1 (ih f hm (hv.2 f hm) hfg.2)) hf)
      have hk : (Fields.keys (Fields.mapValues canonical hs)).Nodup := by
        rw [keys_mapValues, ← keys_eq_of_alike hf]
        exact hv.1
      rw [canonical_map, canonical_map, he, sortFields_eq_of_perm hk (hp.map _)]
      rfl
    | _ => simp [Alike] at h
  | _ => cases w <;> simp_all [canonical, Alike]

theorem isData_of_alike {v w : Value} (h : v.Alike w) (hv : v.isData = true) :
    w.isData = true := by
  induction v generalizing w with
  | list xs ih =>
    cases w with
    | list ys =>
      rw [isData_list] at hv ⊢
      intro y hy
      obtain ⟨x, hx, hxy⟩ := exists_of_mem_right (alike_list.1 h) hy
      exact ih x hx hxy (hv x hx)
    | _ => simp [Alike] at h
  | map fs ih =>
    cases w with
    | map gs =>
      rw [isData_map] at hv ⊢
      obtain ⟨hs, hf, hp⟩ := alike_map.1 h
      intro g hg
      obtain ⟨f, hm, hfg⟩ := exists_of_mem_right hf (hp.mem_iff.2 hg)
      exact ih f hm hfg.2 (hv f hm)
    | _ => simp [Alike] at h
  | _ => cases w <;> simp_all [isData, Alike]

end Value
end RuleLedger
