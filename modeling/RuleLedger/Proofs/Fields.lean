import Mathlib.Data.List.Nodup
import Mathlib.Data.List.Perm.Basic
import RuleLedger.Proofs.Value.Nested

/-! Mappings with distinct keys, and what writes leave of them. -/
namespace RuleLedger.Fields

variable {α β : Type} {fs gs : Fields α} {k l : Text} {v : α}

theorem has_iff : fs.has k = true ↔ k ∈ fs.keys := by
  simp [has, keys]

theorem nodup_put (h : fs.keys.Nodup) (k : Text) (v : α) : (fs.put k v).keys.Nodup := by
  rw [keys_put]
  split_ifs with hk
  · exact h
  · rw [has_iff] at hk
    exact List.nodup_append.2 ⟨h, List.nodup_singleton k, fun a ha b hb => by
      obtain rfl := List.mem_singleton.1 hb
      exact fun he => hk (he ▸ ha)⟩

theorem putAll_cons (fs : Fields α) (k : Text) (v : α) (gs : Fields α) :
    fs.putAll ((k, v) :: gs) = (fs.put k v).putAll gs := rfl

theorem put_ne_nil (fs : Fields α) (k : Text) (v : α) : fs.put k v ≠ [] := by
  intro h
  have hget := get?_put_self fs k v
  rw [h] at hget
  cases hget

theorem putAll_ne_nil (h : fs ≠ []) (gs : Fields α) : fs.putAll gs ≠ [] := by
  induction gs generalizing fs with
  | nil => exact h
  | cons g gs ih => exact ih (put_ne_nil fs g.1 g.2)

theorem put_of_not_mem (h : k ∉ fs.keys) (v : α) : fs.put k v = fs ++ [(k, v)] := by
  induction fs with
  | nil => rfl
  | cons f fs ih =>
    obtain ⟨a, w⟩ := f
    obtain ⟨ha, hfs⟩ := not_or.1 fun hm => h (List.mem_cons.2 hm)
    rw [put, if_neg (Ne.symm ha), ih hfs, List.cons_append]

/-- Keys that are new go to the end in their order. -/
theorem putAll_of_nodup (h : (keys (fs ++ gs)).Nodup) : fs.putAll gs = fs ++ gs := by
  induction gs generalizing fs with
  | nil => exact (List.append_nil fs).symm
  | cons g gs ih =>
    obtain ⟨a, w⟩ := g
    have ha : a ∉ fs.keys := fun hm => by
      rw [keys, List.map_append, List.nodup_append] at h
      exact h.2.2 a hm a List.mem_cons_self rfl
    have happend : fs ++ [(a, w)] ++ gs = fs ++ (a, w) :: gs := by simp
    rw [putAll_cons, put_of_not_mem ha, ih (happend ▸ h), happend]

theorem ofPairs_eq_self (h : fs.keys.Nodup) : ofPairs fs = fs :=
  putAll_of_nodup h

theorem nodup_putAll (h : fs.keys.Nodup) (gs : Fields α) : (fs.putAll gs).keys.Nodup := by
  induction gs generalizing fs with
  | nil => exact h
  | cons g gs ih => exact ih (nodup_put h g.1 g.2)

theorem mem_of_get? (h : fs.get? k = some v) : (k, v) ∈ fs := by
  induction fs with
  | nil => cases h
  | cons f fs ih =>
    obtain ⟨a, w⟩ := f
    rw [get?_cons] at h
    split_ifs at h with hk
    · subst hk
      obtain rfl := Option.some.inj h
      exact List.mem_cons_self
    · exact List.mem_cons_of_mem _ (ih h)

theorem mem_keys_iff : k ∈ fs.keys ↔ ∃ v, fs.get? k = some v := by
  constructor
  · intro h
    induction fs with
    | nil => cases h
    | cons f fs ih =>
      by_cases hk : k = f.1
      · exact ⟨f.2, (get?_cons f.1 f.2 fs k).trans (if_pos hk)⟩
      · obtain ⟨v, hv⟩ := ih ((List.mem_cons.1 h).resolve_left hk)
        exact ⟨v, (get?_cons f.1 f.2 fs k).trans ((if_neg hk).trans hv)⟩
  · rintro ⟨v, hv⟩
    exact List.mem_map.2 ⟨(k, v), mem_of_get? hv, rfl⟩

theorem get?_eq_none (h : k ∉ fs.keys) : fs.get? k = none :=
  Option.eq_none_iff_forall_ne_some.2 fun v hv => h (mem_keys_iff.2 ⟨v, hv⟩)

theorem mem_put {f : Text × α} (h : f ∈ fs.put k v) : f = (k, v) ∨ f ∈ fs := by
  induction fs with
  | nil => exact .inl (List.mem_singleton.1 h)
  | cons g fs ih =>
    obtain ⟨a, w⟩ := g
    rw [put] at h
    split_ifs at h
    · exact (List.mem_cons.1 h).imp_right (List.mem_cons_of_mem _)
    · rcases List.mem_cons.1 h with rfl | h
      · exact .inr List.mem_cons_self
      · exact (ih h).imp_right (List.mem_cons_of_mem _)

theorem get?_filter (p : Text → Bool) (fs : Fields α) (k : Text) :
    get? (fs.filter fun f => p f.1) k = if p k then get? fs k else none := by
  induction fs with
  | nil => rw [List.filter_nil, get?_nil, ite_self]
  | cons f fs ih =>
    obtain ⟨a, w⟩ := f
    rw [List.filter_cons, get?_cons]
    by_cases ha : p a = true
    · rw [if_pos ha, get?_cons, ih]
      by_cases hk : k = a
      · rw [if_pos hk, if_pos hk, hk, if_pos ha]
      · rw [if_neg hk, if_neg hk]
    · rw [if_neg ha, ih]
      by_cases hk : k = a
      · rw [hk, if_neg ha, if_neg ha]
      · rw [if_neg hk]

theorem nodup_filter (h : fs.keys.Nodup) (p : Text × α → Bool) : (keys (fs.filter p)).Nodup :=
  h.sublist (List.filter_sublist.map Prod.fst)

theorem get?_mapValues (g : α → β) (fs : Fields α) (k : Text) :
    (mapValues g fs).get? k = (fs.get? k).map g := by
  induction fs with
  | nil => rfl
  | cons f fs ih =>
    obtain ⟨a, w⟩ := f
    rw [mapValues_cons, get?_cons, get?_cons]
    split_ifs
    · rfl
    · exact ih

theorem mapValues_put (g : α → β) (fs : Fields α) (k : Text) (v : α) :
    mapValues g (fs.put k v) = (mapValues g fs).put k (g v) := by
  induction fs with
  | nil => rfl
  | cons f fs ih =>
    obtain ⟨a, w⟩ := f
    rw [mapValues_cons, put, put]
    split_ifs
    · rfl
    · rw [mapValues_cons, ih]

/-- A second write under a key wins. -/
@[simp] theorem put_put (fs : Fields α) (k : Text) (v w : α) : (fs.put k v).put k w = fs.put k w := by
  induction fs with
  | nil => exact if_pos rfl
  | cons f fs ih =>
    obtain ⟨a, u⟩ := f
    rw [put, put]
    split_ifs with ha
    · exact if_pos rfl
    · rw [put, if_neg ha, ih]

/-- What is under a key may be written there again. -/
theorem put_of_get? (h : fs.get? k = some v) : fs.put k v = fs := by
  induction fs with
  | nil => cases h
  | cons f fs ih =>
    obtain ⟨a, u⟩ := f
    rw [get?_cons] at h
    rw [put]
    split_ifs at h ⊢ with hk hk' hk'
    · rw [hk, Option.some.inj h]
    · exact absurd hk.symm hk'
    · exact absurd hk'.symm hk
    · rw [ih h]

/-- Writes under two keys in either order: only the places of new keys differ. -/
theorem put_comm_perm (h : k ≠ l) (fs : Fields α) (v w : α) :
    ((fs.put k v).put l w).Perm ((fs.put l w).put k v) := by
  induction fs with
  | nil =>
    simp only [put, if_neg h, if_neg h.symm]
    exact List.Perm.swap _ _ _
  | cons f fs ih =>
    obtain ⟨a, u⟩ := f
    by_cases hk : a = k
    · subst hk
      rw [put, if_pos rfl, put, if_neg h, put, if_neg h, put, if_pos rfl]
    · by_cases hl : a = l
      · subst hl
        rw [put, if_neg hk, put, if_pos rfl, put, if_pos rfl, put, if_neg hk]
      · rw [put, if_neg hk, put, if_neg hl, put, if_neg hl, put, if_neg hk]
        exact ih.cons _

/-- The last value that is written under a key stays. -/
theorem get?_putAll (fs gs : Fields α) (h : gs.keys.Nodup) (k : Text) :
    (fs.putAll gs).get? k = (gs.get? k).or (fs.get? k) := by
  induction gs generalizing fs with
  | nil => rfl
  | cons g gs ih =>
    obtain ⟨a, w⟩ := g
    obtain ⟨ha, hgs⟩ := List.nodup_cons.1 h
    rw [putAll_cons, ih _ hgs, get?_put, get?_cons]
    by_cases hk : k = a
    · have hnone : get? gs k = none := by
        cases hg : get? gs k with
        | none => rfl
        | some w' => exact absurd (List.mem_map_of_mem (mem_of_get? hg)) (hk ▸ ha)
      rw [if_pos hk, if_pos hk, hnone]
      rfl
    · rw [if_neg hk, if_neg hk]

/-! ### Lookups decide -/

theorem get?_eq_some_iff (h : fs.keys.Nodup) : fs.get? k = some v ↔ (k, v) ∈ fs := by
  refine ⟨mem_of_get?, fun hm => ?_⟩
  obtain ⟨w, hw⟩ := mem_keys_iff.1 (List.mem_map_of_mem (f := Prod.fst) hm)
  have he := List.inj_on_of_nodup_map h hm (mem_of_get? hw) rfl
  rw [hw, (Prod.mk.inj he).2]

theorem get?_eq_of_perm (h : fs.keys.Nodup) (hp : fs.Perm gs) (k : Text) :
    fs.get? k = gs.get? k := by
  have hg : gs.keys.Nodup := (hp.map Prod.fst).nodup_iff.1 h
  refine Option.ext fun v => ?_
  rw [get?_eq_some_iff h, get?_eq_some_iff hg, hp.mem_iff]

theorem perm_of_get? (hf : fs.keys.Nodup) (hg : gs.keys.Nodup)
    (h : ∀ k, fs.get? k = gs.get? k) : fs.Perm gs := by
  refine (List.perm_ext_iff_of_nodup (hf.of_map _) (hg.of_map _)).2 fun f => ?_
  obtain ⟨k, v⟩ := f
  rw [← get?_eq_some_iff hf, ← get?_eq_some_iff hg, h]

end RuleLedger.Fields
