import Mathlib.Data.List.Nodup
import Mathlib.Data.List.Perm.Basic
import RuleLedger.Proofs.Value.Nested

/-! Sorted mappings. Texts are linearly ordered, so that fields with distinct keys have one sorted
order, and sorting again changes nothing. -/
namespace RuleLedger
namespace Text

theorem le_iff {s t : Text} :
    le s t = true ↔ ¬t.toList.map Symbol.code < s.toList.map Symbol.code := by
  rw [le, lt, Bool.not_eq_true', decide_eq_false_iff_not]

theorem le_trans {s t u : Text} (h : le s t = true) (h' : le t u = true) : le s u = true := by
  rw [le_iff] at h h' ⊢
  exact List.le_trans h h'

theorem le_total (s t : Text) : le s t = true ∨ le t s = true := by
  rw [le_iff, le_iff]
  exact List.le_total _ _

theorem le_antisymm {s t : Text} (h : le s t = true) (h' : le t s = true) : s = t := by
  rw [le_iff] at h h'
  have hc : Function.Injective Symbol.code := fun _ _ h => Symbol.code_injective h
  have he := List.map_injective_iff.2 hc (List.le_antisymm h h')
  cases s
  cases t
  exact congrArg Text.ofList he

end Text

variable {fs gs : List (Text × Value)}

/-- Fields whose keys come in ascending order. -/
abbrev Ascending (fs : List (Text × Value)) : Prop :=
  fs.Pairwise fun f g => Text.le f.1 g.1 = true

theorem insertField_perm (f : Text × Value) (fs : List (Text × Value)) :
    (insertField f fs).Perm (f :: fs) := by
  induction fs with
  | nil => exact .refl _
  | cons g fs ih =>
    rw [insertField]
    split_ifs
    · exact .refl _
    · exact (ih.cons g).trans (.swap f g fs)

theorem sortFields_perm (fs : List (Text × Value)) : (sortFields fs).Perm fs := by
  induction fs with
  | nil => exact .refl _
  | cons f fs ih => exact (insertField_perm f _).trans (ih.cons f)

theorem ascending_insertField (f : Text × Value) (h : Ascending fs) :
    Ascending (insertField f fs) := by
  induction fs with
  | nil => exact List.pairwise_singleton _ f
  | cons g fs ih =>
    obtain ⟨hg, hfs⟩ := List.pairwise_cons.1 h
    rw [insertField]
    split_ifs with hle
    · refine List.pairwise_cons.2 ⟨List.forall_mem_cons.2 ⟨hle, fun a ha => ?_⟩, h⟩
      exact Text.le_trans hle (hg a ha)
    · refine List.pairwise_cons.2 ⟨fun a ha => ?_, ih hfs⟩
      rcases List.mem_cons.1 ((insertField_perm f fs).mem_iff.1 ha) with rfl | ha
      · exact (Text.le_total _ _).resolve_left hle
      · exact hg a ha

theorem ascending_sortFields (fs : List (Text × Value)) : Ascending (sortFields fs) := by
  induction fs with
  | nil => exact .nil
  | cons f fs ih => exact ascending_insertField f ih

/-- Fields in ascending order stay as they are. -/
theorem sortFields_eq_self (h : Ascending fs) : sortFields fs = fs := by
  induction fs with
  | nil => rfl
  | cons f fs ih =>
    obtain ⟨hf, hfs⟩ := List.pairwise_cons.1 h
    rw [sortFields, ih hfs]
    cases fs with
    | nil => rfl
    | cons g fs => rw [insertField, if_pos (hf g List.mem_cons_self)]

/-- Two fields under one key of distinct keys are one field. -/
theorem eq_of_key_eq (h : (Fields.keys fs).Nodup) {f g : Text × Value} (hf : f ∈ fs) (hg : g ∈ fs)
    (hk : f.1 = g.1) : f = g :=
  List.inj_on_of_nodup_map h hf hg hk

/-- Fields with distinct keys have one sorted order. -/
theorem sortFields_eq_of_perm (h : (Fields.keys fs).Nodup) (hp : fs.Perm gs) :
    sortFields fs = sortFields gs := by
  have hs := sortFields_perm fs
  have hs' := sortFields_perm gs
  refine List.Perm.eq_of_pairwise (fun f g hf hg hle hle' => ?_) (ascending_sortFields fs)
    (ascending_sortFields gs) ((hs.trans hp).trans hs'.symm)
  have hf := hs.mem_iff.1 hf
  have hg := hp.mem_iff.2 (hs'.mem_iff.1 hg)
  exact eq_of_key_eq h hf hg (Text.le_antisymm hle hle')

theorem keys_sortFields_perm (fs : List (Text × Value)) :
    (Fields.keys (sortFields fs)).Perm (Fields.keys fs) :=
  (sortFields_perm fs).map Prod.fst

theorem insertField_mapValues (g : Value → Value) (k : Text) (v : Value)
    (fs : List (Text × Value)) :
    insertField (k, g v) (Fields.mapValues g fs) = Fields.mapValues g (insertField (k, v) fs) := by
  induction fs with
  | nil => rfl
  | cons f fs ih =>
    rw [mapValues_cons, insertField, insertField]
    split_ifs
    · rfl
    · rw [ih, mapValues_cons]

/-- Sorting looks at keys alone. -/
theorem sortFields_mapValues (g : Value → Value) (fs : List (Text × Value)) :
    sortFields (Fields.mapValues g fs) = Fields.mapValues g (sortFields fs) := by
  induction fs with
  | nil => rfl
  | cons f fs ih => rw [mapValues_cons, sortFields, ih, insertField_mapValues, sortFields]

theorem mapValues_eq_self {g : Value → Value} (h : ∀ f ∈ fs, g f.2 = f.2) :
    Fields.mapValues g fs = fs := by
  rw [Fields.mapValues]
  refine (List.map_congr_left fun f hf => ?_).trans (List.map_id fs)
  rw [h f hf]
  rfl

/-- A canonical value is its own canonical form. -/
@[simp] theorem Value.canonical_canonical (v : Value) : v.canonical.canonical = v.canonical := by
  induction v with
  | list xs ih =>
    rw [canonical_list, canonical_list, List.map_map]
    exact congrArg Value.list (List.map_congr_left ih)
  | map fs ih =>
    have hself : ∀ f ∈ sortFields (Fields.mapValues canonical fs), f.2.canonical = f.2 := by
      intro f hf
      obtain ⟨g, hg, rfl⟩ := List.mem_map.1 ((sortFields_perm _).mem_iff.1 hf)
      exact ih g hg
    rw [canonical_map, canonical_map, mapValues_eq_self hself,
      sortFields_eq_self (ascending_sortFields _)]
  | _ => rfl

end RuleLedger
