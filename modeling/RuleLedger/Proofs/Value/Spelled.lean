import RuleLedger.Proofs.Json.Unambiguous
import RuleLedger.Proofs.Value.Alike

/-! Values as their canonical texts show them. A callable is written as a text, so that values of
one canonical text are alike once every callable in them is spelled out. -/
namespace RuleLedger

namespace Value

mutual

/-- The value with the text that shows it in place of every callable. -/
def spelled : Value → Value
  | .list xs => .list (spelledItems xs)
  | .map fs => .map (spelledFields fs)
  | .helper h => .str (helperText h)
  | .method r m => .str (methodText r m)
  | v => v

def spelledItems : List Value → List Value
  | [] => []
  | x :: xs => spelled x :: spelledItems xs

def spelledFields : List (Text × Value) → List (Text × Value)
  | [] => []
  | (k, v) :: fs => (k, spelled v) :: spelledFields fs

end

theorem spelled_list (xs : List Value) : (list xs).spelled = .list (xs.map spelled) := by
  have h : spelledItems xs = xs.map spelled := by
    induction xs with
    | nil => rfl
    | cons x xs ih => rw [spelledItems, ih, List.map_cons]
  rw [spelled, h]

theorem spelled_map (fs : List (Text × Value)) :
    (map fs).spelled = .map (Fields.mapValues spelled fs) := by
  have h : spelledFields fs = Fields.mapValues spelled fs := by
    induction fs with
    | nil => rfl
    | cons f fs ih => rw [spelledFields, ih, mapValues_cons]
  rw [spelled, h]

theorem isData_spelled (v : Value) : v.spelled.isData = true := by
  induction v with
  | list xs ih =>
    rw [spelled_list, isData_list]
    exact List.forall_mem_map.2 ih
  | map fs ih =>
    rw [spelled_map, isData_map]
    exact List.forall_mem_map.2 ih
  | _ => rfl

/-- Data are spelled as they are. -/
theorem spelled_of_isData {v : Value} (h : v.isData = true) : v.spelled = v := by
  induction v with
  | list xs ih =>
    rw [isData_list] at h
    rw [spelled_list]
    exact congrArg list ((List.map_congr_left fun x hx => ih x hx (h x hx)).trans (List.map_id xs))
  | map fs ih =>
    rw [isData_map] at h
    rw [spelled_map, mapValues_eq_self fun f hf => ih f hf (h f hf)]
  | helper => cases h
  | method => cases h
  | _ => rfl

theorem compact_spelled (v : Value) : v.spelled.compact = v.compact := by
  have hitems (xs : List Value) (h : ∀ x ∈ xs, x.spelled.compact = x.compact) :
      compactItems (xs.map spelled) = compactItems xs := by
    induction xs with
    | nil => rfl
    | cons x xs ih =>
      rw [List.map_cons, compactItems, compactItems, h x List.mem_cons_self,
        ih fun y hy => h y (List.mem_cons_of_mem x hy)]
  have hfields (fs : List (Text × Value)) (h : ∀ f ∈ fs, f.2.spelled.compact = f.2.compact) :
      compactFields (Fields.mapValues spelled fs) = compactFields fs := by
    induction fs with
    | nil => rfl
    | cons f fs ih =>
      obtain ⟨k, v⟩ := f
      rw [mapValues_cons, compactFields, compactFields, h (k, v) List.mem_cons_self,
        ih fun g hg => h g (List.mem_cons_of_mem _ hg)]
  induction v with
  | list xs ih =>
    rw [spelled_list]
    cases xs with
    | nil => rfl
    | cons x xs =>
      rw [List.map_cons, compact, compact, ih x List.mem_cons_self,
        hitems xs fun y hy => ih y (List.mem_cons_of_mem x hy)]
  | map fs ih =>
    rw [spelled_map]
    cases fs with
    | nil => rfl
    | cons f fs =>
      obtain ⟨k, v⟩ := f
      rw [mapValues_cons, compact, compact, ih (k, v) List.mem_cons_self,
        hfields fs fun g hg => ih g (List.mem_cons_of_mem _ hg)]
  | _ => rfl

/-- A test that does not tell callables from texts holds of a spelled value where it holds of the
value. -/
theorem all_spelled_iff {p : Value → Bool} (hp : ∀ v, p v.spelled = p v) (v : Value) :
    v.spelled.all p = true ↔ v.all p = true := by
  induction v with
  | list xs ih =>
    have hl := hp (list xs)
    rw [spelled_list] at hl ⊢
    rw [all_list, all_list, hl, List.forall_mem_map]
    exact and_congr_right fun _ => forall₂_congr ih
  | map fs ih =>
    have hm := hp (map fs)
    rw [spelled_map] at hm ⊢
    rw [all_map, all_map, hm, Fields.mapValues, List.forall_mem_map]
    exact and_congr_right fun _ => forall₂_congr ih
  | helper h => exact Bool.eq_iff_iff.1 (hp (helper h))
  | method r m => exact Bool.eq_iff_iff.1 (hp (method r m))
  | _ => rfl

theorem canonical_spelled (v : Value) : v.spelled.canonical = v.canonical.spelled := by
  induction v with
  | list xs ih =>
    rw [spelled_list, canonical_list, canonical_list, spelled_list, List.map_map, List.map_map]
    exact congrArg list (List.map_congr_left ih)
  | map fs ih =>
    have hfs : Fields.mapValues canonical (Fields.mapValues spelled fs) =
        Fields.mapValues spelled (Fields.mapValues canonical fs) := by
      simp only [Fields.mapValues, List.map_map]
      exact List.map_congr_left fun f hf => congrArg (Prod.mk f.1) (ih f hf)
    rw [spelled_map, canonical_map, hfs, canonical_map, spelled_map, sortFields_mapValues]
  | _ => rfl

/-- Values of one canonical text are alike as they are spelled. -/
theorem alike_of_canonicalText_eq {v w : Value} {s : String} (hv : v.canonicalText = .ok s)
    (hw : w.canonicalText = .ok s) : v.spelled.Alike w.spelled := by
  have hc : v.canonical.compact = w.canonical.compact :=
    (canonicalText_eq_ok.1 hv).2.trans (canonicalText_eq_ok.1 hw).2.symm
  rw [← compact_spelled, ← compact_spelled w.canonical, ← canonical_spelled,
    ← canonical_spelled] at hc
  have hdata (u : Value) : u.spelled.canonical.isData = true := by
    rw [canonical_spelled]
    exact isData_spelled u.canonical
  exact alike_of_canonical_eq (Json.compact_injective (hdata v) (hdata w) hc)

end Value
end RuleLedger
