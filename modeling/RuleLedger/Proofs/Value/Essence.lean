import RuleLedger.Proofs.KeyPath.InPlace
import RuleLedger.Proofs.Value.Spelled

/-! What the canonical text of a value shows: its members in ascending order of keys, its callables
as texts. A write at one path into values of one essence leaves values of one essence. -/
namespace RuleLedger

/-! ### Writes into sorted mappings -/

section Sorted

variable {fs gs : List (Text × Value)} {f g : Text × Value}

theorem Text.le_refl (s : Text) : Text.le s s = true := (Text.le_total s s).elim id id

theorem Text.lt_of_not_le {s t : Text} (h : ¬Text.le s t = true) :
    Text.le t s = true ∧ t ≠ s :=
  ⟨(Text.le_total s t).resolve_left h, fun he => h (he ▸ Text.le_refl s)⟩

theorem get?_insertField (f : Text × Value) (fs : List (Text × Value)) (k : Text) :
    Fields.get? (insertField f fs) k = Fields.get? (f :: fs) k := by
  induction fs with
  | nil => rfl
  | cons g fs ih =>
    rw [insertField]
    split_ifs with hle
    · rfl
    · rw [Fields.get?_cons, ih, Fields.get?_cons, Fields.get?_cons, Fields.get?_cons]
      by_cases hf : k = f.1
      · rw [if_neg (hf ▸ (Text.lt_of_not_le hle).2.symm), if_pos hf, if_pos hf]
      · rw [if_neg hf, if_neg hf]

/-- Sorting keeps what is under a key. -/
@[simp] theorem get?_sortFields (fs : List (Text × Value)) (k : Text) :
    Fields.get? (sortFields fs) k = Fields.get? fs k := by
  induction fs with
  | nil => rfl
  | cons f fs ih => rw [sortFields, get?_insertField, Fields.get?_cons, Fields.get?_cons, ih]

theorem has_sortFields (fs : List (Text × Value)) (k : Text) :
    Fields.has (sortFields fs) k = Fields.has fs k := by
  rw [Bool.eq_iff_iff, Fields.has_iff, Fields.has_iff, (keys_sortFields_perm fs).mem_iff]

theorem put_insertField_self (k : Text) (v w : Value) (fs : List (Text × Value)) :
    Fields.put (insertField (k, w) fs) k v = insertField (k, v) fs := by
  induction fs with
  | nil => exact if_pos rfl
  | cons g fs ih =>
    rw [insertField, insertField]
    split_ifs with hle
    · exact if_pos rfl
    · rw [Fields.put, if_neg (Text.lt_of_not_le hle).2, ih]

/-- A field of another key is inserted before or after a write alike. -/
theorem put_insertField {k : Text} (hf : f.1 ≠ k) (v : Value) (hk : Fields.has fs k = true) :
    Fields.put (insertField f fs) k v = insertField f (Fields.put fs k v) := by
  induction fs with
  | nil => cases hk
  | cons g fs ih =>
    obtain ⟨a, w⟩ := g
    by_cases ha : a = k
    · subst ha
      rw [Fields.put, if_pos rfl, insertField, insertField]
      split_ifs
      · rw [Fields.put, if_neg hf, Fields.put, if_pos rfl]
      · exact if_pos rfl
    · have hk : Fields.has fs k = true := by
        rw [Fields.has, List.any_cons, Bool.or_eq_true, beq_iff_eq] at hk
        exact hk.resolve_left ha
      rw [Fields.put, if_neg ha, insertField, insertField]
      split_ifs
      · rw [Fields.put, if_neg hf, Fields.put, if_neg ha]
      · rw [Fields.put, if_neg ha, ih hk]

/-- Fields of different keys may be inserted in either order. -/
theorem insertField_comm (h : f.1 ≠ g.1) (fs : List (Text × Value)) :
    insertField f (insertField g fs) = insertField g (insertField f fs) := by
  have hone : Text.le f.1 g.1 = true ∧ ¬Text.le g.1 f.1 = true ∨
      ¬Text.le f.1 g.1 = true ∧ Text.le g.1 f.1 = true := by
    rcases Text.le_total f.1 g.1 with hfg | hgf
    · exact .inl ⟨hfg, fun hgf => h (Text.le_antisymm hfg hgf)⟩
    · exact .inr ⟨fun hfg => h (Text.le_antisymm hfg hgf), hgf⟩
  induction fs with
  | nil =>
    obtain ⟨hfg, hgf⟩ | ⟨hfg, hgf⟩ := hone
    · rw [insertField, insertField, insertField, if_pos hfg, insertField, if_neg hgf, insertField]
    · rw [insertField, insertField, insertField, if_neg hfg, insertField, insertField, if_pos hgf]
  | cons a fs ih =>
    have htrans : Text.le f.1 g.1 = true → Text.le g.1 a.1 = true → Text.le f.1 a.1 = true :=
      Text.le_trans
    have htrans' : Text.le g.1 f.1 = true → Text.le f.1 a.1 = true → Text.le g.1 a.1 = true :=
      Text.le_trans
    by_cases hf : Text.le f.1 a.1 = true <;> by_cases hg : Text.le g.1 a.1 = true <;>
      obtain ⟨hfg, hgf⟩ | ⟨hfg, hgf⟩ := hone <;>
      simp_all [insertField]

/-- A write into a mapping shows in its sorted fields only. -/
theorem sortFields_put (fs : List (Text × Value)) (k : Text) (v : Value) :
    sortFields (Fields.put fs k v) =
      if Fields.has fs k then Fields.put (sortFields fs) k v
      else insertField (k, v) (sortFields fs) := by
  induction fs with
  | nil => rfl
  | cons f fs ih =>
    obtain ⟨a, w⟩ := f
    by_cases ha : a = k
    · subst ha
      rw [Fields.put, if_pos rfl, if_pos (by simp [Fields.has]), sortFields, sortFields,
        put_insertField_self]
    · have hhas : Fields.has ((a, w) :: fs) k = Fields.has fs k := by
        rw [Fields.has, List.any_cons, Fields.has, beq_eq_false_iff_ne.2 ha, Bool.false_or]
      rw [Fields.put, if_neg ha, sortFields, ih, hhas, sortFields]
      split_ifs with hk
      · exact (put_insertField ha v ((has_sortFields fs k).trans hk)).symm
      · exact insertField_comm ha _

theorem sortFields_put_congr (h : sortFields fs = sortFields gs) (k : Text) (v : Value) :
    sortFields (Fields.put fs k v) = sortFields (Fields.put gs k v) := by
  rw [sortFields_put, sortFields_put, ← has_sortFields fs, ← has_sortFields gs, h]

end Sorted

namespace Value

/-- What the canonical text of a value shows. -/
def essence (v : Value) : Value := v.spelled.canonical

theorem essence_list (xs : List Value) : (list xs).essence = .list (xs.map essence) := by
  rw [essence, spelled_list, canonical_list, List.map_map]
  rfl

theorem essence_map (fs : List (Text × Value)) :
    (map fs).essence = .map (sortFields (Fields.mapValues essence fs)) := by
  rw [essence, spelled_map, canonical_map, Fields.mapValues, Fields.mapValues, List.map_map]
  rfl

@[simp] theorem essence_canonical (v : Value) : v.canonical.essence = v.essence := by
  rw [essence, ← canonical_spelled, canonical_canonical, essence]

theorem isWritable_spelled (v : Value) : v.spelled.isWritable = v.isWritable := by
  cases v <;> rfl

/-- The digest of a value is that of what its canonical text shows. -/
theorem contentHash_essence {v : Value} {d : String} :
    v.essence.contentHash = .ok d ↔ v.contentHash = .ok d := by
  simp only [contentHash, map_eq_ok, canonicalText_eq_ok]
  rw [essence, canonical_canonical, canonical_spelled, all_spelled_iff isWritable_spelled,
    compact_spelled]

/-- Whether two values have one canonical text. -/
def sameText (v w : Value) : Bool := v.canonical.compact == w.canonical.compact

theorem sameText_iff {v w : Value} : v.sameText w = true ↔ v.essence = w.essence := by
  have hcompact (u : Value) : u.essence.compact = u.canonical.compact := by
    rw [essence, canonical_spelled, compact_spelled]
  have hdata (u : Value) : u.essence.isData = true := by
    rw [essence, canonical_spelled]
    exact isData_spelled u.canonical
  rw [sameText, beq_iff_eq, ← hcompact v, ← hcompact w]
  exact ⟨Json.compact_injective (hdata v) (hdata w), congrArg compact⟩

/-- Values of one essence are alike as they are spelled. -/
theorem alike_of_essence_eq {v w : Value} (h : v.essence = w.essence) : v.spelled.Alike w.spelled :=
  alike_of_canonical_eq h

/-- Values of different essence are not alike, if no mapping in one of them has a key twice. -/
theorem not_alike_of_sameText {v w : Value} (hv : v.all hasDistinctKeys = true)
    (h : v.sameText w = false) : ¬v.Alike w := by
  intro ha
  rw [sameText, canonical_eq_of_alike hv ha, beq_self_eq_true] at h
  cases h

/-! ### Shapes -/

/-- What holds nothing is alike to itself alone. -/
theorem eq_of_alike {v w : Value} (hv : v.isContainer = false) (h : v.Alike w) : v = w := by
  cases v with
  | list xs => cases hv
  | map fs => cases hv
  | _ =>
    rw [Alike] at h
    · exact h
    all_goals simp

/-- Values of one essence are mappings of one essence, lists of one essence, or hold nothing. -/
theorem essence_cases {v w : Value} (h : v.essence = w.essence) :
    (∃ fs gs, v = .map fs ∧ w = .map gs ∧
      sortFields (Fields.mapValues essence fs) = sortFields (Fields.mapValues essence gs)) ∨
    (∃ xs ys, v = .list xs ∧ w = .list ys ∧ xs.map essence = ys.map essence) ∨
    v.isContainer = false ∧ w.isContainer = false := by
  have hleaf (u : Value) (hu : u.isContainer = false) : u.essence.isContainer = false := by
    cases u <;> first | rfl | cases hu
  have hcontainer (u : Value) (hu : u.isContainer = true) : u.essence.isContainer = true := by
    cases u <;> first | rfl | cases hu
  cases hv : v.isContainer with
  | false =>
    cases hw : w.isContainer with
    | false => exact .inr (.inr ⟨rfl, rfl⟩)
    | true =>
      have hne := hleaf v hv
      rw [h, hcontainer w hw] at hne
      cases hne
  | true =>
    cases v with
    | map fs =>
      cases w with
      | map gs =>
        rw [essence_map, essence_map, map.injEq] at h
        exact .inl ⟨fs, gs, rfl, rfl, h⟩
      | _ => simp [essence, spelled, canonical] at h
    | list xs =>
      cases w with
      | list ys =>
        rw [essence_list, essence_list, list.injEq] at h
        exact .inr (.inl ⟨xs, ys, rfl, rfl, h⟩)
      | _ => simp [essence, spelled, canonical] at h
    | _ => cases hv

theorem essence_eq_null {v : Value} : v.essence = .null ↔ v = .null := by
  constructor
  · intro h
    cases v <;> first | rfl | simp [essence, spelled, canonical] at h
  · rintro rfl
    rfl

end Value

/-! ### Writes -/

namespace KeyPath

open Value (essence)

variable {p : KeyPath} {v w new new' : Value}

theorem entered_congr {x y : Option Value} (h : x.map essence = y.map essence) :
    (entered x).essence = (entered y).essence := by
  cases x with
  | none =>
    cases y with
    | none => rfl
    | some w => cases h
  | some v =>
    cases y with
    | none => cases h
    | some w =>
      have hvw : v.essence = w.essence := Option.some.inj h
      by_cases hv : v = .null
      · obtain rfl := hv
        rw [Value.essence_eq_null.1 hvw.symm]
      · have hw : w ≠ .null := by
          rintro rfl
          exact hv (Value.essence_eq_null.1 hvw)
        have hself (u : Value) (hu : u ≠ .null) : entered (some u) = u := by
          cases u <;> first | rfl | exact absurd rfl hu
        rw [hself v hv, hself w hw, hvw]

/-- Results of one essence, or faults. -/
abbrev SameEssence : Except Fault Value → Except Fault Value → Prop :=
  Agree (fun _ _ => True) fun v w => v.essence = w.essence

theorem setIn_congr (hn : new.essence = new'.essence) (segs : List Text)
    (h : v.essence = w.essence) : SameEssence (setIn p new segs v) (setIn p new' segs w) := by
  induction segs generalizing v w with
  | nil => exact .ok hn
  | cons seg segs ih =>
    obtain ⟨fs, gs, rfl, rfl, hs⟩ | ⟨xs, ys, rfl, rfl, hs⟩ | ⟨hv, hw⟩ := Value.essence_cases h
    · have hget : (Fields.get? fs seg).map essence = (Fields.get? gs seg).map essence := by
        rw [← Fields.get?_mapValues, ← Fields.get?_mapValues, ← get?_sortFields, hs,
          get?_sortFields]
      rw [setIn_map, setIn_map]
      refine (ih (entered_congr hget)).map fun a b hab => ?_
      rw [Value.essence_map, Value.essence_map, Fields.mapValues_put, Fields.mapValues_put, hab,
        sortFields_put_congr hs]
    · have hl : xs.length = ys.length := by simpa using congrArg List.length hs
      rw [setIn, setIn, ← hl]
      cases index? seg xs.length with
      | error f => exact .error trivial
      | ok i? =>
        cases i? with
        | none => exact .error trivial
        | some i =>
          have hitem : (xs.getD i .null).essence = (ys.getD i .null).essence := by
            have hi : (xs.map essence)[i]? = (ys.map essence)[i]? := by rw [hs]
            rw [List.getElem?_map, List.getElem?_map] at hi
            rw [List.getD_eq_getElem?_getD, List.getD_eq_getElem?_getD]
            cases hx : xs[i]? <;> cases hy : ys[i]? <;> simp_all
          refine (ih hitem).map fun a b hab => ?_
          rw [Value.essence_list, Value.essence_list, List.map_set, List.map_set, hab, hs]
    · obtain ⟨f, hf⟩ := setIn_leaf (p := p) hv new seg segs
      obtain ⟨f', hf'⟩ := setIn_leaf (p := p) hw new' seg segs
      rw [hf, hf']
      exact .error trivial

/-- A write that fails leaves what there was, unless it is one of the whole. -/
theorem write_cons (seg : Text) (segs : List Text) (v new : Value) :
    (write ⟨seg :: segs⟩ v new).1 =
      (setIn ⟨seg :: segs⟩ new (seg :: segs) v).toOption.getD v := by
  have hwrite : write ⟨seg :: segs⟩ v new =
      attempt v (setIn ⟨seg :: segs⟩ new (seg :: segs) v) := writeIn_eq _ new seg segs v
  rw [hwrite]
  cases setIn ⟨seg :: segs⟩ new (seg :: segs) v <;> rfl

/-- Writes of one essence at one path into mappings of one essence. -/
theorem write_congr {fs gs : List (Text × Value)} (p : KeyPath)
    (h : (Value.map fs).essence = (Value.map gs).essence) (hn : new.essence = new'.essence) :
    (p.write (.map fs) new).1.essence = (p.write (.map gs) new').1.essence := by
  obtain ⟨segs⟩ := p
  cases segs with
  | nil =>
    have hkept (hs : List (Text × Value)) (u : Value) (hu : u.isContainer = false) :
        (write ⟨[]⟩ (.map hs) u).1 = .map hs := by
      cases u <;> first | rfl | cases hu
    obtain ⟨as, bs, rfl, rfl, -⟩ | ⟨xs, ys, rfl, rfl, -⟩ | ⟨hv, hw⟩ := Value.essence_cases hn
    · exact hn
    · exact h
    · rw [hkept fs new hv, hkept gs new' hw, h]
  | cons seg segs =>
    rw [write_cons, write_cons]
    refine (setIn_congr hn (seg :: segs) h).elim (fun _ _ _ => h) fun _ _ hab => hab

end KeyPath
end RuleLedger
