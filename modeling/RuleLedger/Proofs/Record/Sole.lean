import RuleLedger.Proofs.Record.Containers
import RuleLedger.Proofs.Value.Essence

/-! Writes into lists and mappings that stand at one place of the record. Such a write does to the
record what a write at the same path does to its value. -/
namespace RuleLedger

namespace Datum

variable {p : KeyPath} {seed : Seed} {d e new : Datum} {c : Change} {seg : Text} {rest : List Text}
  {xs : List Datum} {fs : Fields Datum}

/-! ### Values of copies, of anchored data and of nests -/

@[simp] theorem value_copy (s : Seed) (d : Datum) : (d.copy s).value = d.value := by
  induction d with
  | list i xs ih =>
    rw [copy_list, value_list, value_list, List.map_map]
    exact congrArg Value.list (List.map_congr_left ih)
  | map i fs ih =>
    rw [copy_map, value_map, value_map, Fields.mapValues, Fields.mapValues, List.map_map]
    exact congrArg Value.map (List.map_congr_left fun f hf => congrArg (Prod.mk f.1) (ih f hf))
  | _ => rfl

/-- Methods are shown by the kind of their receivers alone. -/
theorem essence_anchor (d : Datum) : d.anchor.value.essence = d.value.essence := by
  induction d with
  | list i xs ih =>
    rw [anchor, anchorItems_eq, value_list, value_list, Value.essence_list, Value.essence_list,
      List.map_map, List.map_map, List.map_map]
    exact congrArg Value.list (List.map_congr_left ih)
  | map i fs ih =>
    have hfs : Fields.mapValues Value.essence (Fields.mapValues value
        (Fields.mapValues anchor fs)) =
        Fields.mapValues Value.essence (Fields.mapValues value fs) := by
      simp only [Fields.mapValues, List.map_map]
      exact List.map_congr_left fun f hf => congrArg (Prod.mk f.1) (ih f hf)
    rw [anchor, anchorFields_eq, value_map, value_map, Value.essence_map, Value.essence_map, hfs]
  | method i r m => cases r <;> rfl
  | _ => rfl

theorem setIn_nest (p : KeyPath) (seed : Seed) (new : Datum) (place : Place) (segs : List Text) :
    KeyPath.setIn p new.value segs (.map []) = .ok (nest seed new place segs).value := by
  induction segs generalizing place with
  | nil => rfl
  | cons seg segs ih =>
    rw [KeyPath.setIn_map, Fields.get?_nil, KeyPath.entered, ih (.key seg :: place)]
    rfl

/-! ### Changes of one place -/

/-- What stands inside a container that stands once is not the container itself. -/
theorem ne_of_count_le {i j : Identity} {is : List Identity} (h : (i :: is).count j ≤ 1)
    (hj : j ∈ is) : i ≠ j ∧ is.count j ≤ 1 := by
  have hpos := List.count_pos_iff.2 hj
  refine ⟨?_, (List.count_le_count_cons ..).trans h⟩
  rintro rfl
  rw [List.count_cons_self] at h
  omega

/-- One member holds a container no more often than all of them do. -/
theorem count_le_count_flatMap {α : Type} {as : List α} {a : α} (f : α → List Identity) (h : a ∈ as)
    (i : Identity) : (f a).count i ≤ (as.flatMap f).count i := by
  have hsub := List.Sublist.flatMap (List.singleton_sublist.2 h) f
  rw [List.flatMap_singleton] at hsub
  exact hsub.count_le i

/-- A change leaves data that do not hold its container. -/
theorem apply_of_not_mem (h : c.container ∉ d.containers) : d.apply c = d := by
  induction d with
  | list i xs ih =>
    rw [containers_list, List.mem_cons, not_or, List.mem_flatMap] at h
    rw [apply, if_neg (Ne.symm h.1), applyItems_eq]
    exact congrArg (list i) ((List.map_congr_left fun x hx =>
      ih x hx fun hc => h.2 ⟨x, hx, hc⟩).trans (List.map_id xs))
  | map i fs ih =>
    rw [containers_map, List.mem_cons, not_or, List.mem_flatMap] at h
    rw [apply, if_neg (Ne.symm h.1), applyFields_eq]
    exact congrArg (map i) ((List.map_congr_left fun f hf =>
      congrArg (Prod.mk f.1) (ih f hf fun hc => h.2 ⟨f, hf, hc⟩)).trans (List.map_id fs))
  | _ => rfl

/-- A change of a container that stands once among items acts on one item. -/
theorem map_apply_eq_set {k : Nat} (hk : k < xs.length) (hc : c.container ∈ xs[k].containers)
    (hone : (xs.flatMap containers).count c.container ≤ 1) :
    xs.map (apply c) = xs.set k (xs[k].apply c) := by
  induction xs generalizing k with
  | nil => cases hk
  | cons x xs ih =>
    rw [List.flatMap_cons, List.count_append] at hone
    cases k with
    | zero =>
      have hpos := List.count_pos_iff.2 hc
      have hrest : c.container ∉ xs.flatMap containers := List.count_eq_zero.1 (by
        rw [List.getElem_cons_zero] at hpos
        omega)
      have hself : xs.map (apply c) = xs := (List.map_congr_left fun y hy =>
        apply_of_not_mem fun hm => hrest (List.mem_flatMap.2 ⟨y, hy, hm⟩)).trans (List.map_id xs)
      rw [List.map_cons, hself]
      rfl
    | succ k =>
      have hk : k < xs.length := Nat.lt_of_succ_lt_succ hk
      have hpos := List.count_pos_iff.2 (List.mem_flatMap.2 ⟨_, List.getElem_mem hk, hc⟩)
      have hfirst : c.container ∉ x.containers := List.count_eq_zero.1 (by omega)
      rw [List.map_cons, apply_of_not_mem hfirst, ih hk hc (by omega)]
      rfl

/-- The same among members. -/
theorem mapValues_apply_eq_put (hd : Fields.get? fs seg = some d)
    (hc : c.container ∈ d.containers)
    (hone : (fs.flatMap fun f => f.2.containers).count c.container ≤ 1) :
    Fields.mapValues (apply c) fs = Fields.put fs seg (d.apply c) := by
  induction fs with
  | nil => cases hd
  | cons f fs ih =>
    obtain ⟨k, x⟩ := f
    rw [List.flatMap_cons, List.count_append] at hone
    change x.containers.count _ + _ ≤ 1 at hone
    rw [Fields.get?_cons] at hd
    rw [mapValues_cons, Fields.put]
    split_ifs at hd with hk
    · obtain rfl := Option.some.inj hd
      have hpos := List.count_pos_iff.2 hc
      have hrest : c.container ∉ fs.flatMap fun f => f.2.containers :=
        List.count_eq_zero.1 (by omega)
      have hself : Fields.mapValues (apply c) fs = fs := (List.map_congr_left fun f hf =>
        congrArg (Prod.mk f.1) (apply_of_not_mem fun hm =>
          hrest (List.mem_flatMap.2 ⟨f, hf, hm⟩))).trans (List.map_id fs)
      rw [if_pos hk.symm, hself, hk]
    · have hin : c.container ∈ fs.flatMap fun f => f.2.containers :=
        List.mem_flatMap.2 ⟨(seg, d), Fields.mem_of_get? hd, hc⟩
      have hpos := List.count_pos_iff.2 hin
      have hfirst : c.container ∉ x.containers := List.count_eq_zero.1 (by omega)
      rw [if_neg (Ne.symm hk), apply_of_not_mem hfirst, ih hd (by omega)]

/-- A change of a list or mapping that is there, which gives a value if that stands once. -/
structure Makes (d : Datum) (c : Change) (v : Value) : Prop where
  mem : c.container ∈ d.containers
  value : d.containers.count c.container ≤ 1 → (d.apply c).value = v

theorem Makes.list {k : Nat} {v : Value} (i : Identity) (hk : k < xs.length)
    (h : xs[k].Makes c v) : (list i xs).Makes c (.list ((xs.map Datum.value).set k v)) := by
  have hin : c.container ∈ xs.flatMap containers :=
    List.mem_flatMap.2 ⟨_, List.getElem_mem hk, h.mem⟩
  refine ⟨?_, fun hone => ?_⟩
  · rw [containers_list]
    exact List.mem_cons_of_mem _ hin
  · rw [containers_list] at hone
    obtain ⟨hne, hone⟩ := ne_of_count_le hone hin
    have hle := count_le_count_flatMap containers (List.getElem_mem hk) c.container
    rw [apply, if_neg hne, applyItems_eq, map_apply_eq_set hk h.mem hone, value_list, List.map_set,
      h.value (hle.trans hone)]

theorem Makes.map {v : Value} (i : Identity) (hd : Fields.get? fs seg = some d)
    (h : d.Makes c v) :
    (map i fs).Makes c (.map (Fields.put (Fields.mapValues Datum.value fs) seg v)) := by
  have hmem := Fields.mem_of_get? hd
  have hin : c.container ∈ fs.flatMap fun f => f.2.containers :=
    List.mem_flatMap.2 ⟨(seg, d), hmem, h.mem⟩
  refine ⟨?_, fun hone => ?_⟩
  · rw [containers_map]
    exact List.mem_cons_of_mem _ hin
  · rw [containers_map] at hone
    obtain ⟨hne, hone⟩ := ne_of_count_le hone hin
    have hle : d.containers.count c.container ≤ _ :=
      count_le_count_flatMap (fun f => f.2.containers) hmem c.container
    rw [apply, if_neg hne, applyFields_eq, mapValues_apply_eq_put hd h.mem hone, value_map,
      Fields.mapValues_put, h.value (hle.trans hone)]

/-- New content under a key of the mapping itself. -/
theorem Makes.here (i : Identity) (fs : Fields Datum) (seg : Text) (d : Datum) :
    (Datum.map i fs).Makes ⟨i, .key seg, d⟩
      (.map (Fields.put (Fields.mapValues Datum.value fs) seg d.value)) := by
  refine ⟨List.mem_cons_self, fun _ => ?_⟩
  rw [apply, if_pos rfl, put, value_map, Fields.mapValues_put]

/-- The change that a write is for makes what the write makes of the value, or both fail. -/
theorem change_agrees (p : KeyPath) (seed : Seed) (new : Datum) (seg : Text) (rest : List Text)
    (d : Datum) : Agree (fun _ _ => True) d.Makes (change p seed new seg rest d)
      (KeyPath.setIn p new.value (seg :: rest) d.value) := by
  induction rest generalizing seg d with
  | nil =>
    cases d with
    | list i xs =>
      rw [change, value_list, KeyPath.setIn, List.length_map]
      cases KeyPath.index? seg xs.length with
      | error f => exact .error trivial
      | ok k? =>
        cases k? with
        | none => exact .error trivial
        | some k =>
          refine .ok ⟨List.mem_cons_self, fun _ => ?_⟩
          rw [apply, if_pos rfl, put, value_list, List.map_set]
    | map i fs =>
      rw [change, value_map, KeyPath.setIn_map]
      exact .ok (.here i fs seg new)
    | _ => exact .error trivial
  | cons next rest ih =>
    cases d with
    | list i xs =>
      rw [change, value_list, KeyPath.setIn, List.length_map]
      cases hk : KeyPath.index? seg xs.length with
      | error f => exact .error trivial
      | ok k? =>
        cases k? with
        | none => exact .error trivial
        | some k =>
          have hlt := KeyPath.lt_of_index? hk
          have hvalue : (xs.map value).getD k .null = xs[k].value := by simp [hlt]
          have hitem : xs.getD k .null = xs[k] := by simp [hlt]
          dsimp only
          rw [hvalue, hitem]
          refine (ih next xs[k]).elim (fun _ _ _ => .error trivial) fun c v h => ?_
          exact .ok (h.list i hlt)
    | map i fs =>
      rw [change, value_map, KeyPath.setIn_map, Fields.get?_mapValues]
      have hnew := Makes.here i fs seg (nest seed new [] (next :: rest))
      have hnest := setIn_nest p seed new [] (next :: rest)
      have hbelow (e : Datum) (he : Fields.get? fs seg = some e) :
          Agree (fun _ _ => True) (Datum.map i fs).Makes (change p seed new next rest e)
            ((KeyPath.setIn p new.value (next :: rest) e.value).map fun v =>
              .map (Fields.put (Fields.mapValues value fs) seg v)) :=
        (ih next e).elim (fun _ _ _ => .error trivial) fun c v h => .ok (h.map i he)
      cases he : Fields.get? fs seg with
      | none =>
        rw [Option.map_none, KeyPath.entered, hnest]
        exact .ok hnew
      | some e =>
        cases e with
        | null =>
          rw [Option.map_some, value, KeyPath.entered, hnest]
          exact .ok hnew
        | _ => exact hbelow _ he
    | _ => exact .error trivial

end Datum

namespace Record

variable {r : Record} {p : KeyPath}

/-- Whether a record is a mapping. -/
def IsMapping (r : Record) : Prop := ∃ ms, r.root = .fields ms

/-- The list or mapping below the top of a record that a write at a path changes. -/
def target? (r : Record) (p : KeyPath) : Option Identity :=
  match r.root, p.segments with
  | .fields ms, seg :: next :: rest =>
    (Fields.get? ms seg).bind fun d =>
      ((Datum.change p ⟨[]⟩ .null next rest d).map Datum.Change.container).toOption
  | _, _ => none

/-- Whether a write at a path goes into nothing that stands at two places of the record. -/
def isSole (r : Record) (p : KeyPath) : Bool :=
  (r.target? p).all fun i => r.containers.count i ≤ 1

/-- Where a change goes does not depend on what is written. -/
theorem change_container (p : KeyPath) (s t : Seed) (new new' : Datum) (seg : Text)
    (rest : List Text) (d : Datum) :
    Same (fun c c' : Datum.Change => c.container = c'.container)
      (Datum.change p s new seg rest d) (Datum.change p t new' seg rest d) := by
  induction rest generalizing seg d with
  | nil =>
    cases d with
    | list i xs =>
      rw [Datum.change, Datum.change]
      cases KeyPath.index? seg xs.length with
      | error f => exact .error rfl
      | ok k? => cases k? <;> first | exact .error rfl | exact .ok rfl
    | map i fs => exact .ok rfl
    | _ => exact .error rfl
  | cons next rest ih =>
    cases d with
    | list i xs =>
      rw [Datum.change, Datum.change]
      cases KeyPath.index? seg xs.length with
      | error f => exact .error rfl
      | ok k? => cases k? <;> first | exact .error rfl | exact ih _ _
    | map i fs =>
      rw [Datum.change, Datum.change]
      cases Fields.get? fs seg with
      | none => exact .ok rfl
      | some e => cases e <;> first | exact .ok rfl | exact ih _ _
    | _ => exact .error rfl

section Mapping

variable {ms : Fields Datum} {held : List Datum} {seed : Seed} {new d : Datum}

theorem value_fields (ms : Fields Datum) (held : List Datum) :
    (⟨.fields ms, held⟩ : Record).value = .map (Fields.mapValues Datum.value ms) :=
  congrArg Value.map (Datum.fieldValues_eq ms)

theorem count_le_of_isSole {c : Datum.Change} {seg next : Text} {rest : List Text}
    (hs : isSole ⟨.fields ms, held⟩ ⟨seg :: next :: rest⟩ = true) (hd : Fields.get? ms seg = some d)
    (hc : Datum.change ⟨seg :: next :: rest⟩ seed new next rest d = .ok c) :
    (ms.flatMap fun f => f.2.containers).count c.container ≤ 1 := by
  obtain ⟨c', hc', he⟩ := (change_container ⟨seg :: next :: rest⟩ seed ⟨[]⟩ new .null next rest
    d).exists_right hc
  have htarget : target? ⟨.fields ms, held⟩ ⟨seg :: next :: rest⟩ = some c.container := by
    rw [target?]
    dsimp only
    rw [hd, Option.bind_some, hc', he]
    rfl
  have hcontainers : containers ⟨.fields ms, held⟩ = ms.flatMap fun f => f.2.containers :=
    Datum.fieldContainers_eq ms
  rwa [isSole, htarget, Option.all_some, decide_eq_true_eq, hcontainers] at hs

/-- A write into a mapping and the write into its value: both fail, or what the one leaves has the
value that the other gives. -/
theorem set_agrees (hs : isSole ⟨.fields ms, held⟩ p = true) (seed : Seed) (new : Datum) :
    Agree (fun _ _ => True) (fun r v => r.value = v) (set ⟨.fields ms, held⟩ p seed new)
      (p.set (.map (Fields.mapValues Datum.value ms)) new.anchor.value) := by
  obtain ⟨segs⟩ := p
  match segs with
  | [] =>
    rw [set]
    generalize new.anchor = a
    cases a with
    | map i fs =>
      rw [Datum.value_map]
      exact .ok (value_fields _ _)
    | group i g fs => exact .error trivial
    | _ => exact .error trivial
  | [seg] =>
    refine .ok ?_
    rw [value_fields, Fields.mapValues_put]
  | seg :: next :: rest =>
    have hset : KeyPath.set ⟨seg :: next :: rest⟩ (.map (Fields.mapValues Datum.value ms))
        new.anchor.value = KeyPath.setIn ⟨seg :: next :: rest⟩ new.anchor.value
          (seg :: next :: rest) (.map (Fields.mapValues Datum.value ms)) := rfl
    rw [hset, KeyPath.setIn_map, Fields.get?_mapValues, set]
    dsimp only
    have hnest := Datum.setIn_nest ⟨seg :: next :: rest⟩ seed new.anchor [] (next :: rest)
    have hput (held' : List Datum) (e : Datum) :
        value ⟨.fields (Fields.put ms seg e), held'⟩ =
          .map (Fields.put (Fields.mapValues Datum.value ms) seg e.value) := by
      rw [value_fields, Fields.mapValues_put]
    cases hd : Fields.get? ms seg with
    | none =>
      rw [Option.map_none, KeyPath.entered, hnest]
      exact .ok (hput _ _)
    | some d =>
      have hbelow : Agree (fun _ _ => True) (fun r v => r.value = v)
          ((Datum.change ⟨seg :: next :: rest⟩ seed new.anchor next rest d).map fun c =>
            (⟨.fields (Fields.mapValues (Datum.apply c) ms),
              (holding ⟨.fields ms, held⟩ new).map (Datum.apply c)⟩ : Record))
          ((KeyPath.setIn ⟨seg :: next :: rest⟩ new.anchor.value (next :: rest) d.value).map
            fun v => .map (Fields.put (Fields.mapValues Datum.value ms) seg v)) := by
        obtain ⟨f, f', hf, hf', -⟩ | ⟨c, v, hc, hv, hmakes⟩ := (Datum.change_agrees
          ⟨seg :: next :: rest⟩ seed new.anchor next rest d).cases
        · rw [hf, hf']
          exact .error trivial
        · have hone := count_le_of_isSole hs hd hc
          have hle : d.containers.count c.container ≤ _ := Datum.count_le_count_flatMap
            (fun f => f.2.containers) (Fields.mem_of_get? hd) c.container
          rw [hc, hv, ← hmakes.value (hle.trans hone), Except.map, Except.map,
            Datum.mapValues_apply_eq_put hd hmakes.mem hone]
          exact .ok (hput _ _)
      cases d with
      | null =>
        rw [Option.map_some, Datum.value, KeyPath.entered, hnest]
        exact .ok (hput _ _)
      | _ => exact hbelow

theorem isMapping_of_set {r' : Record} (h : set ⟨.fields ms, held⟩ p seed new = .ok r') :
    r'.IsMapping := by
  obtain ⟨segs⟩ := p
  match segs with
  | [] =>
    rw [set] at h
    generalize new.anchor = a at h
    cases a with
    | map i fs =>
      obtain rfl := Except.ok.inj h
      exact ⟨_, rfl⟩
    | _ => cases h
  | [seg] =>
    obtain rfl := Except.ok.inj h
    exact ⟨_, rfl⟩
  | seg :: next :: rest =>
    rw [set] at h
    dsimp only at h
    split at h
    · obtain rfl := Except.ok.inj h
      exact ⟨_, rfl⟩
    · obtain rfl := Except.ok.inj h
      exact ⟨_, rfl⟩
    · obtain ⟨c, -, rfl⟩ := map_eq_ok.1 h
      exact ⟨_, rfl⟩

end Mapping

/-- A write that fails leaves a mapping as it was. -/
theorem remains_eq (hr : r.IsMapping) (p : KeyPath) (new : Datum) : r.remains p new = r := by
  obtain ⟨root, held⟩ := r
  obtain ⟨ms, hms⟩ := hr
  obtain rfl : root = .fields ms := hms
  obtain ⟨segs⟩ := p
  cases segs <;> rfl

/-- A mapping stays one under every write. -/
theorem isMapping_write (hr : r.IsMapping) (p : KeyPath) (seed : Seed) (new : Datum) :
    (r.write p seed new).1.IsMapping := by
  rw [write]
  split
  · rename_i r' h
    obtain ⟨root, held⟩ := r
    obtain ⟨ms, hms⟩ := hr
    obtain rfl : root = .fields ms := hms
    exact isMapping_of_set h
  · rw [remains_eq hr]
    exact hr

theorem exists_value_eq (hr : r.IsMapping) : ∃ fs, r.value = .map fs := by
  obtain ⟨root, held⟩ := r
  obtain ⟨ms, hms⟩ := hr
  obtain rfl : root = .fields ms := hms
  exact ⟨_, rfl⟩

/-- A write that meets nothing at two places does to the value of a record what it does to the
record. -/
theorem essence_write (hr : r.IsMapping) (hs : r.isSole p = true) (seed : Seed) (new : Datum) :
    (r.write p seed new).1.value.essence = (p.write r.value new.value).1.essence := by
  have hkept := remains_eq hr p new
  obtain ⟨root, held⟩ := r
  obtain ⟨ms, hms⟩ := hr
  obtain rfl : root = .fields ms := hms
  have hnew : (new.copy seed).anchor.value.essence = new.value.essence := by
    rw [Datum.essence_anchor, Datum.value_copy]
  rw [value_fields, ← KeyPath.write_congr p rfl hnew, write, KeyPath.write_eq]
  obtain ⟨f, f', hf, hf', -⟩ | ⟨r', v, hr', hv, hvalue⟩ :=
    (set_agrees hs seed (new.copy seed)).cases
  · rw [hf, hf', hkept, value_fields, KeyPath.attempt]
  · rw [hr', hv, ← hvalue, KeyPath.attempt]

end Record
end RuleLedger
