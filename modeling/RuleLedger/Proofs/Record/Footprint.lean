import Mathlib.Data.List.Basic
import RuleLedger.Proofs.Record.Sole

/-! What writes at paths leave alone. Main statement: a member of a record whose lists and mappings
were made with the record, and stand in no other member, stays as it is under all writes at paths
that start at other keys. -/
namespace RuleLedger

/-- Whether a dotted path leads to or below the member of a key, or to the whole record. -/
def Touches (k path : Text) : Prop :=
  path = KeyPath.wildcardText ∨ (Text.splitAt '.' path).head? = some k

instance (k path : Text) : Decidable (Touches k path) := inferInstanceAs (Decidable (_ ∨ _))

/-- A path that does not touch a key starts at another one. -/
theorem KeyPath.exists_head {k path : Text} {p : KeyPath} (hp : ofText path = .ok p)
    (hk : ¬Touches k path) : ∃ seg rest, p.segments = seg :: rest ∧ seg ≠ k := by
  obtain ⟨hwild, hhead⟩ := not_or.1 hk
  rw [ofText] at hp
  split_ifs at hp
  dsimp only at hp
  split_ifs at hp
  obtain rfl := Except.ok.inj hp
  cases hparts : Text.splitAt '.' path with
  | nil => exact absurd (List.map_eq_nil_iff.1 hparts) (Text.splitList_ne_nil _ _)
  | cons seg rest =>
    refine ⟨seg, rest, rfl, fun he => hhead ?_⟩
    rw [hparts, he]
    rfl

@[simp] theorem Seed.length_fork (s : Seed) (i : Nat) :
    (s.fork i).path.length = s.path.length + 1 := rfl

/-! ### The containers of what is written -/

namespace Datum

variable {p : KeyPath} {seed : Seed} {d new : Datum} {c : Change} {seg : Text} {rest : List Text}
  {i : Identity}

theorem containers_copy (s : Seed) (d : Datum) :
    (d.copy s).containers = d.containers.map (.copy s) := by
  induction d with
  | list i xs ih =>
    rw [copy_list, containers_list, containers_list, List.map_cons, List.map_flatMap,
      List.flatMap_map]
    exact congrArg _ (List.flatMap_congr ih)
  | map i fs ih =>
    rw [copy_map, containers_map, containers_map, List.map_cons, List.map_flatMap,
      Fields.mapValues, List.flatMap_map]
    exact congrArg _ (List.flatMap_congr ih)
  | _ => rfl

theorem containers_anchor (d : Datum) : d.anchor.containers = d.containers := by
  induction d with
  | list i xs ih =>
    rw [anchor, anchorItems_eq, containers_list, containers_list, List.flatMap_map]
    exact congrArg _ (List.flatMap_congr ih)
  | map i fs ih =>
    rw [anchor, anchorFields_eq, containers_map, containers_map, Fields.mapValues,
      List.flatMap_map]
    exact congrArg _ (List.flatMap_congr ih)
  | method i r m => cases r <;> rfl
  | _ => rfl

theorem ofFields_eq (s : Seed) (q : Place) (fs : List (Text × Value)) :
    ofFields s q fs = fs.map fun f => (f.1, ofValue s (.key f.1 :: q) f.2) := by
  induction fs with
  | nil => rfl
  | cons f fs ih => rw [ofFields, ih, List.map_cons]

/-- What was made in a slot of a place was made at the place. -/
theorem part_below {s : Seed} {slot : Slot} {q : Place}
    (h : ∃ place, i = .part s (place ++ slot :: q)) : ∃ place, i = .part s (place ++ q) := by
  obtain ⟨place, rfl⟩ := h
  exact ⟨place ++ [slot], by rw [List.append_assoc, List.singleton_append]⟩

/-- What is made of a value holds nothing that was made elsewhere. -/
theorem part_of_mem_containers {s : Seed} {q : Place} {v : Value}
    (h : i ∈ (ofValue s q v).containers) : ∃ place, i = .part s (place ++ q) := by
  induction v generalizing q with
  | list xs ih =>
    rw [ofValue, containers, itemContainers_ofItems] at h
    rcases List.mem_cons.1 h with rfl | h
    · exact ⟨[], rfl⟩
    · obtain ⟨x, hx, h⟩ := List.mem_flatMap.1 h
      exact part_below (ih x.1 (List.fst_mem_of_mem_zipIdx hx) h)
  | map fs ih =>
    rw [ofValue, containers, fieldContainers_ofFields] at h
    rcases List.mem_cons.1 h with rfl | h
    · exact ⟨[], rfl⟩
    · obtain ⟨f, hf, h⟩ := List.mem_flatMap.1 h
      exact part_below (ih f hf h)
  | helper h' => cases h' <;> cases h
  | _ => cases h

/-- Whether a container comes with new content: it is in a datum, or made at a seed. -/
def Brings (seed : Seed) (new : Datum) (i : Identity) : Prop :=
  i ∈ new.containers ∨ ∃ place, i = .part seed place

theorem brings_of_nest {place : Place} {segs : List Text}
    (h : i ∈ (nest seed new place segs).containers) : Brings seed new i := by
  induction segs generalizing place with
  | nil => exact .inl h
  | cons seg segs ih =>
    rw [nest, containers_map, List.flatMap_singleton] at h
    rcases List.mem_cons.1 h with rfl | h
    · exact .inr ⟨place, rfl⟩
    · exact ih h

/-- A change puts nothing but new content into its container. -/
theorem brings_of_change (h : change p seed new seg rest d = .ok c)
    (hi : i ∈ c.content.containers) : Brings seed new i := by
  induction rest generalizing seg d with
  | nil =>
    cases d with
    | list j xs =>
      rw [change] at h
      dsimp only at h
      split at h
      · cases h
      · cases h
      · obtain rfl := Except.ok.inj h
        exact .inl hi
    | map j fs =>
      obtain rfl := Except.ok.inj h
      exact .inl hi
    | _ => cases h
  | cons next rest ih =>
    cases d with
    | list j xs =>
      rw [change] at h
      dsimp only at h
      split at h
      · cases h
      · cases h
      · exact ih h
    | map j fs =>
      rw [change] at h
      split at h
      · obtain rfl := Except.ok.inj h
        exact brings_of_nest hi
      · obtain rfl := Except.ok.inj h
        exact brings_of_nest hi
      · exact ih h
    | _ => cases h

theorem mem_containers_put {slot : Slot} {e : Datum} (h : i ∈ (put slot e d).containers) :
    i ∈ d.containers ∨ i ∈ e.containers := by
  cases d with
  | list j xs =>
    cases slot with
    | key name => exact .inl h
    | item k =>
      rw [put, containers_list, List.mem_cons, List.mem_flatMap] at h
      rw [containers_list, List.mem_cons, List.mem_flatMap]
      rcases h with rfl | ⟨x, hx, h⟩
      · exact .inl (.inl rfl)
      · rcases List.mem_or_eq_of_mem_set hx with hx | rfl
        · exact .inl (.inr ⟨x, hx, h⟩)
        · exact .inr h
  | map j fs =>
    cases slot with
    | item k => exact .inl h
    | key name =>
      rw [put, containers_map, List.mem_cons, List.mem_flatMap] at h
      rw [containers_map, List.mem_cons, List.mem_flatMap]
      rcases h with rfl | ⟨f, hf, h⟩
      · exact .inl (.inl rfl)
      · rcases Fields.mem_put hf with rfl | hf
        · exact .inr h
        · exact .inl (.inr ⟨f, hf, h⟩)
  | _ => exact .inl h

/-- A change adds no container but those of its content. -/
theorem mem_containers_apply (h : i ∈ (d.apply c).containers) :
    i ∈ d.containers ∨ i ∈ c.content.containers := by
  induction d with
  | list j xs ih =>
    rw [apply] at h
    split_ifs at h
    · exact mem_containers_put h
    · rw [applyItems_eq, containers_list, List.mem_cons, List.flatMap_map, List.mem_flatMap] at h
      rw [containers_list, List.mem_cons, List.mem_flatMap]
      rcases h with rfl | ⟨x, hx, h⟩
      · exact .inl (.inl rfl)
      · exact (ih x hx h).imp_left fun h => .inr ⟨x, hx, h⟩
  | map j fs ih =>
    rw [apply] at h
    split_ifs at h
    · exact mem_containers_put h
    · rw [applyFields_eq, containers_map, List.mem_cons, Fields.mapValues, List.flatMap_map,
        List.mem_flatMap] at h
      rw [containers_map, List.mem_cons, List.mem_flatMap]
      rcases h with rfl | ⟨f, hf, h⟩
      · exact .inl (.inl rfl)
      · exact (ih f hf h).imp_left fun h => .inr ⟨f, hf, h⟩
  | _ => exact .inl h

end Datum

/-! ### Members that stand alone -/

/-- A member of a mapping, or its absence. The lists and mappings of the member were made at a seed,
and none of them stands under another key. -/
structure Fields.Isolated (run : Seed) (k : Text) (d? : Option Datum) (ms : Fields Datum) :
    Prop where
  stays : ms.get? k = d?
  made : ∀ d ∈ d?, ∀ i ∈ d.containers, ∃ place, i = .part run place
  alone : ∀ d ∈ d?, ∀ f ∈ ms, f.1 ≠ k → d.containers.Disjoint f.2.containers

namespace Fields.Isolated

variable {run seed : Seed} {k seg : Text} {d? : Option Datum} {ms : Fields Datum} {e new : Datum}
  {c : Datum.Change}

/-- New content is none of what was made with the record. -/
theorem not_brings (hnew : ∀ i ∈ new.containers, ∃ j, i = .copy seed j) (hs : run ≠ seed)
    {i : Identity} (hi : ∃ place, i = .part run place) : ¬Datum.Brings seed new i := by
  obtain ⟨place, rfl⟩ := hi
  rintro (h | ⟨q, hq⟩)
  · obtain ⟨j, hj⟩ := hnew _ h
    cases hj
  · exact hs (Identity.part.inj hq).1

theorem put (h : ms.Isolated run k d?) (hk : seg ≠ k)
    (hnew : ∀ d ∈ d?, d.containers.Disjoint e.containers) :
    (Fields.put ms seg e).Isolated run k d? where
  stays := by rw [get?_put, if_neg (Ne.symm hk), h.stays]
  made := h.made
  alone := fun d hd f hf hne => by
    rcases mem_put hf with rfl | hf
    · exact hnew d hd
    · exact h.alone d hd f hf hne

/-- A change of a container that stands under another key. -/
theorem apply (h : ms.Isolated run k d?) (hk : seg ≠ k) (he : ms.get? seg = some e)
    (hc : c.container ∈ e.containers)
    (hnew : ∀ d ∈ d?, d.containers.Disjoint c.content.containers) :
    (mapValues (Datum.apply c) ms).Isolated run k d? where
  stays := by
    rw [get?_mapValues, h.stays]
    cases d? with
    | none => rfl
    | some d =>
      have hcontainer : c.container ∉ d.containers := fun hd =>
        h.alone d rfl _ (mem_of_get? he) hk hd hc
      rw [Option.map_some, Datum.apply_of_not_mem hcontainer]
  made := h.made
  alone := fun d hd f hf hne i hi hif => by
    obtain ⟨g, hg, rfl⟩ := List.mem_map.1 hf
    rcases Datum.mem_containers_apply hif with hif | hif
    · exact h.alone d hd g hg hne hi hif
    · exact hnew d hd hi hif

end Fields.Isolated

namespace Record

variable {run seed : Seed} {k seg : Text} {rest : List Text} {d? : Option Datum} {p : KeyPath}
  {r r' : Record} {paths paths' : List Text} {level : Nat}

/-- The same of a record that is a mapping. -/
def Isolated (run : Seed) (k : Text) (d? : Option Datum) (r : Record) : Prop :=
  ∃ ms, r.root = .fields ms ∧ Fields.Isolated run k d? ms

/-- At the start every member stands alone. -/
theorem isolated_ofValue (run : Seed) (k : Text) (fs : Fields Value) :
    (ofValue run (.map fs)).Isolated run k
      ((fs.get? k).map (Datum.ofValue run [.key k])) := by
  have hpart {name : Text} {v : Value} {i : Identity}
      (hi : i ∈ (Datum.ofValue run [.key name] v).containers) :
      ∃ place, i = .part run (place ++ [.key name]) := Datum.part_of_mem_containers hi
  refine ⟨_, rfl, Datum.get?_ofFields run [] fs k, fun d hd i hi => ?_,
    fun d hd f hf hne i hi hif => ?_⟩
  · obtain ⟨v, -, rfl⟩ := Option.map_eq_some_iff.1 hd
    obtain ⟨place, rfl⟩ := hpart hi
    exact ⟨_, rfl⟩
  · obtain ⟨v, -, rfl⟩ := Option.map_eq_some_iff.1 hd
    rw [Datum.ofFields_eq] at hf
    obtain ⟨g, -, rfl⟩ := List.mem_map.1 hf
    obtain ⟨place, rfl⟩ := hpart hi
    obtain ⟨place', he⟩ := hpart hif
    exact hne (Slot.key.inj (path_inj.1 (Identity.part.inj he).2).2).symm

theorem Isolated.set {held : List Datum} {ms : Fields Datum} {new : Datum}
    (h : ms.Isolated run k d?) (hp : p.segments = seg :: rest) (hk : seg ≠ k) (hs : run ≠ seed)
    (hnew : ∀ i ∈ new.containers, ∃ j, i = .copy seed j)
    (hset : Record.set ⟨.fields ms, held⟩ p seed new = .ok r') : r'.Isolated run k d? := by
  rw [← Datum.containers_anchor] at hnew
  have hfresh {e : Datum} (he : ∀ i ∈ e.containers, Datum.Brings seed new.anchor i) :
      ∀ d ∈ d?, d.containers.Disjoint e.containers := fun d hd i hi hie =>
    Fields.Isolated.not_brings hnew hs (h.made d hd i hi) (he i hie)
  obtain ⟨segs⟩ := p
  obtain rfl : segs = seg :: rest := hp
  cases rest with
  | nil =>
    obtain rfl := Except.ok.inj hset
    exact ⟨_, rfl, h.put hk (hfresh fun i hi => .inl hi)⟩
  | cons next rest =>
    have hnest := h.put hk (hfresh (e := .nest seed new.anchor [] (next :: rest)) fun i hi =>
      Datum.brings_of_nest hi)
    rw [Record.set] at hset
    dsimp only at hset
    split at hset
    · obtain rfl := Except.ok.inj hset
      exact ⟨_, rfl, hnest⟩
    · obtain rfl := Except.ok.inj hset
      exact ⟨_, rfl, hnest⟩
    · rename_i e _ he
      obtain ⟨c, hc, rfl⟩ := map_eq_ok.1 hset
      obtain ⟨v, -, hmakes⟩ := (Datum.change_agrees _ _ _ _ _ _).exists_right hc
      exact ⟨_, rfl, h.apply hk he hmakes.mem (hfresh fun i hi => Datum.brings_of_change hc hi)⟩

/-- A write that starts at another key leaves a member that stands alone. -/
theorem Isolated.write (h : r.Isolated run k d?) (hp : p.segments = seg :: rest) (hk : seg ≠ k)
    (hs : run ≠ seed) (new : Datum) : (r.write p seed new).1.Isolated run k d? := by
  obtain ⟨root, held⟩ := r
  obtain ⟨ms, hms, hisolated⟩ := h
  obtain rfl : root = .fields ms := hms
  have hcopied : ∀ i ∈ (new.copy seed).containers, ∃ j, i = .copy seed j := by
    rw [Datum.containers_copy]
    intro i hi
    obtain ⟨j, -, rfl⟩ := List.mem_map.1 hi
    exact ⟨j, rfl⟩
  rw [Record.write]
  split
  · rename_i r' hset
    exact Isolated.set hisolated hp hk hs hcopied hset
  · rw [remains_eq ⟨ms, rfl⟩]
    exact ⟨ms, rfl, hisolated⟩

/-! ### Writes one after another -/

/-- What writes at paths can make of a record; their seeds lie below a level. -/
inductive Writes (level : Nat) (paths : List Text) (r : Record) : Record → Prop
  | refl : Writes level paths r r
  | write {r' : Record} {path : Text} {p : KeyPath} {seed : Seed} (new : Datum) :
    Writes level paths r r' → path ∈ paths → KeyPath.ofText path = .ok p →
    level < seed.path.length → Writes level paths r (r'.write p seed new).1

namespace Writes

theorem mono (h : Writes level paths r r') (hsub : ∀ path ∈ paths, path ∈ paths') :
    Writes level paths' r r' := by
  induction h with
  | refl => exact .refl
  | write new _ hpath hp hs ih => exact .write new ih (hsub _ hpath) hp hs

theorem trans {r'' : Record} (h : Writes level paths r r') (h' : Writes level paths r' r'') :
    Writes level paths r r'' := by
  induction h' with
  | refl => exact h
  | write new _ hpath hp hs ih => exact .write new ih hpath hp hs

/-- A write at one path. -/
theorem single {path : Text} (r : Record) (new : Datum) (hp : KeyPath.ofText path = .ok p)
    (hs : level < seed.path.length) : Writes level [path] r (r.write p seed new).1 :=
  .write new .refl (List.mem_singleton_self path) hp hs

/-- Writes at paths that do not touch a key leave its member, if that stands alone. -/
theorem isolated (h : Writes run.path.length paths r r') (hr : r.Isolated run k d?)
    (hk : ∀ path ∈ paths, ¬Touches k path) : r'.Isolated run k d? := by
  induction h with
  | refl => exact hr
  | write new _ hpath hp hs ih =>
    obtain ⟨seg, rest, hseg, hne⟩ := KeyPath.exists_head hp (hk _ hpath)
    refine ih.write hseg hne (fun he => ?_) new
    rw [he] at hs
    exact Nat.lt_irrefl _ hs

end Writes

/-- The value of a member that stands alone. -/
theorem Isolated.field? (h : r.Isolated run k d?) : r.value.field? k = d?.map Datum.value := by
  obtain ⟨root, held⟩ := r
  obtain ⟨ms, hms, hisolated⟩ := h
  obtain rfl : root = .fields ms := hms
  rw [value_fields, Value.field?, Fields.get?_mapValues, hisolated.stays]

end Record
end RuleLedger
