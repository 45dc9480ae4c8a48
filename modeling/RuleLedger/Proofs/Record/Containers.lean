import Mathlib.Data.List.Nodup
import RuleLedger.Proofs.Record.TwinRecords

/-! The lists and mappings inside data, with every place at which one stands. Data of one value in
which none of them stands at two places are twins, as soon as those at the same places belong
together. -/
namespace RuleLedger

namespace Datum

mutual

/-- The lists and mappings of a datum, one for each place where one stands. -/
def containers : Datum → List Identity
  | .list i xs => i :: itemContainers xs
  | .map i fs => i :: fieldContainers fs
  | _ => []

def itemContainers : List Datum → List Identity
  | [] => []
  | d :: ds => d.containers ++ itemContainers ds

def fieldContainers : List (Text × Datum) → List Identity
  | [] => []
  | (_, d) :: fs => d.containers ++ fieldContainers fs

end

theorem itemContainers_eq (xs : List Datum) : itemContainers xs = xs.flatMap containers := by
  induction xs with
  | nil => rfl
  | cons x xs ih => rw [itemContainers, ih, List.flatMap_cons]

theorem fieldContainers_eq (fs : List (Text × Datum)) :
    fieldContainers fs = fs.flatMap fun f => f.2.containers := by
  induction fs with
  | nil => rfl
  | cons f fs ih => rw [fieldContainers, ih, List.flatMap_cons]

theorem containers_list (i : Identity) (xs : List Datum) :
    (list i xs).containers = i :: xs.flatMap containers := by rw [containers, itemContainers_eq]

theorem containers_map (i : Identity) (fs : List (Text × Datum)) :
    (map i fs).containers = i :: fs.flatMap fun f => f.2.containers := by
  rw [containers, fieldContainers_eq]

end Datum

namespace Record

/-- The lists and mappings of a record, the record itself aside where it is a mapping. -/
def containers (r : Record) : List Identity :=
  match r.root with
  | .fields ms => Datum.fieldContainers ms
  | .other d => d.containers

end Record

namespace Pairing

variable {P : Pairing} {d e : Datum} {fs gs : Fields Datum}

/-- Twins hold what belongs together at the same places. -/
theorem Twins.containers (h : P.Twins d e) :
    List.Forall₂ (fun i j => P.things i j ∧ i.isMade = true) d.containers e.containers := by
  induction d generalizing e with
  | list i xs ih =>
    cases h with
    | list hij hi hxs =>
      rw [Datum.containers_list, Datum.containers_list]
      exact .cons ⟨hij, hi⟩ (forall₂_flatMap hxs fun x hx _ => ih x hx)
  | map i fs ih =>
    cases h with
    | map hij hi _ hfs =>
      rw [Datum.containers_map, Datum.containers_map]
      exact .cons ⟨hij, hi⟩ (forall₂_flatMap hfs fun f hf _ hfg => ih f hf hfg.twins)
  | _ =>
    cases h
    exact .nil

theorem TwinRecords.containers {r r' : Record} (h : P.TwinRecords r r') :
    List.Forall₂ (fun i j => P.things i j ∧ i.isMade = true) r.containers r'.containers := by
  obtain ⟨root, held⟩ := r
  obtain ⟨root', held'⟩ := r'
  have hroot := h.root
  cases hroot with
  | @fields fs gs hfs =>
    change List.Forall₂ _ (Datum.fieldContainers fs) (Datum.fieldContainers gs)
    rw [Datum.fieldContainers_eq, Datum.fieldContainers_eq]
    exact forall₂_flatMap hfs.2 fun f _ _ hfg => hfg.twins.containers
  | other hd _ => exact hd.containers

end Pairing

/-! ### Fresh data -/

namespace Datum

variable {s : Seed}

/-- Whether these are distinct lists and mappings, all made at a seed below a place. -/
def Below (s : Seed) (q : Place) (is : List Identity) : Prop :=
  is.Nodup ∧ ∀ i ∈ is, ∃ p, i = .part s (p ++ q)

/-- What is made in different slots of one place. -/
theorem below_flatMap {α : Type} {q : Place} {as : List α} (slot : α → Slot)
    {f : α → List Identity} (hslots : as.Pairwise fun a b => slot a ≠ slot b)
    (h : ∀ a ∈ as, Below s (slot a :: q) (f a)) : Below s q (.part s q :: as.flatMap f) := by
  have hplace : ∀ i ∈ as.flatMap f, ∃ a ∈ as, ∃ p, i = .part s (p ++ slot a :: q) := by
    intro i hi
    obtain ⟨a, ha, hi⟩ := List.mem_flatMap.1 hi
    exact ⟨a, ha, (h a ha).2 i hi⟩
  refine ⟨List.nodup_cons.2 ⟨fun hi => ?_, List.nodup_flatMap.2 ⟨fun a ha => (h a ha).1, ?_⟩⟩,
    List.forall_mem_cons.2 ⟨⟨[], rfl⟩, fun i hi => ?_⟩⟩
  · obtain ⟨a, -, p, hp⟩ := hplace _ hi
    have hl := congrArg List.length (Identity.part.inj hp).2
    rw [List.length_append, List.length_cons] at hl
    omega
  · refine (List.Pairwise.and_mem.1 hslots).imp fun {a b} hab i hi hj => ?_
    obtain ⟨ha, hb, hne⟩ := hab
    obtain ⟨p, rfl⟩ := (h a ha).2 i hi
    obtain ⟨p', hp'⟩ := (h b hb).2 _ hj
    exact hne (path_inj.1 (Identity.part.inj hp').2).2
  · obtain ⟨a, -, p, rfl⟩ := hplace i hi
    exact ⟨p ++ [slot a], by rw [List.append_assoc, List.singleton_append]⟩

theorem itemContainers_ofItems (s : Seed) (q : Place) (n : Nat) (xs : List Value) :
    itemContainers (ofItems s q n xs) =
      (xs.zipIdx n).flatMap fun x => (ofValue s (.item x.2 :: q) x.1).containers := by
  induction xs generalizing n with
  | nil => rfl
  | cons x xs ih => rw [ofItems, itemContainers, ih, List.zipIdx_cons, List.flatMap_cons]

theorem fieldContainers_ofFields (s : Seed) (q : Place) (fs : List (Text × Value)) :
    fieldContainers (ofFields s q fs) =
      fs.flatMap fun f => (ofValue s (.key f.1 :: q) f.2).containers := by
  induction fs with
  | nil => rfl
  | cons f fs ih => rw [ofFields, fieldContainers, ih, List.flatMap_cons]

/-- What is made of a JSON value holds every list and mapping at one place only. -/
theorem below_ofValue {v : Value} (hv : v.isJson = true) (q : Place) :
    Below s q (ofValue s q v).containers := by
  induction v generalizing q with
  | list xs ih =>
    rw [Value.isJson, Value.all_list] at hv
    rw [ofValue, containers, itemContainers_ofItems]
    refine below_flatMap (fun x => .item x.2) ?_ fun x hx => ?_
    · have hindex : ((xs.zipIdx 0).map Prod.snd).Nodup := by
        rw [List.zipIdx_map_snd]
        exact List.nodup_range'
      exact (List.pairwise_map.1 hindex).imp fun hne hslot => hne (Slot.item.inj hslot)
    · have hmem := List.fst_mem_of_mem_zipIdx hx
      exact ih x.1 hmem (hv.2 x.1 hmem) _
  | map fs ih =>
    rw [Value.isJson_map] at hv
    rw [ofValue, containers, fieldContainers_ofFields]
    refine below_flatMap (fun f => .key f.1) ?_ fun f hf => ih f hf (hv.2 f hf) _
    exact (List.pairwise_map.1 hv.1).imp fun hne hkey => hne (Slot.key.inj hkey)
  | helper h => cases hv
  | method r m => cases hv
  | _ => exact ⟨.nil, List.forall_mem_nil _⟩

end Datum

/-- The same of a record that is made of a JSON value. -/
theorem Record.below_ofValue {s : Seed} {v : Value} (hv : v.isJson = true) :
    Datum.Below s [] (Record.ofValue s v).containers := by
  have hbelow := Datum.below_ofValue (s := s) hv []
  cases v with
  | map fs =>
    rw [Datum.ofValue, Datum.containers] at hbelow
    exact ⟨(List.nodup_cons.1 hbelow.1).2, fun i hi => hbelow.2 i (List.mem_cons_of_mem _ hi)⟩
  | _ => exact hbelow

end RuleLedger
