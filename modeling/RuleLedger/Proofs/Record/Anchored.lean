import RuleLedger.Proofs.Record.Layer
import RuleLedger.Proofs.Record.Pervasive

/-! Anchored data: methods in them hold on to the record's own lists, so that nothing in them could
change apart from the record. Copies and writes keep data anchored. -/
namespace RuleLedger
namespace Datum

/-- Whether methods in a datum keep no more of their lists than the identity. -/
def IsAnchored (d : Datum) : Prop := ∀ r ∈ d.receivers, ∃ i, r = .list i []

variable {d new : Datum} {fs : Fields Datum} {xs : List Datum} {i : Identity} {s : Seed}

theorem isAnchored_list : (list i xs).IsAnchored ↔ ∀ x ∈ xs, x.IsAnchored := by
  simp only [IsAnchored, receivers, itemReceivers_eq, List.mem_flatMap]
  exact ⟨fun h x hx r hr => h r ⟨x, hx, hr⟩, fun h r hr => by
    obtain ⟨x, hx, hr⟩ := hr
    exact h x hx r hr⟩

theorem isAnchored_map : (map i fs).IsAnchored ↔ ∀ f ∈ fs, f.2.IsAnchored := by
  simp only [IsAnchored, receivers, fieldReceivers_eq, List.mem_flatMap]
  exact ⟨fun h f hf r hr => h r ⟨f, hf, hr⟩, fun h r hr => by
    obtain ⟨f, hf, hr⟩ := hr
    exact h f hf r hr⟩

/-- The receivers in a mapping are those in its members. -/
theorem exists_receiver_map {p : Datum → Prop} :
    (∃ r ∈ (map i fs).receivers, p r) ↔ ∃ f ∈ fs, ∃ r ∈ f.2.receivers, p r := by
  rw [receivers, fieldReceivers_eq]
  simp only [List.mem_flatMap]
  constructor
  · rintro ⟨r, ⟨f, hm, hr⟩, hp⟩
    exact ⟨f, hm, r, hr, hp⟩
  · rintro ⟨f, hm, r, hr, hp⟩
    exact ⟨r, ⟨f, hm, hr⟩, hp⟩

theorem isAnchored_anchor (d : Datum) : d.anchor.IsAnchored := by
  induction d with
  | list i xs ih =>
    rw [anchor, anchorItems_eq, isAnchored_list]
    exact List.forall_mem_map.2 ih
  | map i fs ih =>
    rw [anchor, anchorFields_eq, isAnchored_map]
    exact List.forall_mem_map.2 ih
  | method i r m =>
    cases r with
    | list j xs => exact List.forall_mem_singleton.2 ⟨j, rfl⟩
    | _ => exact List.forall_mem_nil _
  | _ => exact List.forall_mem_nil _

/-- A copied method keeps its receiver. -/
theorem receivers_copy (s : Seed) (d : Datum) : (d.copy s).receivers = d.receivers := by
  induction d with
  | list i xs ih =>
    rw [copy_list, receivers, receivers, itemReceivers_eq, itemReceivers_eq, List.flatMap_map]
    exact List.flatMap_congr ih
  | map i fs ih =>
    rw [copy_map, receivers, receivers, fieldReceivers_eq, fieldReceivers_eq, Fields.mapValues,
      List.flatMap_map]
    exact List.flatMap_congr ih
  | method i r m => cases r <;> rfl
  | _ => rfl

theorem IsAnchored.copy (h : d.IsAnchored) (s : Seed) : (d.copy s).IsAnchored := by
  rw [IsAnchored, receivers_copy]
  exact h

/-- JSON values hold no methods. -/
theorem isAnchored_ofValue {v : Value} (hv : v.isJson = true) (q : Place) :
    (ofValue s q v).IsAnchored := by
  induction v generalizing q with
  | list xs ih =>
    rw [Value.isJson, Value.all_list] at hv
    exact isAnchored_list.2 (forall_mem_ofItems (fun x hx => ih x hx (hv.2 x hx)) q 0)
  | map fs ih =>
    rw [Value.isJson_map] at hv
    exact isAnchored_map.2 (forall_mem_ofFields (fun f hf => ih f hf (hv.2 f hf)) q)
  | helper h => cases hv
  | method r m => cases hv
  | _ => exact List.forall_mem_nil _

theorem isAnchored_pervasive : Pervasive IsAnchored :=
  ⟨fun _ _ => isAnchored_list, fun _ _ => isAnchored_map⟩

theorem IsAnchored.nest (h : new.IsAnchored) (s : Seed) (q : Place) (segs : List Text) :
    (nest s new q segs).IsAnchored :=
  isAnchored_pervasive.nest h s q segs

theorem isAnchored_fields_put (h : ∀ f ∈ fs, f.2.IsAnchored) (hn : new.IsAnchored) (k : Text) :
    ∀ f ∈ fs.put k new, f.2.IsAnchored :=
  forall_mem_put h hn k

theorem IsAnchored.put (h : d.IsAnchored) (slot : Slot) (hn : new.IsAnchored) :
    (Datum.put slot new d).IsAnchored :=
  isAnchored_pervasive.put h hn slot

theorem IsAnchored.apply {c : Change} (hc : c.content.IsAnchored) (h : d.IsAnchored) :
    (d.apply c).IsAnchored :=
  isAnchored_pervasive.apply hc h

@[simp] theorem identity?_put (slot : Slot) (new d : Datum) :
    (put slot new d).identity? = d.identity? := by
  cases d <;> cases slot <;> rfl

@[simp] theorem identity?_apply (c : Change) (d : Datum) :
    (d.apply c).identity? = d.identity? := by
  cases d with
  | list i xs =>
    rw [apply]
    split_ifs
    · rw [identity?_put]
    · rfl
  | map i fs =>
    rw [apply]
    split_ifs
    · rw [identity?_put]
    · rfl
  | _ => rfl

end Datum

end RuleLedger
