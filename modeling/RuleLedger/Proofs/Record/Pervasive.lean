import RuleLedger.Proofs.Except
import RuleLedger.Proofs.Fields
import RuleLedger.Proofs.Record.Nested

/-! Properties that a list or a mapping has when all that it holds has them. Main statement: a write
of a datum with such a property into a mapping whose members have it leaves members that have it. -/
namespace RuleLedger
namespace Datum

variable {P : Datum → Prop} {d new : Datum} {fs : Fields Datum} {c : Change}

/-- A property of containers that is the property of all that they hold. -/
structure Pervasive (P : Datum → Prop) : Prop where
  list : ∀ i xs, P (.list i xs) ↔ ∀ x ∈ xs, P x
  map : ∀ i fs, P (.map i fs) ↔ ∀ f ∈ fs, P f.2

theorem forall_mem_put (h : ∀ f ∈ fs, P f.2) (hn : P new) (k : Text) :
    ∀ f ∈ fs.put k new, P f.2 := by
  intro f hf
  obtain rfl | hf := Fields.mem_put hf
  · exact hn
  · exact h f hf

namespace Pervasive

theorem nest (hP : Pervasive P) (hn : P new) (s : Seed) (q : Place) (segs : List Text) :
    P (nest s new q segs) := by
  induction segs generalizing q with
  | nil => exact hn
  | cons seg segs ih => exact (hP.map _ _).2 (List.forall_mem_singleton.2 (ih _))

theorem put (hP : Pervasive P) (hd : P d) (hn : P new) (slot : Slot) :
    P (Datum.put slot new d) := by
  cases d with
  | list i xs =>
    cases slot with
    | key k => exact hd
    | item n =>
      refine (hP.list _ _).2 fun x hx => ?_
      obtain hx | rfl := List.mem_or_eq_of_mem_set hx
      · exact (hP.list _ _).1 hd x hx
      · exact hn
  | map i fs =>
    cases slot with
    | key k => exact (hP.map _ _).2 (forall_mem_put ((hP.map _ _).1 hd) hn k)
    | item n => exact hd
  | _ => exact hd

/-- A change with content that has the property keeps it. -/
theorem apply (hP : Pervasive P) (hc : P c.content) (hd : P d) : P (d.apply c) := by
  induction d with
  | list i xs ih =>
    rw [Datum.apply]
    split_ifs
    · exact hP.put hd hc _
    · rw [applyItems_eq, hP.list]
      exact List.forall_mem_map.2 fun x hx => ih x hx ((hP.list _ _).1 hd x hx)
  | map i fs ih =>
    rw [Datum.apply]
    split_ifs
    · exact hP.put hd hc _
    · rw [applyFields_eq, hP.map]
      exact List.forall_mem_map.2 fun f hf => ih f hf ((hP.map _ _).1 hd f hf)
  | _ => exact hd

/-- A change puts nothing but new content into its container. -/
theorem change (hP : Pervasive P) (hn : P new) {p : KeyPath} {s : Seed} {seg : Text}
    {rest : List Text} (h : Datum.change p s new seg rest d = .ok c) : P c.content := by
  induction rest generalizing seg d with
  | nil =>
    cases d with
    | list j xs =>
      rw [Datum.change] at h
      dsimp only at h
      split at h
      · cases h
      · cases h
      · obtain rfl := Except.ok.inj h
        exact hn
    | map j fs =>
      obtain rfl := Except.ok.inj h
      exact hn
    | _ => cases h
  | cons next rest ih =>
    cases d with
    | list j xs =>
      rw [Datum.change] at h
      dsimp only at h
      split at h
      · cases h
      · cases h
      · exact ih h
    | map j fs =>
      rw [Datum.change] at h
      split at h
      · obtain rfl := Except.ok.inj h
        exact hP.nest hn _ _ _
      · obtain rfl := Except.ok.inj h
        exact hP.nest hn _ _ _
      · exact ih h
    | _ => cases h

end Pervasive
end Datum

namespace Record

/-- The members of a mapping after a write. -/
theorem set_pervades {P : Datum → Prop} (hP : Datum.Pervasive P) {ms : Fields Datum}
    {held : List Datum} {p : KeyPath} {s : Seed} {new : Datum} {r : Record}
    (hms : ∀ m ∈ ms, P m.2) (hn : P new.anchor)
    (h : set ⟨.fields ms, held⟩ p s new = .ok r) :
    ∃ ms', r.root = .fields ms' ∧ ∀ m ∈ ms', P m.2 := by
  obtain ⟨_ | ⟨seg, _ | ⟨next, rest⟩⟩⟩ := p
  · rw [set] at h
    dsimp only at h
    split at h
    · rename_i j fs hfs
      obtain rfl := Except.ok.inj h
      rw [hfs, hP.map] at hn
      exact ⟨fs, rfl, hn⟩
    · cases h
  · obtain rfl := Except.ok.inj h
    exact ⟨_, rfl, Datum.forall_mem_put hms hn seg⟩
  · have hnest := hP.nest hn s [] (next :: rest)
    rw [set] at h
    dsimp only at h
    split at h
    · obtain rfl := Except.ok.inj h
      exact ⟨_, rfl, Datum.forall_mem_put hms hnest seg⟩
    · obtain rfl := Except.ok.inj h
      exact ⟨_, rfl, Datum.forall_mem_put hms hnest seg⟩
    · obtain ⟨c, hc, rfl⟩ := map_eq_ok.1 h
      exact ⟨_, rfl, List.forall_mem_map.2 fun m hm => hP.apply (hP.change hn hc) (hms m hm)⟩

end Record
end RuleLedger
