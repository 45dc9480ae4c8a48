import RuleLedger.Proofs.Record.Pervasive
import RuleLedger.Proofs.Record.Sole

/-! Records on one clock. A record can hold the generator of timestamps, in a list that a template
wrote. Main statement: if all that are held tell the time of one clock, the same goes after a write
of a datum of which this holds. -/
namespace RuleLedger

variable {K : Clock} {d new : Datum} {i : Identity} {xs : List Datum} {fs : List (Text × Datum)}

/-- The clock of a generator of timestamps. -/
def Helper.clock? : Helper → Option Clock
  | .now clock => some clock
  | _ => none

/-- Every generator of timestamps in a datum tells the time of one clock. -/
inductive Datum.Clocked (K : Clock) : Datum → Prop
  | content {d : Datum} : d.identity? = none → Clocked K d
  | list {i : Identity} {xs : List Datum} : (∀ x ∈ xs, Clocked K x) → Clocked K (.list i xs)
  | map {i : Identity} {fs : List (Text × Datum)} : (∀ f ∈ fs, Clocked K f.2) →
    Clocked K (.map i fs)
  | group {i : Identity} {g : Group} {ms : List (Text × Datum)} : (∀ m ∈ ms, Clocked K m.2) →
    Clocked K (.group i g ms)
  | helper {i : Identity} {h : Helper} : h.clock? = none → Clocked K (.helper i h)
  | now {i : Identity} : Clocked K (.helper i (.now K))
  | method {i : Identity} {r : Datum} {m : Method} : Clocked K (.method i r m)

namespace Datum

theorem clocked_list : (list i xs).Clocked K ↔ ∀ x ∈ xs, x.Clocked K := by
  refine ⟨fun h => ?_, .list⟩
  cases h with
  | content h => cases h
  | list h => exact h

theorem clocked_map : (map i fs).Clocked K ↔ ∀ f ∈ fs, f.2.Clocked K := by
  refine ⟨fun h => ?_, .map⟩
  cases h with
  | content h => cases h
  | map h => exact h

theorem clocked_group {g : Group} : (group i g fs).Clocked K ↔ ∀ m ∈ fs, m.2.Clocked K := by
  refine ⟨fun h => ?_, .group⟩
  cases h with
  | content h => cases h
  | group h => exact h

theorem clocked_helper {h : Helper} :
    (helper i h).Clocked K ↔ h.clock? = none ∨ h = .now K := by
  constructor
  · intro hh
    cases hh with
    | content h => cases h
    | helper h => exact .inl h
    | now => exact .inr rfl
  · rintro (h | rfl)
    · exact .helper h
    · exact .now

theorem clocked_pervasive (K : Clock) : Pervasive (Clocked K) :=
  ⟨fun _ _ => clocked_list, fun _ _ => clocked_map⟩

/-- Data hold no generators. -/
theorem clocked_of_isData (h : d.value.isData = true) : d.Clocked K := by
  induction d with
  | list i xs ih =>
    rw [value_list, Value.isData_list, List.forall_mem_map] at h
    exact .list fun x hx => ih x hx (h x hx)
  | map i fs ih =>
    rw [value_map, Value.isData_map, Fields.mapValues, List.forall_mem_map] at h
    exact .map fun f hf => ih f hf (h f hf)
  | group | helper | method => cases h
  | _ => exact .content rfl

theorem clocked_plain {v : Value} (h : v.isThing = false) : (plain v).Clocked K := by
  cases v with
  | list | map | helper | method => cases h
  | _ => exact .content rfl

namespace Clocked

theorem copy (h : d.Clocked K) (s : Seed) : (d.copy s).Clocked K := by
  induction h with
  | @content d h =>
    cases d with
    | list | map | group | helper | method => cases h
    | _ => exact .content rfl
  | list _ ih =>
    rw [copy_list]
    exact .list (List.forall_mem_map.2 ih)
  | map _ ih =>
    rw [copy_map]
    exact .map (List.forall_mem_map.2 ih)
  | group _ ih =>
    rw [copy_group]
    exact .group (List.forall_mem_map.2 ih)
  | helper h => exact .helper h
  | now => exact .now
  | method => exact .method

theorem anchor (h : d.Clocked K) : d.anchor.Clocked K := by
  induction h with
  | @content d h =>
    cases d with
    | list | map | group | helper | method => cases h
    | _ => exact .content rfl
  | list _ ih =>
    rw [Datum.anchor, anchorItems_eq]
    exact .list (List.forall_mem_map.2 ih)
  | map _ ih =>
    rw [Datum.anchor, anchorFields_eq]
    exact .map (List.forall_mem_map.2 ih)
  | group h => exact .group h
  | helper h => exact .helper h
  | now => exact .now
  | @method i r m => cases r <;> exact .method

end Clocked
end Datum

namespace Record

variable {r : Record}

/-- A record that is a mapping and holds no generator of another clock. -/
def Clocked (K : Clock) (r : Record) : Prop :=
  ∃ ms, r.root = .fields ms ∧ ∀ m ∈ ms, m.2.Clocked K

theorem Clocked.isMapping (h : r.Clocked K) : r.IsMapping := by
  obtain ⟨ms, hms, -⟩ := h
  exact ⟨ms, hms⟩

/-- A record stays on its clock when a datum on that clock is written. -/
theorem Clocked.write (h : r.Clocked K) (p : KeyPath) (s : Seed) (hn : new.Clocked K) :
    (r.write p s new).1.Clocked K := by
  obtain ⟨root, held⟩ := r
  obtain ⟨ms, hms, hclocked⟩ := h
  obtain rfl : root = .fields ms := hms
  rw [Record.write]
  split
  · rename_i r' hset
    exact set_pervades (Datum.clocked_pervasive K) hclocked (hn.copy s).anchor hset
  · rw [remains_eq ⟨ms, rfl⟩]
    exact ⟨ms, rfl, hclocked⟩

end Record
end RuleLedger
