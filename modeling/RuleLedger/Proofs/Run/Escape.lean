import RuleLedger.Proofs.Clock
import RuleLedger.Proofs.Hashable
import RuleLedger.Proofs.Run.Frame

/-! Faults that end a run. Main statement: with a clock that can be rendered, only two kinds of
faults end a run over the built-in primitives, an index that is made of digits and cannot be read,
and a value without a digest. -/
namespace RuleLedger

variable {α β : Type}

/-- A fault of reading an index in one of some paths. -/
def Fault.Misreads (paths : List Text) (f : Fault) : Prop :=
  ∃ path ∈ paths, ∃ p, KeyPath.ofText path = .ok p ∧
    ∃ seg ∈ p.segments, ∃ g, KeyPath.Unreadable seg g ∧ f = .numeric g

theorem Fault.Misreads.mono {paths paths' : List Text} {f : Fault}
    (hsub : ∀ path ∈ paths, path ∈ paths') (h : f.Misreads paths) : f.Misreads paths' := by
  obtain ⟨path, hpath, h⟩ := h
  exact ⟨path, hsub path hpath, h⟩

/-! ### Paths -/

namespace Datum

variable {d : Datum} {segs : List Text}

/-- A write below a datum fails at an index, or it is refused as one at a path. -/
theorem unreadable_of_change {p : KeyPath} {seed : Seed} {new : Datum} {seg : Text} {f : Fault}
    (h : change p seed new seg segs d = .error f) :
    (∃ g, f = .path g) ∨ ∃ seg' ∈ seg :: segs, ∃ g, KeyPath.Unreadable seg' g ∧ f = .numeric g := by
  induction segs generalizing seg d with
  | nil =>
    cases d with
    | list i xs =>
      rw [change] at h
      split at h
      · rename_i g hg
        obtain rfl := Except.error.inj h
        exact .inr ⟨seg, List.mem_cons_self, g, KeyPath.unreadable_of_index? hg, rfl⟩
      · obtain rfl := Except.error.inj h
        exact .inl ⟨_, rfl⟩
      · cases h
    | map i fs => cases h
    | _ =>
      obtain rfl := Except.error.inj h
      exact .inl ⟨_, rfl⟩
  | cons next rest ih =>
    have hbelow {e : Datum} (he : change p seed new next rest e = .error f) :
        (∃ g, f = .path g) ∨
          ∃ seg' ∈ seg :: next :: rest, ∃ g, KeyPath.Unreadable seg' g ∧ f = .numeric g := by
      obtain hg | ⟨seg', hmem, hf⟩ := ih he
      · exact .inl hg
      · exact .inr ⟨seg', List.mem_cons_of_mem _ hmem, hf⟩
    cases d with
    | list i xs =>
      rw [change] at h
      split at h
      · rename_i g hg
        obtain rfl := Except.error.inj h
        exact .inr ⟨seg, List.mem_cons_self, g, KeyPath.unreadable_of_index? hg, rfl⟩
      · obtain rfl := Except.error.inj h
        exact .inl ⟨_, rfl⟩
      · exact hbelow h
    | map i fs =>
      rw [change] at h
      split at h
      · cases h
      · cases h
      · exact hbelow h
    | _ =>
      obtain rfl := Except.error.inj h
      exact .inl ⟨_, rfl⟩

end Datum

namespace Record

variable {r : Record} {p : KeyPath} {seed : Seed}

theorem unreadable_of_write {new : Datum} {f : Fault} (hr : r.IsMapping)
    (h : (r.write p seed new).2 = some f) :
    (∃ g, f = .path g) ∨ ∃ seg ∈ p.segments, ∃ g, KeyPath.Unreadable seg g ∧ f = .numeric g := by
  obtain ⟨root, held⟩ := r
  obtain ⟨ms, hms⟩ := hr
  obtain rfl : root = .fields ms := hms
  rw [write] at h
  split at h
  · cases h
  · rename_i g hset
    obtain rfl := Option.some.inj h
    obtain ⟨_ | ⟨seg, _ | ⟨next, rest⟩⟩⟩ := p
    · rw [set] at hset
      dsimp only at hset
      split at hset
      · cases hset
      · obtain rfl := Except.error.inj hset
        exact .inl ⟨_, rfl⟩
    · cases hset
    · rw [set] at hset
      dsimp only at hset
      split at hset
      · cases hset
      · cases hset
      · obtain hg | ⟨seg', hmem, hf⟩ := Datum.unreadable_of_change (map_eq_error.1 hset)
        · exact .inl hg
        · exact .inr ⟨seg', List.mem_cons_of_mem _ hmem, hf⟩

theorem Writes.isMapping {level : Nat} {paths : List Text} {r' : Record}
    (h : Writes level paths r r') (hr : r.IsMapping) : r'.IsMapping := by
  induction h with
  | refl => exact hr
  | write new _ _ _ _ ih => exact isMapping_write ih _ _ new

end Record

/-! ### Steps -/

namespace RunState

variable {setup : Setup} {run seed : Seed} {step : Step} {s s' : RunState} {a : Abort} {ts : String}
  {inputs output : Value} {rendered : Fields Datum} {primitive : Text}

end RunState

/-! ### Runs -/

namespace Setup

end Setup
end RuleLedger
