import RuleLedger.Proofs.Primitive.Writes
import RuleLedger.Proofs.Record.Distinct

/-! A state mutator on a record of any kind. Main statement: it reports success and its value is
read back at its path, or it reports none and leaves the record as it was, except for a list that a
mapping should take the place of. -/
namespace RuleLedger

variable {c : Call} {s : Seed} {v : Value}

/-- Data without callables are kept as they are. -/
theorem Datum.value_anchor {d : Datum} (h : d.value.isData = true) : d.anchor.value = d.value := by
  induction d with
  | list i xs ih =>
    rw [value_list, Value.isData_list, List.forall_mem_map] at h
    rw [anchor, anchorItems_eq, value_list, value_list, List.map_map]
    exact congrArg Value.list (List.map_congr_left fun x hx => ih x hx (h x hx))
  | map i fs ih =>
    rw [value_map, Value.isData_map, Fields.mapValues, List.forall_mem_map] at h
    rw [anchor, anchorFields_eq, value_map, value_map, Fields.mapValues, Fields.mapValues,
      Fields.mapValues, List.map_map]
    exact congrArg Value.map (List.map_congr_left fun f hf =>
      congrArg (Prod.mk f.1) (ih f hf (h f hf)))
  | method i r m => cases h
  | _ => rfl

/-- The fields of an outcome as the engine passes them on; a fault is an error by then. -/
def Outcome.rendered (o : Outcome) : Fields Datum :=
  (RunState.settle "STATE_MUTATOR" o.answer).rendered

/-- Whether the value of a call is read in a record at the path of the call. An expression helper
inside it counts as the text that shows it. -/
def Call.IsReadIn (c : Call) (r : Record) : Prop :=
  ∃ path p d, c.inputValue "path" = .str path ∧ KeyPath.ofText path = .ok p ∧
    r.get? c.seed p = .ok (some d) ∧ d.value.essence = (c.inputValue "value").essence ∧
    ((c.inputValue "value").isData = true → d.value = c.inputValue "value")

/-- What is written into a record is read back. -/
theorem isReadIn_write {path : Text} {p : KeyPath} {r : Record} (hr : c.record.IsDistinct)
    (hpath : c.inputValue "path" = .str path) (hp : KeyPath.ofText path = .ok p)
    (hw : c.record.write p c.seed (c.input "value") = (r, none)) : c.IsReadIn r := by
  have hget := hr.get?_of_write hw
  rw [← r.get?_value c.seed] at hget
  obtain ⟨d?, hd, hvalue⟩ := map_eq_ok.1 hget
  obtain ⟨d, rfl, hdvalue⟩ := Option.map_eq_some_iff.1 hvalue
  refine ⟨path, p, d, hpath, hp, hd, ?_, fun hdata => ?_⟩
  · rw [hdvalue, Datum.essence_anchor, Datum.value_copy]
    rfl
  · rw [hdvalue, Datum.value_anchor] <;> rw [Datum.value_copy]
    · rfl
    · exact hdata

/-- Only the wildcard spells a path without segments. -/
theorem eq_wildcardText_of_segments {path : Text} {p : KeyPath} (hp : KeyPath.ofText path = .ok p)
    (h : p.segments = []) : path = KeyPath.wildcardText := by
  rw [KeyPath.ofText] at hp
  split_ifs at hp with hempty hwild
  · exact hwild
  · dsimp only at hp
    split_ifs at hp
    obtain rfl := Except.ok.inj hp
    exact absurd (List.map_eq_nil_iff.1 h) (Text.splitList_ne_nil _ _)

/-- The record of a value is a list only if the value is one, and then as empty as the value. -/
theorem list_of_root {i : Identity} {xs : List Datum}
    (h : (Record.ofValue s v).root = .other (.list i xs)) : xs = [] ∨ ∃ w ws, v = .list (w :: ws) := by
  cases v with
  | list vs =>
    cases vs with
    | nil =>
      obtain ⟨-, rfl⟩ := Datum.list.inj (Root.other.inj h)
      exact .inl rfl
    | cons w ws => exact .inr ⟨w, ws, rfl⟩
  | helper f => cases f <;> cases h
  | _ => cases h

/-- A state mutator on the record of a JSON value reports success, and then its value is read at its
path; or it does not, and the record is the one before the call. Only where the record is a list
with items and a mapping is to replace the whole of it, the list is emptied and the call fails. -/
theorem stateMutator_atomic (hv : v.isJson = true) (hc : c.record = .ofValue s v) :
    ((stateMutator c).rendered.get? "success" = some (.bool true) ∧
      c.IsReadIn (stateMutator c).record) ∨
    ((stateMutator c).rendered.get? "success" ≠ some (.bool true) ∧
      (stateMutator c).record = c.record) ∨
    ((∃ w ws, v = .list (w :: ws)) ∧ c.inputValue "path" = .str KeyPath.wildcardText ∧
      (∃ i fs, c.input "value" = .map i fs) ∧
      (stateMutator c).answer = .raised (.kind (.noMember "list" "update")) ∧
      (stateMutator c).record.value = .list []) := by
  obtain ⟨hkept, hfalse⟩ | ⟨path, p, hpath, hp, ⟨hnone, ho⟩ | ⟨f, hf, ho⟩⟩ := stateMutator_cases c
  · refine .inr (.inl ⟨fun h => ?_, hkept⟩)
    cases hfalse _ h
  · rw [ho]
    have hdistinct : c.record.IsDistinct := hc ▸ Record.isDistinct_ofValue hv s
    exact .inl ⟨rfl, isReadIn_write hdistinct hpath hp (Prod.ext rfl hnone)⟩
  · obtain hkept | ⟨hsegs, i, xs, j, fs, hroot, hmap, hleft, rfl⟩ :=
      Record.write_fails (Prod.ext rfl hf : c.record.write p c.seed (c.input "value") = (_, some f))
    · rw [ho]
      exact .inr (.inl ⟨nofun, hkept⟩)
    · have hafter : (stateMutator c).record = ⟨.other (.list i []), c.record.held⟩ := by
        rw [ho]
        exact hleft
      have hraised : (stateMutator c).answer = .raised (.kind (.noMember "list" "update")) := by
        rw [ho]
      obtain rfl | hitems := list_of_root (hc ▸ hroot)
      · refine .inr (.inl ⟨fun h => ?_, hafter.trans ?_⟩)
        · rw [Outcome.rendered, hraised] at h
          cases h
        · rw [← hroot]
      · exact .inr (.inr ⟨hitems, eq_wildcardText_of_segments hp hsegs ▸ hpath, ⟨j, fs, hmap⟩, hraised,
          congrArg Record.value hafter⟩)

/-- The call of a state mutator on the record of a value. -/
def mutating (record : Value) (path : Text) (new : Value) : Call :=
  ⟨[("path", .str path), ("value", .plain new)], .ofValue ⟨[]⟩ record, ⟨0⟩, ⟨[0]⟩⟩

theorem stateMutator_atomic_item :
    (stateMutator (mutating (.list [.map [("a", .int 1)]]) "0.b" (.int 5))).rendered.get?
        "success" = some (.bool true) ∧
      (mutating (.list [.map [("a", .int 1)]]) "0.b" (.int 5)).IsReadIn
        (stateMutator (mutating (.list [.map [("a", .int 1)]]) "0.b" (.int 5))).record := by
  have hsuccess : (stateMutator (mutating (.list [.map [("a", .int 1)]]) "0.b"
      (.int 5))).rendered.get? "success" = some (.bool true) := rfl
  obtain h | ⟨h, -⟩ | ⟨-, hpath, -⟩ := stateMutator_atomic
    (c := mutating (.list [.map [("a", .int 1)]]) "0.b" (.int 5)) (s := ⟨[]⟩)
    (v := .list [.map [("a", .int 1)]]) rfl rfl
  · exact h
  · exact absurd hsuccess h
  · exact absurd (Value.str.inj hpath) (by decide)

/-- Where a mapping is to replace a list with an item, there is no success, and the item is lost. -/
theorem stateMutator_empties :
    ¬((stateMutator (mutating (.list [.int 1]) "*" (.map []))).rendered.get? "success" =
          some (.bool true) ∧
        (mutating (.list [.int 1]) "*" (.map [])).IsReadIn
          (stateMutator (mutating (.list [.int 1]) "*" (.map []))).record ∨
      (stateMutator (mutating (.list [.int 1]) "*" (.map []))).record =
        (mutating (.list [.int 1]) "*" (.map [])).record) := by
  rintro (⟨h, -⟩ | h)
  · cases h
  · cases congrArg Record.value h

end RuleLedger
