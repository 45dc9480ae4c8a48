import RuleLedger.Proofs.KeyPath.Slots

/-! Writes in place. The walk of a write makes mappings while it goes down and may be stopped
further down. Main statement: a write that fails leaves the whole as it was, for nothing stops a
walk that has made a mapping. -/
namespace RuleLedger
namespace KeyPath

variable {p : KeyPath} {seg : Text} {rest : List Text} {v new : Value} {f : Fault}

/-! ### The walk -/

/-- The walk through one slot leaves in it what the walk below leaves. -/
theorem writeIn_cons (p : KeyPath) (new : Value) (seg : Text) (rest : List Text) (v : Value) :
    writeIn p new seg rest v =
      match slot? seg v with
      | .error f => (v, some (.numeric f))
      | .ok none => (v, some (.path (p.refusal v.kindName seg rest)))
      | .ok (some s) =>
        match rest with
        | [] => (v.fill s new, none)
        | next :: rest =>
          (v.fill s (writeIn p new next rest (v.entrance s)).1,
            (writeIn p new next rest (v.entrance s)).2) := by
  cases rest with
  | nil =>
    cases v with
    | list xs =>
      rw [writeIn, slot?]
      rcases index? seg xs.length with f | _ | i <;> rfl
    | _ => rfl
  | cons next rest =>
    cases v with
    | map fs =>
      rw [writeIn]
      dsimp only [slot?, Value.entrance]
      cases Fields.get? fs seg with
      | none => rfl
      | some u => cases u <;> rfl
    | list xs =>
      rw [writeIn, slot?]
      rcases index? seg xs.length with f | _ | i <;> rfl
    | _ => rfl

/-- Nothing stops a walk in a mapping that was made for it. -/
theorem writeIn_made (p : KeyPath) (new : Value) (seg : Text) (rest : List Text) :
    (writeIn p new seg rest (.map [])).2 = none := by
  induction rest generalizing seg with
  | nil => rfl
  | cons next rest ih => exact ih next

/-- A walk is stopped at a value, because the path does not go on or at a segment of digits that is
not read, or it is stopped below one of its slots. -/
theorem writeIn_stopped (h : (writeIn p new seg rest v).2 = some f) :
    ((writeIn p new seg rest v).1 = v ∧
      ((∃ g, f = .path g) ∨ ∃ g, Unreadable seg g ∧ f = .numeric g)) ∨
    ∃ s next below, slot? seg v = .ok (some s) ∧ rest = next :: below ∧
      (writeIn p new next below (v.entrance s)).2 = some f ∧
      (writeIn p new seg rest v).1 = v.fill s (writeIn p new next below (v.entrance s)).1 := by
  rw [writeIn_cons] at h ⊢
  rcases hs : slot? seg v with g | _ | s <;> rw [hs] at h
  · obtain rfl := Option.some.inj h
    exact .inl ⟨rfl, .inr ⟨g, unreadable_of_slot? hs, rfl⟩⟩
  · obtain rfl := Option.some.inj h
    exact .inl ⟨rfl, .inl ⟨_, rfl⟩⟩
  · cases rest with
    | nil => cases h
    | cons next below => exact .inr ⟨s, next, below, rfl, rfl, h, rfl⟩

/-- A walk that is stopped leaves the value as it was: what it made on the way it would have gone
through to the end. -/
theorem writeIn_atomic (h : (writeIn p new seg rest v).2 = some f) :
    (writeIn p new seg rest v).1 = v := by
  induction rest generalizing seg v with
  | nil =>
    obtain ⟨hkept, -⟩ | ⟨_, _, _, -, hrest, -⟩ := writeIn_stopped h
    · exact hkept
    · cases hrest
  | cons next rest ih =>
    obtain ⟨hkept, -⟩ | ⟨s, _, _, hs, ⟨⟩, hbelow, hleft⟩ := writeIn_stopped h
    · exact hkept
    · rw [hleft, ih hbelow]
      obtain hc | ⟨hmade, -⟩ := Value.entrance_cases (hasSlot_of_slot? hs)
      · exact Value.fill_of_content? hc
      -- below a mapping that the walk made, it would not have been stopped
      · rw [hmade, writeIn_made] at hbelow
        cases hbelow

theorem fault_of_writeIn (h : (writeIn p new seg rest v).2 = some f) :
    (∃ g, f = .path g) ∨ ∃ seg' ∈ seg :: rest, ∃ g, Unreadable seg' g ∧ f = .numeric g := by
  induction rest generalizing seg v with
  | nil =>
    obtain ⟨-, hp | hg⟩ | ⟨_, _, _, -, hrest, -⟩ := writeIn_stopped h
    · exact .inl hp
    · exact .inr ⟨seg, List.mem_cons_self, hg⟩
    · cases hrest
  | cons next rest ih =>
    obtain ⟨-, hp | hg⟩ | ⟨s, _, _, -, ⟨⟩, hbelow, -⟩ := writeIn_stopped h
    · exact .inl hp
    · exact .inr ⟨seg, List.mem_cons_self, hg⟩
    · obtain hp | ⟨seg', hmem, hg⟩ := ih hbelow
      · exact .inl hp
      · exact .inr ⟨seg', List.mem_cons_of_mem _ hmem, hg⟩

/-! ### The walk and its result -/

/-- The result of a walk that has come to its end, or the fault that stopped it. -/
def outcome : Value × Option Fault → Except Fault Value
  | (v, none) => .ok v
  | (_, some f) => .error f

/-- What an attempt leaves of a value, and its fault if it has one. -/
def attempt (v : Value) : Except Fault Value → Value × Option Fault
  | .ok w => (w, none)
  | .error f => (v, some f)

theorem setIn_eq_outcome (p : KeyPath) (new : Value) (seg : Text) (rest : List Text) (v : Value) :
    setIn p new (seg :: rest) v = outcome (writeIn p new seg rest v) := by
  induction rest generalizing seg v with
  | nil =>
    rw [setIn_cons, writeIn_cons]
    rcases slot? seg v with g | _ | s <;> rfl
  | cons next rest ih =>
    rw [setIn_cons, writeIn_cons]
    rcases slot? seg v with g | _ | s
    · rfl
    · rfl
    · dsimp only
      rw [ih]
      rcases writeIn p new next rest (v.entrance s) with ⟨left, _ | f⟩ <;> rfl

theorem writeIn_eq (p : KeyPath) (new : Value) (seg : Text) (rest : List Text) (v : Value) :
    writeIn p new seg rest v = attempt v (setIn p new (seg :: rest) v) := by
  rw [setIn_eq_outcome]
  rcases h : writeIn p new seg rest v with ⟨left, _ | f⟩
  · rfl
  · have hkept := writeIn_atomic (congrArg Prod.snd h)
    rw [h] at hkept
    exact Prod.ext hkept rfl

/-- A write into any value leaves the value that it makes, or the value as it was. -/
theorem write_eq_attempt (h : p.segments ≠ []) (root new : Value) :
    p.write root new = attempt root (setIn p new p.segments root) := by
  obtain ⟨_ | ⟨seg, rest⟩⟩ := p
  · exact absurd rfl h
  · exact writeIn_eq ⟨seg :: rest⟩ new seg rest root

/-- A write into a mapping in place does what the write that makes a new mapping does, and leaves
the mapping alone where that one fails. -/
theorem write_eq (p : KeyPath) (fs : Fields Value) (new : Value) :
    p.write (.map fs) new = attempt (.map fs) (p.set (.map fs) new) := by
  obtain ⟨_ | ⟨seg, rest⟩⟩ := p
  · cases new <;> rfl
  · exact writeIn_eq ⟨seg :: rest⟩ new seg rest (.map fs)

theorem write_eq_ok {fs : Fields Value} :
    p.write (.map fs) new = (v, none) ↔ p.set (.map fs) new = .ok v := by
  rw [write_eq]
  cases p.set (.map fs) new <;> simp [attempt]

/-- A mapping stays one under every write. -/
theorem write_map (p : KeyPath) (fs : Fields Value) (new : Value) :
    ∃ gs, (p.write (.map fs) new).1 = .map gs := by
  obtain ⟨_ | ⟨seg, _ | ⟨next, rest⟩⟩⟩ := p
  · cases new <;> exact ⟨_, rfl⟩
  · exact ⟨_, rfl⟩
  · exact ⟨_, congrArg Prod.fst (writeIn_cons ⟨seg :: next :: rest⟩ new seg (next :: rest) (.map fs))⟩

/-- A write into a mapping that fails leaves it as it was, with its keys in their order; it fails
because the path does not go on, or at a segment of digits that is not read. -/
theorem write_atomic {fs : Fields Value} (h : (p.write (.map fs) new).2 = some f) :
    (p.write (.map fs) new).1 = .map fs ∧
      ((∃ g, f = .path g) ∨ ∃ seg ∈ p.segments, ∃ g, Unreadable seg g ∧ f = .numeric g) := by
  obtain ⟨_ | ⟨seg, rest⟩⟩ := p
  · cases new with
    | map gs => cases h
    | _ =>
      obtain rfl := Option.some.inj h
      exact ⟨rfl, .inl ⟨_, rfl⟩⟩
  · exact ⟨writeIn_atomic h, fault_of_writeIn h⟩

theorem write_atomic_scalar :
    (write ⟨["a", "tags", "0", "b", "c"]⟩
        (.map [("a", .map [("n", .null), ("tags", .list [.map [("b", .int 5)]])])]) .null).2 =
      some (.path (.cannotAssign "int" "c" "a.tags.0.b.c")) ∧
    (write ⟨["a", "tags", "0", "b", "c"]⟩
        (.map [("a", .map [("n", .null), ("tags", .list [.map [("b", .int 5)]])])]) .null).1 =
      .map [("a", .map [("n", .null), ("tags", .list [.map [("b", .int 5)]])])] := by
  have hfault : (write ⟨["a", "tags", "0", "b", "c"]⟩
      (.map [("a", .map [("n", .null), ("tags", .list [.map [("b", .int 5)]])])]) .null).2 =
      some (.path (.cannotAssign "int" "c" "a.tags.0.b.c")) := by decide +kernel
  exact ⟨hfault, (write_atomic hfault).1⟩

end KeyPath
end RuleLedger
