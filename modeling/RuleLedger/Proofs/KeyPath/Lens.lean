import RuleLedger.Proofs.KeyPath.InPlace

/-! A path as a lens on mappings. Main statement: what is written is read back, writing what is read
changes nothing, and of two writes at one path the second alone counts. -/
namespace RuleLedger
namespace KeyPath

variable {p q : KeyPath} {a b new x : Value} {segs : List Text}

/-! ### Below a value -/

/-- What is written is read back. -/
theorem getIn_of_setIn (h : setIn p new segs a = .ok b) : getIn segs b = .ok (some new) := by
  induction segs generalizing a b with
  | nil =>
    obtain rfl := Except.ok.inj h
    rfl
  | cons seg segs ih =>
    obtain ⟨s, c, hs, hc, rfl⟩ := setIn_cons_eq_ok.1 h
    exact (getIn_fill hs segs c).trans (ih hc)

/-- Writing what is read changes nothing. -/
theorem setIn_of_getIn (p : KeyPath) (h : getIn segs a = .ok (some x)) :
    setIn p x segs a = .ok a := by
  induction segs generalizing a with
  | nil => exact congrArg Except.ok (Option.some.inj (Except.ok.inj h)).symm
  | cons seg segs ih =>
    obtain ⟨s, u, hs, hc, hx⟩ := getIn_cons_eq_some.1 h
    refine setIn_cons_eq_ok.2 ⟨s, u, hs, ?_, Value.fill_of_content? hc⟩
    rw [setIn_entrance p x hc (isContainer_of_getIn hx)]
    exact ih hx

/-- After a write another one at the same place does what it would have done at first. -/
theorem setIn_setIn (h : setIn p new segs a = .ok b) (q : KeyPath) (w : Value) :
    setIn q w segs b = setIn q w segs a := by
  induction segs generalizing a b with
  | nil => rfl
  | cons seg segs ih =>
    obtain ⟨s, c, hs, hc, rfl⟩ := setIn_cons_eq_ok.1 h
    rw [setIn_fill hs (isContainer_of_setIn hc), ih hc, setIn_cons, hs]

/-! ### At a path -/

theorem set_eq_setIn (h : p.isWildcard = false) (root new : Value) :
    p.set root new = setIn p new p.segments root :=
  if_neg (Bool.eq_false_iff.1 h)

theorem set_wildcard {fs : Fields Value} :
    set ⟨[]⟩ (.map fs) new = .ok b ↔ (∃ gs, new = .map gs) ∧ b = new := by
  cases new <;> simp [set, isWildcard, eq_comm]

/-- A path is a lens: a write that succeeds is read back, what is read may be written where it was
read, and a second write undoes the first. -/
theorem write_lens (p : KeyPath) (fs : Fields Value) (v w : Value) :
    (∀ r, p.write (.map fs) v = (r, none) → p.get? r = .ok (some v)) ∧
    (∀ x, p.get? (.map fs) = .ok (some x) → p.write (.map fs) x = (.map fs, none)) ∧
    (∀ r s, p.write (.map fs) v = (r, none) → p.write (.map fs) w = (s, none) →
      p.write r w = (s, none)) := by
  cases hp : p.isWildcard with
  | true =>
    obtain ⟨_ | ⟨seg, rest⟩⟩ := p
    · refine ⟨fun r hr => ?_, fun x hx => ?_, fun r s hr hs => ?_⟩
      · obtain ⟨-, rfl⟩ := set_wildcard.1 (write_eq_ok.1 hr)
        rfl
      · obtain rfl := Option.some.inj (Except.ok.inj hx)
        rfl
      · obtain ⟨⟨gs, rfl⟩, rfl⟩ := set_wildcard.1 (write_eq_ok.1 hr)
        obtain ⟨⟨hs, rfl⟩, rfl⟩ := set_wildcard.1 (write_eq_ok.1 hs)
        rfl
    · cases hp
  | false =>
    refine ⟨fun r hr => ?_, fun x hx => ?_, fun r s hr hs => ?_⟩
    · rw [write_eq_ok, set_eq_setIn hp] at hr
      exact getIn_of_setIn hr
    · rw [write_eq_ok, set_eq_setIn hp]
      exact setIn_of_getIn p hx
    · obtain ⟨gs, hgs⟩ := write_map p fs v
      rw [hr] at hgs
      obtain rfl : r = .map gs := hgs
      rw [write_eq_ok, set_eq_setIn hp] at hr hs ⊢
      exact (setIn_setIn hr p w).trans hs

theorem write_lens_item :
    ∃ r s, write ⟨["tags", "1", "b"]⟩ (.map [("tags", .list [.null, .map [("b", .int 2)]])])
        (.int 7) = (r, none) ∧
      get? ⟨["tags", "1", "b"]⟩ r = .ok (some (.int 7)) ∧
      write ⟨["tags", "1", "b"]⟩ (.map [("tags", .list [.null, .map [("b", .int 2)]])])
        (.int 2) = (.map [("tags", .list [.null, .map [("b", .int 2)]])], none) ∧
      write ⟨["tags", "1", "b"]⟩ (.map [("tags", .list [.null, .map [("b", .int 2)]])])
        (.str "c") = (s, none) ∧
      write ⟨["tags", "1", "b"]⟩ r (.str "c") = (s, none) := by
  obtain ⟨hget, hset, hagain⟩ := write_lens ⟨["tags", "1", "b"]⟩
    [("tags", .list [.null, .map [("b", .int 2)]])] (.int 7) (.str "c")
  exact ⟨_, _, rfl, hget _ rfl, hset _ rfl, rfl, hagain _ _ rfl rfl⟩

end KeyPath
end RuleLedger
