/-! Results that may be faults, taken apart where they are no fault, and pairs of results that both
are faults or both are none. -/
namespace RuleLedger

variable {ε ε' α α' β β' : Type}

theorem bind_eq_ok {x : Except ε α} {f : α → Except ε β} {b : β} :
    (x >>= f) = .ok b ↔ ∃ a, x = .ok a ∧ f a = .ok b := by
  cases x <;> simp [bind, Except.bind]

theorem map_eq_ok {x : Except ε α} {f : α → β} {b : β} :
    x.map f = .ok b ↔ ∃ a, x = .ok a ∧ f a = b := by
  cases x <;> simp [Except.map]

theorem mapError_eq_ok {f : ε → ε'} {x : Except ε α} {a : α} :
    x.mapError f = .ok a ↔ x = .ok a := by
  rcases x with e | b
  · exact ⟨nofun, nofun⟩
  · exact ⟨fun h => Except.ok.inj h ▸ rfl, fun h => Except.ok.inj h ▸ rfl⟩

theorem bind_eq_error {x : Except ε α} {f : α → Except ε β} {e : ε} :
    (x >>= f) = .error e ↔ x = .error e ∨ ∃ a, x = .ok a ∧ f a = .error e := by
  cases x <;> simp [bind, Except.bind]

theorem map_eq_error {x : Except ε α} {f : α → β} {e : ε} :
    x.map f = .error e ↔ x = .error e := by
  cases x <;> simp [Except.map]

theorem pure_eq_ok {a b : α} : (pure a : Except ε α) = .ok b ↔ a = b :=
  ⟨fun h => Except.ok.inj h, fun h => congrArg Except.ok h⟩

/-- A result that passes a test is no fault. -/
theorem exists_ok (p : α → Bool) {x : Except ε α} (h : x.toOption.any p = true) :
    ∃ a, x = .ok a ∧ p a = true := by
  cases x with
  | error e => cases h
  | ok a => exact ⟨a, rfl, h⟩

/-- Two results that are related: faults with faults, and what is no fault with what is none. -/
inductive Agree (E : ε → ε' → Prop) (R : α → α' → Prop) : Except ε α → Except ε' α' → Prop
  | error {e : ε} {e' : ε'} : E e e' → Agree E R (.error e) (.error e')
  | ok {a : α} {a' : α'} : R a a' → Agree E R (.ok a) (.ok a')

/-- The same fault, or related results. -/
abbrev Same (R : α → α' → Prop) : Except ε α → Except ε α' → Prop := Agree Eq R

namespace Agree

variable {E : ε → ε' → Prop} {R : α → α' → Prop} {S : β → β' → Prop} {x : Except ε α}
  {y : Except ε' α'}

theorem cases (h : Agree E R x y) :
    (∃ e e', x = .error e ∧ y = .error e' ∧ E e e') ∨ ∃ a a', x = .ok a ∧ y = .ok a' ∧ R a a' := by
  cases h with
  | error he => exact .inl ⟨_, _, rfl, rfl, he⟩
  | ok ha => exact .inr ⟨_, _, rfl, rfl, ha⟩

@[elab_as_elim]
theorem elim {motive : Except ε α → Except ε' α' → Prop} (h : Agree E R x y)
    (error : ∀ e e', E e e' → motive (.error e) (.error e'))
    (ok : ∀ a a', R a a' → motive (.ok a) (.ok a')) : motive x y := by
  cases h with
  | error he => exact error _ _ he
  | ok ha => exact ok _ _ ha

theorem exists_right (h : Agree E R x y) {a : α} (hx : x = .ok a) : ∃ a', y = .ok a' ∧ R a a' := by
  subst hx
  cases h with
  | ok ha => exact ⟨_, rfl, ha⟩

theorem exists_left (h : Agree E R x y) {a' : α'} (hy : y = .ok a') : ∃ a, x = .ok a ∧ R a a' := by
  subst hy
  cases h with
  | ok ha => exact ⟨_, rfl, ha⟩

theorem map (h : Agree E R x y) {f : α → β} {g : α' → β'} (hfg : ∀ a a', R a a' → S (f a) (g a')) :
    Agree E S (x.map f) (y.map g) := by
  cases h with
  | error he => exact .error he
  | ok ha => exact .ok (hfg _ _ ha)

theorem bind (h : Agree E R x y) {f : α → Except ε β} {g : α' → Except ε' β'}
    (hfg : ∀ a a', R a a' → Agree E S (f a) (g a')) : Agree E S (x >>= f) (y >>= g) := by
  cases h with
  | error he => exact .error he
  | ok ha => exact hfg _ _ ha

theorem mono (h : Agree E R x y) {R' : α → α' → Prop} (hr : ∀ a a', R a a' → R' a a') :
    Agree E R' x y := by
  cases h with
  | error he => exact .error he
  | ok ha => exact .ok (hr _ _ ha)

end Agree

/-- What follows from the same fault on both sides and from related results. -/
@[elab_as_elim]
theorem Same.elim {R : α → α' → Prop} {motive : Except ε α → Except ε α' → Prop} {x : Except ε α}
    {y : Except ε α'} (h : Same R x y) (error : ∀ e, motive (.error e) (.error e))
    (ok : ∀ a a', R a a' → motive (.ok a) (.ok a')) : motive x y := by
  refine Agree.elim h (fun e e' he => ?_) ok
  exact he ▸ error e

end RuleLedger
