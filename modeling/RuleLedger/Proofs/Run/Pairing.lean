import RuleLedger.Proofs.Record.TwinRecords

/-! Pairings of what two runs make. The seeds of steps side by side belong together, and so do the
things that are made at them. Below that lies a foundation: the things that the two runs found in
their records. -/
namespace RuleLedger

/-- The seed that a thing was made at. -/
def Identity.seed? : Identity → Option Seed
  | .shelf _ => none
  | .part s _ | .copy s _ => some s

/-- The first steps of a run, beside as many steps of another run that come so much later in it. -/
structure Alignment where
  left : Seed
  right : Seed
  later : Nat
  steps : Nat

namespace Alignment

/-- Seeds that are drawn at the same place of steps side by side. -/
def Match (w : Alignment) (s t : Seed) : Prop :=
  ∃ path j, j < w.steps ∧ s.path = path ++ j :: w.left.path ∧
    t.path = path ++ (j + w.later) :: w.right.path

variable {w : Alignment} {s t s' t' : Seed}

theorem Match.fork (h : w.Match s t) (i : Nat) : w.Match (s.fork i) (t.fork i) := by
  obtain ⟨path, j, hj, hs, ht⟩ := h
  exact ⟨i :: path, j, hj, congrArg (i :: ·) hs, congrArg (i :: ·) ht⟩

theorem match_step (w : Alignment) {j : Nat} (hj : j < w.steps) :
    w.Match (w.left.fork j) (w.right.fork (j + w.later)) := ⟨[], j, hj, rfl, rfl⟩

/-- A seed matches one other seed at most. -/
theorem Match.unique (h : w.Match s t) (h' : w.Match s' t') : s = s' ↔ t = t' := by
  obtain ⟨p, j, -, hs, ht⟩ := h
  obtain ⟨q, j', -, hs', ht'⟩ := h'
  have hpath {a b : Seed} : a = b ↔ a.path = b.path :=
    ⟨congrArg Seed.path, fun h => by cases a; cases b; exact congrArg Seed.mk h⟩
  rw [hpath, hpath, hs, hs', ht, ht', path_inj, path_inj, Nat.add_right_cancel_iff]

/-- The things that belong together, given those of a foundation. -/
inductive Kin (w : Alignment) (base : Identity → Identity → Prop) : Identity → Identity → Prop
  | base {i j : Identity} : base i j → Kin w base i j
  | shelf (name : String) : Kin w base (.shelf name) (.shelf name)
  | part {s t : Seed} (place : Place) : w.Match s t → Kin w base (.part s place) (.part t place)
  | copy {s t : Seed} {i j : Identity} : w.Match s t → Kin w base i j →
    Kin w base (.copy s i) (.copy t j)

/-- A foundation: things that belong together one to one, none of them made at a seed of the
steps. -/
structure Foundation (w : Alignment) (base : Identity → Identity → Prop) : Prop where
  unique : ∀ {i j i' j'}, base i j → base i' j' → (i = i' ↔ j = j')
  left : ∀ {i j}, base i j → ∃ s, i.seed? = some s ∧ ∀ t, ¬w.Match s t
  right : ∀ {i j}, base i j → ∃ t, j.seed? = some t ∧ ∀ s, ¬w.Match s t

variable {base : Identity → Identity → Prop} {i j i' j' : Identity}

namespace Foundation

variable (f : w.Foundation base)
include f

/-- What a run makes is not in the foundation. -/
theorem left_ne (h : base i j) (hs : i'.seed? = some s) (hm : w.Match s t) : ¬i = i' := by
  rintro rfl
  obtain ⟨s', hs', hfree⟩ := f.left h
  obtain rfl := Option.some.inj (hs.symm.trans hs')
  exact hfree t hm

theorem right_ne (h : base i j) (ht : j'.seed? = some t) (hm : w.Match s t) : ¬j = j' := by
  rintro rfl
  obtain ⟨t', ht', hfree⟩ := f.right h
  obtain rfl := Option.some.inj (ht.symm.trans ht')
  exact hfree s hm

theorem not_shelf (h : base i j) (name : String) : ¬i = .shelf name ∧ ¬j = .shelf name := by
  obtain ⟨s, hs, -⟩ := f.left h
  obtain ⟨t, ht, -⟩ := f.right h
  refine ⟨?_, ?_⟩ <;> rintro rfl
  · cases hs
  · cases ht

/-- Whether two things are the same shows on either side, if one is in the foundation. -/
theorem unique_kin (h : base i j) (h' : w.Kin base i' j') : i = i' ↔ j = j' := by
  cases h' with
  | base h' => exact f.unique h h'
  | shelf name => exact iff_of_false (f.not_shelf h name).1 (f.not_shelf h name).2
  | part p hm => exact iff_of_false (f.left_ne h rfl hm) (f.right_ne h rfl hm)
  | copy hm _ => exact iff_of_false (f.left_ne h rfl hm) (f.right_ne h rfl hm)

end Foundation

theorem Kin.unique (f : w.Foundation base) (h : w.Kin base i j) (h' : w.Kin base i' j') :
    i = i' ↔ j = j' := by
  induction h generalizing i' j' with
  | base h => exact f.unique_kin h h'
  | shelf name =>
    cases h' with
    | base h' =>
      exact iff_of_false (Ne.symm (f.not_shelf h' name).1) (Ne.symm (f.not_shelf h' name).2)
    | shelf name' => exact Iff.rfl
    | _ => exact iff_of_false nofun nofun
  | part p hm =>
    cases h' with
    | base h' => exact iff_of_false (Ne.symm (f.left_ne h' rfl hm)) (Ne.symm (f.right_ne h' rfl hm))
    | part p' hm' => rw [Identity.part.injEq, Identity.part.injEq, hm.unique hm']
    | _ => exact iff_of_false nofun nofun
  | copy hm _ ih =>
    cases h' with
    | base h' => exact iff_of_false (Ne.symm (f.left_ne h' rfl hm)) (Ne.symm (f.right_ne h' rfl hm))
    | copy hm' h' => rw [Identity.copy.injEq, Identity.copy.injEq, hm.unique hm', ih h']
    | _ => exact iff_of_false nofun nofun

/-- The pairing of two runs. -/
def pairing (w : Alignment) (f : w.Foundation base) : Pairing where
  seeds := w.Match
  things := w.Kin base
  fork n h := h.fork n
  shelf name := .shelf name
  part p h := .part p h
  copy h h' := .copy h h'
  unique h h' := h.unique f h'

/-! ### Runs on one value -/

/-- The parts of the value that two runs start on. -/
inductive Fresh (a b : Seed) : Identity → Identity → Prop
  | part (place : Place) : Fresh a b (.part a place) (.part b place)

theorem not_match_left (t : Seed) : ¬w.Match w.left t := by
  rintro ⟨path, j, -, hs, -⟩
  have hl := congrArg List.length hs
  rw [List.length_append, List.length_cons] at hl
  omega

theorem not_match_right (s : Seed) : ¬w.Match s w.right := by
  rintro ⟨path, j, -, -, ht⟩
  have hl := congrArg List.length ht
  rw [List.length_append, List.length_cons] at hl
  omega

theorem foundation_fresh (w : Alignment) : w.Foundation (Fresh w.left w.right) where
  unique h h' := by
    cases h
    cases h'
    rw [Identity.part.injEq, Identity.part.injEq]
    exact Iff.and ⟨fun _ => rfl, fun _ => rfl⟩ Iff.rfl
  left h := by
    cases h
    exact ⟨_, rfl, not_match_left⟩
  right h := by
    cases h
    exact ⟨_, rfl, not_match_right⟩

/-- The pairing of so many steps of two runs on one value. -/
def sameStart (a b : Seed) (n : Nat) : Pairing :=
  (Alignment.mk a b 0 n).pairing (Alignment.mk a b 0 n).foundation_fresh

theorem things_fresh (w : Alignment) (q : Place) :
    (w.pairing w.foundation_fresh).things (.part w.left q) (.part w.right q) := .base (.part q)

/-- The records of two runs on one value. -/
theorem twinRecords_fresh (w : Alignment) {v : Value} (hv : v.isJson = true) :
    (w.pairing w.foundation_fresh).TwinRecords (Record.ofValue w.left v)
      (Record.ofValue w.right v) :=
  .ofValue w.things_fresh hv

end Alignment
end RuleLedger
