import Mathlib.Data.List.Forall2
import Mathlib.Data.Option.Basic

/-! Lists that are related member by member, and options that are related. -/
namespace RuleLedger

variable {α β γ δ : Type} {R S : α → β → Prop} {T : γ → δ → Prop} {as : List α} {bs : List β}

/-- Another relation between the members of two lists suffices. -/
theorem forall₂_of_mem (h : ∀ a ∈ as, ∀ b ∈ bs, R a b → S a b) (hr : List.Forall₂ R as bs) :
    List.Forall₂ S as bs := by
  induction hr with
  | nil => exact .nil
  | cons hab _ ih =>
    refine .cons (h _ List.mem_cons_self _ List.mem_cons_self hab) (ih fun a ha b hb => ?_)
    exact h a (List.mem_cons_of_mem _ ha) b (List.mem_cons_of_mem _ hb)

theorem map_eq_map_iff {f : α → γ} {g : β → γ} :
    as.map f = bs.map g ↔ List.Forall₂ (fun a b => f a = g b) as bs := by
  rw [← List.forall₂_eq_eq_eq, List.forall₂_map_left_iff, List.forall₂_map_right_iff]

theorem forall₂_map {f : α → γ} {g : β → δ} (h : List.Forall₂ R as bs)
    (hfg : ∀ a ∈ as, ∀ b, R a b → T (f a) (g b)) : List.Forall₂ T (as.map f) (bs.map g) :=
  List.forall₂_map_left_iff.2
    (List.forall₂_map_right_iff.2 (forall₂_of_mem (fun a ha b _ => hfg a ha b) h))

theorem forall₂_flatMap {f : α → List γ} {g : β → List δ} (h : List.Forall₂ R as bs)
    (hfg : ∀ a ∈ as, ∀ b, R a b → List.Forall₂ T (f a) (g b)) :
    List.Forall₂ T (as.flatMap f) (bs.flatMap g) := by
  induction h with
  | nil => exact .nil
  | cons hab _ ih =>
    rw [List.flatMap_cons, List.flatMap_cons]
    exact List.rel_append (hfg _ List.mem_cons_self _ hab)
      (ih fun a ha => hfg a (List.mem_cons_of_mem _ ha))

theorem forall₂_getElem? (h : List.Forall₂ R as bs) (i : Nat) : Option.Rel R as[i]? bs[i]? := by
  induction h generalizing i with
  | nil => exact .none
  | cons hab _ ih =>
    cases i with
    | zero => exact .some hab
    | succ i => exact ih i

theorem forall₂_set (h : List.Forall₂ R as bs) (i : Nat) {a : α} {b : β} (hab : R a b) :
    List.Forall₂ R (as.set i a) (bs.set i b) := by
  induction h generalizing i with
  | nil => exact .nil
  | cons hr hrs ih =>
    cases i with
    | zero => exact .cons hab hrs
    | succ i => exact .cons hr (ih i)

theorem forall₂_head? (h : List.Forall₂ R as bs) : Option.Rel R as.head? bs.head? := by
  cases h with
  | nil => exact .none
  | cons hab _ => exact .some hab

theorem forall₂_find? {f : α → Bool} {g : β → Bool} (h : List.Forall₂ R as bs)
    (hfg : ∀ a b, R a b → f a = g b) : Option.Rel R (as.find? f) (bs.find? g) := by
  induction h with
  | nil => exact .none
  | cons hab _ ih =>
    rw [List.find?_cons, List.find?_cons, hfg _ _ hab]
    split
    · exact .some hab
    · exact ih

theorem forall₂_any {f : α → Bool} {g : β → Bool} (h : List.Forall₂ R as bs)
    (hfg : ∀ a b, R a b → f a = g b) : as.any f = bs.any g := by
  induction h with
  | nil => rfl
  | cons hab _ ih => rw [List.any_cons, List.any_cons, hfg _ _ hab, ih]

/-- Related members can be found all at once. -/
theorem exists_forall₂_iff : (∃ bs, List.Forall₂ R as bs) ↔ ∀ a ∈ as, ∃ b, R a b := by
  induction as with
  | nil => exact iff_of_true ⟨[], .nil⟩ nofun
  | cons a as ih =>
    rw [List.forall_mem_cons, ← ih]
    constructor
    · rintro ⟨bs, h⟩
      obtain ⟨b, bs, hb, hbs, -⟩ := List.forall₂_cons_left_iff.1 h
      exact ⟨⟨b, hb⟩, bs, hbs⟩
    · rintro ⟨⟨b, hb⟩, bs, hbs⟩
      exact ⟨b :: bs, .cons hb hbs⟩

theorem exists_of_mem_right (h : List.Forall₂ R as bs) {b : β} (hb : b ∈ bs) :
    ∃ a ∈ as, R a b := by
  induction h with
  | nil => cases hb
  | cons hab _ ih =>
    rcases List.mem_cons.1 hb with rfl | hb
    · exact ⟨_, List.mem_cons_self, hab⟩
    · obtain ⟨a, ha, hr⟩ := ih hb
      exact ⟨a, List.mem_cons_of_mem _ ha, hr⟩

theorem optionRel_cases {a? : Option α} {b? : Option β} (h : Option.Rel R a? b?) :
    a? = none ∧ b? = none ∨ ∃ a b, a? = some a ∧ b? = some b ∧ R a b := by
  cases h with
  | none => exact .inl ⟨rfl, rfl⟩
  | some h => exact .inr ⟨_, _, rfl, rfl, h⟩

theorem optionRel_getD {a? : Option α} {b? : Option β} {a : α} {b : β} (h : Option.Rel R a? b?)
    (hab : R a b) : R (a?.getD a) (b?.getD b) := by
  cases h with
  | none => exact hab
  | some h => exact h

end RuleLedger
