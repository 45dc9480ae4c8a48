import RuleLedger.Metrics.Exposition
import RuleLedger.Proofs.Counters
import RuleLedger.Proofs.Number.Sums

/-! Running totals by label. Main statement: the totals after the counters of a run are added are
exact sums, as long as these are below 2^53. -/
namespace RuleLedger.Totals

variable {totals totals' : Totals} {label : Text} {m n : Nat}

/-- That the total of a label is a number. A label is not known before something is counted. -/
def Shows (totals : Totals) (label : Text) (n : Nat) : Prop :=
  match Fields.get? totals label with
  | none => n = 0
  | some x => 0 < n ∧ (Number.float x).HasValue n

theorem shows_congr (h : Fields.get? totals label = Fields.get? totals' label) :
    totals.Shows label n ↔ totals'.Shows label n := by
  rw [Shows, Shows, h]

theorem shows_put {x : Float} (hn : 0 < n) (hx : (Number.float x).HasValue n) :
    Shows (Fields.put totals label x) label n := by
  rw [Shows, Fields.get?_put_self]
  exact ⟨hn, hx⟩

theorem Shows.hasValue (h : totals.Shows label n) :
    (Number.float ((Fields.get? totals label).getD 0.0)).HasValue n := by
  rw [Shows] at h
  cases hg : Fields.get? totals label with
  | none =>
    rw [hg] at h
    obtain rfl : n = 0 := h
    exact Number.hasValue_zero
  | some x =>
    rw [hg] at h
    exact h.2

/-- Totals that show one number are the same. -/
theorem Shows.get?_eq (h : totals.Shows label n) (h' : totals'.Shows label n) :
    Fields.get? totals label = Fields.get? totals' label := by
  rw [Shows] at h h'
  cases hg : Fields.get? totals label <;> cases hg' : Fields.get? totals' label <;>
    rw [hg] at h <;> rw [hg'] at h'
  · exact absurd h h'.1.ne'
  · exact absurd h' h.1.ne'
  · rw [Number.eq_of_hasValue h.2 h'.2 (Nat.cast_ne_zero.2 h.1.ne')]

/-- One label goes up by what is added to it, the others stay. -/
theorem Shows.add (h : totals.Shows label m) (hn : 0 < n) (hlt : m + n < 2 ^ 53) :
    ∃ totals', Collectors.add totals label (.nat n) = (totals', none) ∧
      totals'.Shows label (m + n) ∧
      ∀ l, l ≠ label → Fields.get? totals' l = Fields.get? totals l := by
  obtain ⟨x, hx, hvalue⟩ := Number.toFloat_of_natAbs_lt (n := n) (by omega)
  have hsign : (Number.int n).lt (.int 0) = false := by
    rw [Bool.eq_false_iff, Ne, (Number.hasValue_int n).lt_iff (Number.hasValue_int 0)]
    simp
  have hsum := h.hasValue.add_nat hvalue hlt.le
  refine ⟨Fields.put totals label ((Fields.get? totals label).getD 0.0 + x), ?_,
    shows_put (by omega) hsum, fun l hl => ?_⟩
  · simp [Collectors.add, Collectors.amount?, Value.nat, Value.int, hsign, hx]
  · rw [Fields.get?_put, if_neg hl]

/-- The totals after a run are those before it and the counters of the run. -/
theorem shows_addAll {counters : Text → Nat} (h : ∀ l, totals.Shows l (counters l))
    {fs : Fields Nat} (hkeys : fs.keys.Nodup) (hpos : ∀ f ∈ fs, 0 < f.2)
    (hlt : ∀ l, counters l + (Fields.get? fs l).getD 0 < 2 ^ 53) :
    ∃ totals', Collectors.addAll totals (Fields.mapValues Value.nat fs) = (totals', none) ∧
      ∀ l, totals'.Shows l (counters l + (Fields.get? fs l).getD 0) := by
  induction fs generalizing totals counters with
  | nil => exact ⟨totals, rfl, h⟩
  | cons f fs ih =>
    obtain ⟨label, n⟩ := f
    obtain ⟨hnew, hkeys⟩ := List.nodup_cons.1 hkeys
    have hrest : Fields.get? fs label = none := Fields.get?_eq_none hnew
    have hstep := hlt label
    rw [Fields.get?_cons, if_pos rfl, Option.getD_some] at hstep
    obtain ⟨totals₁, hadd, hshows, hother⟩ :=
      (h label).add (hpos _ List.mem_cons_self) hstep
    have hsplit (l : Text) : counters l + (Fields.get? ((label, n) :: fs) l).getD 0 =
        (if l = label then counters l + n else counters l) + (Fields.get? fs l).getD 0 := by
      rw [Fields.get?_cons]
      split_ifs with hl
      · rw [hl, hrest, Option.getD_some, Option.getD_none, Nat.add_zero]
      · rfl
    have hnow (l : Text) :
        totals₁.Shows l (if l = label then counters l + n else counters l) := by
      split_ifs with hl
      · rw [hl]
        exact hshows
      · exact (shows_congr (hother l hl)).2 (h l)
    obtain ⟨totals₂, haddAll, hall⟩ := ih hnow hkeys
      (fun f hf => hpos f (List.mem_cons_of_mem _ hf)) (fun l => hsplit l ▸ hlt l)
    refine ⟨totals₂, ?_, fun l => hsplit l ▸ hall l⟩
    rw [mapValues_cons, Collectors.addAll, hadd]
    exact haddAll

/-- The counters of a list of names. -/
theorem shows_addAll_increments {counters : Text → Nat} (h : ∀ l, totals.Shows l (counters l))
    {names : List Text} (hlt : ∀ l, counters l + names.count l < 2 ^ 53) :
    ∃ totals', Collectors.addAll totals
        (Fields.mapValues Value.nat (names.foldl Fields.increment [])) = (totals', none) ∧
      ∀ l, totals'.Shows l (counters l + names.count l) := by
  have hcount (l : Text) :
      (Fields.get? (names.foldl Fields.increment []) l).getD 0 = names.count l := by
    rw [Fields.counter_increments]
    exact Nat.zero_add _
  have hnil : Fields.keys ([] : Fields Nat) = [] := rfl
  simp only [← hcount] at hlt ⊢
  exact shows_addAll h (Fields.nodup_increments (hnil ▸ List.nodup_nil) names)
    (Fields.pos_increments (fun f hf => absurd hf List.not_mem_nil) names) hlt

end RuleLedger.Totals
