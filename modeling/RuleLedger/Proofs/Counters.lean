import RuleLedger.Proofs.Fields

/-! Counters by name. After a list of increments every counter has grown by the number of times its
name is in the list. -/
namespace RuleLedger.Fields

/-- The sum of all counters. -/
def total : Fields Nat → Nat
  | [] => 0
  | (_, n) :: fs => n + total fs

theorem total_put (fs : Fields Nat) (k : Text) (n : Nat) :
    (fs.put k n).total + (fs.get? k).getD 0 = fs.total + n := by
  induction fs with
  | nil => simp [put, total]
  | cons f fs ih =>
    obtain ⟨a, m⟩ := f
    by_cases h : a = k
    · rw [put, if_pos h, get?_cons, if_pos h.symm, total, total, Option.getD_some]
      omega
    · rw [put, if_neg h, get?_cons, if_neg (Ne.symm h), total, total]
      omega

theorem total_increment (fs : Fields Nat) (k : Text) : (fs.increment k).total = fs.total + 1 := by
  have h := total_put fs k ((fs.get? k).getD 0 + 1)
  rw [increment]
  omega

theorem total_increments (fs : Fields Nat) (ks : List Text) :
    (ks.foldl increment fs).total = fs.total + ks.length := by
  induction ks generalizing fs with
  | nil => rfl
  | cons k ks ih =>
    rw [List.foldl_cons, ih, total_increment, List.length_cons]
    omega

theorem counter_increment (fs : Fields Nat) (k l : Text) :
    ((fs.increment k).get? l).getD 0 = (fs.get? l).getD 0 + if l = k then 1 else 0 := by
  rw [increment, get?_put]
  by_cases h : l = k
  · subst h
    rw [if_pos rfl, if_pos rfl, Option.getD_some]
  · rw [if_neg h, if_neg h, Nat.add_zero]

theorem counter_increments (fs : Fields Nat) (ks : List Text) (l : Text) :
    ((ks.foldl increment fs).get? l).getD 0 = (fs.get? l).getD 0 + ks.count l := by
  induction ks generalizing fs with
  | nil => rfl
  | cons k ks ih =>
    rw [List.foldl_cons, ih, counter_increment, List.count_cons]
    by_cases h : l = k
    · subst h
      rw [if_pos rfl, if_pos BEq.rfl]
      omega
    · have hb : ¬(k == l) = true := fun he => h (eq_of_beq he).symm
      rw [if_neg h, if_neg hb, Nat.add_zero, Nat.add_zero]

theorem mem_keys_increment {fs : Fields Nat} {k l : Text} (h : l ∈ (fs.increment k).keys) :
    l ∈ fs.keys ∨ l = k := by
  rw [increment, keys_put] at h
  split at h
  · exact .inl h
  · exact (List.mem_append.1 h).imp_right List.mem_singleton.1

theorem mem_keys_increments {fs : Fields Nat} {ks : List Text} {l : Text}
    (h : l ∈ (ks.foldl increment fs).keys) : l ∈ fs.keys ∨ l ∈ ks := by
  induction ks generalizing fs with
  | nil => exact .inl h
  | cons k ks ih =>
    rcases ih h with h | h
    · rcases mem_keys_increment h with h | rfl
      · exact .inl h
      · exact .inr List.mem_cons_self
    · exact .inr (List.mem_cons_of_mem k h)

theorem nodup_increments {fs : Fields Nat} (h : fs.keys.Nodup) (ks : List Text) :
    (ks.foldl increment fs).keys.Nodup := by
  induction ks generalizing fs with
  | nil => exact h
  | cons k ks ih => exact ih (nodup_put h k _)

theorem pos_increments {fs : Fields Nat} (h : ∀ f ∈ fs, 0 < f.2) (ks : List Text) :
    ∀ f ∈ ks.foldl increment fs, 0 < f.2 := by
  induction ks generalizing fs with
  | nil => exact h
  | cons k ks ih =>
    refine ih fun f hf => ?_
    rcases mem_put hf with rfl | hf
    · exact Nat.succ_pos _
    · exact h f hf

end RuleLedger.Fields
