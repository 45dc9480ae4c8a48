import RuleLedger.Proofs.KeyPath.Lens
import RuleLedger.Proofs.Value.Alike

/-! Two paths that part. Main statement: a write at one of them leaves what the other leads to, and
the two writes may be made in either order, with the same faults and, apart from the order of keys,
the same result. -/
namespace RuleLedger

namespace Value

variable {a u w : Value} {s t : Slot}

theorem Alike.fill (h : u.Alike w) (a : Value) (s : Slot) : (a.fill s u).Alike (a.fill s w) := by
  cases a <;> cases s <;> first | exact .refl _ | skip
  · exact alike_set h _ _
  · exact alike_put h _ _

/-- Two slots may be filled in either order. -/
theorem fill_comm (h : s ≠ t) (a u w : Value) :
    ((a.fill s u).fill t w).Alike ((a.fill t w).fill s u) := by
  cases a <;> cases s <;> cases t <;> first | exact .refl _ | skip
  · rw [fill, fill, fill, fill, List.set_comm _ _ fun he => h (congrArg Slot.item he)]
    exact .refl _
  · exact alike_of_perm (Fields.put_comm_perm (fun he => h (congrArg Slot.key he)) _ _ _)

end Value

namespace KeyPath

variable {p q : KeyPath} {way ps qs : List Text} {s t : Text} {a b b' v w : Value}

/-! ### The node where paths part -/

/-- Whether two segments go apart at the end of a common way: they do not lead to one item of a
list. In a mapping, also in one that is still to be made, different segments are different keys. -/
structure Apart (way : List Text) (s t : Text) (a : Value) : Prop where
  ne : s ≠ t
  items : ∀ xs, getIn way a = .ok (some (.list xs)) →
    ∀ i, index? s xs.length = .ok (some i) → index? t xs.length ≠ .ok (some i)

namespace Apart

theorem symm (h : Apart way s t a) : Apart way t s a :=
  ⟨h.ne.symm, fun xs hxs i ht hs => h.items xs hxs i hs ht⟩

/-- Where they part, the segments lead to different slots. -/
theorem slot?_ne {i : Slot} (h : Apart [] s t a) (hs : slot? s a = .ok (some i)) :
    slot? t a ≠ .ok (some i) := by
  cases a with
  | map fs =>
    intro ht
    exact h.ne (Slot.key.inj (Option.some.inj (Except.ok.inj (hs.trans ht.symm))))
  | list xs =>
    obtain ⟨k, hk, rfl⟩ := slot?_list.1 hs
    intro ht
    obtain ⟨l, hl, he⟩ := slot?_list.1 ht
    obtain rfl := Slot.item.inj he
    exact h.items xs rfl k hk hl
  | _ => cases hs

/-- Segments that go apart do so further down, also where a mapping is made on the way. -/
theorem below {seg : Text} {k : Slot} (h : Apart (seg :: way) s t a)
    (hs : slot? seg a = .ok (some k)) : Apart way s t (a.entrance k) :=
  ⟨h.ne, fun xs hxs => h.items xs (getIn_of_entrance hs hxs)⟩

end Apart

/-! ### Below a value -/

/-- A write leaves what a path leads to that goes apart from it. -/
theorem getIn_of_apart (h : Apart way s t a) (hb : setIn p v (way ++ s :: ps) a = .ok b)
    (qs : List Text) : getIn (way ++ t :: qs) b = getIn (way ++ t :: qs) a := by
  induction way generalizing a b with
  | nil =>
    obtain ⟨i, c, hi, -, rfl⟩ := setIn_cons_eq_ok.1 hb
    exact getIn_fill_of_ne (h.slot?_ne hi) qs c
  | cons seg way ih =>
    obtain ⟨k, c, hk, hc, rfl⟩ := setIn_cons_eq_ok.1 hb
    calc getIn (seg :: (way ++ t :: qs)) (a.fill k c)
        = getIn (way ++ t :: qs) c := getIn_fill hk _ c
      _ = getIn (way ++ t :: qs) (a.entrance k) := ih (h.below hk) hc
      _ = getIn (seg :: (way ++ t :: qs)) a := getIn_entrance hk (by simp)

/-- Two writes that go apart and both succeed may be made in either order. -/
theorem setIn_comm (h : Apart way s t a) (hb : setIn p v (way ++ s :: ps) a = .ok b)
    (hb' : setIn q w (way ++ t :: qs) a = .ok b') :
    ∃ d d', setIn q w (way ++ t :: qs) b = .ok d ∧ setIn p v (way ++ s :: ps) b' = .ok d' ∧
      d.Alike d' := by
  induction way generalizing a b b' with
  | nil =>
    -- the segments lead to different slots of this value
    obtain ⟨i, c, hi, hc, rfl⟩ := setIn_cons_eq_ok.1 hb
    obtain ⟨j, c', hj, hc', rfl⟩ := setIn_cons_eq_ok.1 hb'
    have hij : i ≠ j := fun he => h.slot?_ne hi (he ▸ hj)
    refine ⟨(a.fill i c).fill j c', (a.fill j c').fill i c, ?_, ?_, Value.fill_comm hij a c c'⟩
    · rw [List.nil_append, setIn_fill_of_ne (h.slot?_ne hi), hj]
      exact congrArg (Except.map _) hc'
    · rw [List.nil_append, setIn_fill_of_ne (h.symm.slot?_ne hj), hi]
      exact congrArg (Except.map _) hc
  | cons seg way ih =>
    -- both writes go through one slot
    obtain ⟨k, c, hk, hc, rfl⟩ := setIn_cons_eq_ok.1 hb
    obtain ⟨l, c', hl, hc', rfl⟩ := setIn_cons_eq_ok.1 hb'
    obtain rfl : k = l := Option.some.inj (Except.ok.inj (hk.symm.trans hl))
    obtain ⟨d, d', hd, hd', halike⟩ := ih (h.below hk) hc hc'
    have hne {u : Text} {us : List Text} : way ++ u :: us ≠ [] := by simp
    refine ⟨a.fill k d, a.fill k d', ?_, ?_, halike.fill a k⟩
    · rw [List.cons_append, setIn_fill hk fun _ => isContainer_of_setIn hc hne, hd, Except.map]
    · rw [List.cons_append, setIn_fill hk fun _ => isContainer_of_setIn hc' hne, hd', Except.map]

/-- A write that fails does so also after one that goes apart from it. -/
theorem setIn_error_of_apart {f : Fault} (h : Apart way s t a)
    (hb : setIn p v (way ++ s :: ps) a = .ok b) (hf : setIn q w (way ++ t :: qs) a = .error f) :
    setIn q w (way ++ t :: qs) b = .error f := by
  induction way generalizing a b with
  | nil =>
    obtain ⟨i, c, hi, -, rfl⟩ := setIn_cons_eq_ok.1 hb
    rw [List.nil_append, setIn_cons] at hf
    rw [List.nil_append, setIn_fill_of_ne (h.slot?_ne hi)]
    rcases hj : slot? t a with g | _ | j <;> rw [hj] at hf
    · exact hf
    · exact hf
    · exact map_eq_error.2 (map_eq_error.1 hf)
  | cons seg way ih =>
    obtain ⟨k, c, hk, hc, rfl⟩ := setIn_cons_eq_ok.1 hb
    have hne : way ++ s :: ps ≠ [] := by simp
    rw [List.cons_append, setIn_fill hk fun _ => isContainer_of_setIn hc hne]
    exact map_eq_error.2 (ih (h.below hk) hc ((setIn_cons_eq_error hk).1 hf))

/-! ### At paths -/

/-- Whether two paths part in a value: neither is the start of the other, and where they part their
next segments do not lead to one item of a list. -/
structure Diverge (p q : KeyPath) (root : Value) : Prop where
  left : ¬p.segments <+: q.segments
  right : ¬q.segments <+: p.segments
  items : ∀ way s t, way ++ [s] <+: p.segments → way ++ [t] <+: q.segments → s ≠ t →
    ∀ xs, getIn way root = .ok (some (.list xs)) →
    ∀ i, index? s xs.length = .ok (some i) → index? t xs.length ≠ .ok (some i)

/-- Lists neither of which is the start of the other have a first difference. -/
theorem exists_fork {ps qs : List Text} (hp : ¬ps <+: qs) (hq : ¬qs <+: ps) :
    ∃ way s t ps' qs', ps = way ++ s :: ps' ∧ qs = way ++ t :: qs' ∧ s ≠ t := by
  induction ps generalizing qs with
  | nil => exact absurd List.nil_prefix hp
  | cons s ps ih =>
    cases qs with
    | nil => exact absurd List.nil_prefix hq
    | cons t qs =>
      by_cases hst : s = t
      · subst hst
        rw [List.prefix_cons_inj] at hp hq
        obtain ⟨way, s', t', ps', qs', rfl, rfl, hne⟩ := ih hp hq
        exact ⟨s :: way, s', t', ps', qs', rfl, rfl, hne⟩
      · exact ⟨[], s, t, ps, qs, rfl, rfl, hst⟩

/-- There is one place where two lists part. -/
theorem fork_unique {way' : List Text} {s' t' : Text} (hne : s ≠ t) (hne' : s' ≠ t')
    (hp : way' ++ [s'] <+: way ++ s :: ps) (hq : way' ++ [t'] <+: way ++ t :: qs) :
    way' = way ∧ s' = s ∧ t' = t := by
  induction way generalizing way' with
  | nil =>
    cases way' with
    | nil => exact ⟨rfl, (List.cons_prefix_cons.1 hp).1, (List.cons_prefix_cons.1 hq).1⟩
    | cons u way' =>
      have hs : u = s := (List.cons_prefix_cons.1 hp).1
      have ht : u = t := (List.cons_prefix_cons.1 hq).1
      exact absurd (hs.symm.trans ht) hne
  | cons u way ih =>
    cases way' with
    | nil =>
      have hs : s' = u := (List.cons_prefix_cons.1 hp).1
      have ht : t' = u := (List.cons_prefix_cons.1 hq).1
      exact absurd (hs.trans ht.symm) hne'
    | cons u' way' =>
      obtain ⟨rfl, hp'⟩ := List.cons_prefix_cons.1 hp
      obtain ⟨rfl, hs, ht⟩ := ih hp' (List.cons_prefix_cons.1 hq).2
      exact ⟨rfl, hs, ht⟩

/-- Paths that part have a common way and go apart at its end. -/
theorem diverge_iff {root : Value} : Diverge p q root ↔
    ∃ way s t ps qs, p.segments = way ++ s :: ps ∧ q.segments = way ++ t :: qs ∧
      Apart way s t root := by
  constructor
  · intro h
    obtain ⟨way, s, t, ps, qs, hp, hq, hne⟩ := exists_fork h.left h.right
    refine ⟨way, s, t, ps, qs, hp, hq, hne, h.items way s t ?_ ?_ hne⟩
    · exact ⟨ps, by rw [hp, List.append_assoc, List.singleton_append]⟩
    · exact ⟨qs, by rw [hq, List.append_assoc, List.singleton_append]⟩
  · rintro ⟨way, s, t, ps, qs, hp, hq, h⟩
    refine ⟨?_, ?_, fun way' s' t' hs ht hne => ?_⟩
    · rw [hp, hq, List.prefix_append_right_inj, List.cons_prefix_cons]
      exact fun hpre => h.ne hpre.1
    · rw [hp, hq, List.prefix_append_right_inj, List.cons_prefix_cons]
      exact fun hpre => h.ne hpre.1.symm
    · rw [hp] at hs
      rw [hq] at ht
      obtain ⟨rfl, rfl, rfl⟩ := fork_unique h.ne hne hs ht
      exact h.items

/-- Writes at paths that part: the one leaves what the other path leads to, each has the fault that
it has alone, and in either order they leave the same up to the order of keys. -/
theorem write_diverge {fs : Fields Value} (h : Diverge p q (.map fs)) (v w : Value) :
    q.get? (p.write (.map fs) v).1 = q.get? (.map fs) ∧
    (q.write (p.write (.map fs) v).1 w).2 = (q.write (.map fs) w).2 ∧
    (p.write (q.write (.map fs) w).1 v).2 = (p.write (.map fs) v).2 ∧
    (q.write (p.write (.map fs) v).1 w).1.Alike (p.write (q.write (.map fs) w).1 v).1 := by
  obtain ⟨way, s, t, ps, qs, hp, hq, hapart⟩ := diverge_iff.1 h
  have hpw := write_eq_attempt (p := p) (by simp [hp])
  have hqw := write_eq_attempt (p := q) (by simp [hq])
  simp only [hpw, hqw, get?, hp, hq]
  cases hb : setIn p v (way ++ s :: ps) (.map fs) with
  | error f =>
    -- this write leaves the whole as it was, so the other one does what it does alone
    cases hb' : setIn q w (way ++ t :: qs) (.map fs) with
    | error g => simp [attempt, hb, hb', Value.Alike.refl]
    | ok b' =>
      have hagain := setIn_error_of_apart hapart.symm hb' hb
      simp [attempt, hb', hagain, Value.Alike.refl]
  | ok b =>
    have hget := getIn_of_apart hapart hb qs
    cases hb' : setIn q w (way ++ t :: qs) (.map fs) with
    | error g =>
      have hagain := setIn_error_of_apart hapart hb hb'
      simp [attempt, hb, hget, hagain, Value.Alike.refl]
    | ok b' =>
      obtain ⟨d, d', hd, hd', halike⟩ := setIn_comm hapart hb hb'
      simp [attempt, hget, hd, hd', halike]

theorem write_diverge_made :
    Diverge ⟨["a", "x", "y"]⟩ ⟨["a", "z"]⟩ (.map [("a", .null)]) ∧
    (write ⟨["a", "z"]⟩ (write ⟨["a", "x", "y"]⟩ (.map [("a", .null)]) (.int 1)).1 (.int 2)).1 =
      .map [("a", .map [("x", .map [("y", .int 1)]), ("z", .int 2)])] ∧
    (write ⟨["a", "x", "y"]⟩ (write ⟨["a", "z"]⟩ (.map [("a", .null)]) (.int 2)).1 (.int 1)).1 =
      .map [("a", .map [("z", .int 2), ("x", .map [("y", .int 1)])])] ∧
    (write ⟨["a", "z"]⟩ (write ⟨["a", "x", "y"]⟩ (.map [("a", .null)]) (.int 1)).1 (.int 2)).1.Alike
      (write ⟨["a", "x", "y"]⟩ (write ⟨["a", "z"]⟩ (.map [("a", .null)]) (.int 2)).1 (.int 1)).1 := by
  have hapart : Apart ["a"] "x" "z" (.map [("a", .null)]) :=
    ⟨by decide, fun xs hxs => by cases hxs⟩
  have hdiverge : Diverge ⟨["a", "x", "y"]⟩ ⟨["a", "z"]⟩ (.map [("a", .null)]) :=
    diverge_iff.2 ⟨["a"], "x", "z", ["y"], [], rfl, rfl, hapart⟩
  exact ⟨hdiverge, rfl, rfl, (write_diverge hdiverge (.int 1) (.int 2)).2.2.2⟩

end KeyPath
end RuleLedger
