import RuleLedger.KeyPath
import RuleLedger.Proofs.Except
import RuleLedger.Proofs.Fields
import RuleLedger.Record.Identity

/-! The slots of lists and mappings. A path goes through one slot for each segment; what reads and
writes do there, and how two slots of one value get on, is said once for both kinds of containers.
-/
namespace RuleLedger

/-- What a path goes on in, given the member under a key: nothing and null give way. -/
def KeyPath.entered : Option Value → Value
  | none | some .null => .map []
  | some v => v

namespace Value

variable {v u w : Value} {s t : Slot}

/-- Whether a value has members that are reached by segments of a path. -/
def isContainer : Value → Bool
  | .list _ | .map _ => true
  | _ => false

/-- Whether a slot is one of a value: a mapping takes every key, a list has its places. -/
def HasSlot : Value → Slot → Prop
  | .map _, .key _ => True
  | .list xs, .item i => i < xs.length
  | _, _ => False

/-- What a slot of a value holds. -/
def content? : Value → Slot → Option Value
  | .map fs, .key k => Fields.get? fs k
  | .list xs, .item i => xs[i]?
  | _, _ => none

/-- A value with new content in a slot. -/
def fill : Value → Slot → Value → Value
  | .map fs, .key k, u => .map (Fields.put fs k u)
  | .list xs, .item i, u => .list (xs.set i u)
  | v, _, _ => v

/-- What a write goes on in at a slot. Only members of mappings give way to a new mapping. -/
def entrance : Value → Slot → Value
  | .map fs, .key k => KeyPath.entered (Fields.get? fs k)
  | v, s => (v.content? s).getD .null

theorem HasSlot.cases (h : v.HasSlot s) :
    (∃ fs k, v = .map fs ∧ s = .key k) ∨ ∃ xs i, v = .list xs ∧ s = .item i ∧ i < xs.length := by
  cases v <;> cases s <;> first | cases h | skip
  · exact .inr ⟨_, _, rfl, rfl, h⟩
  · exact .inl ⟨_, _, rfl, rfl⟩

theorem content?_fill (h : v.HasSlot s) (u : Value) : (v.fill s u).content? s = some u := by
  obtain ⟨fs, k, rfl, rfl⟩ | ⟨xs, i, rfl, rfl, hi⟩ := h.cases
  · exact Fields.get?_put_self fs k u
  · exact List.getElem?_set_self hi

theorem content?_fill_of_ne (h : s ≠ t) (v u : Value) : (v.fill s u).content? t = v.content? t := by
  cases v <;> cases s <;> first | rfl | skip
  · cases t with
    | key k => rfl
    | item j => exact List.getElem?_set_ne fun he => h (congrArg Slot.item he)
  · cases t with
    | key l => exact (Fields.get?_put _ _ _ _).trans (if_neg fun he => h (congrArg Slot.key he.symm))
    | item j => rfl

theorem fill_of_content? (h : v.content? s = some u) : v.fill s u = v := by
  cases v <;> cases s <;> first | cases h | skip
  · obtain ⟨hi, he⟩ := List.getElem?_eq_some_iff.1 h
    exact congrArg list (he ▸ List.set_getElem_self hi)
  · exact congrArg map (Fields.put_of_get? h)

@[simp] theorem fill_fill (v u w : Value) (s : Slot) : (v.fill s u).fill s w = v.fill s w := by
  cases v <;> cases s <;> first | rfl | skip
  · exact congrArg list (List.set_set _)
  · exact congrArg map (Fields.put_put _ _ _ _)

@[simp] theorem kindName_fill (v u : Value) (s : Slot) : (v.fill s u).kindName = v.kindName := by
  cases v <;> cases s <;> rfl

theorem entrance_list (xs : List Value) (s : Slot) :
    (list xs).entrance s = ((list xs).content? s).getD .null := by
  cases s <;> rfl

/-- A write goes on in what the slot holds, or in a new mapping where it holds nothing or null. -/
theorem entrance_cases (h : v.HasSlot s) : v.content? s = some (v.entrance s) ∨
    v.entrance s = .map [] ∧ (v.content? s = none ∨ v.content? s = some .null) := by
  obtain ⟨fs, k, rfl, rfl⟩ | ⟨xs, i, rfl, rfl, hi⟩ := h.cases
  · rw [content?, entrance]
    cases Fields.get? fs k with
    | none => exact .inr ⟨rfl, .inl rfl⟩
    | some v => cases v <;> first | exact .inl rfl | exact .inr ⟨rfl, .inr rfl⟩
  · refine .inl ?_
    rw [entrance_list, content?, List.getElem?_eq_getElem hi, Option.getD_some]

theorem entrance_of_content? (h : v.content? s = some u) (hu : u.isContainer = true) :
    v.entrance s = u := by
  cases v <;> cases s <;> first | cases h | skip
  · rw [entrance_list, h, Option.getD_some]
  · rw [content?] at h
    rw [entrance, h]
    cases u <;> first | rfl | cases hu

/-- A slot is entered alike before and after another one is filled. -/
theorem entrance_fill_of_ne (h : s ≠ t) (v u : Value) :
    (v.fill s u).entrance t = v.entrance t := by
  have hc := content?_fill_of_ne h v u
  cases v <;> cases s <;> first | rfl | skip
  · cases t with
    | key k => rfl
    | item j => exact congrArg (Option.getD · null) hc
  · cases t with
    | key l => exact congrArg KeyPath.entered hc
    | item j => rfl

end Value

namespace KeyPath

variable {p : KeyPath} {v a b new x : Value} {s : Slot} {seg : Text} {segs : List Text}

/-- The slot of a value that a segment leads to, none where the value has no such slot. -/
def slot? (seg : Text) : Value → Except NumericFault (Option Slot)
  | .map _ => .ok (some (.key seg))
  | .list xs => (index? seg xs.length).map (Option.map Slot.item)
  | _ => .ok none

theorem lt_of_index? {n k : Nat} (h : index? seg n = .ok (some k)) : k < n := by
  rw [index?] at h
  split_ifs at h
  · cases h
  · obtain ⟨m, -, hm⟩ := bind_eq_ok.1 h
    rw [pure_eq_ok] at hm
    split_ifs at hm with hlt
    · obtain rfl := Option.some.inj hm
      exact hlt

/-- A segment that counts as an index, being made of digits, and cannot be read as a number. -/
structure Unreadable (seg : Text) (f : NumericFault) : Prop where
  digits : seg.toList.all Text.isDigit = true
  fails : Numeral.readWhole seg = .error f

theorem unreadable_of_index? {seg : Text} {n : Nat} {f : NumericFault}
    (h : index? seg n = .error f) : Unreadable seg f := by
  rw [index?] at h
  split_ifs at h with hcs
  rw [Bool.not_eq_true, Bool.or_eq_false_iff, Bool.not_eq_false'] at hcs
  obtain hf | ⟨m, -, hm⟩ := bind_eq_error.1 h
  · exact ⟨hcs.2, hf⟩
  · cases hm

theorem unreadable_of_slot? {f : NumericFault} (h : slot? seg v = .error f) : Unreadable seg f := by
  cases v with
  | list xs => exact unreadable_of_index? (map_eq_error.1 h)
  | _ => cases h

theorem slot?_list {xs : List Value} :
    slot? seg (.list xs) = .ok (some s) ↔ ∃ i, index? seg xs.length = .ok (some i) ∧ s = .item i := by
  rw [slot?, map_eq_ok]
  constructor
  · rintro ⟨i?, hi, he⟩
    obtain ⟨i, rfl, rfl⟩ := Option.map_eq_some_iff.1 he
    exact ⟨i, hi, rfl⟩
  · rintro ⟨i, hi, rfl⟩
    exact ⟨_, hi, rfl⟩

theorem hasSlot_of_slot? (h : slot? seg v = .ok (some s)) : v.HasSlot s := by
  cases v with
  | map fs =>
    obtain rfl := Option.some.inj (Except.ok.inj h)
    trivial
  | list xs =>
    obtain ⟨i, hi, rfl⟩ := slot?_list.1 h
    exact lt_of_index? hi
  | _ => cases h

theorem isContainer_of_slot? (h : slot? seg v = .ok (some s)) : v.isContainer = true := by
  cases v <;> first | rfl | cases h

@[simp] theorem slot?_fill (seg : Text) (v u : Value) (s : Slot) :
    slot? seg (v.fill s u) = slot? seg v := by
  cases v <;> cases s <;> simp [slot?, Value.fill]

/-! ### One segment -/

/-- A read goes on in what the slot holds. -/
theorem getIn_cons (seg : Text) (segs : List Text) (v : Value) :
    getIn (seg :: segs) v = (slot? seg v).bind fun s? =>
      match s?.bind v.content? with
      | some u => getIn segs u
      | none => .ok none := by
  cases v with
  | map fs => rfl
  | list xs =>
    rw [getIn, slot?]
    rcases index? seg xs.length with f | _ | i <;> rfl
  | _ => rfl

theorem setIn_map (p : KeyPath) (new : Value) (seg : Text) (segs : List Text)
    (fs : List (Text × Value)) :
    setIn p new (seg :: segs) (.map fs) =
      (setIn p new segs (entered (Fields.get? fs seg))).map
        fun v => .map (Fields.put fs seg v) := by
  rw [setIn]
  cases Fields.get? fs seg with
  | none => rfl
  | some v => cases v <;> rfl

/-- A write goes on at the entrance of the slot, and what it makes is put into the slot. -/
theorem setIn_cons (p : KeyPath) (new : Value) (seg : Text) (segs : List Text) (v : Value) :
    setIn p new (seg :: segs) v =
      match slot? seg v with
      | .error f => .error (.numeric f)
      | .ok none => .error (.path (p.refusal v.kindName seg segs))
      | .ok (some s) => (setIn p new segs (v.entrance s)).map (v.fill s) := by
  cases v with
  | map fs => exact setIn_map p new seg segs fs
  | list xs =>
    rw [setIn, slot?]
    rcases index? seg xs.length with f | _ | i <;> rfl
  | _ => rfl

theorem getIn_cons_eq_some : getIn (seg :: segs) v = .ok (some x) ↔
    ∃ s u, slot? seg v = .ok (some s) ∧ v.content? s = some u ∧ getIn segs u = .ok (some x) := by
  rw [getIn_cons]
  rcases slot? seg v with f | _ | s
  · simp [Except.bind]
  · simp [Except.bind]
  · cases hs : v.content? s <;> simp [Except.bind, hs]

theorem setIn_cons_eq_ok : setIn p new (seg :: segs) a = .ok b ↔
    ∃ s c, slot? seg a = .ok (some s) ∧ setIn p new segs (a.entrance s) = .ok c ∧
      a.fill s c = b := by
  rw [setIn_cons]
  rcases slot? seg a with f | _ | s <;> simp [map_eq_ok]

/-- A write below a slot that it can enter fails as the write there does. -/
theorem setIn_cons_eq_error {f : Fault} (hs : slot? seg a = .ok (some s)) :
    setIn p new (seg :: segs) a = .error f ↔ setIn p new segs (a.entrance s) = .error f := by
  rw [setIn_cons, hs]
  exact map_eq_error

/-- Only lists and mappings have anything below them. -/
theorem isContainer_of_getIn (h : getIn segs v = .ok (some x)) (hs : segs ≠ []) :
    v.isContainer = true := by
  cases segs with
  | nil => exact absurd rfl hs
  | cons seg segs =>
    obtain ⟨s, u, hs, -⟩ := getIn_cons_eq_some.1 h
    exact isContainer_of_slot? hs

theorem isContainer_of_setIn (h : setIn p new segs a = .ok b) (hs : segs ≠ []) :
    b.isContainer = true := by
  cases segs with
  | nil => exact absurd rfl hs
  | cons seg segs =>
    obtain ⟨s, c, hs, -, rfl⟩ := setIn_cons_eq_ok.1 h
    exact isContainer_of_slot? ((slot?_fill seg a c s).trans hs)

theorem setIn_leaf (h : v.isContainer = false) (new : Value) (seg : Text) (segs : List Text) :
    ∃ f, setIn p new (seg :: segs) v = .error f := by
  cases v <;> first | exact ⟨_, rfl⟩ | cases h

/-- What a path leads to is read at the entrance of a slot as in the slot: nothing is below null,
nor in a mapping that is made for it. -/
theorem getIn_entrance (hs : slot? seg a = .ok (some s)) (hne : segs ≠ []) :
    getIn segs (a.entrance s) = getIn (seg :: segs) a := by
  rw [getIn_cons, hs]
  dsimp only [Except.bind, Option.bind]
  obtain hc | ⟨hmade, hc⟩ := Value.entrance_cases (hasSlot_of_slot? hs)
  · rw [hc]
  · cases segs with
    | nil => exact absurd rfl hne
    | cons next rest => rcases hc with hc | hc <;> rw [hc, hmade] <;> rfl

/-- A list that is reached from the entrance of a slot is reached through the slot. -/
theorem getIn_of_entrance {xs : List Value} (hs : slot? seg a = .ok (some s))
    (h : getIn segs (a.entrance s) = .ok (some (.list xs))) :
    getIn (seg :: segs) a = .ok (some (.list xs)) := by
  obtain hc | ⟨hmade, -⟩ := Value.entrance_cases (hasSlot_of_slot? hs)
  · exact getIn_cons_eq_some.2 ⟨s, _, hs, hc, h⟩
  · rw [hmade] at h
    cases segs <;> cases h

/-! ### After a slot is filled -/

/-- A read through the slot goes on in its new content. -/
theorem getIn_fill (hs : slot? seg a = .ok (some s)) (segs : List Text) (u : Value) :
    getIn (seg :: segs) (a.fill s u) = getIn segs u := by
  rw [getIn_cons, slot?_fill, hs]
  dsimp only [Except.bind, Option.bind]
  rw [Value.content?_fill (hasSlot_of_slot? hs)]

/-- A read through another slot does not notice. -/
theorem getIn_fill_of_ne (hs : slot? seg a ≠ .ok (some s)) (segs : List Text) (u : Value) :
    getIn (seg :: segs) (a.fill s u) = getIn (seg :: segs) a := by
  rw [getIn_cons, getIn_cons, slot?_fill]
  rcases ht : slot? seg a with f | _ | t
  · rfl
  · rfl
  · have hne : s ≠ t := fun he => hs (he ▸ ht)
    dsimp only [Except.bind, Option.bind]
    rw [Value.content?_fill_of_ne hne]

/-- A write where the slot is entered is one into what the slot holds, unless a mapping takes the
place of null. -/
theorem setIn_entrance {u : Value} (p : KeyPath) (new : Value) (hc : a.content? s = some u)
    (hu : segs ≠ [] → u.isContainer = true) :
    setIn p new segs (a.entrance s) = setIn p new segs u := by
  cases segs with
  | nil => rfl
  | cons seg segs => rw [Value.entrance_of_content? hc (hu (List.cons_ne_nil seg segs))]

/-- A write through the slot goes on in its new content. -/
theorem setIn_fill {u : Value} (hs : slot? seg a = .ok (some s))
    (hu : segs ≠ [] → u.isContainer = true) (p : KeyPath) (new : Value) :
    setIn p new (seg :: segs) (a.fill s u) = (setIn p new segs u).map (a.fill s) := by
  have hc := Value.content?_fill (hasSlot_of_slot? hs) u
  rw [setIn_cons, slot?_fill, hs]
  dsimp only
  rw [setIn_entrance p new hc hu]
  cases setIn p new segs u with
  | error f => rfl
  | ok d => exact congrArg Except.ok (Value.fill_fill a u d s)

/-- A write through another slot goes on as before. -/
theorem setIn_fill_of_ne (hs : slot? seg a ≠ .ok (some s)) (p : KeyPath) (new : Value)
    (segs : List Text) (u : Value) :
    setIn p new (seg :: segs) (a.fill s u) =
      match slot? seg a with
      | .error f => .error (.numeric f)
      | .ok none => .error (.path (p.refusal a.kindName seg segs))
      | .ok (some t) => (setIn p new segs (a.entrance t)).map ((a.fill s u).fill t) := by
  rw [setIn_cons, slot?_fill, Value.kindName_fill]
  rcases ht : slot? seg a with f | _ | t
  · rfl
  · rfl
  · have hne : s ≠ t := fun he => hs (he ▸ ht)
    dsimp only
    rw [Value.entrance_fill_of_ne hne]

end KeyPath
end RuleLedger
