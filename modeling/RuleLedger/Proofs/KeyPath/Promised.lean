import RuleLedger.Proofs.Json.Numbers
import RuleLedger.Proofs.KeyPath.Lens

/-! Where a write is promised to succeed: nothing and null on its way give way to mappings, and lists
are indexed in plain digits. Main statement: such a write is made, unless null stands in a list on
its way or an index has more digits than are read; then it is refused. -/
namespace RuleLedger

open Decimal (AllDigits)

/-- Whether a text of plain digits spells a number. -/
def Text.Spells (seg : Text) (n : Nat) : Prop :=
  ∃ ds : List Char, ds ≠ [] ∧ AllDigits ds ∧ seg.toList = ds.map .char ∧
    n = Nat.ofDigitChars 10 ds 0

namespace KeyPath

variable {p : KeyPath} {new v a u : Value} {x : Option Value} {seg : Text}
  {segs way rest : List Text} {f : Fault}

/-- Plain digits are an index, if there are no more of them than are read. -/
theorem index?_of_spells {i : Nat} (h : seg.Spells i) (n : Nat) :
    index? seg n = if digitLimit < seg.length then .error (.tooManyDigits seg.length)
      else .ok (if i < n then some i else none) := by
  obtain ⟨ds, hne, hds, hseg, rfl⟩ := h
  have hdecimal : ∀ c ∈ seg.toList, Text.isDecimal c = true := by
    intro c hc
    rw [hseg] at hc
    obtain ⟨d, hd, rfl⟩ := List.mem_map.1 hc
    rw [Text.isDecimal, Json.digitValue?_of_isDigit (hds d hd)]
    rfl
  have hdigits : (seg.toList.isEmpty || !seg.toList.all Text.isDigit) = false := by
    have hall : seg.toList.all Text.isDigit = true :=
      List.all_eq_true.2 fun c hc => by rw [Text.isDigit, hdecimal c hc, Bool.true_or]
    rw [hall, hseg]
    simpa using hne
  have hread : Numeral.readWhole seg = readDigits seg.toList := by
    rw [Numeral.readWhole, List.takeWhile_eq_self_iff.2 hdecimal]
    rcases readDigits seg.toList with f | n
    · rfl
    · exact if_pos (List.all_eq_true.2 hdecimal)
  rw [index?, hdigits, hread, readDigits, Text.length]
  rw [if_neg Bool.false_ne_true]
  by_cases hlong : digitLimit < seg.toList.length
  · rw [if_pos hlong, if_pos hlong]
    rfl
  · rw [if_neg hlong, if_neg hlong, hseg, Json.digitsValue_map hds]
    rfl

/-! ### The promise -/

/-- Whether a write is promised at segments, given what stands where they start: at every position
before the last one there is nothing, null, a mapping, or a list in which the next segment spells
the place of an item. -/
inductive Promised : List Text → Option Value → Prop
  | last (x : Option Value) : Promised [] x
  | absent (segs : List Text) : Promised segs none
  | null (segs : List Text) : Promised segs (some .null)
  | member {seg : Text} {segs : List Text} {fs : Fields Value} :
    Promised segs (Fields.get? fs seg) → Promised (seg :: segs) (some (.map fs))
  | item {seg : Text} {segs : List Text} {xs : List Value} {i : Nat} {v : Value} :
    seg.Spells i → xs[i]? = some v → Promised segs (some v) →
      Promised (seg :: segs) (some (.list xs))

/-- Whether segments lead into a list and on from an item of it that is null. -/
def MeetsNullItem (segs : List Text) (v : Value) : Prop :=
  ∃ way item next rest xs, segs = way ++ item :: next :: rest ∧
    getIn way v = .ok (some (.list xs)) ∧ getIn (way ++ [item]) v = .ok (some .null)

/-- Whether segments lead into a list with more digits than are read. -/
def MeetsLongIndex (segs : List Text) (v : Value) : Prop :=
  ∃ way item rest xs, segs = way ++ item :: rest ∧ getIn way v = .ok (some (.list xs)) ∧
    digitLimit < item.length

section Below

variable {s : Slot} (hs : slot? seg a = .ok (some s))
include hs

theorem MeetsNullItem.of_entrance (h : MeetsNullItem segs (a.entrance s)) :
    MeetsNullItem (seg :: segs) a := by
  obtain ⟨way, item, next, rest, xs, rfl, hlist, hnull⟩ := h
  rw [getIn_entrance hs (by simp)] at hnull
  exact ⟨seg :: way, item, next, rest, xs, rfl, getIn_of_entrance hs hlist, hnull⟩

theorem MeetsLongIndex.of_entrance (h : MeetsLongIndex segs (a.entrance s)) :
    MeetsLongIndex (seg :: segs) a := by
  obtain ⟨way, item, rest, xs, rfl, hlist, hlong⟩ := h
  exact ⟨seg :: way, item, rest, xs, rfl, getIn_of_entrance hs hlist, hlong⟩

end Below

/-! ### Writes that are made -/

theorem setIn_made (p : KeyPath) (new : Value) (segs : List Text) :
    ∃ b, setIn p new segs (.map []) = .ok b := by
  cases segs with
  | nil => exact ⟨new, rfl⟩
  | cons seg rest =>
    rw [setIn_eq_outcome]
    rcases h : writeIn p new seg rest (.map []) with ⟨left, _ | f⟩
    · exact ⟨left, rfl⟩
    · have hend := writeIn_made p new seg rest
      rw [h] at hend
      cases hend

/-- A promised write is made where neither null in a list nor a long index is in its way. -/
theorem setIn_of_promised (h : Promised segs x) (hn : ¬MeetsNullItem segs (entered x))
    (hl : ¬MeetsLongIndex segs (entered x)) : ∃ b, setIn p new segs (entered x) = .ok b := by
  induction h with
  | last x => exact ⟨new, rfl⟩
  | absent segs => exact setIn_made p new segs
  | null segs => exact setIn_made p new segs
  | @member seg segs fs _ ih =>
    have hs : slot? seg (.map fs) = .ok (some (.key seg)) := rfl
    obtain ⟨b, hb⟩ := ih (fun h => hn (.of_entrance hs h)) fun h => hl (.of_entrance hs h)
    exact ⟨_, setIn_cons_eq_ok.2 ⟨.key seg, b, hs, hb, rfl⟩⟩
  | @item seg segs xs i v hseg hv _ ih =>
    have hi : i < xs.length := (List.getElem?_eq_some_iff.1 hv).1
    have hshort : ¬digitLimit < seg.length := fun hlong => hl ⟨[], seg, segs, xs, rfl, rfl, hlong⟩
    have hs : slot? seg (.list xs) = .ok (some (.item i)) := by
      refine slot?_list.2 ⟨i, ?_, rfl⟩
      rw [index?_of_spells hseg, if_neg hshort, if_pos hi]
    have hbelow : ∃ b, setIn p new segs ((Value.list xs).entrance (.item i)) = .ok b := by
      cases segs with
      | nil => exact ⟨new, rfl⟩
      | cons next rest =>
        -- null in the list would be met, so the item is what a member would be entered as
        have hentrance : (Value.list xs).entrance (.item i) = entered (some v) := by
          rw [Value.entrance_list, Value.content?, hv, Option.getD_some]
          cases v with
          | null => exact absurd ⟨[], seg, next, rest, xs, rfl, rfl,
              getIn_cons_eq_some.2 ⟨_, _, hs, hv, rfl⟩⟩ hn
          | _ => rfl
        rw [← hentrance] at ih
        exact ih (fun h => hn (.of_entrance hs h)) fun h => hl (.of_entrance hs h)
    obtain ⟨b, hb⟩ := hbelow
    exact ⟨_, setIn_cons_eq_ok.2 ⟨.item i, b, hs, hb, rfl⟩⟩

/-- A write makes a mapping of one member where there was nothing or null on its way. -/
theorem getIn_made {b : Value} (hway : way ≠ []) (hb : setIn p new (way ++ seg :: rest) a = .ok b)
    (hgap : getIn way a = .ok none ∨ getIn way a = .ok (some .null)) :
    ∃ u, getIn way b = .ok (some (.map [(seg, u)])) := by
  induction way generalizing a b with
  | nil => exact absurd rfl hway
  | cons k way ih =>
    obtain ⟨s, c, hs, hc, rfl⟩ := setIn_cons_eq_ok.1 hb
    rw [getIn_fill hs]
    cases way with
    | nil =>
      obtain ⟨t, d, ht, -, rfl⟩ := setIn_cons_eq_ok.1 hc
      have hmade : a.entrance s = .map [] := by
        obtain hcontent | ⟨hmade, -⟩ := Value.entrance_cases (hasSlot_of_slot? hs)
        · rw [getIn_cons_eq_some.2 ⟨s, _, hs, hcontent, rfl⟩] at hgap
          obtain hgap | hgap := hgap
          · cases hgap
          · rw [Option.some.inj (Except.ok.inj hgap)] at ht
            cases ht
        · exact hmade
      rw [hmade] at ht ⊢
      obtain rfl := Option.some.inj (Except.ok.inj ht)
      exact ⟨d, rfl⟩
    | cons k' way =>
      refine ih (List.cons_ne_nil k' way) hc ?_
      rw [getIn_entrance hs (List.cons_ne_nil k' way)]
      exact hgap

/-! ### Writes that are refused -/

/-- A write fails as it does from a container on its way. -/
theorem setIn_append_eq_error (hu : getIn way a = .ok (some u)) (hc : u.isContainer = true)
    (hf : setIn p new segs u = .error f) : setIn p new (way ++ segs) a = .error f := by
  induction way generalizing a with
  | nil =>
    obtain rfl := Option.some.inj (Except.ok.inj hu)
    exact hf
  | cons seg way ih =>
    obtain ⟨s, c, hs, hcontent, hu⟩ := getIn_cons_eq_some.1 hu
    have hcontainer : c.isContainer = true := by
      cases way with
      | nil =>
        obtain rfl := Option.some.inj (Except.ok.inj hu)
        exact hc
      | cons next rest => exact isContainer_of_getIn hu (List.cons_ne_nil next rest)
    refine (setIn_cons_eq_error hs).2 ?_
    rw [Value.entrance_of_content? hcontent hcontainer]
    exact ih hu

theorem getIn_append (hu : getIn way a = .ok (some u)) (segs : List Text) :
    getIn (way ++ segs) a = getIn segs u := by
  induction way generalizing a with
  | nil =>
    obtain rfl := Option.some.inj (Except.ok.inj hu)
    rfl
  | cons seg way ih =>
    obtain ⟨s, c, hs, hcontent, hu⟩ := getIn_cons_eq_some.1 hu
    rw [List.cons_append, getIn_cons, hs]
    dsimp only [Except.bind, Option.bind]
    rw [hcontent]
    exact ih hu

/-- Null in a list is not written through. -/
theorem setIn_null_item {item next : Text} {xs : List Value}
    (hlist : getIn way a = .ok (some (.list xs)))
    (hnull : getIn (way ++ [item]) a = .ok (some .null)) :
    setIn p new (way ++ item :: next :: rest) a =
      .error (.path (p.refusal "NoneType" next rest)) := by
  rw [getIn_append hlist] at hnull
  obtain ⟨s, c, hs, hcontent, hc⟩ := getIn_cons_eq_some.1 hnull
  obtain rfl := Option.some.inj (Except.ok.inj hc)
  have hentrance : (Value.list xs).entrance s = .null := by
    rw [Value.entrance_list, hcontent, Option.getD_some]
  refine setIn_append_eq_error hlist rfl ((setIn_cons_eq_error hs).2 ?_)
  rw [hentrance]
  rfl

/-- Where a promise goes on in a list, the next segment spells a number. -/
theorem Promised.spells {item : Text} {xs : List Value} (h : Promised (way ++ item :: rest) (some a))
    (hlist : getIn way a = .ok (some (.list xs))) : ∃ i, item.Spells i := by
  induction way generalizing a with
  | nil =>
    obtain rfl := Option.some.inj (Except.ok.inj hlist)
    cases h with
    | item hseg => exact ⟨_, hseg⟩
  | cons seg way ih =>
    cases h with
    | null => cases hlist
    | member h =>
      obtain ⟨s, c, hs, hcontent, hlist⟩ := getIn_cons_eq_some.1 hlist
      obtain rfl := Option.some.inj (Except.ok.inj hs)
      change Fields.get? _ _ = _ at hcontent
      rw [hcontent] at h
      exact ih h hlist
    | item hseg hv h =>
      obtain ⟨s, c, hs, hcontent, hlist⟩ := getIn_cons_eq_some.1 hlist
      obtain ⟨j, hj, rfl⟩ := slot?_list.1 hs
      rw [index?_of_spells hseg] at hj
      split_ifs at hj
      · obtain rfl := Option.some.inj (Except.ok.inj hj)
        obtain rfl := Option.some.inj (hv.symm.trans hcontent)
        exact ih h hlist
      · cases hj

/-- An index of more digits than are read is refused as a number. -/
theorem setIn_long_index {item : Text} {i : Nat} {xs : List Value}
    (hlist : getIn way a = .ok (some (.list xs))) (hitem : item.Spells i)
    (hlong : digitLimit < item.length) :
    setIn p new (way ++ item :: rest) a = .error (.numeric (.tooManyDigits item.length)) := by
  refine setIn_append_eq_error hlist rfl ?_
  rw [setIn, index?_of_spells hitem, if_pos hlong]

/-! ### At a path -/

/-- A write that is promised is made: the value is found at the path, and nothing and null on the way
have become mappings. It is refused, and leaves the whole as it was, where null stands in a list on
the way and where an index has more digits than are read. -/
theorem write_promised {fs : Fields Value} (hp : p.segments ≠ [])
    (h : Promised p.segments (some (.map fs))) (new : Value) :
    (¬MeetsNullItem p.segments (.map fs) → ¬MeetsLongIndex p.segments (.map fs) →
      ∃ r, p.write (.map fs) new = (r, none) ∧ p.get? r = .ok (some new) ∧
        ∀ way seg, way ≠ [] → way ++ [seg] <+: p.segments →
          getIn way (.map fs) = .ok none ∨ getIn way (.map fs) = .ok (some .null) →
          ∃ u, getIn way r = .ok (some (.map [(seg, u)]))) ∧
    (∀ way item next rest xs, p.segments = way ++ item :: next :: rest →
      getIn way (.map fs) = .ok (some (.list xs)) →
      getIn (way ++ [item]) (.map fs) = .ok (some .null) →
      p.write (.map fs) new = (.map fs, some (.path (p.refusal "NoneType" next rest)))) ∧
    ∀ way item rest xs, p.segments = way ++ item :: rest →
      getIn way (.map fs) = .ok (some (.list xs)) → digitLimit < item.length →
      p.write (.map fs) new = (.map fs, some (.numeric (.tooManyDigits item.length))) := by
  have hwrite := write_eq_attempt hp (.map fs) new
  refine ⟨fun hn hl => ?_, fun way item next rest xs hsegs hlist hnull => ?_,
    fun way item rest xs hsegs hlist hlong => ?_⟩
  · obtain ⟨r, hr⟩ := setIn_of_promised (p := p) h hn hl
    refine ⟨r, hwrite.trans (congrArg (attempt _) hr), getIn_of_setIn hr, ?_⟩
    rintro way seg hway ⟨rest, hrest⟩ hgap
    rw [← hrest, List.append_assoc, List.singleton_append] at hr
    exact getIn_made hway hr hgap
  · rw [hwrite, hsegs, setIn_null_item hlist hnull]
    rfl
  · rw [hsegs] at h
    obtain ⟨i, hitem⟩ := h.spells hlist
    rw [hwrite, hsegs, setIn_long_index hlist hitem hlong]
    rfl

theorem write_promised_null_member :
    Promised ["tags", "0", "b", "c"] (some (.map [("tags", .list [.map [("b", .null)]])])) ∧
    ∃ r, write ⟨["tags", "0", "b", "c"]⟩ (.map [("tags", .list [.map [("b", .null)]])])
        (.int 1) = (r, none) ∧ get? ⟨["tags", "0", "b", "c"]⟩ r = .ok (some (.int 1)) := by
  have hzero : AllDigits ['0'] := List.forall_mem_singleton.2 rfl
  have hspells : Text.Spells "0" 0 := ⟨['0'], List.cons_ne_nil _ _, hzero, rfl, rfl⟩
  have h : Promised ["tags", "0", "b", "c"]
      (some (.map [("tags", .list [.map [("b", .null)]])])) :=
    .member (.item hspells rfl (.member (.null _)))
  have hn : ¬MeetsNullItem ["tags", "0", "b", "c"]
      (.map [("tags", .list [.map [("b", .null)]])]) := by
    rintro ⟨_ | ⟨s, _ | ⟨t, _ | ⟨u, way⟩⟩⟩, item, next, rest, xs, hsegs, hlist, hnull⟩
    · cases hlist
    · cases hsegs
      cases hnull
    · cases hsegs
      cases hlist
    · have hlength := congrArg List.length hsegs
      simp only [List.length_append, List.length_cons, List.length_nil] at hlength
      omega
  have hl : ¬MeetsLongIndex ["tags", "0", "b", "c"]
      (.map [("tags", .list [.map [("b", .null)]])]) := by
    have hshort : ∀ seg ∈ (["tags", "0", "b", "c"] : List Text), ¬digitLimit < seg.length := by
      decide
    rintro ⟨way, item, rest, xs, hsegs, -, hlong⟩
    exact hshort item (hsegs ▸ by simp) hlong
  obtain ⟨r, hr, hget, -⟩ := (write_promised (List.cons_ne_nil _ _) h (.int 1)).1 hn hl
  exact ⟨h, r, hr, hget⟩

example : (write ⟨["a", "0", "b"]⟩ (.map [("a", .list [.null])]) (.int 1)).2 =
    some (.path (.cannotAssign "NoneType" "b" "a.0.b")) := by decide +kernel

end KeyPath
end RuleLedger
