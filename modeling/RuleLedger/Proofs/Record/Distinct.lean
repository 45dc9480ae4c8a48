import RuleLedger.Proofs.KeyPath.Lens
import RuleLedger.Proofs.Record.Sole

/-! Records in which no list or mapping stands at two places, such as those that are made of a JSON
value. Reading from such a record and writing into it is reading from its value and writing into
that; so what is written is read back, and a write that fails changes nothing, unless it is one of a
mapping over the whole of a list. -/
namespace RuleLedger

/-! ### Reading -/

/-- Reading below a datum reads below its value. -/
theorem Datum.getIn_value (segs : List Text) (d : Datum) :
    (d.getIn segs).map (Option.map value) = KeyPath.getIn segs d.value := by
  induction segs generalizing d with
  | nil => rfl
  | cons seg segs ih =>
    cases d with
    | map i fs =>
      rw [getIn, value_map, KeyPath.getIn, Fields.get?_mapValues]
      cases Fields.get? fs seg with
      | none => rfl
      | some d => exact ih d
    | list i xs =>
      rw [getIn, value_list, KeyPath.getIn, List.length_map]
      cases KeyPath.index? seg xs.length with
      | error f => rfl
      | ok k? =>
        cases k? with
        | none => rfl
        | some k =>
          dsimp only
          rw [List.getElem?_map]
          cases xs[k]? with
          | none => rfl
          | some x => exact ih x
    | _ => rfl

/-- What is written at a path is read at it. -/
theorem KeyPath.get?_of_set {p : KeyPath} {a b new : Value} (h : p.set a new = .ok b) :
    p.get? b = .ok (some new) := by
  cases hp : p.isWildcard with
  | true =>
    obtain ⟨_ | ⟨seg, rest⟩⟩ := p
    · cases new with
      | map fs =>
        cases a with
        | map gs =>
          obtain rfl := Except.ok.inj h
          rfl
        | _ => cases h
      | _ => cases h
    · cases hp
  | false =>
    rw [set_eq_setIn hp] at h
    exact getIn_of_setIn h

namespace Record

variable {r r' : Record} {p : KeyPath} {seed : Seed} {new : Datum} {f : Fault}

/-- Reading at a path reads in the value of a record. -/
theorem get?_value (r : Record) (seed : Seed) (p : KeyPath) :
    (r.get? seed p).map (Option.map Datum.value) = p.get? r.value := by
  obtain ⟨root, held⟩ := r
  obtain ⟨segs⟩ := p
  cases root with
  | fields ms =>
    cases segs with
    | nil => exact congrArg (Except.ok ∘ some) ((Datum.value_map _ ms).trans (value_fields ms held).symm)
    | cons seg segs =>
      rw [value_fields, get?, KeyPath.get?, KeyPath.getIn, Fields.get?_mapValues]
      dsimp only
      cases Fields.get? ms seg with
      | none => rfl
      | some d => exact Datum.getIn_value segs d
  | other d =>
    cases segs with
    | nil => rfl
    | cons seg segs => exact Datum.getIn_value (seg :: segs) d

/-! ### Writing -/

/-- Whether no list or mapping stands at two places of a record, and a mapping is held as one. -/
structure IsDistinct (r : Record) : Prop where
  nodup : r.containers.Nodup
  other : ∀ d, r.root = .other d → d.members? = none

theorem isDistinct_ofValue {v : Value} (hv : v.isJson = true) (s : Seed) :
    (ofValue s v).IsDistinct := by
  refine ⟨(below_ofValue hv).1, fun d hd => ?_⟩
  cases v with
  | map fs => cases hd
  | helper h => cases hv
  | _ =>
    obtain rfl := Root.other.inj hd
    rfl

/-- A write into a record and the write into its value: both fail, or what the one leaves has the
value that the other gives. -/
theorem IsDistinct.set_agrees (hr : r.IsDistinct) (p : KeyPath) (seed : Seed) (new : Datum) :
    Agree (fun _ _ => True) (fun r' v => r'.value = v) (r.set p seed new)
      (p.set r.value new.anchor.value) := by
  obtain ⟨root, held⟩ := r
  cases root with
  | fields ms =>
    have hsole : isSole ⟨.fields ms, held⟩ p = true := by
      rw [isSole, Option.all_eq_true]
      exact fun i _ => decide_eq_true (List.nodup_iff_count_le_one.1 hr.nodup i)
    rw [value_fields]
    exact Record.set_agrees hsole seed new
  | other d =>
    obtain ⟨_ | ⟨seg, rest⟩⟩ := p
    · obtain ⟨g, hg⟩ := Pairing.set_whole_other (hr.other d rfl) new.anchor.value
      rw [set]
      change Agree _ _ ((KeyPath.set ⟨[]⟩ d.value new.anchor.value).map _) (KeyPath.set ⟨[]⟩ d.value _)
      rw [hg]
      exact .error trivial
    · have hvalue : KeyPath.set ⟨seg :: rest⟩ (value ⟨.other d, held⟩) new.anchor.value =
          KeyPath.setIn ⟨seg :: rest⟩ new.anchor.value (seg :: rest) d.value := rfl
      rw [set, hvalue]
      dsimp only
      obtain ⟨f, f', hf, hf', -⟩ | ⟨c, v, hc, hv, hmakes⟩ :=
        (Datum.change_agrees ⟨seg :: rest⟩ seed new.anchor seg rest d).cases
      · rw [hf, hf']
        exact .error trivial
      · rw [hc, hv]
        exact .ok (hmakes.value (List.nodup_iff_count_le_one.1 hr.nodup _))

/-- What is written into a record is read back. -/
theorem IsDistinct.get?_of_write (hr : r.IsDistinct) (h : r.write p seed new = (r', none)) :
    p.get? r'.value = .ok (some (new.copy seed).anchor.value) := by
  rw [write] at h
  split at h
  · rename_i s hs
    obtain ⟨rfl, -⟩ := Prod.mk.inj h
    obtain ⟨v, hv, hvalue⟩ := (hr.set_agrees p seed (new.copy seed)).exists_right hs
    rw [hvalue]
    exact KeyPath.get?_of_set hv
  · cases h

/-- A mapping does not take the place of a list. -/
theorem set_over_list (i j : Identity) (xs : List Datum) (fs : Fields Datum) (held : List Datum)
    (seed : Seed) : set ⟨.other (.list i xs), held⟩ ⟨[]⟩ seed (.map j fs) =
      .error (.kind (.noMember "list" "update")) := rfl

/-- A write that fails leaves a record as it was, or it empties a list that a mapping should take
the place of. -/
theorem write_fails (h : r.write p seed new = (r', some f)) :
    r' = r ∨ p.segments = [] ∧ ∃ i xs j fs, r.root = .other (.list i xs) ∧ new = .map j fs ∧
      r' = { r with root := .other (.list i []) } ∧ f = .kind (.noMember "list" "update") := by
  rw [write] at h
  split at h
  · cases h
  · rename_i g hg
    obtain ⟨rfl, hf⟩ := Prod.mk.inj h
    obtain rfl := Option.some.inj hf
    rw [remains.eq_def]
    split
    · rename_i i xs j fs hsegs hroot
      refine .inr ⟨hsegs, i, xs, j, fs, hroot, rfl, rfl, ?_⟩
      obtain ⟨root, held⟩ := r
      obtain ⟨segs⟩ := p
      obtain rfl : segs = [] := hsegs
      obtain rfl : root = .other (.list i xs) := hroot
      rw [Datum.copy_map, set_over_list] at hg
      exact (Except.error.inj hg).symm
    · exact .inl rfl

end Record
end RuleLedger
