import RuleLedger.Expr.Scope
import RuleLedger.Proofs.Record.Layer
import RuleLedger.Proofs.Value.Surface

/-! Likenesses. There is more than one way in which the data of two runs can be alike. What they
have in common is that data that are alike have one shape and one surface, and that expressions and
primitives make likes of likes. -/
namespace RuleLedger

/-- Related data have one surface. -/
theorem Layer.surface_eq {P : Pairing} {R : Datum → Datum → Prop} {d e : Datum}
    (hR : ∀ {d e}, R d e → Layer P R d e) (h : R d e) : d.value.surface = e.value.surface := by
  induction d generalizing e with
  | list i xs ih =>
    cases hR h with
    | list _ hxs =>
      rw [Datum.value_list, Datum.value_list, Value.surface_list, Value.surface_list, List.map_map,
        List.map_map, map_eq_map_iff.2]
      exact forall₂_of_mem (fun x hx _ _ => ih x hx) hxs
  | method i r m ih =>
    cases hR h with
    | method _ _ hr => rw [Datum.value, Datum.value, Value.surface, Value.surface, ih hr]
  | _ =>
    cases hR h
    rfl

/-- A way in which data and records of two runs may be alike, with what expressions and primitives
ask of it. -/
structure Likeness (P : Pairing) where
  data : Datum → Datum → Prop
  records : Record → Record → Prop
  layer : ∀ {d e : Datum}, data d e → Layer P data d e
  plain : ∀ {v : Value}, v.isThing = false → data (.plain v) (.plain v)
  list : ∀ {i j : Identity} {xs ys : List Datum}, P.things i j → i.isMade = true →
    List.Forall₂ data xs ys → data (.list i xs) (.list j ys)
  map : ∀ {i j : Identity} {fs gs : Fields Datum}, P.things i j → i.isMade = true →
    fs.keys.Nodup → Fields.Related data fs gs → data (.map i fs) (.map j gs)
  group : ∀ {i j : Identity} {fs gs : Fields Datum} (g : Group), P.things i j →
    Fields.Related data fs gs → data (.group i g fs) (.group j g gs)
  helper : ∀ {i j : Identity} {h : Helper}, P.things i j → h ≠ .uuid →
    data (.helper i h) (.helper j h)
  method : ∀ {i j : Identity} {r r' : Datum} (m : Method), P.things i j → data r r' →
    data (.method i r m) (.method j r' m)
  copy : ∀ {s t : Seed} {d e : Datum}, P.seeds s t → data d e → data (d.copy s) (e.copy t)
  current : ∀ {r r' : Record} {d e : Datum}, records r r' → data d e →
    data (r.current d) (r'.current e)
  get? : ∀ {s t : Seed} {r r' : Record}, P.seeds s t → records r r' → ∀ p,
    Same (Option.Rel data) (r.get? s p) (r'.get? t p)
  recordName : ∀ {E E' : Expr.Environment}, records E.record E'.record → ∀ n,
    Same (Option.Rel data) (E.recordName? n) (E'.recordName? n)
  scope : ∀ {r r' : Record} {i j : Identity} {fs gs : Fields Datum}, records r r' →
    data (.map i fs) (.map j gs) → records ⟨.fields fs, r.held⟩ ⟨.fields gs, r'.held⟩
  write : ∀ {s t : Seed} {r r' : Record} {d e : Datum}, P.seeds s t → records r r' → data d e →
    ∀ p, records (r.write p s d).1 (r'.write p t e).1 ∧ (r.write p s d).2 = (r'.write p t e).2

namespace Likeness

variable {P : Pairing} (L : Likeness P) {d e : Datum} {xs ys : List Datum}

theorem null : L.data .null .null := L.plain (v := .null) rfl

theorem bool (b : Bool) : L.data (.bool b) (.bool b) := L.plain (v := .bool b) rfl

theorem num (n : Number) : L.data (.num n) (.num n) := L.plain (v := .num n) rfl

theorem str (s : Text) : L.data (.str s) (.str s) := L.plain (v := .str s) rfl

variable {L}

theorem surface_eq (h : L.data d e) : d.value.surface = e.value.surface :=
  Layer.surface_eq L.layer h

theorem surfaces_eq (h : List.Forall₂ L.data xs ys) :
    (xs.map Datum.value).map Value.surface = (ys.map Datum.value).map Value.surface := by
  rw [List.map_map, List.map_map, map_eq_map_iff]
  exact h.imp fun _ _ => surface_eq

theorem identity? (h : L.data d e) : Option.Rel P.things d.identity? e.identity? :=
  (L.layer h).identity?

/-- Data that are no things and alike are the same. -/
theorem value_eq_of_identity? (h : L.data d e) (hd : d.identity? = none) : d.value = e.value := by
  cases L.layer h with
  | null | bool | num | str => rfl
  | _ => cases hd

theorem getD (h : List.Forall₂ L.data xs ys) (i : Nat) :
    L.data (xs.getD i .null) (ys.getD i .null) := by
  rw [List.getD_eq_getElem?_getD, List.getD_eq_getElem?_getD]
  exact optionRel_getD (forall₂_getElem? h i) L.null

/-! ### Fresh data -/

section Fresh

variable (L) {s t : Seed}

variable (h : ∀ q, P.things (.part s q) (.part t q))

include h

/-- What is made of one JSON value in the two runs. -/
theorem ofValue {v : Value} (hv : v.isJson = true) (q : Place) :
    L.data (.ofValue s q v) (.ofValue t q v) := by
  induction v generalizing q with
  | null => exact L.null
  | bool b => exact L.bool b
  | num n => exact L.num n
  | str s => exact L.str s
  | list xs ih =>
    rw [Value.isJson, Value.all_list] at hv
    exact L.list (h q) rfl
      (Datum.forall₂_ofItems (List.forall₂_same.2 fun x hx => ih x hx (hv.2 x hx)) q 0)
  | map fs ih =>
    rw [Value.isJson_map] at hv
    have hfields : Fields.Related L.data (Datum.ofFields s q fs) (Datum.ofFields t q fs) :=
      Datum.related_ofFields (List.forall₂_same.2 fun f hf => ⟨rfl, ih f hf (hv.2 f hf)⟩) q
    exact L.map (h q) rfl (Datum.keys_ofFields s q fs ▸ hv.1) hfields
  | helper h' => cases hv
  | method r m => cases hv

theorem ofFields {vs : Fields Value} (hv : (Value.map vs).isJson = true) (q : Place) :
    Fields.Related L.data (Datum.ofFields s q vs) (Datum.ofFields t q vs) := by
  rw [Value.isJson_map] at hv
  exact Datum.related_ofFields
    (List.forall₂_same.2 fun f hf => ⟨rfl, L.ofValue h (hv.2 f hf)⟩) q

end Fresh
end Likeness
end RuleLedger
