import RuleLedger.Proofs.Record.Layer

/-! Twins: data of two runs that differ in the names of their things alone. Whatever reads, copies
or changes data does the same to twins. -/
namespace RuleLedger

namespace Pairing

variable (P : Pairing)

mutual

/-- Data that differ in the names of their things alone. Generators of identifiers have no twins. -/
inductive Twins : Datum → Datum → Prop
  | null : Twins .null .null
  | bool (b : Bool) : Twins (.bool b) (.bool b)
  | num (n : Number) : Twins (.num n) (.num n)
  | str (s : Text) : Twins (.str s) (.str s)
  | list {i j : Identity} {xs ys : List Datum} : P.things i j → i.isMade = true →
    List.Forall₂ Twins xs ys → Twins (.list i xs) (.list j ys)
  | map {i j : Identity} {fs gs : Fields Datum} : P.things i j → i.isMade = true →
    fs.keys.Nodup → List.Forall₂ TwinField fs gs → Twins (.map i fs) (.map j gs)
  | group {i j : Identity} {fs gs : Fields Datum} (g : Group) : P.things i j →
    List.Forall₂ TwinField fs gs → Twins (.group i g fs) (.group j g gs)
  | helper {i j : Identity} {h : Helper} : P.things i j → h ≠ .uuid →
    Twins (.helper i h) (.helper j h)
  | method {i j : Identity} {r r' : Datum} (m : Method) : P.things i j → Twins r r' →
    Twins (.method i r m) (.method j r' m)

/-- Twins under one key. -/
inductive TwinField : Text × Datum → Text × Datum → Prop
  | mk (k : Text) {d e : Datum} : Twins d e → TwinField (k, d) (k, e)

end

/-- Mappings of twins under the same keys in the same order. -/
def TwinFields (fs gs : Fields Datum) : Prop :=
  fs.keys.Nodup ∧ List.Forall₂ P.TwinField fs gs

variable {P} {d e new new' : Datum} {xs ys : List Datum} {fs gs : Fields Datum} {s t : Seed}

/-! ### Mappings -/

theorem TwinField.key_eq {f g : Text × Datum} (h : P.TwinField f g) : f.1 = g.1 := by
  cases h
  rfl

theorem TwinField.twins {f g : Text × Datum} (h : P.TwinField f g) : P.Twins f.2 g.2 := by
  cases h
  assumption

theorem twinField_iff {f g : Text × Datum} : P.TwinField f g ↔ f.1 = g.1 ∧ P.Twins f.2 g.2 := by
  refine ⟨fun h => ⟨h.key_eq, h.twins⟩, ?_⟩
  obtain ⟨k, d⟩ := f
  obtain ⟨l, e⟩ := g
  rintro ⟨rfl, h⟩
  exact .mk k h

theorem related_iff : Fields.Related P.Twins fs gs ↔ List.Forall₂ P.TwinField fs gs :=
  ⟨fun h => h.imp fun _ _ => twinField_iff.2, fun h => h.imp fun _ _ => twinField_iff.1⟩

theorem TwinFields.related (h : P.TwinFields fs gs) : Fields.Related P.Twins fs gs :=
  related_iff.2 h.2

theorem TwinFields.get? (h : P.TwinFields fs gs) (k : Text) :
    Option.Rel P.Twins (Fields.get? fs k) (Fields.get? gs k) := h.related.get? k

theorem TwinFields.put (h : P.TwinFields fs gs) (k : Text) (hd : P.Twins d e) :
    P.TwinFields (Fields.put fs k d) (Fields.put gs k e) :=
  ⟨Fields.nodup_put h.1 k d, related_iff.1 (h.related.put k hd)⟩

theorem TwinFields.mapValues {f g : Datum → Datum} (h : P.TwinFields fs gs)
    (hfg : ∀ a ∈ fs, ∀ e, P.Twins a.2 e → P.Twins (f a.2) (g e)) :
    P.TwinFields (Fields.mapValues f fs) (Fields.mapValues g gs) := by
  refine ⟨(keys_mapValues f fs).symm ▸ h.1, forall₂_map h.2 fun a ha b hab => ?_⟩
  obtain ⟨k, hd⟩ := hab
  exact .mk k (hfg _ ha _ hd)

theorem Twins.map' {i j : Identity} (hij : P.things i j) (hi : i.isMade = true)
    (h : P.TwinFields fs gs) : P.Twins (.map i fs) (.map j gs) := .map hij hi h.1 h.2

/-! ### Values and identities -/

theorem Twins.value_eq (h : P.Twins d e) : d.value = e.value := by
  induction d generalizing e with
  | list i xs ih =>
    cases h with
    | list _ _ hxs =>
      rw [Datum.value_list, Datum.value_list, map_eq_map_iff.2]
      exact forall₂_of_mem (fun x hx _ _ => ih x hx) hxs
  | map i fs ih =>
    cases h with
    | map _ _ _ hfs =>
      rw [Datum.value_map, Datum.value_map, Fields.mapValues, Fields.mapValues, map_eq_map_iff.2]
      exact forall₂_of_mem (fun f hf _ _ hfg => Prod.ext hfg.key_eq (ih f hf hfg.twins)) hfs
  | group i g fs => cases h; rfl
  | method i r m ih =>
    cases h with
    | method _ _ hr => rw [Datum.value, Datum.value, ih hr]
  | _ => cases h; rfl

theorem fieldValues_eq (h : List.Forall₂ P.TwinField fs gs) :
    Fields.mapValues Datum.value fs = Fields.mapValues Datum.value gs :=
  map_eq_map_iff.2 (h.imp fun _ _ hfg => Prod.ext hfg.key_eq hfg.twins.value_eq)

theorem Twins.layer (h : P.Twins d e) : Layer P P.Twins d e := by
  cases h with
  | null => exact .null
  | bool b => exact .bool b
  | num n => exact .num n
  | str s => exact .str s
  | list hij _ hxs => exact .list hij hxs
  | map hij _ hk hfs =>
    have hrelated := related_iff.2 hfs
    exact .map hij hk (hrelated.keys_eq ▸ hk) hrelated.get?
  | group g hij hfs => exact .group g hij (related_iff.2 hfs).get?
  | helper hij hu => exact .helper hij hu
  | method m hij hr => exact .method m hij hr

theorem Twins.identity? (h : P.Twins d e) : Option.Rel P.things d.identity? e.identity? :=
  h.layer.identity?

/-- A value that is no thing is its own twin. -/
theorem Twins.plain {v : Value} (h : v.isThing = false) : P.Twins (.plain v) (.plain v) := by
  cases v with
  | null => exact .null
  | bool b => exact .bool b
  | num n => exact .num n
  | str s => exact .str s
  | _ => cases h

/-! ### Copied data -/

theorem Twins.copy (hs : P.seeds s t) (h : P.Twins d e) : P.Twins (d.copy s) (e.copy t) := by
  induction d generalizing e with
  | list i xs ih =>
    cases h with
    | list hij _ hxs =>
      rw [Datum.copy_list, Datum.copy_list]
      exact .list (P.copy hs hij) rfl (forall₂_map hxs fun x hx _ => ih x hx)
  | map i fs ih =>
    cases h with
    | map hij _ hk hfs =>
      rw [Datum.copy_map, Datum.copy_map]
      exact .map' (P.copy hs hij) rfl (TwinFields.mapValues ⟨hk, hfs⟩ fun f hf _ => ih f hf)
  | group i g fs ih =>
    cases h with
    | group _ hij hfs =>
      rw [Datum.copy_group, Datum.copy_group]
      refine .group g (P.copy hs hij) (forall₂_map hfs fun f hf _ hfg => ?_)
      obtain ⟨k, hd⟩ := hfg
      exact .mk k (ih _ hf hd)
  | helper i h' =>
    cases h with
    | helper hij hu => exact .helper (P.copy hs hij) hu
  | method i r m =>
    cases h with
    | method _ hij hr => exact .method m (P.copy hs hij) hr
  | _ =>
    cases h
    constructor

/-! ### Reading and writing -/

theorem Twins.getIn (h : P.Twins d e) (segs : List Text) :
    Same (Option.Rel P.Twins) (d.getIn segs) (e.getIn segs) := Layer.getIn Twins.layer h segs

theorem Twins.nest (hs : P.seeds s t) (h : P.Twins new new') (q : Place) (segs : List Text) :
    P.Twins (Datum.nest s new q segs) (Datum.nest t new' q segs) := by
  induction segs generalizing q with
  | nil => exact h
  | cons seg segs ih =>
    exact .map (P.part q hs) rfl (List.nodup_singleton _) (.cons (.mk seg (ih _)) .nil)

theorem Twins.change (hs : P.seeds s t) (hn : P.Twins new new') (h : P.Twins d e) (p : KeyPath)
    (seg : Text) (segs : List Text) :
    Same (LikeChanges P P.Twins) (Datum.change p s new seg segs d)
      (Datum.change p t new' seg segs e) :=
  Layer.change Twins.layer .null (hn.nest hs []) h p seg segs

theorem Twins.put (h : P.Twins d e) (slot : Slot) (hn : P.Twins new new') :
    P.Twins (Datum.put slot new d) (Datum.put slot new' e) := by
  have hsame := h
  cases h with
  | list hij hi hxs =>
    cases slot with
    | key k => exact hsame
    | item i => exact .list hij hi (forall₂_set hxs i hn)
  | map hij hi hk hfs =>
    cases slot with
    | key k => exact .map' hij hi (TwinFields.put ⟨hk, hfs⟩ k hn)
    | item i => exact hsame
  | _ => exact hsame

theorem Twins.apply {c c' : Datum.Change} (hc : LikeChanges P P.Twins c c') (h : P.Twins d e) :
    P.Twins (d.apply c) (e.apply c') := by
  induction d generalizing e with
  | list i xs ih =>
    cases h with
    | @list _ j _ ys hij hi hxs =>
      have hiff := P.unique hij hc.container
      rw [Datum.apply, Datum.apply]
      by_cases heq : i = c.container
      · rw [if_pos heq, if_pos (hiff.1 heq), hc.slot]
        exact Twins.put (.list hij hi hxs) _ hc.content
      · rw [if_neg heq, if_neg (mt hiff.2 heq), Datum.applyItems_eq, Datum.applyItems_eq]
        exact .list hij hi (forall₂_map hxs fun x hx _ => ih x hx)
  | map i fs ih =>
    cases h with
    | @map _ j _ gs hij hi hk hfs =>
      have hiff := P.unique hij hc.container
      rw [Datum.apply, Datum.apply]
      by_cases heq : i = c.container
      · rw [if_pos heq, if_pos (hiff.1 heq), hc.slot]
        exact Twins.put (.map hij hi hk hfs) _ hc.content
      · rw [if_neg heq, if_neg (mt hiff.2 heq), Datum.applyFields_eq, Datum.applyFields_eq]
        exact .map' hij hi (TwinFields.mapValues ⟨hk, hfs⟩ fun f hf _ => ih f hf)
  | _ =>
    cases h
    constructor <;> assumption

/-! ### Receivers -/

theorem Twins.anchor (h : P.Twins d e) : P.Twins d.anchor e.anchor := by
  induction d generalizing e with
  | list i xs ih =>
    cases h with
    | list hij hi hxs =>
      rw [Datum.anchor, Datum.anchor, Datum.anchorItems_eq, Datum.anchorItems_eq]
      exact .list hij hi (forall₂_map hxs fun x hx _ => ih x hx)
  | map i fs ih =>
    cases h with
    | map hij hi hk hfs =>
      rw [Datum.anchor, Datum.anchor, Datum.anchorFields_eq, Datum.anchorFields_eq]
      exact .map' hij hi (TwinFields.mapValues ⟨hk, hfs⟩ fun f hf _ => ih f hf)
  | method i r m =>
    cases h with
    | method _ hij hr =>
      have hsame := hr
      cases hr with
      | list hrs hi _ => exact .method m hij (.list hrs hi .nil)
      | _ => exact .method m hij hsame
  | _ =>
    cases h
    constructor <;> assumption

theorem anchorItems_twins (h : List.Forall₂ P.Twins xs ys) :
    List.Forall₂ P.Twins (Datum.anchorItems xs) (Datum.anchorItems ys) := by
  rw [Datum.anchorItems_eq, Datum.anchorItems_eq]
  exact forall₂_map h fun _ _ _ => Twins.anchor

theorem Twins.receivers (h : P.Twins d e) : List.Forall₂ P.Twins d.receivers e.receivers := by
  induction d generalizing e with
  | list i xs ih =>
    cases h with
    | list _ _ hxs =>
      rw [Datum.receivers, Datum.receivers, Datum.itemReceivers_eq, Datum.itemReceivers_eq]
      exact forall₂_flatMap hxs fun x hx _ => ih x hx
  | map i fs ih =>
    cases h with
    | map _ _ _ hfs =>
      rw [Datum.receivers, Datum.receivers, Datum.fieldReceivers_eq, Datum.fieldReceivers_eq]
      exact forall₂_flatMap hfs fun f hf _ hfg => ih f hf hfg.twins
  | method i r m ih =>
    cases h with
    | method _ _ hr =>
      have hin := ih hr
      cases hr with
      | list hrs hi hxs => exact .cons (.list hrs hi (anchorItems_twins hxs)) hin
      | _ => exact .nil
  | _ => cases h; exact .nil

end Pairing
end RuleLedger
