import RuleLedger.Proofs.Record.Anchored
import RuleLedger.Proofs.Record.Likeness
import RuleLedger.Proofs.Value.Essence

/-! Shuffled data: data of two runs that differ in the names of their things and in the order of
keys. Whatever reads, copies or changes data does the same to both, and both have one essence. -/
namespace RuleLedger

namespace Value

/-- Whether a value itself, if it is a mapping, has one member at most. -/
def isNarrow : Value → Bool
  | .map fs => decide (fs.length ≤ 1)
  | _ => true

theorem displayItems_congr {vs ws : List Value}
    (h : List.Forall₂ (fun v w => v.display = w.display) vs ws) :
    displayItems vs = displayItems ws := by
  induction h with
  | nil => rfl
  | cons hv _ ih => rw [displayItems, displayItems, hv, ih]

theorem displayFields_congr {fs gs : Fields Value}
    (h : Fields.Related (fun v w => v.display = w.display) fs gs) :
    displayFields fs = displayFields gs := by
  induction h with
  | nil => rfl
  | @cons f g _ _ hf _ ih =>
    obtain ⟨k, v⟩ := f
    obtain ⟨l, w⟩ := g
    obtain ⟨rfl, hv⟩ : k = l ∧ v.display = w.display := hf
    rw [displayFields, displayFields, hv, ih]

end Value

namespace Pairing

variable (P : Pairing)

/-- Data that differ in the names of their things and in the order of keys. Where the order differs,
methods keep no lists that could change apart from the record. -/
inductive Shuffled : Datum → Datum → Prop
  | null : Shuffled .null .null
  | bool (b : Bool) : Shuffled (.bool b) (.bool b)
  | num (n : Number) : Shuffled (.num n) (.num n)
  | str (s : Text) : Shuffled (.str s) (.str s)
  | list {i j : Identity} {xs ys : List Datum} : P.things i j → List.Forall₂ Shuffled xs ys →
    Shuffled (.list i xs) (.list j ys)
  | map {i j : Identity} {fs gs : Fields Datum} : P.things i j → fs.keys.Nodup → gs.keys.Nodup →
    (∀ k, Option.Rel Shuffled (fs.get? k) (gs.get? k)) →
    (fs.keys = gs.keys ∨ (∀ f ∈ fs, f.2.IsAnchored) ∧ ∀ g ∈ gs, g.2.IsAnchored) →
    Shuffled (.map i fs) (.map j gs)
  | group {i j : Identity} {fs gs : Fields Datum} (g : Group) : P.things i j →
    (∀ k, Option.Rel Shuffled (fs.get? k) (gs.get? k)) → Shuffled (.group i g fs) (.group j g gs)
  | helper {i j : Identity} {h : Helper} : P.things i j → h ≠ .uuid →
    Shuffled (.helper i h) (.helper j h)
  | method {i j : Identity} {r r' : Datum} (m : Method) : P.things i j → Shuffled r r' →
    Shuffled (.method i r m) (.method j r' m)

/-- Mappings of shuffled data under the same keys. -/
structure ShuffledFields (fs gs : Fields Datum) : Prop where
  left : fs.keys.Nodup
  right : gs.keys.Nodup
  get? : ∀ k, Option.Rel P.Shuffled (Fields.get? fs k) (Fields.get? gs k)
  order : Fields.keys fs = Fields.keys gs ∨
    (∀ f ∈ fs, f.2.IsAnchored) ∧ ∀ g ∈ gs, g.2.IsAnchored

/-- Shuffled data that are anchored. -/
structure ShuffledContent (d e : Datum) : Prop where
  shuffled : P.Shuffled d e
  left : d.IsAnchored
  right : e.IsAnchored

variable {P} {d e new new' : Datum} {xs ys : List Datum} {fs gs : Fields Datum} {s t : Seed}
  {i j : Identity}

theorem Shuffled.layer (h : P.Shuffled d e) : Layer P P.Shuffled d e := by
  cases h with
  | null => exact .null
  | bool b => exact .bool b
  | num n => exact .num n
  | str s => exact .str s
  | list hij hxs => exact .list hij hxs
  | map hij hf hg hfs _ => exact .map hij hf hg hfs
  | group g hij hfs => exact .group g hij hfs
  | helper hij hu => exact .helper hij hu
  | method m hij hr => exact .method m hij hr

theorem Shuffled.identity? (h : P.Shuffled d e) : Option.Rel P.things d.identity? e.identity? :=
  h.layer.identity?

theorem Shuffled.plain {v : Value} (h : v.isThing = false) :
    P.Shuffled (.plain v) (.plain v) := by
  cases v with
  | null => exact .null
  | bool b => exact .bool b
  | num n => exact .num n
  | str s => exact .str s
  | _ => cases h

theorem shuffled_map_iff :
    P.Shuffled (.map i fs) (.map j gs) ↔ P.things i j ∧ P.ShuffledFields fs gs := by
  constructor
  · intro h
    cases h with
    | map hij hf hg hfs horder => exact ⟨hij, hf, hg, hfs, horder⟩
  · rintro ⟨hij, hf, hg, hfs, horder⟩
    exact .map hij hf hg hfs horder

/-! ### Mappings -/

namespace ShuffledFields

theorem of_related (hk : fs.keys.Nodup) (h : Fields.Related P.Shuffled fs gs) :
    P.ShuffledFields fs gs :=
  ⟨hk, h.keys_eq ▸ hk, h.get?, .inl h.keys_eq⟩

theorem mem_keys_iff (h : P.ShuffledFields fs gs) (k : Text) :
    k ∈ Fields.keys fs ↔ k ∈ Fields.keys gs := by
  rw [Fields.mem_keys_iff, Fields.mem_keys_iff]
  obtain ⟨hf, hg⟩ | ⟨d, e, hf, hg, -⟩ := optionRel_cases (h.get? k)
  · rw [hf, hg]
  · rw [hf, hg]
    exact iff_of_true ⟨d, rfl⟩ ⟨e, rfl⟩

/-- A mapping of one member has one order. -/
theorem keys_eq (h : P.ShuffledFields fs gs) (hlength : fs.length ≤ 1) :
    Fields.keys fs = Fields.keys gs := by
  have hp := (List.perm_ext_iff_of_nodup h.left h.right).2 h.mem_keys_iff
  cases fs with
  | nil => exact (List.nil_perm.1 hp).symm
  | cons f fs =>
    obtain rfl := List.eq_nil_of_length_eq_zero (Nat.le_zero.1 (Nat.le_of_succ_le_succ hlength))
    exact (List.singleton_perm.1 hp)

theorem put (h : P.ShuffledFields fs gs) (k : Text) (hn : P.ShuffledContent new new') :
    P.ShuffledFields (Fields.put fs k new) (Fields.put gs k new') := by
  refine ⟨Fields.nodup_put h.left k new, Fields.nodup_put h.right k new', fun l => ?_, ?_⟩
  · rw [Fields.get?_put, Fields.get?_put]
    split_ifs
    · exact .some hn.shuffled
    · exact h.get? l
  · obtain hkeys | ⟨hf, hg⟩ := h.order
    · have hhas : Fields.has fs k = Fields.has gs k := by
        rw [Bool.eq_iff_iff, Fields.has_iff, Fields.has_iff, hkeys]
      rw [Fields.keys_put, Fields.keys_put, hhas, hkeys]
      exact .inl rfl
    · exact .inr ⟨Datum.isAnchored_fields_put hf hn.left k,
        Datum.isAnchored_fields_put hg hn.right k⟩

theorem mapValues {f g : Datum → Datum} (h : P.ShuffledFields fs gs)
    (hf : ∀ d, d.IsAnchored → (f d).IsAnchored) (hg : ∀ d, d.IsAnchored → (g d).IsAnchored)
    (hfg : ∀ a ∈ fs, ∀ e, P.Shuffled a.2 e → P.Shuffled (f a.2) (g e)) :
    P.ShuffledFields (Fields.mapValues f fs) (Fields.mapValues g gs) := by
  refine ⟨(keys_mapValues f fs).symm ▸ h.left, (keys_mapValues g gs).symm ▸ h.right, fun k => ?_,
    ?_⟩
  · rw [Fields.get?_mapValues, Fields.get?_mapValues]
    obtain ⟨hx, hy⟩ | ⟨d, e, hx, hy, hd⟩ := optionRel_cases (h.get? k)
    · rw [hx, hy]
      exact .none
    · rw [hx, hy]
      exact .some (hfg _ (Fields.mem_of_get? hx) e hd)
  · rw [keys_mapValues, keys_mapValues]
    exact h.order.imp_right (.imp (fun ha => List.forall_mem_map.2 fun a hm => hf _ (ha a hm))
      fun ha => List.forall_mem_map.2 fun a hm => hg _ (ha a hm))

end ShuffledFields

/-! ### Fresh and copied data -/

theorem Shuffled.copy (hs : P.seeds s t) (h : P.Shuffled d e) :
    P.Shuffled (d.copy s) (e.copy t) := by
  induction d generalizing e with
  | list i xs ih =>
    cases h with
    | list hij hxs =>
      rw [Datum.copy_list, Datum.copy_list]
      exact .list (P.copy hs hij) (forall₂_map hxs fun x hx _ => ih x hx)
  | map i fs ih =>
    cases e with
    | map j gs =>
      obtain ⟨hij, hfs⟩ := shuffled_map_iff.1 h
      rw [Datum.copy_map, Datum.copy_map, shuffled_map_iff]
      exact ⟨P.copy hs hij, hfs.mapValues (fun _ ha => ha.copy s) (fun _ ha => ha.copy t)
        fun f hf _ => ih f hf⟩
    | _ => cases h
  | group i g fs ih =>
    cases h with
    | group _ hij hfs =>
      rw [Datum.copy_group, Datum.copy_group]
      refine .group g (P.copy hs hij) fun k => ?_
      rw [Fields.get?_mapValues, Fields.get?_mapValues]
      obtain ⟨hx, hy⟩ | ⟨d, e, hx, hy, hd⟩ := optionRel_cases (hfs k)
      · rw [hx, hy]
        exact .none
      · rw [hx, hy]
        exact .some (ih _ (Fields.mem_of_get? hx) hd)
  | helper i h' =>
    cases h with
    | helper hij hu => exact .helper (P.copy hs hij) hu
  | method i r m =>
    cases h with
    | method _ hij hr => exact .method m (P.copy hs hij) hr
  | _ =>
    cases h
    constructor

theorem get?_alike {vs ws : Fields Value} (hw : ws.keys.Nodup)
    (h : (Value.map vs).Alike (.map ws)) (k : Text) :
    Option.Rel Value.Alike (vs.get? k) (ws.get? k) := by
  obtain ⟨us, hmembers, hp⟩ := Value.alike_map.1 h
  have hrelated : Fields.Related Value.Alike vs us := hmembers
  rw [Fields.get?_eq_of_perm hw hp.symm k]
  exact hrelated.get? k

/-- Mappings that are made of JSON values, name by name. -/
theorem ShuffledFields.ofFields {vs ws : Fields Value} (hv : (Value.map vs).isJson = true)
    (hw : (Value.map ws).isJson = true) {q : Place}
    (h : ∀ k, Option.Rel
      (fun v w => P.Shuffled (.ofValue s (.key k :: q) v) (.ofValue t (.key k :: q) w))
      (vs.get? k) (ws.get? k)) :
    P.ShuffledFields (Datum.ofFields s q vs) (Datum.ofFields t q ws) := by
  have hanchored {s : Seed} {us : Fields Value} (hus : (Value.map us).isJson = true) :
      ∀ f ∈ Datum.ofFields s q us, f.2.IsAnchored :=
    Datum.isAnchored_map.1 (Datum.isAnchored_ofValue hus q)
  have hdistinct {s : Seed} {us : Fields Value} (hus : (Value.map us).isJson = true) :
      (Fields.keys (Datum.ofFields s q us)).Nodup :=
    Datum.keys_ofFields s q us ▸ (Value.isJson_map.1 hus).1
  refine ⟨hdistinct hv, hdistinct hw, fun k => ?_, .inr ⟨hanchored hv, hanchored hw⟩⟩
  rw [Datum.get?_ofFields, Datum.get?_ofFields]
  obtain ⟨hx, hy⟩ | ⟨v, w, hx, hy, hvw⟩ := optionRel_cases (h k)
  · rw [hx, hy]
    exact .none
  · rw [hx, hy]
    exact .some hvw

/-- What is made of values that are alike. -/
theorem Shuffled.ofValue (h : ∀ q, P.things (.part s q) (.part t q)) {v w : Value}
    (hv : v.isJson = true) (hw : w.isJson = true) (ha : v.Alike w) (q : Place) :
    P.Shuffled (.ofValue s q v) (.ofValue t q w) := by
  induction v generalizing w q with
  | list xs ih =>
    cases w with
    | list ys =>
      rw [Value.isJson, Value.all_list] at hv hw
      have hitems : List.Forall₂ (fun x y => ∀ q, P.Shuffled (.ofValue s q x) (.ofValue t q y))
          xs ys :=
        forall₂_of_mem (fun x hx y hy hxy => ih x hx (hv.2 x hx) (hw.2 y hy) hxy)
          (Value.alike_list.1 ha)
      exact .list (h q) (Datum.forall₂_ofItems hitems q 0)
    | _ => simp [Value.Alike] at ha
  | map fs ih =>
    cases w with
    | map gs =>
      refine shuffled_map_iff.2 ⟨h q, .ofFields hv hw fun k => ?_⟩
      rw [Value.isJson_map] at hv hw
      obtain ⟨hx, hy⟩ | ⟨v, w, hx, hy, hvw⟩ := optionRel_cases (get?_alike hw.1 ha k)
      · rw [hx, hy]
        exact .none
      · rw [hx, hy]
        have hm := Fields.mem_of_get? hx
        exact .some (ih _ hm (hv.2 _ hm) (hw.2 _ (Fields.mem_of_get? hy)) hvw _)
    | _ => simp [Value.Alike] at ha
  | helper h' => cases hv
  | method r m => cases hv
  | _ =>
    obtain rfl := Value.eq_of_alike rfl ha
    constructor

/-! ### Values -/

theorem Shuffled.methodText_eq (h : P.Shuffled d e) (m : Method) :
    Value.methodText d.value m = Value.methodText e.value m := by
  rw [← Value.methodText_surface, Layer.surface_eq Shuffled.layer h, Value.methodText_surface]

/-- Shuffled data show the same in a canonical text. -/
theorem Shuffled.essence_eq (h : P.Shuffled d e) : d.value.essence = e.value.essence := by
  induction d generalizing e with
  | list i xs ih =>
    cases h with
    | list _ hxs =>
      rw [Datum.value_list, Datum.value_list, Value.essence_list, Value.essence_list, List.map_map,
        List.map_map, map_eq_map_iff.2]
      exact forall₂_of_mem (fun x hx _ _ => ih x hx) hxs
  | map i fs ih =>
    cases h with
    | @map _ _ _ gs _ hf hg hfs _ =>
      rw [Datum.value_map, Datum.value_map, Value.essence_map, Value.essence_map]
      have hkeys (hs : Fields Datum) (hd : (Fields.keys hs).Nodup) :
          (Fields.keys
            (Fields.mapValues Value.essence (Fields.mapValues Datum.value hs))).Nodup := by
        rw [keys_mapValues, keys_mapValues]
        exact hd
      refine congrArg Value.map (sortFields_eq_of_perm (hkeys fs hf)
        (Fields.perm_of_get? (hkeys fs hf) (hkeys gs hg) fun k => ?_))
      rw [Fields.get?_mapValues, Fields.get?_mapValues, Fields.get?_mapValues,
        Fields.get?_mapValues]
      obtain ⟨hx, hy⟩ | ⟨d, e, hx, hy, hd⟩ := optionRel_cases (hfs k)
      · rw [hx, hy]
      · rw [hx, hy]
        exact congrArg some (ih _ (Fields.mem_of_get? hx) hd)
  | group i g fs =>
    cases h
    rfl
  | helper i h' =>
    cases h
    rfl
  | method i r m =>
    cases h with
    | method _ _ hr =>
      rw [Datum.value, Datum.value, Value.essence, Value.essence, Value.spelled, Value.spelled,
        hr.methodText_eq]
  | _ =>
    cases h
    rfl

/-- A callable stands in both of two shuffled data or in none. -/
theorem Shuffled.isData_eq (h : P.Shuffled d e) : d.value.isData = e.value.isData := by
  induction d generalizing e with
  | list i xs ih =>
    cases h with
    | list _ hxs =>
      rw [Bool.eq_iff_iff, Datum.value_list, Datum.value_list, Value.isData_list,
        Value.isData_list, List.forall_mem_map, List.forall_mem_map]
      constructor
      · intro hall y hy
        obtain ⟨x, hx, hxy⟩ := exists_of_mem_right hxs hy
        exact ih x hx hxy ▸ hall x hx
      · intro hall x hx
        obtain ⟨y, hy, hxy⟩ := exists_of_mem_right hxs.flip hx
        exact (ih x hx hxy).symm ▸ hall y hy
  | map i fs ih =>
    cases h with
    | map _ hf hg hfs _ =>
      have hmembers := Fields.exists_mem_iff hf hg hfs (p := fun d => ¬d.value.isData = true)
        (q := fun e => ¬e.value.isData = true) fun f hm e hd => by rw [ih f hm hd]
      rw [Bool.eq_iff_iff, Datum.value_map, Datum.value_map, Value.isData_map, Value.isData_map,
        Fields.mapValues, Fields.mapValues, List.forall_mem_map, List.forall_mem_map,
        ← not_iff_not]
      simpa only [not_forall, exists_prop] using hmembers
  | method i r m =>
    cases h
    rfl
  | _ =>
    cases h
    rfl

/-- Where no mapping has two members, there is one way to show it. -/
theorem Shuffled.display_eq (h : P.Shuffled d e) (hn : d.value.all Value.isNarrow = true) :
    d.value.display = e.value.display := by
  induction d generalizing e with
  | list i xs ih =>
    cases h with
    | @list _ _ _ ys _ hxs =>
      rw [Datum.value_list, Value.all_list] at hn
      have hshown : List.Forall₂ (fun v w => v.display = w.display) (xs.map Datum.value)
          (ys.map Datum.value) :=
        forall₂_map hxs fun x hx _ hxy => ih x hx hxy (hn.2 _ (List.mem_map_of_mem hx))
      rw [Datum.value_list, Datum.value_list, Value.display, Value.display,
        Value.displayItems_congr hshown]
  | map i fs ih =>
    cases e with
    | map j gs =>
      rw [Datum.value_map, Value.all_map, Value.isNarrow, decide_eq_true_eq, Fields.mapValues,
        List.length_map] at hn
      obtain ⟨-, hfs⟩ := shuffled_map_iff.1 h
      have hrelated := Fields.Related.of_get? (hfs.keys_eq hn.1) hfs.left hfs.get?
      have hshown : Fields.Related (fun v w => v.display = w.display)
          (Fields.mapValues Datum.value fs) (Fields.mapValues Datum.value gs) :=
        forall₂_map hrelated fun f hf _ hfg =>
          ⟨hfg.1, ih f hf hfg.2 (hn.2 _ (List.mem_map_of_mem hf))⟩
      rw [Datum.value_map, Datum.value_map, Value.display, Value.display,
        Value.displayFields_congr hshown]
    | _ => cases h
  | group i g fs =>
    cases h
    rfl
  | helper i h' =>
    cases h
    rfl
  | method i r m =>
    cases h with
    | method _ _ hr =>
      rw [Datum.value, Datum.value, Value.display, Value.display, hr.methodText_eq]
  | _ =>
    cases h
    rfl

/-! ### Reading and writing -/

theorem Shuffled.getIn (h : P.Shuffled d e) (segs : List Text) :
    Same (Option.Rel P.Shuffled) (d.getIn segs) (e.getIn segs) := Layer.getIn Shuffled.layer h segs

theorem ShuffledContent.nest (hs : P.seeds s t) (h : P.ShuffledContent new new') (q : Place)
    (segs : List Text) :
    P.ShuffledContent (Datum.nest s new q segs) (Datum.nest t new' q segs) := by
  refine ⟨?_, h.left.nest s q segs, h.right.nest t q segs⟩
  induction segs generalizing q with
  | nil => exact h.shuffled
  | cons seg segs ih =>
    exact shuffled_map_iff.2
      ⟨P.part q hs, .of_related (List.nodup_singleton _) (.single seg (ih _))⟩

theorem Shuffled.change (hs : P.seeds s t) (hn : P.ShuffledContent new new') (h : P.Shuffled d e)
    (p : KeyPath) (seg : Text) (segs : List Text) :
    Same (LikeChanges P P.ShuffledContent) (Datum.change p s new seg segs d)
      (Datum.change p t new' seg segs e) :=
  Layer.change Shuffled.layer .null (hn.nest hs []) h p seg segs

theorem Shuffled.put (h : P.Shuffled d e) (slot : Slot) (hn : P.ShuffledContent new new') :
    P.Shuffled (Datum.put slot new d) (Datum.put slot new' e) := by
  cases d with
  | list i xs =>
    cases slot with
    | key k => cases h with | list hij hxs => exact .list hij hxs
    | item n => cases h with | list hij hxs => exact .list hij (forall₂_set hxs n hn.shuffled)
  | map i fs =>
    cases e with
    | map j gs =>
      cases slot with
      | key k =>
        obtain ⟨hij, hfs⟩ := shuffled_map_iff.1 h
        exact shuffled_map_iff.2 ⟨hij, hfs.put k hn⟩
      | item n => exact h
    | _ => cases h
  | _ =>
    cases h
    constructor <;> assumption

theorem Shuffled.apply {c c' : Datum.Change} (hc : LikeChanges P P.ShuffledContent c c')
    (h : P.Shuffled d e) : P.Shuffled (d.apply c) (e.apply c') := by
  induction d generalizing e with
  | list i xs ih =>
    cases h with
    | @list _ j _ ys hij hxs =>
      have hiff := P.unique hij hc.container
      rw [Datum.apply, Datum.apply]
      by_cases heq : i = c.container
      · rw [if_pos heq, if_pos (hiff.1 heq), hc.slot]
        exact Shuffled.put (.list hij hxs) _ hc.content
      · rw [if_neg heq, if_neg (mt hiff.2 heq), Datum.applyItems_eq, Datum.applyItems_eq]
        exact .list hij (forall₂_map hxs fun x hx _ => ih x hx)
  | map i fs ih =>
    cases e with
    | map j gs =>
      obtain ⟨hij, hfs⟩ := shuffled_map_iff.1 h
      have hiff := P.unique hij hc.container
      rw [Datum.apply, Datum.apply]
      by_cases heq : i = c.container
      · rw [if_pos heq, if_pos (hiff.1 heq), hc.slot]
        exact h.put _ hc.content
      · rw [if_neg heq, if_neg (mt hiff.2 heq), Datum.applyFields_eq, Datum.applyFields_eq]
        exact shuffled_map_iff.2 ⟨hij, hfs.mapValues (fun _ ha => .apply hc.content.left ha)
          (fun _ ha => .apply hc.content.right ha) fun f hf _ => ih f hf⟩
    | _ => cases h
  | _ =>
    cases h
    constructor <;> assumption

/-! ### Receivers -/

theorem Shuffled.anchor (h : P.Shuffled d e) : P.Shuffled d.anchor e.anchor := by
  induction d generalizing e with
  | list i xs ih =>
    cases h with
    | list hij hxs =>
      rw [Datum.anchor, Datum.anchor, Datum.anchorItems_eq, Datum.anchorItems_eq]
      exact .list hij (forall₂_map hxs fun x hx _ => ih x hx)
  | map i fs ih =>
    cases e with
    | map j gs =>
      obtain ⟨hij, hfs⟩ := shuffled_map_iff.1 h
      rw [Datum.anchor, Datum.anchor, Datum.anchorFields_eq, Datum.anchorFields_eq]
      exact shuffled_map_iff.2 ⟨hij, hfs.mapValues (fun d _ => d.isAnchored_anchor)
        (fun d _ => d.isAnchored_anchor) fun f hf _ => ih f hf⟩
    | _ => cases h
  | method i r m =>
    cases h with
    | method _ hij hr =>
      have hsame := hr
      cases hr with
      | list hrs _ => exact .method m hij (.list hrs .nil)
      | _ => exact .method m hij hsame
  | _ =>
    cases h
    constructor <;> assumption

/-- What is anchored for a write. -/
theorem Shuffled.content (h : P.Shuffled d e) : P.ShuffledContent d.anchor e.anchor :=
  ⟨h.anchor, d.isAnchored_anchor, e.isAnchored_anchor⟩

variable (P) in
/-- Data among which the same things are found. -/
def Finds (xs ys : List Datum) : Prop := ∀ i j, P.things i j →
  Option.Rel P.Shuffled (xs.find? (·.identity? == some i)) (ys.find? (·.identity? == some j))

theorem finds_of_forall₂ (h : List.Forall₂ P.Shuffled xs ys) : P.Finds xs ys := fun _ _ hij =>
  forall₂_find? h fun _ _ hd => identity?_beq hd.identity? (.some hij)

theorem Finds.append {xs' ys' : List Datum} (h : P.Finds xs ys) (h' : P.Finds xs' ys') :
    P.Finds (xs ++ xs') (ys ++ ys') := by
  intro i j hij
  rw [List.find?_append, List.find?_append]
  obtain ⟨hx, hy⟩ | ⟨d, e, hx, hy, hd⟩ := optionRel_cases (h i j hij)
  · rw [hx, hy]
    exact h' i j hij
  · rw [hx, hy]
    exact .some hd

theorem Finds.flatMap {α β : Type} {R : α → β → Prop} {as : List α} {bs : List β}
    {f : α → List Datum} {g : β → List Datum} (h : List.Forall₂ R as bs)
    (hfg : ∀ a ∈ as, ∀ b, R a b → P.Finds (f a) (g b)) :
    P.Finds (as.flatMap f) (bs.flatMap g) := by
  induction h with
  | nil => exact finds_of_forall₂ .nil
  | cons hab _ ih =>
    rw [List.flatMap_cons, List.flatMap_cons]
    exact (hfg _ List.mem_cons_self _ hab).append (ih fun a ha => hfg a (List.mem_cons_of_mem _ ha))

/-- Of anchored receivers it only matters which there are. -/
theorem finds_of_anchored (hx : ∀ x ∈ xs, ∃ i, x = .list i []) (hy : ∀ y ∈ ys, ∃ j, y = .list j [])
    (h : ∀ i j, P.things i j →
      ((∃ x ∈ xs, x.identity? = some i) ↔ ∃ y ∈ ys, y.identity? = some j)) : P.Finds xs ys := by
  intro i j hij
  have hfind (zs : List Datum) (hz : ∀ z ∈ zs, ∃ i, z = .list i []) (k : Identity) :
      zs.find? (·.identity? == some k) = none ∧ (¬∃ z ∈ zs, z.identity? = some k) ∨
      zs.find? (·.identity? == some k) = some (.list k []) ∧ ∃ z ∈ zs, z.identity? = some k := by
    cases hf : zs.find? (·.identity? == some k) with
    | none =>
      rw [List.find?_eq_none] at hf
      refine .inl ⟨rfl, ?_⟩
      rintro ⟨z, hz, he⟩
      exact hf z hz (beq_iff_eq.2 he)
    | some z =>
      have hm := List.mem_of_find?_eq_some hf
      have he := List.find?_some hf
      rw [beq_iff_eq] at he
      obtain ⟨l, rfl⟩ := hz z hm
      obtain rfl := Option.some.inj he
      exact .inr ⟨rfl, _, hm, rfl⟩
  obtain ⟨hx', hn⟩ | ⟨hx', he⟩ := hfind xs hx i
  · obtain ⟨hy', -⟩ | ⟨-, he⟩ := hfind ys hy j
    · rw [hx', hy']
      exact .none
    · exact absurd ((h i j hij).2 he) hn
  · obtain ⟨-, hn⟩ | ⟨hy', -⟩ := hfind ys hy j
    · exact absurd ((h i j hij).1 he) hn
    · rw [hx', hy']
      exact .some (.list hij .nil)

theorem Finds.exists_iff (h : P.Finds xs ys) (hij : P.things i j) :
    (∃ x ∈ xs, x.identity? = some i) ↔ ∃ y ∈ ys, y.identity? = some j := by
  have hfound (zs : List Datum) (k : Identity) :
      (zs.find? (·.identity? == some k)).isSome ↔ ∃ z ∈ zs, z.identity? = some k := by
    simp only [List.find?_isSome, beq_iff_eq]
  rw [← hfound, ← hfound]
  obtain ⟨hx, hy⟩ | ⟨d, e, hx, hy, -⟩ := optionRel_cases (h i j hij)
  · rw [hx, hy]
  · rw [hx, hy]
    exact iff_of_true rfl rfl

theorem Shuffled.receivers (h : P.Shuffled d e) : P.Finds d.receivers e.receivers := by
  induction d generalizing e with
  | list i xs ih =>
    cases h with
    | list _ hxs =>
      rw [Datum.receivers, Datum.receivers, Datum.itemReceivers_eq, Datum.itemReceivers_eq]
      exact .flatMap hxs fun x hx _ => ih x hx
  | map i fs ih =>
    cases h with
    | @map _ j _ gs hij hf hg hfs horder =>
      obtain hkeys | ⟨ha, ha'⟩ := horder
      · rw [Datum.receivers, Datum.receivers, Datum.fieldReceivers_eq, Datum.fieldReceivers_eq]
        exact .flatMap (Fields.Related.of_get? hkeys hf hfs) fun f hf _ hfg => ih f hf hfg.2
      · refine finds_of_anchored (Datum.isAnchored_map.2 ha : (Datum.map i fs).IsAnchored)
          (Datum.isAnchored_map.2 ha' : (Datum.map j gs).IsAnchored) fun i j hij => ?_
        have hmembers := Fields.exists_mem_iff hf hg hfs
          (p := fun d => ∃ r ∈ d.receivers, r.identity? = some i)
          (q := fun e => ∃ r ∈ e.receivers, r.identity? = some j)
          fun f hm _ hd => (ih f hm hd).exists_iff hij
        rw [Datum.exists_receiver_map, Datum.exists_receiver_map]
        exact hmembers
  | method i r m ih =>
    cases h with
    | method _ _ hr =>
      have hin := ih hr
      have hanchor := hr.anchor
      cases hr with
      | list hrs hxs => exact (finds_of_forall₂ (.cons hanchor .nil)).append hin
      | _ => exact finds_of_forall₂ .nil
  | _ =>
    cases h
    exact finds_of_forall₂ .nil

end Pairing
end RuleLedger
