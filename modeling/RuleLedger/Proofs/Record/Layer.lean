import Mathlib.Data.List.Forall2
import Mathlib.Data.Option.Basic
import RuleLedger.Proofs.Except
import RuleLedger.Proofs.Fields
import RuleLedger.Proofs.Pointwise
import RuleLedger.Proofs.Record.Nested
import RuleLedger.Proofs.Value.Alike

/-! Data of two runs side by side. Two runs of one program name their things differently; a pairing
says which names belong together. Data that are related layer by layer are read and changed alike at
every path. -/
namespace RuleLedger

/-- Whether a thing was made by a run. -/
def Identity.isMade : Identity → Bool
  | .shelf _ => false
  | _ => true

/-- Whether a value itself may be part of a JSON document. -/
def Value.isPlainNode (v : Value) : Bool := !v.isCallable && v.hasDistinctKeys

/-- Values as JSON documents hold them: no callable, and no key twice. -/
def Value.isJson (v : Value) : Bool := v.all isPlainNode

theorem Value.isJson_map {fs : Fields Value} :
    (Value.map fs).isJson = true ↔ fs.keys.Nodup ∧ ∀ f ∈ fs, f.2.isJson = true := by
  rw [isJson, all_map, isPlainNode, Bool.and_eq_true, hasDistinctKeys, decide_eq_true_eq,
    and_assoc]
  exact and_iff_right rfl

theorem Value.isJson_of_get? {fs : Fields Value} (h : (Value.map fs).isJson = true) {k : Text}
    {v : Value} (hv : fs.get? k = some v) : v.isJson = true :=
  (isJson_map.1 h).2 _ (Fields.mem_of_get? hv)

/-- Which seeds and which things of two runs belong together. -/
structure Pairing where
  seeds : Seed → Seed → Prop
  things : Identity → Identity → Prop
  fork : ∀ {s t : Seed} (n : Nat), seeds s t → seeds (s.fork n) (t.fork n)
  shelf : ∀ n, things (.shelf n) (.shelf n)
  part : ∀ {s t : Seed} (p : Place), seeds s t → things (.part s p) (.part t p)
  copy : ∀ {s t : Seed} {i j : Identity}, seeds s t → things i j → things (.copy s i) (.copy t j)
  unique : ∀ {i j i' j' : Identity}, things i j → things i' j' → (i = i' ↔ j = j')

namespace Pairing

variable {P : Pairing}

/-- Which of two data are one thing is the same in both runs. -/
theorem identity?_eq_iff {i? i'? j? j'? : Option Identity} (h : Option.Rel P.things i? j?)
    (h' : Option.Rel P.things i'? j'?) : i? = i'? ↔ j? = j'? := by
  cases h with
  | none => cases h' <;> simp
  | some h =>
    cases h' with
    | none => simp
    | some h' => rw [Option.some.injEq, Option.some.injEq, P.unique h h']

theorem identity?_beq {i? i'? j? j'? : Option Identity} (h : Option.Rel P.things i? j?)
    (h' : Option.Rel P.things i'? j'?) : (i? == i'?) = (j? == j'?) :=
  Bool.eq_iff_iff.2 (by rw [beq_iff_eq, beq_iff_eq, identity?_eq_iff h h'])

end Pairing

namespace Fields

variable {α β : Type} {R : α → β → Prop} {fs : Fields α} {gs : Fields β} {a : α} {b : β}

/-- Mappings of related members under the same keys in the same order. -/
abbrev Related (R : α → β → Prop) (fs : Fields α) (gs : Fields β) : Prop :=
  List.Forall₂ (fun f g => f.1 = g.1 ∧ R f.2 g.2) fs gs

namespace Related

theorem keys_eq (h : Related R fs gs) : fs.keys = gs.keys :=
  map_eq_map_iff.2 (h.imp fun _ _ hfg => hfg.1)

theorem single (k : Text) (h : R a b) : Related R [(k, a)] [(k, b)] := .cons ⟨rfl, h⟩ .nil

theorem get? (h : Related R fs gs) (k : Text) : Option.Rel R (fs.get? k) (gs.get? k) := by
  induction h with
  | nil => exact .none
  | @cons f g _ _ hf _ ih =>
    obtain ⟨l, a⟩ := f
    obtain ⟨l', b⟩ := g
    obtain ⟨rfl, hab⟩ : l = l' ∧ R a b := hf
    rw [get?_cons, get?_cons]
    split_ifs
    · exact .some hab
    · exact ih

theorem put (h : Related R fs gs) (k : Text) (hab : R a b) :
    Related R (fs.put k a) (gs.put k b) := by
  induction h with
  | nil => exact single k hab
  | @cons f g _ _ hf hfs ih =>
    obtain ⟨l, a'⟩ := f
    obtain ⟨l', b'⟩ := g
    obtain ⟨rfl, hab'⟩ : l = l' ∧ R a' b' := hf
    rw [Fields.put, Fields.put]
    split_ifs
    · exact .cons ⟨rfl, hab⟩ hfs
    · exact .cons ⟨rfl, hab'⟩ ih

theorem putAll (h : Related R fs gs) {fs' : Fields α} {gs' : Fields β} (h' : Related R fs' gs') :
    Related R (fs.putAll fs') (gs.putAll gs') := by
  induction h' generalizing fs gs with
  | nil => exact h
  | @cons f g _ _ hf _ ih =>
    obtain ⟨l, a⟩ := f
    obtain ⟨l', b⟩ := g
    obtain ⟨rfl, hab⟩ : l = l' ∧ R a b := hf
    exact ih (h.put l hab)

/-- What is under every key decides, once the keys are the same in the same order. -/
theorem of_get? (hk : fs.keys = gs.keys) (hd : fs.keys.Nodup)
    (h : ∀ k, Option.Rel R (fs.get? k) (gs.get? k)) : Related R fs gs := by
  induction fs generalizing gs with
  | nil =>
    obtain rfl := List.map_eq_nil_iff.1 hk.symm
    exact .nil
  | cons f fs ih =>
    obtain ⟨l, a⟩ := f
    cases gs with
    | nil => cases hk
    | cons g gs =>
      obtain ⟨l', b⟩ := g
      obtain ⟨rfl, hks⟩ : l = l' ∧ keys fs = keys gs := List.cons.inj hk
      obtain ⟨hl, hds⟩ := List.nodup_cons.1 hd
      have hhead := h l
      rw [get?_cons, get?_cons, if_pos rfl, if_pos rfl] at hhead
      refine .cons ⟨rfl, ?_⟩ (ih hks hds fun k => ?_)
      · cases hhead with
        | some hab => exact hab
      · by_cases hkl : k = l
        · subst hkl
          rw [get?_eq_none hl, get?_eq_none (hks ▸ hl)]
          exact .none
        · have htail := h k
          rw [get?_cons, get?_cons, if_neg hkl, if_neg hkl] at htail
          exact htail

end Related

/-- In mappings that hold related members under each key, one finds the same. -/
theorem exists_mem_iff (hf : fs.keys.Nodup) (hg : gs.keys.Nodup)
    (h : ∀ k, Option.Rel R (fs.get? k) (gs.get? k)) {p : α → Prop} {q : β → Prop}
    (hpq : ∀ f ∈ fs, ∀ b, R f.2 b → (p f.2 ↔ q b)) :
    (∃ f ∈ fs, p f.2) ↔ ∃ g ∈ gs, q g.2 := by
  constructor
  · rintro ⟨⟨k, a⟩, hm, hp⟩
    have hk := h k
    rw [(get?_eq_some_iff hf).2 hm] at hk
    obtain ⟨hx, -⟩ | ⟨_, b, hx, hy, hab⟩ := optionRel_cases hk
    · cases hx
    · obtain rfl := Option.some.inj hx
      exact ⟨_, mem_of_get? hy, (hpq _ hm b hab).1 hp⟩
  · rintro ⟨⟨k, b⟩, hm, hq⟩
    have hk := h k
    rw [(get?_eq_some_iff hg).2 hm] at hk
    obtain ⟨-, hy⟩ | ⟨a, _, hx, hy, hab⟩ := optionRel_cases hk
    · cases hy
    · obtain rfl := Option.some.inj hy
      have hm := mem_of_get? hx
      exact ⟨_, hm, (hpq _ hm b hab).2 hq⟩

end Fields

namespace Datum

variable {R : Datum → Datum → Prop} {s t : Seed}

/-- What is made of lists of values in the two runs. -/
theorem forall₂_ofItems {vs ws : List Value}
    (h : List.Forall₂ (fun v w => ∀ q, R (ofValue s q v) (ofValue t q w)) vs ws) (q : Place)
    (n : Nat) : List.Forall₂ R (ofItems s q n vs) (ofItems t q n ws) := by
  induction h generalizing n with
  | nil => exact .nil
  | cons hvw _ ih => exact .cons (hvw _) (ih _)

theorem related_ofFields {vs ws : Fields Value}
    (h : Fields.Related (fun v w => ∀ q, R (ofValue s q v) (ofValue t q w)) vs ws) (q : Place) :
    Fields.Related R (ofFields s q vs) (ofFields t q ws) := by
  induction h with
  | nil => exact .nil
  | @cons f g _ _ hf _ ih =>
    obtain ⟨k, v⟩ := f
    obtain ⟨l, w⟩ := g
    obtain ⟨rfl, hvw⟩ : k = l ∧ ∀ q, R (ofValue s q v) (ofValue t q w) := hf
    exact .cons ⟨rfl, hvw _⟩ ih

end Datum

/-- Data of one shape whose things belong together and whose parts are related. Mappings may hold
their members in different orders. -/
inductive Layer (P : Pairing) (R : Datum → Datum → Prop) : Datum → Datum → Prop
  | null : Layer P R .null .null
  | bool (b : Bool) : Layer P R (.bool b) (.bool b)
  | num (n : Number) : Layer P R (.num n) (.num n)
  | str (s : Text) : Layer P R (.str s) (.str s)
  | list {i j : Identity} {xs ys : List Datum} : P.things i j → List.Forall₂ R xs ys →
    Layer P R (.list i xs) (.list j ys)
  | map {i j : Identity} {fs gs : Fields Datum} : P.things i j → fs.keys.Nodup → gs.keys.Nodup →
    (∀ k, Option.Rel R (fs.get? k) (gs.get? k)) → Layer P R (.map i fs) (.map j gs)
  | group {i j : Identity} {fs gs : Fields Datum} (g : Group) : P.things i j →
    (∀ k, Option.Rel R (fs.get? k) (gs.get? k)) → Layer P R (.group i g fs) (.group j g gs)
  | helper {i j : Identity} {h : Helper} : P.things i j → h ≠ .uuid →
    Layer P R (.helper i h) (.helper j h)
  | method {i j : Identity} {r r' : Datum} (m : Method) : P.things i j → R r r' →
    Layer P R (.method i r m) (.method j r' m)

namespace Layer

variable {P : Pairing} {R S : Datum → Datum → Prop} {d e new new' : Datum} {s t : Seed}

theorem identity? (h : Layer P R d e) : Option.Rel P.things d.identity? e.identity? := by
  cases h with
  | list hij | map hij | group _ hij | helper hij | method _ hij => exact .some hij
  | _ => exact .none

/-- What a path leads to. -/
theorem getIn (hR : ∀ {d e}, R d e → Layer P R d e) (h : R d e) (segs : List Text) :
    Same (Option.Rel R) (d.getIn segs) (e.getIn segs) := by
  induction segs generalizing d e with
  | nil => exact .ok (.some h)
  | cons seg segs ih =>
    cases hR h with
    | @list i j xs ys _ hxs =>
      rw [Datum.getIn, Datum.getIn, hxs.length_eq]
      cases KeyPath.index? seg ys.length with
      | error f => exact .error rfl
      | ok i? =>
        cases i? with
        | none => exact .ok .none
        | some i =>
          obtain ⟨hx, hy⟩ | ⟨d, e, hx, hy, hd⟩ := optionRel_cases (forall₂_getElem? hxs i)
          · simp only [hx, hy]
            exact .ok .none
          · simp only [hx, hy]
            exact ih hd
    | @map i j fs gs _ _ _ hfs =>
      rw [Datum.getIn, Datum.getIn]
      obtain ⟨hf, hg⟩ | ⟨d, e, hf, hg, hd⟩ := optionRel_cases (hfs seg)
      · rw [hf, hg]
        exact .ok .none
      · rw [hf, hg]
        exact ih hd
    | _ => exact .ok .none

end Layer

/-- The same change in both runs. -/
structure LikeChanges (P : Pairing) (S : Datum → Datum → Prop) (c c' : Datum.Change) : Prop where
  container : P.things c.container c'.container
  slot : c.slot = c'.slot
  content : S c.content c'.content

namespace Layer

variable {P : Pairing} {R S : Datum → Datum → Prop} {d e new new' : Datum} {s t : Seed}

/-- A write at a path is the same change, given that its content is inside new mappings. -/
theorem change (hR : ∀ {d e}, R d e → Layer P R d e) (hnull : R .null .null)
    (hn : ∀ segs, S (.nest s new [] segs) (.nest t new' [] segs)) (h : R d e) (p : KeyPath)
    (seg : Text) (segs : List Text) :
    Same (LikeChanges P S) (Datum.change p s new seg segs d)
      (Datum.change p t new' seg segs e) := by
  induction segs generalizing d e seg with
  | nil =>
    cases hR h with
    | @list i j xs ys hij hxs =>
      rw [Datum.change, Datum.change, hxs.length_eq]
      cases KeyPath.index? seg ys.length with
      | error f => exact .error rfl
      | ok i? =>
        cases i? with
        | none => exact .error rfl
        | some i => exact .ok ⟨hij, rfl, hn []⟩
    | map hij => exact .ok ⟨hij, rfl, hn []⟩
    | _ => exact .error rfl
  | cons next rest ih =>
    cases hR h with
    | @list i j xs ys hij hxs =>
      rw [Datum.change, Datum.change, hxs.length_eq]
      cases KeyPath.index? seg ys.length with
      | error f => exact .error rfl
      | ok i? =>
        cases i? with
        | none => exact .error rfl
        | some i =>
          have hitem : R (xs.getD i .null) (ys.getD i .null) := by
            rw [List.getD_eq_getElem?_getD, List.getD_eq_getElem?_getD]
            exact optionRel_getD (forall₂_getElem? hxs i) hnull
          exact ih hitem next
    | @map i j fs gs hij _ _ hfs =>
      rw [Datum.change, Datum.change]
      obtain ⟨hf, hg⟩ | ⟨d, e, hf, hg, hd⟩ := optionRel_cases (hfs seg)
      · rw [hf, hg]
        exact .ok ⟨hij, rfl, hn (next :: rest)⟩
      · have hnext := ih hd next
        rw [hf, hg]
        cases hR hd with
        | null => exact .ok ⟨hij, rfl, hn (next :: rest)⟩
        | _ => exact hnext
    | _ => exact .error rfl

end Layer
end RuleLedger
