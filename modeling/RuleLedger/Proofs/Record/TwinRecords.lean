import RuleLedger.Proofs.Record.Likeness
import RuleLedger.Proofs.Record.Twins

/-! Records of two runs side by side. Reading from twins gives twins, and writing twins into twins
leaves twins, so that twins are a likeness. -/
namespace RuleLedger
namespace Pairing

variable (P : Pairing)

/-- Twins as records: mappings of twins, or twins that are no mappings. -/
inductive TwinRoots : Root → Root → Prop
  | fields {fs gs : Fields Datum} : P.TwinFields fs gs → TwinRoots (.fields fs) (.fields gs)
  | other {d e : Datum} : P.Twins d e → d.members? = none → TwinRoots (.other d) (.other e)

structure TwinRecords (r r' : Record) : Prop where
  root : P.TwinRoots r.root r'.root
  held : List.Forall₂ P.Twins r.held r'.held

variable {P} {r r' : Record} {d e new new' : Datum} {s t : Seed} {p : KeyPath}

theorem TwinRecords.value_eq (h : P.TwinRecords r r') : r.value = r'.value := by
  obtain ⟨root, held⟩ := r
  obtain ⟨root', held'⟩ := r'
  have hroot := h.root
  cases hroot with
  | @fields fs gs hfs =>
    change Value.map (Datum.fieldValues fs) = .map (Datum.fieldValues gs)
    rw [Datum.fieldValues_eq, Datum.fieldValues_eq, fieldValues_eq hfs.2]
  | other hd _ => exact hd.value_eq

theorem TwinRecords.whole (hs : P.seeds s t) (h : P.TwinRecords r r') :
    P.Twins (r.whole s) (r'.whole t) := by
  obtain ⟨root, held⟩ := r
  obtain ⟨root', held'⟩ := r'
  have hroot := h.root
  cases hroot with
  | fields hfs => exact .map' (P.part [] hs) rfl hfs
  | other hd _ => exact hd

theorem TwinRecords.get? (hs : P.seeds s t) (h : P.TwinRecords r r') (p : KeyPath) :
    Same (Option.Rel P.Twins) (r.get? s p) (r'.get? t p) := by
  have hwhole := h.whole hs
  obtain ⟨root, held⟩ := r
  obtain ⟨root', held'⟩ := r'
  obtain ⟨segs⟩ := p
  have hroot := h.root
  cases hroot with
  | fields hfs =>
    cases segs with
    | nil => exact .ok (.some hwhole)
    | cons seg segs =>
      rw [Record.get?, Record.get?]
      obtain ⟨hf, hg⟩ | ⟨d, e, hf, hg, hd⟩ := optionRel_cases (hfs.get? seg)
      · simp only [hf, hg]
        exact .ok .none
      · simp only [hf, hg]
        exact hd.getIn segs
  | other hd _ =>
    cases segs with
    | nil => exact .ok (.some hwhole)
    | cons seg segs => exact hd.getIn (seg :: segs)

/-! ### Held lists -/

theorem TwinRecords.current (h : P.TwinRecords r r') (hd : P.Twins d e) :
    P.Twins (r.current d) (r'.current e) := by
  rw [Record.current, Record.current]
  obtain ⟨hi, hj⟩ | ⟨i, j, hi, hj, hij⟩ := optionRel_cases hd.identity?
  · rw [hi, hj]
    exact hd
  · have hfound : Option.Rel P.Twins (r.held? i) (r'.held? j) :=
      forall₂_find? h.held fun _ _ h' => identity?_beq h'.identity? (.some hij)
    rw [hi, hj, Option.bind_some, Option.bind_some]
    obtain ⟨hx, hy⟩ | ⟨x, y, hx, hy, hxy⟩ := optionRel_cases hfound
    · rw [hx, hy]
      exact hd
    · rw [hx, hy]
      exact hxy

theorem holdList_twins {held held' : List Datum} (h : List.Forall₂ P.Twins held held')
    (hd : P.Twins d e) :
    List.Forall₂ P.Twins (Record.holdList held d) (Record.holdList held' e) := by
  rw [Record.holdList, Record.holdList,
    forall₂_any h fun _ _ h' => identity?_beq h'.identity? hd.identity?]
  split_ifs
  · exact h
  · exact List.rel_append h (.cons hd .nil)

theorem TwinRecords.holding (h : P.TwinRecords r r') (hd : P.Twins d e) :
    List.Forall₂ P.Twins (r.holding d) (r'.holding e) := by
  have hfold (xs ys : List Datum) (hxs : List.Forall₂ P.Twins xs ys) (held held' : List Datum)
      (hheld : List.Forall₂ P.Twins held held') :
      List.Forall₂ P.Twins (xs.foldl Record.holdList held) (ys.foldl Record.holdList held') := by
    induction hxs generalizing held held' with
    | nil => exact hheld
    | cons hx _ ih => exact ih _ _ (holdList_twins hheld hx)
  exact hfold _ _ hd.receivers _ _ h.held

/-! ### Writes -/

theorem members?_apply {c : Datum.Change} (h : d.members? = none) :
    (d.apply c).members? = none := by
  cases d with
  | map i fs => cases h
  | list i xs =>
    rw [Datum.apply]
    split_ifs
    · cases c.slot <;> rfl
    · rfl
  | _ => rfl

/-- The whole of a record that is no mapping is never replaced. -/
theorem set_whole_other (h : d.members? = none) (v : Value) :
    ∃ f, KeyPath.set ⟨[]⟩ d.value v = .error f := by
  cases v with
  | map fs =>
    cases d with
    | map => cases h
    | _ => exact ⟨_, rfl⟩
  | _ => exact ⟨_, rfl⟩

theorem TwinRecords.set (hs : P.seeds s t) (h : P.TwinRecords r r') (hn : P.Twins new new') :
    Same P.TwinRecords (r.set p s new) (r'.set p t new') := by
  have hheld := h.holding hn
  have ha := hn.anchor
  have hchanged {c c' : Datum.Change} (hc : LikeChanges P P.Twins c c') :
      List.Forall₂ P.Twins ((r.holding new).map (Datum.apply c))
        ((r'.holding new').map (Datum.apply c')) :=
    forall₂_map hheld fun _ _ _ hd => hd.apply hc
  obtain ⟨root, held⟩ := r
  obtain ⟨root', held'⟩ := r'
  have hroot := h.root
  obtain ⟨segs⟩ := p
  cases hroot with
  | @fields fs gs hfs =>
    match segs with
    | [] =>
      simp only [Record.set]
      generalize new.anchor = a, new'.anchor = a' at ha
      cases ha with
      | map _ _ hk hms => exact .ok ⟨.fields ⟨hk, hms⟩, hheld⟩
      | _ => exact .error rfl
    | [seg] =>
      simp only [Record.set]
      exact .ok ⟨.fields (hfs.put seg ha), hheld⟩
    | seg :: next :: rest =>
      have hnest := hfs.put seg (ha.nest hs [] (next :: rest))
      simp only [Record.set]
      obtain ⟨hf, hg⟩ | ⟨d, e, hf, hg, hd⟩ := optionRel_cases (hfs.get? seg)
      · simp only [hf, hg]
        exact .ok ⟨.fields hnest, hheld⟩
      · have hchange := (Twins.change hs ha hd ⟨seg :: next :: rest⟩ next rest).map
          (S := P.TwinRecords)
          (f := fun c => ⟨.fields (Fields.mapValues (Datum.apply c) fs),
            (Record.holding ⟨.fields fs, held⟩ new).map (Datum.apply c)⟩)
          (g := fun c => ⟨.fields (Fields.mapValues (Datum.apply c) gs),
            (Record.holding ⟨.fields gs, held'⟩ new').map (Datum.apply c)⟩)
          fun c c' hc => ⟨.fields (hfs.mapValues fun _ _ _ hde => hde.apply hc), hchanged hc⟩
        simp only [hf, hg]
        cases hd with
        | null => exact .ok ⟨.fields hnest, hheld⟩
        | _ => exact hchange
  | @other d e hd hm =>
    match segs with
    | [] =>
      obtain ⟨f, hf⟩ := set_whole_other hm new.anchor.value
      simp only [Record.set, ← hd.value_eq, ← ha.value_eq, hf]
      exact .error rfl
    | seg :: rest =>
      simp only [Record.set]
      exact (Twins.change hs ha hd ⟨seg :: rest⟩ seg rest).map
        fun c c' hc => ⟨.other (hd.apply hc) (members?_apply hm), hchanged hc⟩

/-- The record after an attempt to write, and the same fault in both runs if there is one. -/
theorem TwinRecords.write (hs : P.seeds s t) (h : P.TwinRecords r r') (hn : P.Twins new new')
    (p : KeyPath) :
    P.TwinRecords (r.write p s new).1 (r'.write p t new').1 ∧
      (r.write p s new).2 = (r'.write p t new').2 := by
  rw [Record.write, Record.write]
  obtain ⟨f, f', hf, hf', he⟩ | ⟨u, u', hu, hu', huu⟩ := (h.set (p := p) hs (hn.copy hs)).cases
  · rw [hf, hf', he]
    refine ⟨?_, rfl⟩
    obtain ⟨root, held⟩ := r
    obtain ⟨root', held'⟩ := r'
    obtain ⟨segs⟩ := p
    have hroot := h.root
    cases segs with
    | cons => exact h
    | nil =>
      cases hroot with
      | fields => exact h
      | other hd hm =>
        cases hd with
        | list hij hi _ =>
          cases hn with
          | map => exact ⟨.other (.list hij hi .nil) rfl, h.held⟩
          | _ => exact h
        | _ => exact h
  · rw [hu, hu']
    exact ⟨huu, rfl⟩

/-! ### The likeness -/

theorem TwinRecords.recordName? {E E' : Expr.Environment} (h : P.TwinRecords E.record E'.record)
    (n : Text) : Same (Option.Rel P.Twins) (E.recordName? n) (E'.recordName? n) := by
  have hroot := h.root
  rw [Expr.Environment.recordName?, Expr.Environment.recordName?]
  generalize E.record.root = root, E'.record.root = root' at hroot
  cases hroot with
  | fields hfs => exact .ok (hfs.get? n)
  | other hd _ =>
    dsimp only
    rw [hd.value_eq]
    split
    · split_ifs
      · exact .error rfl
      · exact .ok .none
    · split_ifs
      · exact .error rfl
      · exact .ok .none
    · exact .error rfl

theorem TwinRecords.scope {i j : Identity} {fs gs : Fields Datum} (h : P.TwinRecords r r')
    (hd : P.Twins (.map i fs) (.map j gs)) :
    P.TwinRecords ⟨.fields fs, r.held⟩ ⟨.fields gs, r'.held⟩ := by
  cases hd with
  | map _ _ hk hfs => exact ⟨.fields ⟨hk, hfs⟩, h.held⟩

/-- Twins are alike. -/
def twins (P : Pairing) : Likeness P where
  data := P.Twins
  records := P.TwinRecords
  layer := Twins.layer
  plain := Twins.plain
  list := .list
  map hij hi hk h := .map hij hi hk (related_iff.1 h)
  group g hij h := .group g hij (related_iff.1 h)
  helper := .helper
  method := .method
  copy := Twins.copy
  current := TwinRecords.current
  get? := TwinRecords.get?
  recordName := TwinRecords.recordName?
  scope := TwinRecords.scope
  write := TwinRecords.write

/-- Records of one JSON value. -/
theorem TwinRecords.ofValue (h : ∀ q, P.things (.part s q) (.part t q)) {v : Value}
    (hv : v.isJson = true) : P.TwinRecords (.ofValue s v) (.ofValue t v) := by
  have hd : P.Twins (.ofValue s [] v) (.ofValue t [] v) := P.twins.ofValue h hv []
  cases v with
  | map fs =>
    cases hd with
    | map _ _ hk hfs => exact ⟨.fields ⟨hk, hfs⟩, .nil⟩
  | helper h' => cases hv
  | _ => exact ⟨.other hd rfl, .nil⟩

end Pairing
end RuleLedger
