import RuleLedger.Proofs.Record.Shuffled

/-! Shuffled records. Reading from shuffled records gives shuffled data, and writing these into them
leaves them shuffled, so that they are a likeness. -/
namespace RuleLedger

/-- A list that is held already is not held again, so that it is found where it stood. -/
theorem Record.find?_holding (i : Identity) (ls held : List Datum) :
    (ls.foldl holdList held).find? (·.identity? == some i) =
      (held.find? (·.identity? == some i)).or (ls.find? (·.identity? == some i)) := by
  have hone (held : List Datum) (l : Datum) : (holdList held l).find? (·.identity? == some i) =
      (held.find? (·.identity? == some i)).or ([l].find? (·.identity? == some i)) := by
    rw [holdList]
    split_ifs with h
    · by_cases hl : l.identity? = some i
      · obtain ⟨d, hd⟩ := Option.isSome_iff_exists.1
          (List.find?_isSome.2 (List.any_eq_true.1 (hl ▸ h)))
        rw [hd, Option.some_or]
      · rw [List.find?_cons_of_neg (by simpa using hl), List.find?_nil, Option.or_none]
    · exact List.find?_append
  induction ls generalizing held with
  | nil => rw [List.foldl_nil, List.find?_nil, Option.or_none]
  | cons l ls ih =>
    rw [List.foldl_cons, ih, hone, Option.or_assoc, ← List.find?_append, List.singleton_append]

namespace Pairing

variable (P : Pairing)

/-- Records that are mappings of shuffled data and hold the same lists. -/
structure ShuffledRecords (r r' : Record) : Prop where
  root : ∃ fs gs, r.root = .fields fs ∧ r'.root = .fields gs ∧ P.ShuffledFields fs gs
  held : P.Finds r.held r'.held

variable {P} {r r' : Record} {d e new new' : Datum} {s t : Seed} {p : KeyPath}

theorem ShuffledRecords.essence_eq (h : P.ShuffledRecords r r') :
    r.value.essence = r'.value.essence := by
  obtain ⟨root, held⟩ := r
  obtain ⟨root', held'⟩ := r'
  obtain ⟨fs, gs, rfl, rfl, hfs⟩ := h.root
  exact (shuffled_map_iff.2 ⟨P.shelf "", hfs⟩).essence_eq

/-- Records of values that are alike. -/
theorem ShuffledRecords.ofValue (h : ∀ q, P.things (.part s q) (.part t q)) {vs ws : Fields Value}
    (hv : (Value.map vs).isJson = true) (hw : (Value.map ws).isJson = true)
    (ha : (Value.map vs).Alike (.map ws)) :
    P.ShuffledRecords (.ofValue s (.map vs)) (.ofValue t (.map ws)) :=
  ⟨⟨_, _, rfl, rfl, (shuffled_map_iff.1 (Shuffled.ofValue h hv hw ha [])).2⟩,
    finds_of_forall₂ .nil⟩

theorem ShuffledRecords.get? (hs : P.seeds s t) (h : P.ShuffledRecords r r') (p : KeyPath) :
    Same (Option.Rel P.Shuffled) (r.get? s p) (r'.get? t p) := by
  obtain ⟨root, held⟩ := r
  obtain ⟨root', held'⟩ := r'
  obtain ⟨fs, gs, rfl, rfl, hfs⟩ := h.root
  obtain ⟨segs⟩ := p
  cases segs with
  | nil => exact .ok (.some (shuffled_map_iff.2 ⟨P.part [] hs, hfs⟩))
  | cons seg segs =>
    rw [Record.get?, Record.get?]
    obtain ⟨hf, hg⟩ | ⟨d, e, hf, hg, hd⟩ := optionRel_cases (hfs.get? seg)
    · simp only [hf, hg]
      exact .ok .none
    · simp only [hf, hg]
      exact hd.getIn segs

theorem ShuffledRecords.current (h : P.ShuffledRecords r r') (hd : P.Shuffled d e) :
    P.Shuffled (r.current d) (r'.current e) := by
  rw [Record.current, Record.current]
  obtain ⟨hi, hj⟩ | ⟨i, j, hi, hj, hij⟩ := optionRel_cases hd.identity?
  · rw [hi, hj]
    exact hd
  · rw [hi, hj, Option.bind_some, Option.bind_some]
    exact optionRel_getD (h.held i j hij) hd

theorem ShuffledRecords.holding (h : P.ShuffledRecords r r') (hd : P.Shuffled d e) :
    P.Finds (r.holding d) (r'.holding e) := by
  have happend := h.held.append hd.receivers
  intro i j hij
  have hfound := happend i j hij
  rw [List.find?_append, List.find?_append] at hfound
  rw [Record.holding, Record.holding, Record.find?_holding, Record.find?_holding]
  exact hfound

theorem Finds.apply {c c' : Datum.Change} {xs ys : List Datum} (h : P.Finds xs ys)
    (hc : LikeChanges P P.ShuffledContent c c') :
    P.Finds (xs.map (Datum.apply c)) (ys.map (Datum.apply c')) := by
  intro i j hij
  have hfind (c : Datum.Change) (k : Identity) (zs : List Datum) :
      (zs.map (Datum.apply c)).find? (·.identity? == some k) =
        (zs.find? (·.identity? == some k)).map (Datum.apply c) := by
    rw [List.find?_map]
    exact congrArg (fun p => (zs.find? p).map (Datum.apply c))
      (funext fun d => congrArg (· == some k) (Datum.identity?_apply c d))
  rw [hfind, hfind]
  obtain ⟨hx, hy⟩ | ⟨d, e, hx, hy, hd⟩ := optionRel_cases (h i j hij)
  · rw [hx, hy]
    exact .none
  · rw [hx, hy]
    exact .some (hd.apply hc)

theorem ShuffledRecords.set (hs : P.seeds s t) (h : P.ShuffledRecords r r')
    (hn : P.Shuffled new new') (p : KeyPath) :
    Same P.ShuffledRecords (r.set p s new) (r'.set p t new') := by
  have hheld := h.holding hn
  have hc := hn.content
  obtain ⟨root, held⟩ := r
  obtain ⟨root', held'⟩ := r'
  obtain ⟨fs, gs, rfl, rfl, hfs⟩ := h.root
  have hmade {ms ms' : Fields Datum} (hms : P.ShuffledFields ms ms') :
      P.ShuffledRecords ⟨.fields ms, Record.holding ⟨.fields fs, held⟩ new⟩
        ⟨.fields ms', Record.holding ⟨.fields gs, held'⟩ new'⟩ := ⟨⟨ms, ms', rfl, rfl, hms⟩, hheld⟩
  obtain ⟨segs⟩ := p
  rcases segs with _ | ⟨seg, _ | ⟨next, rest⟩⟩
  · have ha := hc.shuffled
    simp only [Record.set]
    generalize new.anchor = a, new'.anchor = a' at ha
    cases ha with
    | map _ hf hg hms horder => exact .ok (hmade ⟨hf, hg, hms, horder⟩)
    | _ => exact .error rfl
  · simp only [Record.set]
    exact .ok (hmade (hfs.put seg hc))
  · have hnest := hmade (hfs.put seg (hc.nest hs [] (next :: rest)))
    simp only [Record.set]
    obtain ⟨hf, hg⟩ | ⟨d, e, hf, hg, hd⟩ := optionRel_cases (hfs.get? seg)
    · simp only [hf, hg]
      exact .ok hnest
    · have hchange := (Shuffled.change hs hc hd ⟨seg :: next :: rest⟩ next rest).map
        (S := P.ShuffledRecords)
        (f := fun c => ⟨.fields (Fields.mapValues (Datum.apply c) fs),
          (Record.holding ⟨.fields fs, held⟩ new).map (Datum.apply c)⟩)
        (g := fun c => ⟨.fields (Fields.mapValues (Datum.apply c) gs),
          (Record.holding ⟨.fields gs, held'⟩ new').map (Datum.apply c)⟩)
        fun c c' hcc => ⟨⟨_, _, rfl, rfl, hfs.mapValues (fun _ ha => .apply hcc.content.left ha)
          (fun _ ha => .apply hcc.content.right ha) fun _ _ _ hde => hde.apply hcc⟩,
          hheld.apply hcc⟩
      simp only [hf, hg]
      cases hd with
      | null => exact .ok hnest
      | _ => exact hchange

theorem ShuffledRecords.write (hs : P.seeds s t) (h : P.ShuffledRecords r r')
    (hn : P.Shuffled new new') (p : KeyPath) :
    P.ShuffledRecords (r.write p s new).1 (r'.write p t new').1 ∧
      (r.write p s new).2 = (r'.write p t new').2 := by
  have hremains {r : Record} {fs : Fields Datum} (hr : r.root = .fields fs) (d : Datum) :
      r.remains p d = r := by
    obtain ⟨root, held⟩ := r
    obtain rfl := hr
    obtain ⟨segs⟩ := p
    cases segs <;> rfl
  rw [Record.write, Record.write]
  obtain ⟨f, f', hf, hf', he⟩ | ⟨u, u', hu, hu', huu⟩ := (h.set hs (hn.copy hs) p).cases
  · obtain ⟨fs, gs, hroot, hroot', -⟩ := h.root
    rw [hf, hf', he, hremains hroot, hremains hroot']
    exact ⟨h, rfl⟩
  · rw [hu, hu']
    exact ⟨huu, rfl⟩

theorem ShuffledRecords.recordName? {E E' : Expr.Environment}
    (h : P.ShuffledRecords E.record E'.record) (n : Text) :
    Same (Option.Rel P.Shuffled) (E.recordName? n) (E'.recordName? n) := by
  obtain ⟨fs, gs, hroot, hroot', hfs⟩ := h.root
  rw [Expr.Environment.recordName?, Expr.Environment.recordName?, hroot, hroot']
  exact .ok (hfs.get? n)

/-- Shuffled data are alike. -/
def shuffled (P : Pairing) : Likeness P where
  data := P.Shuffled
  records := P.ShuffledRecords
  layer := Shuffled.layer
  plain := Shuffled.plain
  list hij _ hxs := .list hij hxs
  map hij _ hk hfs := shuffled_map_iff.2 ⟨hij, .of_related hk hfs⟩
  group g hij hfs := .group g hij hfs.get?
  helper := .helper
  method := .method
  copy := Shuffled.copy
  current := ShuffledRecords.current
  get? := ShuffledRecords.get?
  recordName := ShuffledRecords.recordName?
  scope h hd := ⟨⟨_, _, rfl, rfl, (shuffled_map_iff.1 hd).2⟩, h.held⟩
  write := ShuffledRecords.write

end Pairing
end RuleLedger
