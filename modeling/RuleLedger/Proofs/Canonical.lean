import RuleLedger.Proofs.Json.Unambiguous
import RuleLedger.Proofs.Value.Alike

/-! Canonical texts. A document is a value that JSON can represent and the program can write; two
documents have one canonical text exactly when they are equal up to the order of keys. -/
namespace RuleLedger

/-- Whether a text is made of characters alone. -/
def Text.isPlain (s : Text) : Bool := s.toList.all fun c => c.char?.isSome

namespace Value

/-- What a document may hold: no integer that is too long, no text with half of a pair, no key twice
and no callable. -/
def isPortable : Value → Bool
  | .num (.int n) => decide (n.natAbs < 10 ^ digitLimit)
  | .str s => s.isPlain
  | .map fs => decide (Fields.keys fs).Nodup && (Fields.keys fs).all Text.isPlain
  | .helper _ | .method _ _ => false
  | _ => true

def isDocument (v : Value) : Bool := v.all isPortable

theorem isWritable_of_isDocument {v : Value} (h : v.isDocument = true) :
    v.all isWritable = true := by
  refine all_mono (fun w hw => ?_) h
  cases w with
  | num n => cases n <;> simp_all [isPortable, isWritable]
  | _ => rfl

theorem isData_of_isDocument {v : Value} (h : v.isDocument = true) : v.isData = true := by
  rw [isData_iff_all]
  refine all_mono (fun w hw => ?_) h
  cases w with
  | helper | method => cases hw
  | _ => rfl

theorem hasDistinctKeys_of_isDocument {v : Value} (h : v.isDocument = true) :
    v.all hasDistinctKeys = true := by
  refine all_mono (fun w hw => ?_) h
  cases w with
  | map fs =>
    rw [isPortable, Bool.and_eq_true] at hw
    exact hw.1
  | _ => rfl

/-- A test that does not see the order of keys holds of a canonical form where it holds of the
value. -/
theorem all_canonical_iff {p : Value → Bool} (hp : ∀ v, p v.canonical = p v) (v : Value) :
    v.canonical.all p = true ↔ v.all p = true := by
  induction v with
  | list xs ih =>
    have hl := hp (list xs)
    rw [canonical_list] at hl ⊢
    rw [all_list, all_list, hl, List.forall_mem_map]
    exact and_congr_right fun _ => forall₂_congr ih
  | map fs ih =>
    have hm := hp (map fs)
    rw [canonical_map] at hm ⊢
    rw [all_map, all_map, hm]
    refine and_congr_right fun _ => ⟨fun h f hf => (ih f hf).1 ?_, fun h f hf => ?_⟩
    · exact h (f.1, f.2.canonical) ((sortFields_perm _).mem_iff.2 (List.mem_map_of_mem hf))
    · obtain ⟨g, hg, rfl⟩ := List.mem_map.1 ((sortFields_perm _).mem_iff.1 hf)
      exact (ih g hg).2 (h g hg)
  | _ => rfl

theorem isPortable_canonical (v : Value) : v.canonical.isPortable = v.isPortable := by
  cases v with
  | map fs =>
    have hk := keys_sortFields_perm (Fields.mapValues canonical fs)
    rw [keys_mapValues] at hk
    rw [canonical_map, isPortable, isPortable, Bool.eq_iff_iff, Bool.and_eq_true,
      Bool.and_eq_true, decide_eq_true_eq, decide_eq_true_eq, List.all_eq_true, List.all_eq_true]
    exact and_congr hk.nodup_iff (forall_congr' fun k => by rw [hk.mem_iff])
  | list xs =>
    rw [canonical_list]
    rfl
  | _ => rfl

theorem isDocument_canonical {v : Value} (h : v.isDocument = true) :
    v.canonical.isDocument = true := (all_canonical_iff isPortable_canonical v).2 h

end Value

/-! ### Characters -/

/-- Symbols that are all characters. -/
def Plain (cs : List Symbol) : Prop := ∀ c ∈ cs, c.char?.isSome = true

theorem Plain.append {as bs : List Symbol} (ha : Plain as) (hb : Plain bs) : Plain (as ++ bs) :=
  fun c hc => (List.mem_append.1 hc).elim (ha c) (hb c)

theorem Plain.cons {c : Char} {cs : List Symbol} (h : Plain cs) : Plain (.char c :: cs) :=
  List.forall_mem_cons.2 ⟨rfl, h⟩

theorem plain_nil : Plain [] := fun _ h => nomatch h

theorem plain_map (cs : List Char) : Plain (cs.map .char) := by
  intro c hc
  obtain ⟨a, -, rfl⟩ := List.mem_map.1 hc
  rfl

theorem Plain.eq_map {cs : List Symbol} (h : Plain cs) :
    cs = (cs.filterMap Symbol.char?).map .char := by
  induction cs with
  | nil => rfl
  | cons c cs ih =>
    have hcs := ih fun a ha => h a (List.mem_cons_of_mem c ha)
    cases c with
    | char c => exact congrArg (Symbol.char c :: ·) hcs
    | half s => cases h (.half s) List.mem_cons_self

theorem plain_writeSymbol {c : Symbol} (h : c.char?.isSome = true) :
    Plain (Json.writeSymbol false c) := by
  have hpair (a b : Char) : Plain [.char a, .char b] := plain_map [a, b]
  rw [Json.writeSymbol]
  split_ifs with _ _ _ _ _ _ _ hc ha
  · exact hpair _ _
  · exact hpair _ _
  · exact hpair _ _
  · exact hpair _ _
  · exact hpair _ _
  · exact hpair _ _
  · exact hpair _ _
  · exact plain_map _
  · simp at ha
  · exact List.forall_mem_singleton.2 h

theorem plain_writeText {s : Text} (h : s.isPlain = true) : Plain (Json.writeText false s) := by
  rw [Text.isPlain, List.all_eq_true] at h
  refine (Plain.append (fun c hc => ?_) (plain_map ['"'])).cons
  obtain ⟨a, ha, hc⟩ := List.mem_flatMap.1 hc
  exact plain_writeSymbol (h a ha) c hc

open Value (compactItems compactFields)

theorem plain_compactItems {xs : List Value} (h : ∀ x ∈ xs, Plain x.compact) :
    Plain (compactItems xs) := by
  induction xs with
  | nil => exact plain_nil
  | cons x xs ih =>
    have hxs := ih fun y hy => h y (List.mem_cons_of_mem x hy)
    exact (h x List.mem_cons_self).cons.append hxs

theorem plain_compactFields {fs : List (Text × Value)}
    (h : ∀ f ∈ fs, f.1.isPlain = true ∧ Plain f.2.compact) : Plain (compactFields fs) := by
  induction fs with
  | nil => exact plain_nil
  | cons f fs ih =>
    obtain ⟨k, v⟩ := f
    have hfs := ih fun g hg => h g (List.mem_cons_of_mem _ hg)
    obtain ⟨hk, hv⟩ := h (k, v) List.mem_cons_self
    have hkey : Plain (.char ',' :: Json.writeText false k) := (plain_writeText hk).cons
    exact (hkey.append hv.cons).append hfs

/-- A document is written in characters alone. -/
theorem plain_compact {v : Value} (h : v.isDocument = true) : Plain v.compact := by
  induction v with
  | null => exact plain_map _
  | bool b => cases b <;> exact plain_map _
  | num n => exact plain_map _
  | str s => exact plain_writeText h
  | list xs ih =>
    rw [Value.isDocument, Value.all_list] at h
    have hxs : Plain (compactItems xs) := plain_compactItems fun x hx => ih x hx (h.2 x hx)
    cases xs with
    | nil => exact plain_map ['[', ']']
    | cons x xs =>
      have ht : Plain (x.compact ++ compactItems xs) := fun c hc =>
        hxs c (List.mem_cons_of_mem _ hc)
      exact ht.cons.append (plain_map [']'])
  | map fs ih =>
    rw [Value.isDocument, Value.all_map, Value.isPortable, Bool.and_eq_true,
      List.all_eq_true] at h
    have hfs : Plain (compactFields fs) := plain_compactFields fun f hf =>
      ⟨h.1.2 f.1 (List.mem_map_of_mem hf), ih f hf (h.2 f hf)⟩
    cases fs with
    | nil => exact plain_map ['\x7b', '\x7d']
    | cons f fs =>
      have ht : Plain (Json.writeText false f.1 ++ .char ':' :: f.2.compact ++ compactFields fs) :=
        fun c hc => hfs c (List.mem_cons_of_mem _ hc)
      exact ht.cons.append (plain_map ['\x7d'])
  | helper => cases h
  | method => cases h

/-- A document has a canonical text. -/
theorem canonicalText_of_isDocument {v : Value} (h : v.isDocument = true) :
    ∃ s, v.canonicalText = .ok s ∧ v.canonical.compact = (Text.ofString s).toList := by
  have hc := Value.isDocument_canonical h
  have he := (plain_compact hc).eq_map
  refine ⟨String.ofList (v.canonical.compact.filterMap Symbol.char?), ?_, ?_⟩
  · rw [Value.canonicalText_eq_ok]
    refine ⟨Value.isWritable_of_isDocument hc, ?_⟩
    rw [Text.ofString, String.toList_ofList]
    exact he
  · rw [Text.ofString, String.toList_ofList]
    exact he

/-- Two documents have the same bytes as their canonical texts exactly when they are equal up to the
order of keys; the canonical form is its own canonical form and has the same text. -/
theorem canonicalText_eq_iff_alike {v w : Value} (hv : v.isDocument = true)
    (hw : w.isDocument = true) :
    (∃ s t, v.canonicalText = .ok s ∧ w.canonicalText = .ok t ∧
      (s.toUTF8 = t.toUTF8 ↔ v.Alike w)) ∧
    v.canonical.canonical = v.canonical ∧ v.canonical.canonicalText = v.canonicalText := by
  obtain ⟨s, hs, hvs⟩ := canonicalText_of_isDocument hv
  obtain ⟨t, ht, hwt⟩ := canonicalText_of_isDocument hw
  refine ⟨⟨s, t, hs, ht, fun h => ?_, fun h => ?_⟩, v.canonical_canonical, ?_⟩
  · have he : s = t := String.toByteArray_inj.1 h
    have hc : v.canonical.compact = w.canonical.compact := by rw [hvs, hwt, he]
    exact Value.alike_of_canonical_eq (Json.compact_injective
      (Value.isData_of_isDocument (Value.isDocument_canonical hv))
      (Value.isData_of_isDocument (Value.isDocument_canonical hw)) hc)
  · have hc := Value.canonical_eq_of_alike (Value.hasDistinctKeys_of_isDocument hv) h
    rw [Value.canonicalText, hc] at hs
    rw [Value.canonicalText, hs] at ht
    rw [Except.ok.inj ht]
  · rw [Value.canonicalText, Value.canonical_canonical]
    rfl

/-- Keys in another order at two levels. -/
theorem canonicalText_of_reordered :
    let v : Value := .map [("b", .list [.num .nan, .int 1, .float 1.0]),
      ("a", .map [("y", .null), ("x", .str "\"é")])]
    let w : Value := .map [("a", .map [("x", .str "\"é"), ("y", .null)]),
      ("b", .list [.num .nan, .int 1, .float 1.0])]
    v.isDocument = true ∧ w.isDocument = true ∧
      (∃ s t, v.canonicalText = .ok s ∧ w.canonicalText = .ok t ∧
        (s.toUTF8 = t.toUTF8 ↔ v.Alike w)) ∧
      v.canonical.canonical = v.canonical ∧ v.canonical.canonicalText = v.canonicalText := by
  intro v w
  have hv : v.isDocument = true := by decide +kernel
  have hw : w.isDocument = true := by decide +kernel
  exact ⟨hv, hw, canonicalText_eq_iff_alike hv hw⟩

end RuleLedger
