import RuleLedger.Proofs.Canonical

/-! Values that have a digest. Main statement: a value has one exactly when every integer and every
text in it can be written. -/
namespace RuleLedger

theorem plain_append_iff {as bs : List Symbol} : Plain (as ++ bs) ↔ Plain as ∧ Plain bs :=
  List.forall_mem_append

theorem plain_cons_iff {c : Char} {cs : List Symbol} : Plain (.char c :: cs) ↔ Plain cs :=
  ⟨fun h a ha => h a (List.mem_cons_of_mem _ ha), Plain.cons⟩

theorem plain_toList_ofString (s : String) : Plain (Text.ofString s).toList := plain_map s.toList

theorem isPlain_ofString (s : String) : (Text.ofString s).isPlain = true :=
  List.all_eq_true.2 (plain_toList_ofString s)

/-- Symbols are those of a character text exactly when none of them is half of a pair. -/
theorem plain_iff_exists {cs : List Symbol} :
    Plain cs ↔ ∃ s : String, cs = (Text.ofString s).toList := by
  refine ⟨fun h => ⟨String.ofList (cs.filterMap Symbol.char?), ?_⟩, ?_⟩
  · rw [Text.ofString, String.toList_ofList]
    exact h.eq_map
  · rintro ⟨s, rfl⟩
    exact plain_toList_ofString s

/-- A lone half is written as it is. -/
theorem writeSymbol_half (s : Surrogate) : Json.writeSymbol false (.half s) = [.half s] := by
  have hcode : ¬(Symbol.half s).code < 0x20 := by
    have h : 0xD800 ≤ (Symbol.half s).code := s.isHalf.1
    omega
  simp [Json.writeSymbol, hcode]

theorem plain_writeText_iff (s : Text) : Plain (Json.writeText false s) ↔ s.isPlain = true := by
  refine ⟨fun h => ?_, plain_writeText⟩
  rw [Text.isPlain, List.all_eq_true]
  intro c hc
  cases c with
  | char c => rfl
  | half s' =>
    have hw : .half s' ∈ Json.writeText false s := by
      refine List.mem_append_left _ (List.mem_cons_of_mem _ (List.mem_flatMap.2 ⟨_, hc, ?_⟩))
      rw [writeSymbol_half]
      exact List.mem_singleton.2 rfl
    exact h _ hw

namespace Value

/-- Whether a value itself can be written: no integer that is too long, and no text or key with half
of a pair. -/
def isSayable : Value → Bool
  | .num (.int n) => decide (n.natAbs < 10 ^ digitLimit)
  | .str s => s.isPlain
  | .map fs => (Fields.keys fs).all Text.isPlain
  | _ => true

theorem plain_compactItems_iff (xs : List Value) :
    Plain (compactItems xs) ↔ ∀ x ∈ xs, Plain x.compact := by
  induction xs with
  | nil => exact ⟨nofun, fun _ => plain_nil⟩
  | cons x xs ih => rw [compactItems, List.cons_append, plain_cons_iff, plain_append_iff, ih,
      List.forall_mem_cons]

theorem plain_compactFields_iff (fs : List (Text × Value)) :
    Plain (compactFields fs) ↔ ∀ f ∈ fs, f.1.isPlain = true ∧ Plain f.2.compact := by
  induction fs with
  | nil => exact ⟨nofun, fun _ => plain_nil⟩
  | cons f fs ih =>
    obtain ⟨k, v⟩ := f
    rw [compactFields, List.forall_mem_cons, ← ih, List.cons_append, List.cons_append,
      plain_cons_iff, plain_append_iff, plain_append_iff, plain_cons_iff, plain_writeText_iff]

theorem writable_compact_iff (v : Value) :
    v.all isWritable = true ∧ Plain v.compact ↔ v.all isSayable = true := by
  have hleaf {w : Value} (hw : w.all isWritable = true) (hs : w.all isSayable = true)
      (hp : Plain w.compact) : w.all isWritable = true ∧ Plain w.compact ↔
        w.all isSayable = true := ⟨fun _ => hs, fun _ => ⟨hw, hp⟩⟩
  induction v with
  | null => exact hleaf rfl rfl (plain_map _)
  | bool b => exact hleaf rfl rfl (by cases b <;> exact plain_map _)
  | num n =>
    have hp : Plain (num n).compact := plain_map _
    cases n with
    | int n => exact ⟨fun h => h.1, fun h => ⟨h, hp⟩⟩
    | float x => exact hleaf rfl rfl hp
  | str s =>
    change true = true ∧ Plain (Json.writeText false s) ↔ s.isPlain = true
    rw [plain_writeText_iff]
    exact ⟨fun h => h.2, fun h => ⟨rfl, h⟩⟩
  | list xs ih =>
    have hxs : Plain (list xs).compact ↔ ∀ x ∈ xs, Plain x.compact := by
      cases xs with
      | nil => exact ⟨fun _ => List.forall_mem_nil _, fun _ => plain_map ['[', ']']⟩
      | cons x xs =>
        rw [compact, List.cons_append, List.cons_append, plain_cons_iff, plain_append_iff,
          plain_append_iff, plain_compactItems_iff, List.forall_mem_cons]
        exact ⟨fun h => h.1, fun h => ⟨h, plain_map [']']⟩⟩
    rw [all_list, all_list, hxs]
    refine ⟨fun h => ⟨rfl, fun x hx => (ih x hx).1 ⟨h.1.2 x hx, h.2 x hx⟩⟩, fun h => ?_⟩
    exact ⟨⟨rfl, fun x hx => ((ih x hx).2 (h.2 x hx)).1⟩, fun x hx => ((ih x hx).2 (h.2 x hx)).2⟩
  | map fs ih =>
    have hfs : Plain (map fs).compact ↔ ∀ f ∈ fs, f.1.isPlain = true ∧ Plain f.2.compact := by
      cases fs with
      | nil => exact ⟨fun _ => List.forall_mem_nil _, fun _ => plain_map ['\x7b', '\x7d']⟩
      | cons f fs =>
        obtain ⟨k, v⟩ := f
        rw [compact, List.cons_append, List.cons_append, List.cons_append, plain_cons_iff,
          List.forall_mem_cons,
          ← plain_compactFields_iff, plain_append_iff, plain_append_iff, plain_append_iff,
          plain_cons_iff, plain_writeText_iff]
        exact ⟨fun h => h.1, fun h => ⟨h, plain_map ['\x7d']⟩⟩
    have hkeys : isSayable (map fs) = true ↔ ∀ f ∈ fs, f.1.isPlain = true := by
      rw [isSayable, List.all_eq_true, Fields.keys, List.forall_mem_map]
    rw [all_map, all_map, hfs, hkeys]
    refine ⟨fun h => ⟨fun f hf => (h.2 f hf).1, fun f hf => (ih f hf).1 ⟨h.1.2 f hf, (h.2 f hf).2⟩⟩,
      fun h => ?_⟩
    exact ⟨⟨rfl, fun f hf => ((ih f hf).2 (h.2 f hf)).1⟩,
      fun f hf => ⟨h.1 f hf, ((ih f hf).2 (h.2 f hf)).2⟩⟩
  | helper h => exact hleaf rfl rfl (plain_writeText (isPlain_ofString _))
  | method r m => exact hleaf rfl rfl (plain_writeText (isPlain_ofString _))

theorem isSayable_canonical (v : Value) : v.canonical.isSayable = v.isSayable := by
  cases v with
  | map fs =>
    have hk := keys_sortFields_perm (Fields.mapValues canonical fs)
    rw [keys_mapValues] at hk
    rw [canonical_map, isSayable, isSayable, Bool.eq_iff_iff, List.all_eq_true, List.all_eq_true]
    exact forall_congr' fun k => by rw [hk.mem_iff]
  | list xs => rw [canonical_list]; rfl
  | _ => rfl

/-- A value has a digest exactly when everything in it can be written. -/
theorem contentHash_isOk_iff (v : Value) :
    (∃ d, v.contentHash = .ok d) ↔ v.all isSayable = true := by
  have htext : (∃ d, v.contentHash = .ok d) ↔ ∃ s, v.canonicalText = .ok s := by
    simp only [contentHash, map_eq_ok]
    exact ⟨fun ⟨_, s, hs, _⟩ => ⟨s, hs⟩, fun ⟨s, hs⟩ => ⟨_, s, hs, rfl⟩⟩
  simp only [htext, canonicalText_eq_ok]
  rw [exists_and_left, ← plain_iff_exists, writable_compact_iff,
    all_canonical_iff isSayable_canonical]

/-- A value has no digest because of an integer that is too long, or of half of a pair. -/
theorem contentHash_eq_error {v : Value} {f : Fault} (h : v.contentHash = .error f) :
    f = .numeric .tooLongToWrite ∨ ∃ u, f = .encoding u := by
  rw [contentHash, map_eq_error, canonicalText] at h
  obtain h | ⟨t, -, h⟩ := bind_eq_error.1 h
  · have hmem := Json.mem_of_joined_eq_error (map_eq_error.1 h)
    exact .inl (Json.eq_of_error_mem_pieces rfl _ _ _ hmem)
  · cases ht : t.encode with
    | ok s =>
      rw [ht] at h
      cases h
    | error u =>
      rw [ht] at h
      exact .inr ⟨u, (Except.error.inj h).symm⟩

/-- A mapping has a digest exactly when its keys can be written and its members have digests. -/
theorem contentHash_map_isOk_iff (fs : List (Text × Value)) :
    (∃ d, (map fs).contentHash = .ok d) ↔
      ∀ f ∈ fs, f.1.isPlain = true ∧ ∃ d, f.2.contentHash = .ok d := by
  simp only [contentHash_isOk_iff]
  rw [all_map, isSayable, List.all_eq_true, Fields.keys, List.forall_mem_map]
  exact ⟨fun h f hf => ⟨h.1 f hf, h.2 f hf⟩, fun h => ⟨fun f hf => (h f hf).1, fun f hf =>
    (h f hf).2⟩⟩

theorem contentHash_canonical (v : Value) : v.canonical.contentHash = v.contentHash := by
  rw [contentHash, contentHash, canonicalText, canonicalText, canonical_canonical]

end Value
end RuleLedger
