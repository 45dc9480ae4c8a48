import Mathlib.Algebra.Group.Nat.Defs
import RuleLedger.Proofs.Except
import RuleLedger.Proofs.Value.Nested

/-! The compact text of a value by plain recursion. Main statement: writing succeeds exactly when no
integer is too long, and then gives that text. -/
namespace RuleLedger

/-- An integer in decimal of any length, a double as documents have it. -/
def Number.numeral : Number → String
  | .int n => (if n < 0 then "-" else "") ++ toString n.natAbs
  | .float x => Json.writeFloat x

namespace Value

open Json (word writeText)

mutual

/-- The text without blanks. A callable is the text that shows it. -/
def compact : Value → List Symbol
  | .null => word "null"
  | .bool true => word "true"
  | .bool false => word "false"
  | .num n => word n.numeral
  | .str s => writeText false s
  | .list [] => ['[', ']']
  | .list (x :: xs) => .char '[' :: compact x ++ compactItems xs ++ [.char ']']
  | .map [] => ['\x7b', '\x7d']
  | .map ((k, v) :: fs) =>
    .char '\x7b' :: writeText false k ++ .char ':' :: compact v ++ compactFields fs ++
      [.char '\x7d']
  | .helper h => writeText false (helperText h)
  | .method r m => writeText false (methodText r m)

/-- Items with a mark before each. -/
def compactItems : List Value → List Symbol
  | [] => []
  | x :: xs => .char ',' :: compact x ++ compactItems xs

/-- Members with a mark before each. -/
def compactFields : List (Text × Value) → List Symbol
  | [] => []
  | (k, v) :: fs => .char ',' :: writeText false k ++ .char ':' :: compact v ++ compactFields fs

end

/-- Whether a value itself is no integer of too many digits. -/
def isWritable : Value → Bool
  | .num (.int n) => decide (n.natAbs < 10 ^ digitLimit)
  | _ => true

end Value

namespace Json

open Value (compactItems compactFields isWritable)

theorem integerText_eq_ok {n : Int} {s : String} :
    integerText n = .ok s ↔ n.natAbs < 10 ^ digitLimit ∧ s = (Number.int n).numeral := by
  have hl : (toString n.natAbs).length ≤ digitLimit ↔ n.natAbs < 10 ^ digitLimit :=
    Nat.length_repr_le_iff (by decide)
  rw [← hl, integerText, Number.numeral]
  by_cases h : (toString n.natAbs).length > digitLimit
  · rw [if_pos h]
    simp only [reduceCtorEq, false_iff, not_and]
    exact fun he => absurd he (Nat.not_le.2 h)
  · rw [if_neg h, Except.ok.injEq]
    have hs : (if n < 0 then "-" ++ toString n.natAbs else toString n.natAbs) =
        (if n < 0 then "-" else "") ++ toString n.natAbs := by
      split_ifs <;> simp
    rw [hs]
    exact ⟨fun he => ⟨Nat.not_lt.1 h, he.symm⟩, fun he => he.2.symm⟩

theorem integerText_eq_error {n : Int} {f : NumericFault} :
    integerText n = .error f ↔ 10 ^ digitLimit ≤ n.natAbs ∧ f = .tooLongToWrite := by
  constructor
  · intro h
    refine ⟨Nat.le_of_not_lt fun hn => ?_, ?_⟩
    · rw [integerText_eq_ok.2 ⟨hn, rfl⟩] at h
      cases h
    · rw [integerText] at h
      split_ifs at h
      exact (Except.error.inj h).symm
  · rintro ⟨hn, rfl⟩
    cases h : integerText n with
    | ok s => exact absurd (integerText_eq_ok.1 h).1 (Nat.not_lt.2 hn)
    | error f =>
      rw [integerText] at h
      split_ifs at h
      exact h.symm ▸ rfl

theorem numberPiece_eq_ok {n : Number} {cs : List Symbol} :
    numberPiece n = .ok cs ↔ isWritable (.num n) = true ∧ cs = word n.numeral := by
  cases n with
  | int n =>
    rw [numberPiece, isWritable, decide_eq_true_eq]
    cases h : integerText n with
    | ok s =>
      obtain ⟨hn, rfl⟩ := integerText_eq_ok.1 h
      simp [hn, eq_comm]
    | error f =>
      have hn : ¬n.natAbs < 10 ^ digitLimit := fun hn => by
        rw [integerText_eq_ok.2 ⟨hn, rfl⟩] at h
        cases h
      simp [hn]
  | float x => simp [numberPiece, isWritable, Number.numeral, eq_comm]

theorem joined_nil_eq_ok {cs : List Symbol} : joined [] = .ok cs ↔ cs = [] := by
  rw [joined, Except.ok.injEq, eq_comm]

theorem joined_cons_eq_ok {p : Piece} {ps : List Piece} {cs : List Symbol} :
    joined (p :: ps) = .ok cs ↔
      ∃ as bs, p = .ok as ∧ joined ps = .ok bs ∧ cs = as ++ bs := by
  simp only [joined, bind_eq_ok, pure_eq_ok]
  exact ⟨fun ⟨as, hp, bs, hps, h⟩ => ⟨as, bs, hp, hps, h.symm⟩,
    fun ⟨as, bs, hp, hps, h⟩ => ⟨as, hp, bs, hps, h.symm⟩⟩

theorem joined_append_eq_ok {ps qs : List Piece} {cs : List Symbol} :
    joined (ps ++ qs) = .ok cs ↔
      ∃ as bs, joined ps = .ok as ∧ joined qs = .ok bs ∧ cs = as ++ bs := by
  induction ps generalizing cs with
  | nil => simp [joined]
  | cons p ps ih =>
    simp only [List.cons_append, joined_cons_eq_ok, ih]
    constructor
    · rintro ⟨as, _, hp, ⟨bs, ds, hps, hqs, rfl⟩, rfl⟩
      exact ⟨as ++ bs, ds, ⟨as, bs, hp, hps, rfl⟩, hqs, (List.append_assoc as bs ds).symm⟩
    · rintro ⟨_, ds, ⟨as, bs, hp, hps, rfl⟩, hqs, rfl⟩
      exact ⟨as, bs ++ ds, hp, ⟨bs, ds, hps, hqs, rfl⟩, List.append_assoc as bs ds⟩

theorem joined_ok_cons_eq_ok {as cs : List Symbol} {ps : List Piece} :
    joined (.ok as :: ps) = .ok cs ↔ ∃ bs, joined ps = .ok bs ∧ cs = as ++ bs := by
  rw [joined_cons_eq_ok]
  exact ⟨fun ⟨_, bs, h, hb⟩ => ⟨bs, Except.ok.inj h ▸ hb⟩, fun ⟨bs, hb⟩ => ⟨as, bs, rfl, hb⟩⟩

theorem joined_singleton_eq_ok {p : Piece} {cs : List Symbol} :
    joined [p] = .ok cs ↔ p = .ok cs := by
  rw [joined_cons_eq_ok]
  constructor
  · rintro ⟨as, bs, hp, hb, rfl⟩
    rw [← Except.ok.inj hb, List.append_nil]
    exact hp
  · exact fun h => ⟨cs, [], h, rfl, (List.append_nil cs).symm⟩

theorem joined_ok_singleton {as cs : List Symbol} :
    joined [.ok as] = .ok cs ↔ cs = as := by
  rw [joined_singleton_eq_ok, Except.ok.injEq, eq_comm]

@[simp] theorem newline_compact (depth : Nat) : Layout.compact.newline depth = [] := rfl

theorem itemPieces_eq_ok (depth : Nat) {xs : List Value}
    (h : ∀ x ∈ xs, ∀ lead cs, joined (pieces .compact lead depth x) = .ok cs ↔
      x.all isWritable = true ∧ cs = lead ++ x.compact) (cs : List Symbol) :
    joined (itemPieces .compact depth xs) = .ok cs ↔
      (∀ x ∈ xs, x.all isWritable = true) ∧ cs = compactItems xs := by
  induction xs generalizing cs with
  | nil => simp [itemPieces, joined_nil_eq_ok, compactItems]
  | cons x xs ih =>
    have hx := h x List.mem_cons_self
    have hxs := ih fun y hy => h y (List.mem_cons_of_mem x hy)
    rw [itemPieces, joined_append_eq_ok, compactItems, List.forall_mem_cons]
    simp only [hx, hxs, newline_compact, List.append_nil]
    constructor
    · rintro ⟨_, _, ⟨hw, rfl⟩, ⟨hws, rfl⟩, rfl⟩
      exact ⟨⟨hw, hws⟩, rfl⟩
    · rintro ⟨⟨hw, hws⟩, rfl⟩
      exact ⟨_, _, ⟨hw, rfl⟩, ⟨hws, rfl⟩, rfl⟩

theorem fieldPieces_eq_ok (depth : Nat) {fs : List (Text × Value)}
    (h : ∀ f ∈ fs, ∀ cs, joined (pieces .compact [] depth f.2) = .ok cs ↔
      f.2.all isWritable = true ∧ cs = f.2.compact) (cs : List Symbol) :
    joined (fieldPieces .compact depth fs) = .ok cs ↔
      (∀ f ∈ fs, f.2.all isWritable = true) ∧ cs = compactFields fs := by
  induction fs generalizing cs with
  | nil => simp [fieldPieces, joined_nil_eq_ok, compactFields]
  | cons f fs ih =>
    obtain ⟨k, v⟩ := f
    have hv := h (k, v) List.mem_cons_self
    have hfs := ih fun g hg => h g (List.mem_cons_of_mem _ hg)
    simp only [fieldPieces, List.cons_append, joined_ok_cons_eq_ok, joined_append_eq_ok, hv, hfs,
      newline_compact, List.append_nil, compactFields, List.forall_mem_cons]
    constructor
    · rintro ⟨_, ⟨_, ⟨_, ⟨_, _, ⟨hw, rfl⟩, ⟨hws, rfl⟩, rfl⟩, rfl⟩, rfl⟩, rfl⟩
      exact ⟨⟨hw, hws⟩, by simp [Layout.compact]⟩
    · rintro ⟨⟨hw, hws⟩, rfl⟩
      exact ⟨_, ⟨_, ⟨_, ⟨_, _, ⟨hw, rfl⟩, ⟨hws, rfl⟩, rfl⟩, rfl⟩, rfl⟩, by simp [Layout.compact]⟩

theorem joined_pieces_of_leaf {v : Value} {lead : List Symbol} {depth : Nat}
    (hp : pieces .compact lead depth v = [.ok (lead ++ v.compact)])
    (hw : v.all isWritable = true) (cs : List Symbol) :
    joined (pieces .compact lead depth v) = .ok cs ↔
      v.all isWritable = true ∧ cs = lead ++ v.compact := by
  rw [hp, joined_ok_singleton, hw, eq_self, true_and]

theorem joined_pieces_callable {v : Value} {shown : Text} {lead : List Symbol} {depth : Nat}
    (hp : pieces .compact lead depth v = [.ok lead, callablePiece .compact v shown])
    (hc : v.compact = writeText false shown) (hw : v.all isWritable = true) (cs : List Symbol) :
    joined (pieces .compact lead depth v) = .ok cs ↔
      v.all isWritable = true ∧ cs = lead ++ v.compact := by
  have hs : callablePiece .compact v shown = .ok v.compact := by
    rw [hc]
    rfl
  simp only [hp, hs, joined_ok_cons_eq_ok, joined_nil_eq_ok, exists_eq_left, List.append_nil,
    hw, true_and]

/-- The pieces of a value are its compact text, or one of its integers is too long. -/
theorem joined_pieces_eq_ok (v : Value) : ∀ lead depth cs,
    joined (pieces .compact lead depth v) = .ok cs ↔
      v.all isWritable = true ∧ cs = lead ++ v.compact := by
  induction v with
  | null => exact fun _ _ => joined_pieces_of_leaf rfl rfl
  | bool b => cases b <;> exact fun _ _ => joined_pieces_of_leaf rfl rfl
  | num n =>
    intro lead depth cs
    change joined [(numberPiece n).after lead] = .ok cs ↔
      isWritable (.num n) = true ∧ cs = lead ++ word n.numeral
    rw [joined_singleton_eq_ok, Piece.after, map_eq_ok]
    simp only [numberPiece_eq_ok]
    constructor
    · rintro ⟨_, ⟨hw, rfl⟩, rfl⟩
      exact ⟨hw, rfl⟩
    · rintro ⟨hw, rfl⟩
      exact ⟨_, ⟨hw, rfl⟩, rfl⟩
  | str s => exact fun _ _ => joined_pieces_of_leaf rfl rfl
  | list xs ih =>
    intro lead depth cs
    cases xs with
    | nil => exact joined_pieces_of_leaf rfl rfl cs
    | cons x xs =>
      have hx := ih x List.mem_cons_self
      have hxs := itemPieces_eq_ok (depth + 1) fun y hy lead =>
        ih y (List.mem_cons_of_mem x hy) lead (depth + 1)
      simp only [pieces, List.cons_append, joined_ok_cons_eq_ok, joined_append_eq_ok, hx, hxs,
        joined_nil_eq_ok, exists_eq_left, List.append_nil, newline_compact, Value.all_list,
        isWritable, true_and, List.forall_mem_cons]
      constructor
      · rintro ⟨_, ⟨_, _, ⟨_, _, ⟨hw, rfl⟩, ⟨hws, rfl⟩, rfl⟩, rfl, rfl⟩, rfl⟩
        exact ⟨⟨hw, hws⟩, by simp [Value.compact, word]⟩
      · rintro ⟨⟨hw, hws⟩, rfl⟩
        exact ⟨_, ⟨_, _, ⟨_, _, ⟨hw, rfl⟩, ⟨hws, rfl⟩, rfl⟩, rfl, rfl⟩,
          by simp [Value.compact, word]⟩
  | map fs ih =>
    intro lead depth cs
    cases fs with
    | nil => exact joined_pieces_of_leaf rfl rfl cs
    | cons f fs =>
      obtain ⟨k, v⟩ := f
      have hv := ih (k, v) List.mem_cons_self []
      have hfs := fieldPieces_eq_ok (depth + 1) fun g hg =>
        ih g (List.mem_cons_of_mem _ hg) [] (depth + 1)
      simp only [pieces, List.cons_append, joined_ok_cons_eq_ok, joined_append_eq_ok, hv, hfs,
        joined_nil_eq_ok, exists_eq_left, List.append_nil, newline_compact, Value.all_map,
        isWritable, true_and, List.forall_mem_cons, List.nil_append]
      constructor
      · rintro ⟨_, ⟨_, ⟨_, ⟨_, _, ⟨_, _, ⟨hw, rfl⟩, ⟨hws, rfl⟩, rfl⟩, rfl, rfl⟩, rfl⟩, rfl⟩, rfl⟩
        exact ⟨⟨hw, hws⟩, by simp [Value.compact, Layout.compact, word]⟩
      · rintro ⟨⟨hw, hws⟩, rfl⟩
        exact ⟨_, ⟨_, ⟨_, ⟨_, _, ⟨_, _, ⟨hw, rfl⟩, ⟨hws, rfl⟩, rfl⟩, rfl, rfl⟩, rfl⟩, rfl⟩,
          by simp [Value.compact, Layout.compact, word]⟩
  | helper h => exact fun _ _ => joined_pieces_callable rfl rfl rfl
  | method r m => exact fun _ _ => joined_pieces_callable rfl rfl rfl

/-- Writing gives the compact text unless an integer is too long. -/
theorem write_compact_eq_ok {v : Value} {t : Text} :
    write .compact v = .ok t ↔ v.all isWritable = true ∧ t.toList = v.compact := by
  rw [write, map_eq_ok]
  simp only [joined_pieces_eq_ok, List.nil_append]
  constructor
  · rintro ⟨_, ⟨hw, rfl⟩, rfl⟩
    exact ⟨hw, rfl⟩
  · rintro ⟨hw, ht⟩
    exact ⟨_, ⟨hw, ht⟩, rfl⟩

/-! ### Faults of writing -/

section Faults

variable {l : Layout} {f : Fault}

theorem mem_of_joined_eq_error {ps : List Piece} (h : joined ps = .error f) : .error f ∈ ps := by
  induction ps with
  | nil => cases h
  | cons p ps ih =>
    obtain rfl | ⟨_, -, h⟩ := bind_eq_error.1 h
    · exact List.mem_cons_self
    · obtain h | ⟨_, -, h⟩ := bind_eq_error.1 h
      · exact List.mem_cons_of_mem _ (ih h)
      · cases h

/-- With callables written as texts, nothing but an integer that is too long cannot be written. -/
theorem eq_of_error_mem_pieces (hl : l.callables = true) (v : Value) : ∀ lead depth,
    .error f ∈ pieces l lead depth v → f = .numeric .tooLongToWrite := by
  have hcallable {lead : List Symbol} {w : Value} {shown : Text}
      (h : .error f ∈ [.ok lead, callablePiece l w shown]) : f = .numeric .tooLongToWrite := by
    simp [callablePiece, hl] at h
  induction v with
  | null => intro lead depth h; simp [pieces] at h
  | bool b => intro lead depth h; cases b <;> simp [pieces] at h
  | str s => intro lead depth h; simp [pieces] at h
  | num n =>
    intro lead depth h
    have hpiece := map_eq_error.1 (List.mem_singleton.1 h).symm
    cases n with
    | float x => cases hpiece
    | int n =>
      rw [numberPiece] at hpiece
      split at hpiece
      · cases hpiece
      · rename_i g hg
        obtain rfl := Except.error.inj hpiece
        rw [(integerText_eq_error.1 hg).2]
  | list xs ih =>
    intro lead depth h
    have hitems (depth : Nat) (ys : List Value) (hys : ∀ y ∈ ys, y ∈ xs)
        (h : .error f ∈ itemPieces l depth ys) : f = .numeric .tooLongToWrite := by
      induction ys with
      | nil => cases h
      | cons y ys ihy =>
        obtain ⟨hy, hys⟩ := List.forall_mem_cons.1 hys
        obtain h | h := List.mem_append.1 h
        · exact ih y hy _ _ h
        · exact ihy hys h
    cases xs with
    | nil => simp [pieces] at h
    | cons x xs =>
      simp only [pieces, List.mem_append, List.mem_cons, reduceCtorEq, false_or, List.not_mem_nil,
        or_false, List.cons_append] at h
      obtain h | h := h
      · exact ih x List.mem_cons_self _ _ h
      · exact hitems _ xs (fun y hy => List.mem_cons_of_mem x hy) h
  | map fs ih =>
    intro lead depth h
    have hfields (depth : Nat) (gs : List (Text × Value)) (hgs : ∀ g ∈ gs, g ∈ fs)
        (h : .error f ∈ fieldPieces l depth gs) : f = .numeric .tooLongToWrite := by
      induction gs with
      | nil => cases h
      | cons g gs ihg =>
        obtain ⟨hg, hgs⟩ := List.forall_mem_cons.1 hgs
        simp only [fieldPieces, List.cons_append, List.mem_cons, reduceCtorEq, false_or,
          List.mem_append] at h
        obtain h | h := h
        · exact ih g hg _ _ h
        · exact ihg hgs h
    cases fs with
    | nil => simp [pieces] at h
    | cons g fs =>
      simp only [pieces, List.mem_append, List.mem_cons, reduceCtorEq, false_or, List.not_mem_nil,
        or_false, List.cons_append] at h
      obtain h | h := h
      · exact ih g List.mem_cons_self _ _ h
      · exact hfields _ fs (fun y hy => List.mem_cons_of_mem g hy) h
  | helper h => exact fun _ _ => hcallable
  | method r m => exact fun _ _ => hcallable

end Faults

end Json

/-- The canonical text is the compact text of the canonical form in characters. -/
theorem Value.canonicalText_eq_ok {v : Value} {s : String} :
    v.canonicalText = .ok s ↔
      v.canonical.all isWritable = true ∧ v.canonical.compact = (Text.ofString s).toList := by
  rw [canonicalText, bind_eq_ok]
  simp only [Json.write_compact_eq_ok, mapError_eq_ok, Text.encode_eq_ok_iff]
  constructor
  · rintro ⟨_, ⟨hw, ht⟩, rfl⟩
    exact ⟨hw, ht.symm⟩
  · rintro ⟨hw, ht⟩
    exact ⟨_, ⟨hw, ht.symm⟩, rfl⟩

end RuleLedger
