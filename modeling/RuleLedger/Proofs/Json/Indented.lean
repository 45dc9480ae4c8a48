import RuleLedger.Proofs.Hashable

/-! The indented text of a document by plain recursion, an item a line. Main statement: a document
is encoded piece by piece to that text, without a fault. -/
namespace RuleLedger
namespace Json

/-- The end of a line, and the blanks in front of the next one. -/
def lineBreak (depth : Nat) : List Char := '\n' :: List.replicate (2 * depth) ' '

/-- The characters of a text between its quotes; a half would be left out. -/
def inner (s : Text) : List Char := (s.toList.flatMap (writeSymbol false)).filterMap Symbol.char?

def quoted (s : Text) : List Char := '"' :: inner s ++ ['"']

mutual

/-- The text of a value whose first line stands at a depth. A callable has none. -/
def indented (depth : Nat) : Value → List Char
  | .null => "null".toList
  | .bool true => "true".toList
  | .bool false => "false".toList
  | .num n => n.numeral.toList
  | .str s => quoted s
  | .list [] => ['[', ']']
  | .list (x :: xs) =>
    '[' :: lineBreak (depth + 1) ++ (indented (depth + 1) x ++ indentedItems (depth + 1) xs) ++
      lineBreak depth ++ [']']
  | .map [] => ['\x7b', '\x7d']
  | .map ((k, v) :: fs) =>
    '\x7b' :: lineBreak (depth + 1) ++
      (quoted k ++ ':' :: ' ' :: indented (depth + 1) v ++ indentedFields (depth + 1) fs) ++
      lineBreak depth ++ ['\x7d']
  | .helper _ | .method _ _ => []

/-- The items after the first. -/
def indentedItems (depth : Nat) : List Value → List Char
  | [] => []
  | x :: xs => ',' :: lineBreak depth ++ (indented depth x ++ indentedItems depth xs)

/-- The members after the first. -/
def indentedFields (depth : Nat) : List (Text × Value) → List Char
  | [] => []
  | (k, v) :: fs =>
    ',' :: lineBreak depth ++
      (quoted k ++ ':' :: ' ' :: indented depth v ++ indentedFields depth fs)

end

/-! ### Pieces -/

variable {ps qs : List Piece} {as bs : List Char}

theorem encoded_cons (as : List Char) (ps : List Piece) :
    encoded (.ok (as.map .char) :: ps) = (as ++ (encoded ps).1, (encoded ps).2) := by
  have h : (Except.ok (as.map Symbol.char) : Piece).bind (fun cs =>
      (Text.characters cs).mapError Fault.encoding) = .ok as := by
    change (Text.characters (as.map .char)).mapError Fault.encoding = .ok as
    rw [Text.characters_map]
    rfl
  rw [encoded, h]

theorem encoded_singleton (as : List Char) : encoded [.ok (as.map .char)] = (as, none) := by
  rw [encoded_cons, encoded, List.append_nil]

/-- Pieces that are encoded without a fault go before any others. -/
theorem encoded_append (h : encoded ps = (as, none)) (qs : List Piece) :
    encoded (ps ++ qs) = (as ++ (encoded qs).1, (encoded qs).2) := by
  induction ps generalizing as with
  | nil =>
    obtain ⟨rfl, -⟩ := Prod.mk.inj h
    rfl
  | cons p ps ih =>
    rw [List.cons_append, encoded]
    rw [encoded] at h
    split at h
    · exact absurd (Prod.mk.inj h).2 (Option.some_ne_none _)
    · rename_i cs hcs
      obtain ⟨rfl, hnone⟩ := Prod.mk.inj h
      dsimp only
      rw [ih (Prod.ext rfl hnone), List.append_assoc]

theorem newline_stored (depth : Nat) :
    Layout.stored.newline depth = (lineBreak depth).map .char := by
  rw [lineBreak, List.map_cons, List.map_replicate]
  rfl

theorem writeText_eq_map {s : Text} (h : s.isPlain = true) :
    writeText false s = (quoted s).map .char := by
  have hplain := plain_writeText h
  rw [writeText, List.cons_append, plain_cons_iff, plain_append_iff] at hplain
  rw [writeText, quoted, hplain.1.eq_map, inner]
  simp

/-- A value of one piece. -/
theorem encoded_leaf {v : Value} {cs : List Symbol} {depth : Nat} (lead : List Char)
    (hp : pieces .stored (lead.map .char) depth v = [.ok (lead.map .char ++ cs)])
    (hcs : cs = (indented depth v).map .char) :
    encoded (pieces .stored (lead.map .char) depth v) = (lead ++ indented depth v, none) := by
  rw [hp, hcs, ← List.map_append, encoded_singleton]

theorem encoded_number {n : Number} (h : (Value.num n).isDocument = true) (lead : List Char)
    (depth : Nat) :
    encoded (pieces .stored (lead.map .char) depth (.num n)) =
      (lead ++ n.numeral.toList, none) := by
  have hpiece : numberPiece n = .ok (word n.numeral) :=
    numberPiece_eq_ok.2 ⟨Value.isWritable_of_isDocument h, rfl⟩
  have hp : pieces .stored (lead.map .char) depth (.num n) =
      [.ok (lead.map .char ++ word n.numeral)] := by
    rw [pieces, hpiece]
    rfl
  exact encoded_leaf (v := .num n) lead hp rfl

theorem encoded_itemPieces (depth : Nat) {xs : List Value}
    (h : ∀ x ∈ xs, ∀ lead : List Char,
      encoded (pieces .stored (lead.map .char) depth x) = (lead ++ indented depth x, none)) :
    encoded (itemPieces .stored depth xs) = (indentedItems depth xs, none) := by
  induction xs with
  | nil => rfl
  | cons x xs ih =>
    have hlead : Layout.stored.comma ++ Layout.stored.newline depth =
        (',' :: lineBreak depth).map .char := by
      rw [newline_stored]
      rfl
    have hx := h x List.mem_cons_self (',' :: lineBreak depth)
    rw [itemPieces, hlead, encoded_append hx, ih fun y hy => h y (List.mem_cons_of_mem x hy),
      indentedItems]
    simp

theorem encoded_field {k : Text} {v : Value} {depth : Nat} (hk : k.isPlain = true)
    (hv : encoded (pieces .stored [] depth v) = (indented depth v, none)) (lead : List Char)
    (ps : List Piece) :
    encoded (.ok (lead.map .char) :: .ok (writeText false k) :: .ok Layout.stored.colon ::
        pieces .stored [] depth v ++ ps) =
      (lead ++ (quoted k ++ ':' :: ' ' :: indented depth v ++ (encoded ps).1), (encoded ps).2) := by
  have hcolon : Layout.stored.colon = [':', ' '].map .char := rfl
  rw [writeText_eq_map hk, hcolon]
  simp only [List.cons_append, encoded_cons, encoded_append hv, List.append_assoc,
    List.nil_append]

theorem encoded_fieldPieces (depth : Nat) {fs : List (Text × Value)}
    (h : ∀ f ∈ fs, f.1.isPlain = true ∧
      encoded (pieces .stored [] depth f.2) = (indented depth f.2, none)) :
    encoded (fieldPieces .stored depth fs) = (indentedFields depth fs, none) := by
  induction fs with
  | nil => rfl
  | cons f fs ih =>
    obtain ⟨k, v⟩ := f
    obtain ⟨hk, hv⟩ := h (k, v) List.mem_cons_self
    have hlead : Layout.stored.comma ++ Layout.stored.newline depth =
        (',' :: lineBreak depth).map .char := by
      rw [newline_stored]
      rfl
    have hascii : Layout.stored.ascii = false := rfl
    rw [fieldPieces, hascii, hlead, encoded_field hk hv,
      ih fun g hg => h g (List.mem_cons_of_mem _ hg), indentedFields]

/-- Nothing in a document is a fault, and its pieces are its indented text. -/
theorem encoded_pieces {v : Value} (hv : v.isDocument = true) (lead : List Char) (depth : Nat) :
    encoded (pieces .stored (lead.map .char) depth v) = (lead ++ indented depth v, none) := by
  induction v generalizing lead depth with
  | null => exact encoded_leaf lead rfl rfl
  | bool b => cases b <;> exact encoded_leaf lead rfl rfl
  | num n => exact encoded_number hv lead depth
  | str s => exact encoded_leaf lead rfl (writeText_eq_map hv)
  | list xs ih =>
    rw [Value.isDocument, Value.all_list] at hv
    cases xs with
    | nil => exact encoded_leaf lead rfl rfl
    | cons x xs =>
      have hx := ih x List.mem_cons_self (hv.2 x List.mem_cons_self) ('[' :: lineBreak (depth + 1))
        (depth + 1)
      have hxs := encoded_itemPieces (depth + 1) fun y hy lead =>
        ih y (List.mem_cons_of_mem x hy) (hv.2 y (List.mem_cons_of_mem x hy)) lead (depth + 1)
      rw [List.map_cons] at hx
      rw [pieces, newline_stored, newline_stored, List.append_assoc, List.cons_append,
        encoded_cons, encoded_append hx, encoded_append hxs, word, ← List.map_append,
        encoded_singleton, indented]
      simp
  | map fs ih =>
    rw [Value.isDocument, Value.all_map, Value.isPortable, Bool.and_eq_true,
      List.all_eq_true] at hv
    cases fs with
    | nil => exact encoded_leaf lead rfl rfl
    | cons f fs =>
      obtain ⟨k, v⟩ := f
      have hfield (g : Text × Value) (hg : g ∈ (k, v) :: fs) : g.1.isPlain = true ∧
          encoded (pieces .stored [] (depth + 1) g.2) = (indented (depth + 1) g.2, none) :=
        ⟨hv.1.2 g.1 (List.mem_map_of_mem hg), ih g hg (hv.2 g hg) [] (depth + 1)⟩
      obtain ⟨hk, hfirst⟩ := hfield (k, v) List.mem_cons_self
      have hfs := encoded_fieldPieces (depth + 1) fun g hg =>
        hfield g (List.mem_cons_of_mem _ hg)
      have hascii : Layout.stored.ascii = false := rfl
      rw [pieces, hascii, newline_stored, newline_stored, word, word, ← List.map_append,
        ← List.map_append, ← List.map_append]
      rw [List.append_assoc, encoded_field hk hfirst, encoded_append hfs, encoded_singleton,
        indented]
      simp
  | helper => cases hv
  | method => cases hv

/-! ### Characters of the text -/

/-- A character that a value may start with: no blank, no closing bracket and no mark of a byte
order. -/
def IsOpening (c : Char) : Prop := isSpace c = false ∧ c ≠ ']' ∧ c ≠ '\ufeff'

theorem isOpening_of_isNumberStart {c : Char} (h : IsNumberStart c) : IsOpening c := by
  have hne (a : Char) (ha : ¬IsNumberStart a) : c ≠ a := by
    rintro rfl
    exact ha h
  simp [IsOpening, isSpace, hne, IsNumberStart]

theorem indented_start {v : Value} (hv : v.isData = true) (depth : Nat) :
    ∃ c tail, indented depth v = c :: tail ∧ IsOpening c := by
  have hmarks : ∀ c ∈ ['n', 't', 'f', '"', '[', '\x7b'],
      isSpace c = false ∧ c ≠ ']' ∧ c ≠ '\ufeff' := by simp [isSpace]
  have hopen (c : Char) (tail : List Char) (h : c ∈ ['n', 't', 'f', '"', '[', '\x7b']) :
      ∃ a rest, c :: tail = a :: rest ∧ IsOpening a := ⟨c, tail, rfl, hmarks c h⟩
  cases v with
  | null => exact hopen 'n' _ (by decide)
  | bool b => cases b <;> exact hopen _ _ (by decide)
  | num n =>
    obtain ⟨c, tail, h, hc⟩ := numeral_start n
    exact ⟨c, tail, h, isOpening_of_isNumberStart hc⟩
  | str s => exact hopen '"' _ (by decide)
  | list xs => cases xs <;> exact hopen '[' _ (by decide)
  | map fs => cases fs <;> exact hopen '\x7b' _ (by decide)
  | helper => cases hv
  | method => cases hv

theorem not_return_mem_unitEscape {n : Nat} (h : n < 0x20) : .char '\r' ∉ unitEscape n := by
  interval_cases n <;> decide

theorem not_return_mem_writeSymbol (c : Symbol) : .char '\r' ∉ writeSymbol false c := by
  rw [writeSymbol]
  split_ifs with _ _ _ hr _ _ _ hc
  · decide
  · decide
  · decide
  · decide
  · decide
  · decide
  · decide
  · exact not_return_mem_unitEscape hc
  · simp at *
  · exact fun h => hr (List.mem_singleton.1 h).symm

theorem not_return_mem_quoted (s : Text) : '\r' ∉ quoted s := by
  have hinner : '\r' ∉ inner s := fun h => by
    obtain ⟨c, hc, hr⟩ := List.mem_filterMap.1 h
    obtain ⟨a, -, ha⟩ := List.mem_flatMap.1 hc
    cases c with
    | char c =>
      obtain rfl := Option.some.inj hr
      exact not_return_mem_writeSymbol a ha
    | half => cases hr
  simp [quoted, hinner]

theorem not_return_mem_lineBreak (depth : Nat) : '\r' ∉ lineBreak depth := by
  simp [lineBreak, List.mem_replicate]

theorem not_return_mem_indentedItems {depth : Nat} {xs : List Value}
    (h : ∀ x ∈ xs, '\r' ∉ indented depth x) : '\r' ∉ indentedItems depth xs := by
  induction xs with
  | nil => exact List.not_mem_nil
  | cons x xs ih =>
    have hxs := ih fun y hy => h y (List.mem_cons_of_mem x hy)
    simp [indentedItems, not_return_mem_lineBreak, h x List.mem_cons_self, hxs]

theorem not_return_mem_indentedFields {depth : Nat} {fs : List (Text × Value)}
    (h : ∀ f ∈ fs, '\r' ∉ indented depth f.2) : '\r' ∉ indentedFields depth fs := by
  induction fs with
  | nil => exact List.not_mem_nil
  | cons f fs ih =>
    obtain ⟨k, v⟩ := f
    have hv := h (k, v) List.mem_cons_self
    have hfs := ih fun g hg => h g (List.mem_cons_of_mem _ hg)
    simp [indentedFields, not_return_mem_lineBreak, not_return_mem_quoted, hv, hfs]

/-- A carriage return is written as an escape wherever it stands in a value. -/
theorem not_return_mem_indented (v : Value) (depth : Nat) : '\r' ∉ indented depth v := by
  induction v generalizing depth with
  | null => exact (by decide : '\r' ∉ "null".toList)
  | bool b =>
    cases b
    · exact (by decide : '\r' ∉ "false".toList)
    · exact (by decide : '\r' ∉ "true".toList)
  | num n =>
    intro h
    exact absurd (numeral_marks n _ h) (by simp [IsNumberMark, Decimal.IsMark])
  | str s => exact not_return_mem_quoted s
  | list xs ih =>
    cases xs with
    | nil => exact (by decide : '\r' ∉ ['[', ']'])
    | cons x xs =>
      have hx := ih x List.mem_cons_self (depth + 1)
      have hxs := not_return_mem_indentedItems fun y hy =>
        ih y (List.mem_cons_of_mem x hy) (depth + 1)
      simp [indented, not_return_mem_lineBreak, hx, hxs]
  | map fs ih =>
    cases fs with
    | nil => exact (by decide : '\r' ∉ ['\x7b', '\x7d'])
    | cons f fs =>
      obtain ⟨k, v⟩ := f
      have hv := ih (k, v) List.mem_cons_self (depth + 1)
      have hfs := not_return_mem_indentedFields fun g hg =>
        ih g (List.mem_cons_of_mem _ hg) (depth + 1)
      simp [indented, not_return_mem_lineBreak, not_return_mem_quoted, hv, hfs]
  | helper => exact List.not_mem_nil
  | method => exact List.not_mem_nil

end Json
end RuleLedger
