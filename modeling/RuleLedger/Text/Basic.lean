import RuleLedger.Text.Symbol

/-! Texts, their order and their encoding. Main statement: the texts that can be encoded are those
of characters alone. -/
namespace RuleLedger

structure Text where
  ofList ::
  /-- The symbols of a text in their order. -/
  toList : List Symbol
deriving Repr, DecidableEq, Inhabited

namespace Text

/-- A text of characters. -/
def ofString (s : String) : Text := ⟨s.toList.map .char⟩

instance : Coe String Text := ⟨ofString⟩

instance : Append Text := ⟨fun s t => ⟨s.toList ++ t.toList⟩⟩

@[simp] theorem toList_append (s t : Text) : (s ++ t).toList = s.toList ++ t.toList := rfl

def length (s : Text) : Nat := s.toList.length

def isEmpty (s : Text) : Bool := s.toList.isEmpty

/-- The text of one symbol. -/
def singleton (c : Symbol) : Text := ⟨[c]⟩

/-- Texts one after the other, with a text between any two. -/
def intercalate (between : Text) (ts : List Text) : Text :=
  ⟨between.toList.intercalate (ts.map toList)⟩

/-- Lines one after the other, with the end of each. -/
def joinLines (lines : List Text) : Text := ⟨lines.flatMap fun l => l.toList ++ [.char '\n']⟩

/-! ### Order -/

/-- Texts are ordered by the numbers of their symbols. -/
def lt (s t : Text) : Bool := decide (s.toList.map Symbol.code < t.toList.map Symbol.code)

def le (s t : Text) : Bool := !lt t s

/-! ### Encoding -/

/-- Halves next to each other that a text cannot be encoded with. -/
structure Unencodable where
  /-- The number of symbols before them. -/
  offset : Nat
  first : Surrogate
  length : Nat
deriving Repr, DecidableEq

/-- The first of the halves that are refused, with all that follow it at once. -/
def unencodable? (refused : Surrogate → Bool) : List Symbol → Option Unencodable
  | [] => none
  | .char _ :: cs => (unencodable? refused cs).map fun u => { u with offset := u.offset + 1 }
  | .half s :: cs =>
    if refused s then
      let run := cs.takeWhile fun c => c.char?.isNone
      some ⟨0, s, run.length + 1⟩
    else (unencodable? refused cs).map fun u => { u with offset := u.offset + 1 }

/-- The characters of a text that has no halves. -/
def characters (cs : List Symbol) : Except Unencodable (List Char) :=
  match unencodable? (fun _ => true) cs with
  | none => .ok (cs.filterMap Symbol.char?)
  | some u => .error u

/-- A text as a string of characters. -/
def encode (s : Text) : Except Unencodable String := (characters s.toList).map String.ofList

/-- A text as a string, if it is made of characters alone. -/
def string? (s : Text) : Option String := s.encode.toOption

theorem unencodable?_chars (refused : Surrogate → Bool) (cs : List Char) :
    unencodable? refused (cs.map .char) = none := by
  induction cs with
  | nil => rfl
  | cons c cs ih => simp only [List.map_cons, unencodable?, ih, Option.map_none]

theorem eq_map_of_unencodable? {cs : List Symbol} (h : unencodable? (fun _ => true) cs = none) :
    cs = (cs.filterMap Symbol.char?).map .char := by
  induction cs with
  | nil => rfl
  | cons c cs ih =>
    cases c with
    | char c =>
      rw [unencodable?, Option.map_eq_none_iff] at h
      exact congrArg (Symbol.char c :: ·) (ih h)
    | half s => simp only [unencodable?, ↓reduceIte, reduceCtorEq] at h

@[simp] theorem characters_map (cs : List Char) : characters (cs.map .char) = .ok cs := by
  simp [characters, unencodable?_chars, List.filterMap_map, Function.comp_def, Symbol.char?]

theorem characters_eq_ok_iff {cs : List Symbol} {ds : List Char} :
    characters cs = .ok ds ↔ cs = ds.map .char := by
  refine ⟨fun h => ?_, fun h => h ▸ characters_map ds⟩
  unfold characters at h
  split at h
  · rename_i hn
    obtain rfl := Except.ok.inj h
    exact eq_map_of_unencodable? hn
  · cases h

@[simp] theorem encode_ofString (s : String) : (ofString s).encode = .ok s := by
  simp [encode, ofString, Except.map]

theorem encode_eq_ok_iff {t : Text} {s : String} : t.encode = .ok s ↔ t = ofString s := by
  refine ⟨fun h => ?_, fun h => h ▸ encode_ofString s⟩
  unfold encode at h
  cases hc : characters t.toList with
  | error u => simp [hc, Except.map] at h
  | ok ds =>
    obtain rfl : String.ofList ds = s := by simpa [hc, Except.map] using h
    obtain ⟨cs⟩ := t
    simpa [ofString] using characters_eq_ok_iff.1 hc

@[simp] theorem ofString_inj {s t : String} : ofString s = ofString t ↔ s = t := by
  refine ⟨fun h => ?_, fun h => h ▸ rfl⟩
  have := encode_ofString s
  simp_all

end Text
end RuleLedger
