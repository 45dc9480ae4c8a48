import RuleLedger.Terminal.PictureTable
import RuleLedger.Text.Blank
import RuleLedger.Text.Case
import RuleLedger.Text.Split

/-! Pictures by name: a name between two colons stands for its picture. -/
namespace RuleLedger.Terminal

/-- A picture as the table has it. -/
structure Picture where
  chars : List Char
  /-- Whether the picture comes in the tones of skin. -/
  toned : Bool
  /-- Whether the picture is a flag with a second name. -/
  flag : Bool

namespace Picture

def hexValue (c : Char) : Nat :=
  if c.isDigit then c.toNat - '0'.toNat else c.toNat - 'a'.toNat + 10

/-- The character with a number in hexadecimal digits. -/
def character (cs : List Char) : Char :=
  Char.ofNat (cs.foldl (fun n c => 16 * n + hexValue c) 0)

def isMark (c : Char) : Bool := c = '~' || c = '^'

def ofEntry (cs : List Char) : Picture :=
  let marks := cs.takeWhile isMark
  { chars := (Text.splitList '-' (cs.dropWhile isMark)).map character
    toned := marks.contains '~'
    flag := marks.contains '^' }

def listed? (name : List Char) : Option Picture :=
  (pictureLines.findSome? fun line =>
    (Text.splitList ' ' line.toList).findSome? (name ++ ['=']).isPrefixOf?).map ofEntry

/-- The tones of skin and their characters. -/
def tones : List (String × Char) :=
  [("_light_skin_tone", Char.ofNat 0x1F3FB), ("_medium-light_skin_tone", Char.ofNat 0x1F3FC),
    ("_medium_skin_tone", Char.ofNat 0x1F3FD), ("_medium-dark_skin_tone", Char.ofNat 0x1F3FE),
    ("_dark_skin_tone", Char.ofNat 0x1F3FF)]

/-- The tone follows the first character, in place of the selector for colours. -/
def inTone (tone : Char) (p : Picture) : List Char :=
  p.chars.take 1 ++ tone :: (p.chars.drop 1).dropWhile (· = '\uFE0F')

def toned? (name : List Char) : Option (List Char) :=
  tones.findSome? fun t => do
    let p ← listed? (← t.1.toList.isSuffixOf? name)
    if p.toned then some (p.inTone t.2) else none

def flag? (name : List Char) : Option (List Char) := do
  let p ← listed? (← "flag_for_".toList.isPrefixOf? name)
  if p.flag then some p.chars else none

/-- The picture with a name in lower case. -/
def named? (name : List Char) : Option (List Char) :=
  ((listed? name).map Picture.chars).or ((toned? name).or (flag? name))

/-- The endings that ask for a picture as text or in colours, and their selectors. -/
def variants : List (String × Char) := [("-text", '\uFE0E'), ("-emoji", '\uFE0F')]

/-- The picture that a code stands for: a name, and perhaps the ending of a variant. -/
def ofCode? (code : List Symbol) : Option (List Symbol) := do
  let (name, selector) := (variants.findSome? fun v =>
    ((v.1 : Text).toList.isSuffixOf? code).map (·, [v.2])).getD (code, [])
  let cs ← named? (← (Text.lowerFrom [] name).mapM Symbol.char?)
  return (cs ++ selector).map .char

end Picture

/-- The symbols up to a colon, if there is no blank among them, and those after it. -/
def codeAt : List Symbol → Option (List Symbol × List Symbol)
  | [] => none
  | c :: cs =>
    if c = ':' then some ([], cs)
    else if Text.isBlank c then none
    else (codeAt cs).map fun r => (c :: r.1, r.2)

theorem length_codeAt {cs code rest : List Symbol} (h : codeAt cs = some (code, rest)) :
    code.length + rest.length + 1 = cs.length := by
  induction cs generalizing code rest with
  | nil => simp [codeAt] at h
  | cons c cs ih =>
    simp only [codeAt] at h
    split at h
    · simp only [Option.some.injEq, Prod.mk.injEq] at h
      simp [← h.1, h.2]
    · split at h
      · simp at h
      · obtain ⟨⟨code', rest'⟩, h', he⟩ := Option.map_eq_some_iff.1 h
        simp only [Prod.mk.injEq] at he
        have := ih h'
        simp only [← he.1, ← he.2, List.length_cons]
        omega

/-- A text with its pictures. A code without a picture stays as it is, both colons with it. -/
def withPictures : List Symbol → List Symbol
  | [] => []
  | c :: cs =>
    if c = ':' then
      match h : codeAt cs with
      | some (code, rest) =>
        have : rest.length < cs.length + 1 := by have := length_codeAt h; omega
        (Picture.ofCode? code).getD (.char ':' :: code ++ [.char ':']) ++ withPictures rest
      | none => c :: withPictures cs
    else c :: withPictures cs
termination_by cs => cs.length

end RuleLedger.Terminal
