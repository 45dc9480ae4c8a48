import RuleLedger.Text.Basic
import RuleLedger.Text.Ranges

/-! White space: the characters that separate tokens, and the trimming of texts. -/
namespace RuleLedger.Text

/-- The blank characters: the separators of Unicode, the line and tab controls, and the four
information separators U+001C to U+001F. -/
def blanks : Ranges :=
  #[(0x9, 0xD), (0x1C, 0x20), (0x85, 0x85), (0xA0, 0xA0), (0x1680, 0x1680), (0x2000, 0x200A),
    (0x2028, 0x2029), (0x202F, 0x202F), (0x205F, 0x205F), (0x3000, 0x3000)]

def isBlank (c : Symbol) : Bool := blanks.has c

/-- The four information separators. -/
def isSeparator (c : Symbol) : Bool := 0x1C ≤ c.code && c.code ≤ 0x1F

/-- Drop blanks from both ends. -/
def trim (cs : List Symbol) : List Symbol :=
  ((cs.dropWhile isBlank).reverse.dropWhile isBlank).reverse

/-- Drop blanks from both ends of a text. -/
def strip (s : Text) : Text := ⟨trim s.toList⟩

def isBlankText (s : Text) : Bool := s.toList.all isBlank

end RuleLedger.Text
