import RuleLedger.Text.Basic
import RuleLedger.Text.Printable

/-! Texts between quotes, as messages show them. -/
namespace RuleLedger.Text

def hexDigit (n : Nat) : Char :=
  if n < 10 then Char.ofNat (48 + n) else Char.ofNat (87 + n)

/-- The last `width` hexadecimal digits of `n`, in lower case. -/
def hex : (width : Nat) → (n : Nat) → List Char
  | 0, _ => []
  | w + 1, n => hex w (n / 16) ++ [hexDigit (n % 16)]

@[simp] theorem length_hex (w n : Nat) : (hex w n).length = w := by
  induction w generalizing n with
  | zero => rfl
  | succ w ih => simp [hex, ih]

/-- A symbol by its number, in as many digits as it needs of two, four and eight. -/
def numbered (c : Symbol) : List Symbol :=
  let (mark, width) :=
    if c.code < 0x100 then ('x', 2) else if c.code < 0x10000 then ('u', 4) else ('U', 8)
  ('\\' :: mark :: hex width c.code).map .char

/-- One symbol of a quoted text. -/
def quotedSymbol (quote c : Symbol) : List Symbol :=
  if c = quote || c = '\\' then ['\\', c]
  else if c = '\n' then ['\\', 'n']
  else if c = '\r' then ['\\', 'r']
  else if c = '\t' then ['\\', 't']
  else if isPrintable c then [c]
  else numbered c

/-- The quote for a text: the single one, unless only the double one is free. -/
def quoteFor (cs : List Symbol) : Symbol :=
  if cs.contains '\'' && !cs.contains '"' then '"' else '\''

def quoted (s : Text) : Text :=
  let q := quoteFor s.toList
  ⟨q :: s.toList.flatMap (quotedSymbol q) ++ [q]⟩

/-- A text with the symbols beyond ASCII by number. -/
def escaped (s : Text) : Text :=
  ⟨s.toList.flatMap fun c => if c.code < 0x80 then [c] else numbered c⟩

end RuleLedger.Text
