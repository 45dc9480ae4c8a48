import RuleLedger.Text.Basic
import RuleLedger.Text.CaseTable

/-! Lower and upper case of a text. -/
namespace RuleLedger.Text

def shiftCase (rows : Array CaseRow) (c : Symbol) : Symbol :=
  match rows.find? (·.covers c.code) with
  | some row => Symbol.ofCode ((c.code : Int) + row.2.2.2).toNat
  | none => c

/-- Whether the first symbol that is not skipped is a cased letter. -/
def meetsCased (cs : List Symbol) : Bool :=
  match cs.dropWhile caseIgnorable.has with
  | c :: _ => casedLetters.has c
  | [] => false

/-- Lower case of one symbol; the text before it is given in reverse. A capital sigma that ends
a word becomes the final sigma, and a dotted capital I keeps its dot. -/
def lowerAt (before : List Symbol) (c : Symbol) (after : List Symbol) : List Symbol :=
  if c = 'Σ' then
    if meetsCased before && !meetsCased after then ['ς'] else ['σ']
  else if c = 'İ' then ['i', '\u0307']
  else [shiftCase lowerRows c]

def lowerFrom (before : List Symbol) : List Symbol → List Symbol
  | [] => []
  | c :: after => lowerAt before c after ++ lowerFrom (c :: before) after

def lower (s : Text) : Text := ⟨lowerFrom [] s.toList⟩

def upperChar (c : Symbol) : List Symbol :=
  match upperExpansions.find? (·.1 == c.code) with
  | some e => e.2.map Symbol.ofCode
  | none => [shiftCase upperRows c]

def upper (s : Text) : Text := ⟨s.toList.flatMap upperChar⟩

end RuleLedger.Text
