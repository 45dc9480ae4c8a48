import RuleLedger.Text.Blank
import RuleLedger.Text.Case
import RuleLedger.Text.Digit
import RuleLedger.Text.Split
import RuleLedger.Fields

/-! Styles of letters, by their definitions: traits, a colour, the colour behind the letters and a
link. Two definitions of one style have one normal form. -/
namespace RuleLedger.Terminal

/-- The traits of letters in their order, each with its abbreviation. -/
def traitNames : List (String × String) :=
  [("bold", "b"), ("dim", "d"), ("italic", "i"), ("underline", "u"), ("blink", "blink"),
    ("blink2", "blink2"), ("reverse", "r"), ("conceal", "c"), ("strike", "s"), ("underline2", "uu"),
    ("frame", "frame"), ("encircle", "encircle"), ("overline", "o")]

def trait? (word : Text) : Option String :=
  (traitNames.find? fun t => word == t.1 || word == t.2).map (·.1)

/-! ### Colours -/

/-- Names of colours. -/
def colours : List String :=
  ["default", "black", "red", "green", "yellow", "blue", "magenta", "cyan", "white", "bright_black",
    "bright_red", "bright_green", "bright_yellow", "bright_blue", "bright_magenta", "bright_cyan",
    "bright_white", "grey0", "gray0", "navy_blue", "dark_blue", "blue3", "blue1", "dark_green",
    "deep_sky_blue4", "dodger_blue3", "dodger_blue2", "green4", "spring_green4", "turquoise4",
    "deep_sky_blue3", "dodger_blue1", "green3", "spring_green3", "dark_cyan", "light_sea_green",
    "deep_sky_blue2", "deep_sky_blue1", "spring_green2", "cyan3", "dark_turquoise", "turquoise2",
    "green1", "spring_green1", "medium_spring_green", "cyan2", "cyan1", "dark_red", "deep_pink4",
    "purple4", "purple3", "blue_violet", "orange4", "grey37", "gray37", "medium_purple4",
    "slate_blue3", "royal_blue1", "chartreuse4", "dark_sea_green4", "pale_turquoise4", "steel_blue",
    "steel_blue3", "cornflower_blue", "chartreuse3", "cadet_blue", "sky_blue3", "steel_blue1",
    "pale_green3", "sea_green3", "aquamarine3", "medium_turquoise", "chartreuse2", "sea_green2",
    "sea_green1", "aquamarine1", "dark_slate_gray2", "dark_magenta", "dark_violet", "purple",
    "light_pink4", "plum4", "medium_purple3", "slate_blue1", "yellow4", "wheat4", "grey53",
    "gray53", "light_slate_grey", "light_slate_gray", "medium_purple", "light_slate_blue",
    "dark_olive_green3", "dark_sea_green", "light_sky_blue3", "sky_blue2", "dark_sea_green3",
    "dark_slate_gray3", "sky_blue1", "chartreuse1", "light_green", "pale_green1",
    "dark_slate_gray1", "red3", "medium_violet_red", "magenta3", "dark_orange3", "indian_red",
    "hot_pink3", "medium_orchid3", "medium_orchid", "medium_purple2", "dark_goldenrod",
    "light_salmon3", "rosy_brown", "grey63", "gray63", "medium_purple1", "gold3", "dark_khaki",
    "navajo_white3", "grey69", "gray69", "light_steel_blue3", "light_steel_blue", "yellow3",
    "dark_sea_green2", "light_cyan3", "light_sky_blue1", "green_yellow", "dark_olive_green2",
    "dark_sea_green1", "pale_turquoise1", "deep_pink3", "magenta2", "hot_pink2", "orchid",
    "medium_orchid1", "orange3", "light_pink3", "pink3", "plum3", "violet", "light_goldenrod3",
    "tan", "misty_rose3", "thistle3", "plum2", "khaki3", "light_goldenrod2", "light_yellow3",
    "grey84", "gray84", "light_steel_blue1", "yellow2", "dark_olive_green1", "honeydew2",
    "light_cyan1", "red1", "deep_pink2", "deep_pink1", "magenta1", "orange_red1", "indian_red1",
    "hot_pink", "dark_orange", "salmon1", "light_coral", "pale_violet_red1", "orchid2", "orchid1",
    "orange1", "sandy_brown", "light_salmon1", "light_pink1", "pink1", "plum1", "gold1",
    "navajo_white1", "misty_rose1", "thistle1", "yellow1", "light_goldenrod1", "khaki1", "wheat1",
    "cornsilk1", "grey100", "gray100", "grey3", "gray3", "grey7", "gray7", "grey11", "gray11",
    "grey15", "gray15", "grey19", "gray19", "grey23", "gray23", "grey27", "gray27", "grey30",
    "gray30", "grey35", "gray35", "grey39", "gray39", "grey42", "gray42", "grey46", "gray46",
    "grey50", "gray50", "grey54", "gray54", "grey58", "gray58", "grey62", "gray62", "grey66",
    "gray66", "grey70", "gray70", "grey74", "gray74", "grey78", "gray78", "grey82", "gray82",
    "grey85", "gray85", "grey89", "gray89", "grey93", "gray93"]

/-- Why a definition is refused. -/
inductive StyleFault where
  /-- A word is not one of a style. -/
  | unknown
  /-- A part of a colour is no number; such a definition cannot even be taken as a name. -/
  | noNumber
deriving Repr, DecidableEq

/-- What stands in brackets after a name. -/
def bracketed? (name : Text) (cs : List Symbol) : Option (List Symbol) :=
  let n := name.length
  if cs.take (n + 1) = (name ++ "(").toList && cs.getLast? = some (.char ')') then
    some ((cs.drop (n + 1)).dropLast)
  else none

def isHexDigit (c : Char) : Bool := c.isDigit || ('a' ≤ c && c ≤ 'f')

/-- Three parts of red, green and blue, up to 255 each. -/
def checkParts (cs : List Symbol) : Except StyleFault Unit :=
  let parts := Text.splitList (.char ',') cs
  if parts.length ≠ 3 then .error .unknown
  else if parts.any fun p => p.isEmpty || 4300 < p.length then .error .noNumber
  else if parts.all fun p => Text.digitsValue p ≤ 255 then .ok ()
  else .error .unknown

/-- Whether a text in lower case is a colour: a name, a hash and six hexadecimal digits, or a number
or three parts in brackets. -/
def checkColour (s : Text) : Except StyleFault Unit :=
  let cs := s.toList
  if colours.any (s == ·) then .ok ()
  else if cs.head? = some (.char '#') then
    if cs.length = 7 && (cs.drop 1).all (·.isIn isHexDigit) then .ok () else .error .unknown
  else
    match bracketed? "color" cs, bracketed? "rgb" cs with
    | some ds, _ =>
      if 1 ≤ ds.length && ds.length ≤ 3 && ds.all (·.isIn Char.isDigit) &&
          Text.digitsValue ds ≤ 255 then .ok ()
      else .error .unknown
    | none, some ds =>
      if ds.isEmpty || ds.any fun c => !(Text.isDecimal c || c = ',') then .error .unknown
      else checkParts ds
    | none, none => .error .unknown

def colour (word : Text) : Except StyleFault Text := do
  let s := Text.lower word
  checkColour s
  return s

/-! ### Definitions -/

structure Style where
  /-- The traits that are set, on or off. -/
  traits : Fields Bool
  colour : Option Text
  background : Option Text
  link : Option Text
deriving Repr, DecidableEq

namespace Style

def plain : Style := ⟨[], none, none, none⟩

/-- Read the words of a definition. -/
def read (s : Style) : List Text → Except StyleFault Style
  | [] => .ok s
  | word :: rest =>
    let lower := Text.lower word
    if lower = "on" then
      match rest with
      | w :: rest => do read { s with background := some (← Terminal.colour w) } rest
      | [] => .error .unknown
    else if lower = "not" then
      match rest with
      | w :: rest =>
        match trait? w with
        | some t => read { s with traits := s.traits.put t false } rest
        | none => .error .unknown
      | [] => .error .unknown
    else if lower = "link" then
      match rest with
      | w :: rest => read { s with link := some w } rest
      | [] => .error .unknown
    else
      match trait? lower with
      | some t => read { s with traits := s.traits.put t true } rest
      | none => do read { s with colour := some (← Terminal.colour lower) } rest

def traitWords (s : Style) : List Text :=
  traitNames.filterMap fun t =>
    (s.traits.get? t.1).map fun on => if on then t.1 else "not " ++ t.1

/-- The normal form of the definitions of a style. -/
def text (s : Style) : Text :=
  let words := s.traitWords ++ s.colour.toList ++
    (s.background.map fun c : Text => "on " ++ c).toList ++
    (s.link.map fun target : Text => "link " ++ target).toList
  if words.isEmpty then "none" else Text.intercalate " " words

end Style

/-- The words between blanks. -/
def wordsOf (s : Text) : List Text :=
  let spaced : List Symbol := s.toList.map fun c => if Text.isBlank c then ' ' else c
  ((Text.splitList (.char ' ') spaced).filter (!·.isEmpty)).map .ofList

/-- The normal form of a style, or of a name in place of a style. None if neither can be told. -/
def normalStyle? (definition : Text) : Option Text :=
  if definition = "" || Text.strip definition = "none" then some "none"
  else
    match Style.plain.read (wordsOf definition) with
    | .ok s => some s.text
    | .error .unknown => some (Text.lower (Text.strip definition))
    | .error .noNumber => none

end RuleLedger.Terminal
