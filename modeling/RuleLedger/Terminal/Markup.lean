import RuleLedger.Terminal.Literal
import RuleLedger.Terminal.Picture
import RuleLedger.Terminal.Style

/-! Texts with tags in square brackets that style them. A tag opens a style and a tag with a slash
closes it; a backslash before a bracket keeps it as it is. Here the styles are not shown, but the
tags still have to match. -/
namespace RuleLedger.Terminal

/-! ### Pieces -/

inductive Piece where
  | text (cs : List Symbol)
  /-- What stands between the brackets of a tag. -/
  | tag (cs : List Symbol)
deriving Repr, DecidableEq

def startsTag (c : Char) : Bool := ('a' ≤ c && c ≤ 'z') || c = '#' || c = '/' || c = '@'

/-- The symbols up to the closing bracket, if no other bracket opens before it, and those after it.
-/
def untilBracket : List Symbol → Option (List Symbol × List Symbol)
  | [] => none
  | c :: cs =>
    if c = ']' then some ([], cs)
    else if c = '[' then none
    else (untilBracket cs).map fun r => (c :: r.1, r.2)

/-- The tag at the start of a text, and the text after it. -/
def tagAt? : List Symbol → Option (List Symbol × List Symbol)
  | .char '[' :: c :: cs =>
    if c.isIn startsTag then (untilBracket cs).map fun r => (c :: r.1, r.2) else none
  | _ => none

theorem length_untilBracket {cs inner rest : List Symbol}
    (h : untilBracket cs = some (inner, rest)) : inner.length + rest.length + 1 = cs.length := by
  induction cs generalizing inner rest with
  | nil => simp [untilBracket] at h
  | cons c cs ih =>
    simp only [untilBracket] at h
    split at h
    · simp only [Option.some.injEq, Prod.mk.injEq] at h
      simp [← h.1, h.2]
    · split at h
      · simp at h
      · obtain ⟨⟨inner', rest'⟩, h', he⟩ := Option.map_eq_some_iff.1 h
        simp only [Prod.mk.injEq] at he
        have := ih h'
        simp only [← he.1, ← he.2, List.length_cons]
        omega

theorem length_tagAt? {cs inner rest : List Symbol} (h : tagAt? cs = some (inner, rest)) :
    inner.length + rest.length + 2 = cs.length := by
  unfold tagAt? at h
  split at h
  · split at h
    · obtain ⟨⟨inner', rest'⟩, h', he⟩ := Option.map_eq_some_iff.1 h
      simp only [Prod.mk.injEq] at he
      have := length_untilBracket h'
      simp only [← he.1, ← he.2, List.length_cons]
      omega
    · simp at h
  · simp at h

def isBackslash (c : Symbol) : Bool := c = '\\'

theorem length_after_tagAt? {cs inner rest : List Symbol}
    (h : tagAt? (cs.dropWhile isBackslash) = some (inner, rest)) : rest.length < cs.length := by
  have h₁ := length_tagAt? h
  have h₂ := (cs.dropWhile_sublist isBackslash).length_le
  omega

/-- A tag after backslashes: each two of them stand for one, and an odd one keeps the tag as it
is. -/
def tagPieces (backslashes : Nat) (inner : List Symbol) : List Piece :=
  let kept := if backslashes < 2 then []
    else [Piece.text (List.replicate (backslashes / 2) (.char '\\'))]
  kept ++ [if backslashes % 2 = 1 then .text (.char '[' :: inner ++ [.char ']']) else .tag inner]

/-- A run of text and the pieces after it. -/
def joinRun (run : List Symbol) (ps : List Piece) : List Piece :=
  if run.isEmpty then ps else .text run :: ps

/-- The text up to the first tag, and the pieces from there on. -/
def scan : List Symbol → List Symbol × List Piece
  | [] => ([], [])
  | c :: cs =>
    let backslashes := ((c :: cs).takeWhile isBackslash).length
    match h : tagAt? ((c :: cs).dropWhile isBackslash) with
    | some (inner, rest) =>
      have : rest.length < cs.length + 1 := length_after_tagAt? h
      let next := scan rest
      ([], tagPieces backslashes inner ++ joinRun next.1 next.2)
    | none =>
      let next := scan cs
      (c :: next.1, next.2)
termination_by cs => cs.length

def pieces (cs : List Symbol) : List Piece :=
  let r := scan cs
  joinRun r.1 r.2

/-! ### Tags -/

/-- An opening tag: the style in its normal form, and what follows an equals sign. -/
structure Tag where
  name : Text
  parameters : Option Text
deriving Repr, DecidableEq

/-- The name and the parameters of a tag. -/
def partsOf (cs : List Symbol) : Text × Option Text :=
  (⟨cs.takeWhile fun c : Symbol => c ≠ '='⟩,
    match cs.dropWhile fun c : Symbol => c ≠ '=' with
    | [] => none
    | _ :: rest => some ⟨rest⟩)

/-- Take the latest tag of a name off the open ones. -/
def takeTag (name : Text) : List Tag → Option (Tag × List Tag)
  | [] => none
  | t :: ts =>
    if t.name = name then some (t, ts)
    else (takeTag name ts).map fun r => (r.1, t :: r.2)

/-- Close the latest tag of a style, or without a name the latest tag. -/
def closeTag (name : Text) (stack : List Tag) : Option (Tag × List Tag) :=
  if name = "" then
    match stack with
    | [] => none
    | t :: ts => some (t, ts)
  else do takeTag (← normalStyle? name) stack

/-- A tag that starts with an at sign is an action, which is read when the tag is closed. -/
def Tag.closes (t : Tag) : Bool :=
  if t.name.toList.head? = some (.char '@') then
    match t.parameters with
    | none => true
    | some p => p = "" || (Text.strip p).string?.any fun s => isAction s.toList
  else true

/-- The tags that are open after one more tag. -/
def applyTag (stack : List Tag) (cs : List Symbol) : Option (List Tag) :=
  let (name, parameters) := partsOf cs
  match name.toList with
  | .char '/' :: closing => do
    let (t, rest) ← closeTag (Text.strip ⟨closing⟩) stack
    if t.closes then some rest else none
  | _ => do return ⟨← normalStyle? name, parameters⟩ :: stack

/-! ### Text -/

/-- A backslash before an opening bracket is left out. -/
def unescape : List Symbol → List Symbol
  | .char '\\' :: .char '[' :: cs => '[' :: unescape cs
  | c :: cs => c :: unescape cs
  | [] => []

/-- Bell, backspace, vertical tab, form feed and carriage return are left out. -/
def isSilent (c : Symbol) : Bool :=
  c.code = 7 || c.code = 8 || (11 ≤ c.code && c.code ≤ 13)

def shownText (cs : List Symbol) : List Symbol :=
  (withPictures (unescape cs)).filter fun c => !isSilent c

def shownPieces (stack : List Tag) : List Piece → Option (List Symbol)
  | [] => some []
  | .text cs :: ps => (shownPieces stack ps).map (shownText cs ++ ·)
  | .tag cs :: ps => do shownPieces (← applyTag stack cs) ps

/-- The text of a marked-up text, unless its tags do not match. -/
def markedText? (s : Text) : Option (List Symbol) := shownPieces [] (pieces s.toList)

theorem shownPieces_text (stack : List Tag) (cs : List Symbol) :
    shownPieces stack [.text cs] = some (shownText cs) := by
  simp [shownPieces]

end RuleLedger.Terminal
