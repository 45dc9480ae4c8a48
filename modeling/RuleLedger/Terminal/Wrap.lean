import RuleLedger.Terminal.Cell
import RuleLedger.Text.Blank
import RuleLedger.Text.Split

/-! Texts in lines of a limited width. Main statement: no line is wider than the limit. -/
namespace RuleLedger.Terminal

/-- What is done with a word that is wider than a line. -/
inductive Overflow where
  /-- It goes on in the next line. -/
  | fold
  /-- It is cut off, and an ellipsis says so. -/
  | ellipsis
deriving Repr, DecidableEq

/-- How a line stands in its width. -/
inductive Alignment where
  /-- At the start, without blanks after it. -/
  | start
  | left
  | center
  | right
deriving Repr, DecidableEq

/-! ### Words -/

/-- The words of a text, each with the blanks after it; blanks at the start belong to the first
word. -/
def wordsWithBlanks : List Symbol → List (List Symbol)
  | [] => []
  | c :: cs =>
    match wordsWithBlanks cs with
    | [] => [[c]]
    | w :: ws =>
      if !Text.isBlank c && (w.head?.any Text.isBlank && w.any (!Text.isBlank ·)) then
        splitHead c w ws
      else (c :: w) :: ws
where
  /-- A character before blanks and a word: the blanks go to the character. -/
  splitHead (c : Symbol) (w : List Symbol) (ws : List (List Symbol)) : List (List Symbol) :=
    (c :: w.takeWhile Text.isBlank) :: w.dropWhile Text.isBlank :: ws

def trimEnd (cs : List Symbol) : List Symbol := (cs.reverse.dropWhile Text.isBlank).reverse

/-- A word in parts that fit into a line. -/
def chop (width : Nat) : (used : Nat) → List Symbol → List (List Symbol)
  | _, [] => [[]]
  | used, c :: cs =>
    let (used', breaks) := if width < used + cellsOf c then (cellsOf c, true) else
      (used + cellsOf c, false)
    match chop width used' cs with
    | [] => [[c]]
    | p :: ps => if breaks then [] :: (c :: p) :: ps else (c :: p) :: ps

/-! ### Lines -/

/-- Lines as they are filled: those that are done, latest first, the current one, and the cells that
are used of it. -/
structure Fill where
  done : List (List Symbol)
  current : List Symbol
  used : Nat

namespace Fill

def empty : Fill := ⟨[], [], 0⟩

/-- Start a new line, unless nothing has been filled in. -/
def newLine (f : Fill) : Fill :=
  if f.done.isEmpty && f.current.isEmpty then f else ⟨f.current :: f.done, [], 0⟩

/-- Put text on the current line. -/
def put (f : Fill) (cs : List Symbol) : Fill := ⟨f.done, f.current ++ cs, f.used + cells cs⟩

/-- Put a word on the current line if it fits without the blanks after it, else on a new one. -/
def word (width : Nat) (o : Overflow) (f : Fill) (w : List Symbol) : Fill :=
  let room := cells (trimEnd w)
  if f.used + room ≤ width then f.put w
  else if width < room then
    match o with
    | .fold => (chop width 0 w).foldl (fun f part => f.newLine.put part) f
    | .ellipsis => f.newLine.put w
  else f.newLine.put w

def lines (f : Fill) : List (List Symbol) := (f.current :: f.done).reverse

end Fill

/-- The lines of a text without line ends. -/
def divide (width : Nat) (o : Overflow) (cs : List Symbol) : List (List Symbol) :=
  ((wordsWithBlanks cs).foldl (Fill.word width o) Fill.empty).lines

/-- Drop as many blanks at the end as a line has characters too many. -/
def trimExcess (width : Nat) (cs : List Symbol) : List Symbol :=
  let blanks := cs.length - (trimEnd cs).length
  cs.take (cs.length - min blanks (cs.length - width))

/-- Cut a line down to its width. -/
def truncate (width : Nat) (o : Overflow) (cs : List Symbol) : List Symbol :=
  if cells cs ≤ width then cs
  else
    match o with
    | .fold => crop width cs
    | .ellipsis => crop (width - 1) cs ++ (if width = 0 then [] else [.char '…'])

/-- Blanks before a line so that it stands in the middle or at the right. -/
def align (width : Nat) (o : Overflow) : Alignment → List Symbol → List Symbol
  | .start, cs => truncate width o cs
  | .left, cs => fill width (truncate width o cs)
  | .center, cs =>
    let line := truncate width o (trimEnd cs)
    fill width (blanks ((width - cells line) / 2) ++ line)
  | .right, cs =>
    let line := truncate width o (trimEnd cs)
    blanks (width - cells line) ++ line

/-- A part before a tab, which fills it up to the next multiple of eight cells. -/
def tabStop (position : Nat) (cs : List Symbol) : List Symbol :=
  let after := position + cells cs + 1
  cs ++ blanks (1 + (8 - after % 8) % 8)

/-- The parts between tabs, each but the last filled up. -/
def expandParts (position : Nat) : List (List Symbol) → List Symbol
  | [] => []
  | [cs] => cs
  | cs :: ps =>
    let filled := tabStop position cs
    filled ++ expandParts (position + cells filled) ps

def expandTabs (cs : List Symbol) : List Symbol := expandParts 0 (Text.splitList (.char '\t') cs)

/-- The lines of a text in a width. -/
def wrap (width : Nat) (o : Overflow) (a : Alignment) (cs : List Symbol) : List (List Symbol) :=
  (Text.splitList (.char '\n') cs).flatMap fun line =>
    (divide width o (expandTabs line)).map fun l => align width o a (trimExcess width l)

/-! ### Measure -/

/-- Characters that end a line where the width of a text is taken. -/
def endsLine (c : Symbol) : Bool :=
  (10 ≤ c.code && c.code ≤ 13) || (0x1C ≤ c.code && c.code ≤ 0x1E) || c.code = 0x85 ||
    c.code = 0x2028 || c.code = 0x2029

/-- The cells of the widest line. -/
def extent (cs : List Symbol) : Nat :=
  (Text.splitList (.char '\n') (cs.map fun c => if endsLine c then .char '\n' else c)).foldl
    (fun n line => max n (cells line)) 0

theorem cellsOf_ellipsis : cellsOf (.char '…') = 1 := by
  unfold cellsOf
  rw [Text.Ranges.has_eq_any_toList, Text.Ranges.has_eq_any_toList]
  decide +kernel

theorem cells_truncate_le (width : Nat) (o : Overflow) (cs : List Symbol) :
    cells (truncate width o cs) ≤ width := by
  unfold truncate
  split
  · assumption
  · cases o with
    | fold => exact cells_crop_le _ _
    | ellipsis =>
      have := cells_crop_le (width - 1) cs
      by_cases h : width = 0
      · simp [h] at this ⊢
        omega
      · have hnil : cells [] = 0 := rfl
        rw [if_neg h, cells_append, cells_cons, cellsOf_ellipsis, hnil]
        omega

theorem cells_align_le (width : Nat) (o : Overflow) (a : Alignment) (cs : List Symbol) :
    cells (align width o a cs) ≤ width := by
  cases a with
  | start => exact cells_truncate_le _ _ _
  | left =>
    have := cells_truncate_le width o cs
    simp only [align, cells_fill]
    omega
  | center =>
    have := cells_truncate_le width o (trimEnd cs)
    simp only [align, cells_fill, cells_append, cells_blanks]
    omega
  | right =>
    have := cells_truncate_le width o (trimEnd cs)
    simp only [align, cells_append, cells_blanks]
    omega

theorem cells_le_of_mem_wrap {width : Nat} {o : Overflow} {a : Alignment} {cs line : List Symbol}
    (h : line ∈ wrap width o a cs) : cells line ≤ width := by
  simp only [wrap, List.mem_flatMap, List.mem_map] at h
  obtain ⟨_, _, l, _, rfl⟩ := h
  exact cells_align_le _ _ _ _

end RuleLedger.Terminal
