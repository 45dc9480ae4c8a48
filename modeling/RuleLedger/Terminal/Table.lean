import RuleLedger.Number.Binary64
import RuleLedger.Terminal.Markup
import RuleLedger.Terminal.Wrap

/-! Tables of marked-up texts. Columns are as wide as their widest cell while all of them fit into
the terminal; otherwise the widest columns give way first. -/
namespace RuleLedger.Terminal

structure Column where
  heading : Text
  alignment : Alignment
deriving Repr, DecidableEq

structure Table where
  title : Option Text
  columns : List Column
  /-- Whether the headings are shown. -/
  headed : Bool
  /-- Whether the cells stand in a frame. -/
  framed : Bool
  rows : List (List Text)
deriving Repr, DecidableEq

/-! ### Widths -/

/-- The room of columns side by side. -/
def totalWidth (ws : List Nat) : Nat := ws.foldl (· + ·) 0

/-- Take `total` off the widths that are `widest`, in shares as even as can be and no larger than
`most`; `count` of them are left. -/
def takeOff (widest most : Nat) : (total count : Nat) → List Nat → List Nat
  | _, _, [] => []
  | total, count, w :: ws =>
    if w = widest && 0 < count then
      let part := min most (divNearest total count)
      (w - part) :: takeOff widest most (total - part) (count - 1) ws
    else w :: takeOff widest most total count ws

/-- The widest columns give way, down to the next widest, until the columns fit. -/
def narrow (limit : Nat) : (fuel : Nat) → List Nat → List Nat
  | 0, ws => ws
  | fuel + 1, ws =>
    let excess := totalWidth ws - limit
    if excess = 0 then ws
    else
      let widest := ws.foldl max 0
      let next := (ws.filter (· ≠ widest)).foldl max 0
      narrow limit fuel
        (takeOff widest (min excess (widest - next)) excess (ws.count widest) ws)

/-- The widths of columns with cells of given extents. A cell has a blank on either side. -/
def columnWidths (limit : Nat) (extents : List Nat) : List Nat :=
  let ws := extents.map fun n => min (n + 2) limit
  narrow limit (totalWidth ws - limit) ws

/-! ### Rows -/

/-- The lines of a cell. -/
def cellLines (width : Nat) (a : Alignment) (cs : List Symbol) : List (List Symbol) :=
  if width < 3 then []
  else
    (wrap (width - 2) .ellipsis a cs).map fun line => blanks 1 ++ fill (width - 2) line ++ blanks 1

/-- Where the lines of a cell stand in a higher row. -/
inductive Place where
  | top
  | bottom
deriving Repr, DecidableEq

/-- The lines of a cell, filled up to the height of its row. -/
def stretch (height width : Nat) (p : Place) (lines : List (List Symbol)) : List (List Symbol) :=
  let empty := List.replicate (height - lines.length) (blanks width)
  match p with
  | .top => lines ++ empty
  | .bottom => empty ++ lines

/-- The lines of a row of cells. Each line has its part of every cell, between bars in a frame. -/
def joinCells (bar : List Symbol) (height : Nat) (cs : List (List (List Symbol))) :
    List (List Symbol) :=
  (List.range height).map fun i =>
    bar ++ bar.intercalate (cs.map fun lines => (lines[i]?).getD []) ++ bar

def rowLines (bar : List Symbol) (p : Place) (widths : List Nat) (alignments : List Alignment)
    (row : List (List Symbol)) : List (List Symbol) :=
  let cs := List.zipWith (fun (w : Nat × Alignment) cell => (w.1, cellLines w.1 w.2 cell))
    (widths.zip alignments) row
  let height := cs.foldl (fun n c => max n c.2.length) 1
  joinCells bar height (cs.map fun c => stretch height c.1 p c.2)

/-- A line of a frame. -/
def rule (left line cross right : Symbol) (widths : List Nat) : List Symbol :=
  left :: [cross].intercalate (widths.map fun w => List.replicate w line) ++ [right]

/-! ### The whole table -/

/-- A table whose marks have been read. -/
structure PlainTable where
  title : Option (List Symbol)
  headings : Option (List (List Symbol))
  alignments : List Alignment
  framed : Bool
  rows : List (List (List Symbol))

def Table.plain? (t : Table) : Option PlainTable := do
  return {
    title := ← t.title.mapM markedText?
    headings := ← if t.headed then (t.columns.mapM fun c => markedText? c.heading).map some
      else some none
    alignments := t.columns.map Column.alignment
    framed := t.framed
    rows := ← t.rows.mapM fun row => row.mapM markedText? }

namespace PlainTable

def extents (t : PlainTable) : List Nat :=
  (t.headings.toList ++ t.rows).foldl (fun ns row => List.zipWith max ns (row.map extent))
    (t.alignments.map fun _ => 0)

/-- The room of the bars between and around the columns. -/
def frameWidth (t : PlainTable) : Nat := if t.framed then t.alignments.length + 1 else 0

def bodyLines (t : PlainTable) (widths : List Nat) : List (List Symbol) :=
  let bar : List Symbol := if t.framed then ['│'] else []
  t.rows.flatMap (rowLines bar .top widths t.alignments)

def headLines (t : PlainTable) (widths : List Nat) : List (List Symbol) :=
  match t.headings, t.framed with
  | some row, true =>
    rule '┏' '━' '┳' '┓' widths :: rowLines ['┃'] .bottom widths t.alignments row ++
      [rule '┡' '━' '╇' '┩' widths]
  | some row, false => rowLines [] .bottom widths t.alignments row
  | none, true => [rule '┌' '─' '┬' '┐' widths]
  | none, false => []

def lines (width : Nat) (t : PlainTable) : List (List Symbol) :=
  let widths := columnWidths (width - t.frameWidth) t.extents
  (match t.title with
    | some title => wrap (totalWidth widths + t.frameWidth) .fold .center title
    | none => []) ++
    t.headLines widths ++ t.bodyLines widths ++
    (if t.framed then [rule '└' '─' '┴' '┘' widths] else [])

end PlainTable

/-- The lines of a table, unless the tags in one of its texts do not match. -/
def Table.lines? (width : Nat) (t : Table) : Option (List (List Symbol)) :=
  t.plain?.map (PlainTable.lines width)

end RuleLedger.Terminal
