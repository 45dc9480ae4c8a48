import RuleLedger.Text.Split

/-! Paths of files in a normal form: empty names and single dots are dropped, double dots are
kept. -/
namespace RuleLedger

structure FilePath where
  /-- Empty for a path from the working folder, else the slashes of the root. -/
  root : String
  names : List Text
deriving Repr, DecidableEq

namespace FilePath

/-- Exactly two slashes make a root of their own; any other number counts as one. -/
def rootOf (slashes : Nat) : String :=
  if slashes = 0 then "" else if slashes = 2 then "//" else "/"

def isName (s : Text) : Bool := s ≠ "" && s ≠ "."

def ofText (s : Text) : FilePath :=
  ⟨rootOf (s.toList.takeWhile fun c : Symbol => c = '/').length, (Text.splitAt '/' s).filter isName⟩

/-- The bytes of a path or a name. A half in it stands for one byte that is part of no character. -/
def size (s : Text) : Nat :=
  s.toList.foldl (fun n c => n + (c.char?.map Char.utf8Size).getD 1) 0

/-- The path as text; the working folder is a dot. -/
def text (p : FilePath) : Text :=
  if p.root = "" && p.names.isEmpty then "." else p.root ++ Text.intercalate "/" p.names

/-- A file in the folder. -/
def child (p : FilePath) (name : Text) : FilePath := { p with names := p.names ++ [name] }

/-- The folder of a file. -/
def parent (p : FilePath) : FilePath := { p with names := p.names.dropLast }

/-- The folders on the way to a file. -/
def ancestors (p : FilePath) : List FilePath :=
  (List.range p.names.length).map fun n => { p with names := p.names.take n }

/-- One name farther; double dots lead out of a folder again, and stay at the start where there is
nothing to leave. -/
def step (p : FilePath) (name : Text) : FilePath :=
  if name ≠ ".." then p.child name
  else
    match p.names.getLast? with
    | none => if p.root = "" then p.child name else p
    | some last => if last = ".." then p.child name else p.parent

@[simp] theorem parent_child (p : FilePath) (name : Text) : (p.child name).parent = p := by
  simp [child, parent]

end FilePath
end RuleLedger
