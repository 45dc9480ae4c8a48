import RuleLedger.Files.Tree

/-! Work with files, apart from where the files are: a script asks for one thing after another and
goes on with the answer. -/
namespace RuleLedger

inductive Script (α : Type) where
  | done (a : α)
  | read (path : Text) (next : Except FileFault String → Script α)
  | makeFolder (path : Text) (next : Except FileFault Unit → Script α)
  /-- Ask whether a path leads to a folder. -/
  | isFolder (path : Text) (next : Bool → Script α)
  | write (path : Text) (text : String) (next : Except FileFault Unit → Script α)
  /-- Put a line into the log. -/
  | note (line : Text) (next : Script α)

namespace Script

variable {α β : Type}

def bind (f : α → Script β) : Script α → Script β
  | .done a => f a
  | .read path next => .read path fun r => (next r).bind f
  | .makeFolder path next => .makeFolder path fun r => (next r).bind f
  | .isFolder path next => .isFolder path fun b => (next b).bind f
  | .write path text next => .write path text fun r => (next r).bind f
  | .note line next => .note line (next.bind f)

instance : Monad Script where
  pure := .done
  bind s f := s.bind f

/-- The outcome of a change, and the tree after it. -/
def change (t : FileTree) : Except FileFault FileTree → Except FileFault Unit × FileTree
  | .ok t => (.ok (), t)
  | .error f => (.error f, t)

/-- Carry out a script on a tree. The log is left out. -/
def runOn : Script α → FileTree → α × FileTree
  | .done a, t => (a, t)
  | .read path next, t => (next (t.read path)).runOn t
  | .makeFolder path next, t =>
    let r := change t (t.makeFolder path)
    (next r.1).runOn r.2
  | .isFolder path next, t => (next (t.leadsToFolder path)).runOn t
  | .write path text next, t =>
    let r := change t (t.write path text)
    (next r.1).runOn r.2
  | .note _ next, t => next.runOn t

end Script

/-- A script that ends early when something goes wrong. -/
abbrev Work := ExceptT Fault Script

namespace Work

/-- A result that needs no files. -/
def ofExcept {α : Type} (r : Except Fault α) : Work α := ExceptT.mk (.done r)

/-- Halves that a path cannot have; those from 0xDC80 to 0xDCFF stand for single bytes. -/
def refusedInPath (s : Surrogate) : Bool := s.number < 0xDC80 || 0xDCFF < s.number

/-- A path for the system, which takes no character that ends a text. -/
def checkPath (path : Text) : Work Unit :=
  match Text.unencodable? refusedInPath path.toList with
  | some u => throw (.encoding u)
  | none => if path.toList.contains (.char '\x00') then throw (.file .nullByte path) else pure ()

def read (path : Text) : Work String := do
  checkPath path
  ExceptT.mk (.read path fun r => .done (r.mapError fun f => .file f path))

def write (path : Text) (text : String) : Work Unit := do
  checkPath path
  ExceptT.mk (.write path text fun r => .done (r.mapError fun f => .file f path))

/-- The outcome of making a folder. One that is there already is as good as made. -/
def tryFolder (path : Text) : Work (Except FileFault Unit) := do
  checkPath path
  ExceptT.mk <| .makeFolder path fun
    | .error .occupied =>
      .isFolder path fun there => .done (.ok (if there then .ok () else .error .occupied))
    | r => .done (.ok r)

/-- Make the folder at a path, whose names are given from the last to the first. When there is
nothing to make it in, the folders on the way are made before. -/
def makeFrom (root : String) : List Text → Work Unit
  | [] => do
    let path := (FilePath.mk root []).text
    settle path (← tryFolder path)
  | name :: names => do
    let path := (FilePath.mk root (name :: names).reverse).text
    match ← tryFolder path with
    | .error .notFound =>
      makeFrom root names
      settle path (← tryFolder path)
    | r => settle path r
where
  settle (path : Text) (r : Except FileFault Unit) : Work Unit :=
    ofExcept (r.mapError fun f => .file f path)

/-- Make a folder and those on the way to it. -/
def makeFolders (p : FilePath) : Work Unit := makeFrom p.root p.names.reverse

def note (line : Text) : Work Unit := ExceptT.mk (.note line (.done (.ok ())))

/-- Carry out work on a tree. -/
def runOn {α : Type} (w : Work α) (t : FileTree) : Except Fault α × FileTree := Script.runOn w t

end Work
end RuleLedger
