import RuleLedger.Fault
import RuleLedger.Files.Path

/-! Files and folders held in memory. Places in the tree are paths without dots, but for those that
lead out of the working folder. -/
namespace RuleLedger

structure FileTree where
  files : List (FilePath × String)
  /-- Every folder but the working folder. -/
  folders : List FilePath

namespace FileTree

def empty : FileTree := ⟨[], []⟩

def file? (t : FileTree) (p : FilePath) : Option String := List.lookup p t.files

/-- The working folder and those above it are there, as is the root. -/
def isFolder (t : FileTree) (p : FilePath) : Bool :=
  p.names.all (· == "..") || t.folders.contains p

/-! ### Ways through the tree -/

def isDots (name : Text) : Bool := name = "." || name = ".."

/-- One step of a way. Names are at most 255 bytes long. -/
def step (here : FilePath) (name : Text) : Except FileFault FilePath :=
  if name = "." then .ok here
  else if 255 < FilePath.size name then .error .tooLong
  else .ok (here.step name)

/-- Go into a folder that must be there. -/
def enter (t : FileTree) (here : FilePath) (name : Text) : Except FileFault FilePath := do
  let p ← step here name
  if t.isFolder p then return p
  else if (t.file? p).isSome then .error .notFolder
  else .error .notFound

/-- Where a path leads: the last folder on the way, and the name in it. A path without a name, or
with dots for a name, leads to a folder. -/
structure Target where
  here : FilePath
  name : Option Text

/-- The names of a path between its slashes. -/
def namesOf (path : Text) : List Text := (Text.splitAt '/' path).filter (· ≠ "")

/-- Follow a path, which is at most 4095 bytes long. The empty path leads nowhere. -/
def follow (t : FileTree) (path : Text) : Except FileFault Target := do
  let root : FilePath := ⟨(FilePath.ofText path).root, []⟩
  let names := namesOf path
  if path = "" then .error .notFound
  else if 4095 < FilePath.size path then .error .tooLong
  else
    match names.getLast? with
    | none => return ⟨root, none⟩
    | some name =>
      let here ← names.dropLast.foldlM t.enter root
      if isDots name then return ⟨← t.enter here name, none⟩ else return ⟨here, some name⟩

/-- Whether a path ends in a slash, so that it can only lead to a folder. -/
def endsInSlash (path : Text) : Bool := path.toList.getLast? = some (.char '/')

/-! ### Reading and changing -/

/-- Whether a path leads to a folder. -/
def leadsToFolder (t : FileTree) (path : Text) : Bool :=
  match t.follow path with
  | .error _ => false
  | .ok target => target.name.all fun name => t.isFolder (target.here.step name)

def read (t : FileTree) (path : Text) : Except FileFault String := do
  let target ← t.follow path
  match target.name with
  | none => .error .isFolder
  | some name =>
    let p ← step target.here name
    if t.isFolder p then .error .isFolder
    else
      match t.file? p with
      | none => .error .notFound
      | some text => if endsInSlash path then .error .notFolder else return text

def put (p : FilePath) (text : String) : List (FilePath × String) → List (FilePath × String)
  | [] => [(p, text)]
  | f :: fs => if f.1 = p then (p, text) :: fs else f :: put p text fs

/-- Write a file into a folder that is there, in place of an older one. -/
def write (t : FileTree) (path : Text) (text : String) : Except FileFault FileTree := do
  let target ← t.follow path
  match target.name with
  | none => .error .isFolder
  | some name =>
    if endsInSlash path then .error .isFolder
    else
      let p ← step target.here name
      if t.isFolder p then .error .isFolder
      else return { t with files := put p text t.files }

/-- Make a folder where nothing stands. -/
def makeFolder (t : FileTree) (path : Text) : Except FileFault FileTree := do
  let target ← t.follow path
  match target.name with
  | none => .error .occupied
  | some name =>
    let p ← step target.here name
    if t.isFolder p || (t.file? p).isSome then .error .occupied
    else return { t with folders := t.folders ++ [p] }

/-- A tree with one more file, and the folders on the way to it. -/
def add (t : FileTree) (path : Text) (text : String) : FileTree :=
  let p := FilePath.ofText path
  { files := put p text t.files
    folders := t.folders ++ p.ancestors }

theorem lookup_put (p q : FilePath) (text : String) (fs : List (FilePath × String)) :
    List.lookup q (put p text fs) = if q = p then some text else List.lookup q fs := by
  induction fs with
  | nil => by_cases h : q = p <;> simp [put, h, List.lookup_cons, beq_eq_false_iff_ne.2]
  | cons f fs ih =>
    obtain ⟨r, s⟩ := f
    by_cases h : r = p
    · subst h
      by_cases h' : q = r <;> simp [put, List.lookup_cons, h', beq_eq_false_iff_ne.2]
    · by_cases h' : q = r
      · subst h'
        simp [put, h]
      · simp [put, List.lookup_cons, h, ih, beq_eq_false_iff_ne.2 h']

end FileTree
end RuleLedger
