import SecureUpdate.Dict
import SecureUpdate.Files.System
import SecureUpdate.Text.Decimal

/-!
Files held in memory: a tree of directories and files, given as a map from the paths of all entries.
Main statement: `get?_eq_none_of_freeName?`, a temporary file takes the place of no other entry.
-/

namespace SecureUpdate

/-- An entry of a tree. -/
inductive FileEntry where
  | directory
  | file (content : Bytes)
deriving DecidableEq

/-- A tree of files: the entries by path, without the root directory. -/
structure FileTree where
  entries : Dict FileEntry
deriving DecidableEq

namespace FileTree

/-- The tree without entries. -/
def empty : FileTree := ⟨.empty⟩

/-- The path of an entry, whose components are given last first. -/
def pathOf (components : List String) : String := "/".intercalate components.reverse

/-- The entry at a path; the root is a directory. -/
def get? (t : FileTree) (components : List String) : Option FileEntry :=
  if components.isEmpty then some .directory else t.entries.get? (pathOf components)

def putEntry (t : FileTree) (components : List String) (e : FileEntry) : FileTree :=
  ⟨t.entries.insert (pathOf components) e⟩

/-- The longest name of an entry, in bytes. -/
def maxName : Nat := 255

/-- The longest path, in bytes. -/
def maxPath : Nat := 4095

/-- Fails unless there is a directory at a path. -/
def requireDirectory (t : FileTree) (components : List String) : Except FileError Unit :=
  match t.get? components with
  | some .directory => .ok ()
  | some (.file _) => .error (.other "not a directory")
  | none => .error .notFound

/-- One component further: every component before it must be a directory. -/
def descend (t : FileTree) (components : List String) (name : String) :
    Except FileError (List String) := do
  t.requireDirectory components
  if name = "" ∨ name = "." then return components
  if name = ".." then return components.tail
  if maxName < name.utf8ByteSize then throw (.other "file name too long")
  return name :: components

/-- The names between the slashes of a path. -/
def names (path : String) : List String := (path.toList.splitOn '/').map String.ofList

/-- Refuses a path that no file can have. -/
def requirePath (path : String) : Except FileError Unit :=
  if path.toList.contains '\x00' then .error (.other "path contains a null byte")
  else if maxPath < path.utf8ByteSize then .error (.other "file name too long")
  else .ok ()

/-- The components that a path leads to; its last one need not exist. The empty path leads nowhere.
-/
def resolve (t : FileTree) (path : String) : Except FileError (List String) := do
  requirePath path
  if path = "" then throw .notFound
  (names path).foldlM t.descend []

/-- Creates the directory one component further if it is missing. -/
def descendCreating (t : FileTree) (components : List String) (name : String) :
    Except FileError (FileTree × List String) := do
  let components ← t.descend components name
  match t.get? components with
  | some .directory => return (t, components)
  | some (.file _) => throw (.other "not a directory")
  | none => return (t.putEntry components .directory, components)

/-- Creates the directories along some names; those before a failure stay. -/
def createAlong (t : FileTree) (components : List String) :
    List String → Except FileError Unit × FileTree
  | [] => (.ok (), t)
  | name :: names =>
    match t.descendCreating components name with
    | .ok (t, components) => createAlong t components names
    | .error e => (.error e, t)

/-- The step that a computation on a tree describes; the tree stays when it fails. -/
def step {α : Type} (f : FileTree → Except FileError (α × FileTree)) : FileStep FileTree α :=
  fun t => match f t with
    | .ok (a, t) => (.ok a, t)
    | .error e => (.error e, t)

/-- The step that changes the tree. -/
def change (f : FileTree → Except FileError FileTree) : FileStep FileTree Unit :=
  step fun t => do return ((), ← f t)

/-- The step that only looks at the tree. -/
def look {α : Type} (f : FileTree → Except FileError α) : FileStep FileTree α :=
  step fun t => do return (← f t, t)

/-- The content of the file at a path. -/
def content (t : FileTree) (path : String) : Except FileError Bytes := do
  let components ← t.resolve path
  match t.get? components with
  | some (.file bs) => return bs
  | some .directory => throw (.other "is a directory")
  | none => throw .notFound

/-- The name of the temporary file with a number. -/
def tempName (i : Nat) : String := ".tmp" ++ String.ofList (Text.decimal i)

/-- The first name for a temporary file that no entry of a directory has. There is one among as many
names as the tree has entries, and one more. -/
def freeName? (t : FileTree) (components : List String) : Option String :=
  ((List.range (t.entries.size + 1)).map tempName).find? fun name =>
    (t.get? (name :: components)).isNone

/-- No entry has the name that is given out. -/
theorem get?_eq_none_of_freeName? {t : FileTree} {components : List String} {name : String}
    (h : t.freeName? components = some name) : t.get? (name :: components) = none := by
  simpa using List.find?_some h

/-- Creates an empty file at a path, where there must be nothing yet. -/
def createNew (t : FileTree) (path : String) : Except FileError FileTree := do
  let components ← t.resolve path
  match t.get? components with
  | none => return t.putEntry components (.file [])
  | some _ => throw (.other "file exists")

/-- Creates an empty file with a name of its own in a directory, and gives its path. -/
def createTempIn (t : FileTree) (dir : String) : Except FileError (String × FileTree) := do
  let components ← t.resolve dir
  t.requireDirectory components
  match t.freeName? components with
  | some name =>
    let temp := pathOf (name :: components)
    return (temp, ← t.createNew temp)
  | none => throw (.other "file exists")

/-- Puts a file at a path, where there must be no directory. -/
def putFile (t : FileTree) (path : String) (bs : Bytes) : Except FileError FileTree := do
  let components ← t.resolve path
  match t.get? components with
  | some .directory => throw (.other "is a directory")
  | _ => return t.putEntry components (.file bs)

/-- Takes the file at a path away. -/
def takeFile (t : FileTree) (path : String) : Except FileError FileTree := do
  let _ ← t.content path
  return ⟨t.entries.erase (pathOf (← t.resolve path))⟩

/-- Moves a file to where there is no directory. -/
def moveFile (t : FileTree) (source destination : String) : Except FileError FileTree := do
  let bs ← t.content source
  let components ← t.resolve destination
  match t.get? components with
  | some .directory => throw (.other "is a directory")
  | _ => return (← t.takeFile source).putEntry components (.file bs)

/-- The size that directories have. -/
def directorySize : Nat := 4096

/-- The size of the entry at a path. -/
def sizeOf (t : FileTree) (path : String) : Except FileError Nat := do
  match t.get? (← t.resolve path) with
  | some (.file bs) => return bs.length
  | some .directory => return directorySize
  | none => throw .notFound

/-- The steps on a tree, none of which fails without a reason in the tree. -/
def system : FileSystem FileTree where
  createDirs dir t :=
    match requirePath dir with
    | .ok () => t.createAlong [] (names dir)
    | .error e => (.error e, t)
  createTemp dir := step fun t => t.createTempIn dir
  write path bs := change fun t => t.putFile path bs
  sync path := look fun t => do let _ ← t.content path
  rename source destination := change fun t => t.moveFile source destination
  remove path := change fun t => t.takeFile path
  size path := look fun t => t.sizeOf path
  read path := look fun t => t.content path

/-- The directory that a file at a path stands in. -/
def parent (path : String) : String :=
  let above := "/".intercalate ((names path).filter fun n => n ≠ "" ∧ n ≠ ".").dropLast
  if "/".toList.isPrefixOf path.toList then "/" ++ above else if above = "" then "." else above

/-- The tree with a file, and the directories above it. -/
def withFile (t : FileTree) (path : String) (bs : Bytes) : Except FileError FileTree :=
  match system.createDirs (parent path) t with
  | (.error e, _) => .error e
  | (.ok (), t) =>
    match system.write path bs t with
    | (.error e, _) => .error e
    | (.ok (), t) => .ok t

/-- The names of the files that stand directly in a directory. -/
def filesIn (t : FileTree) (dir : String) : List String :=
  t.entries.entries.filterMap fun e =>
    match e.2, (names e.1).reverse with
    | .file _, name :: components => if pathOf components = dir then some name else none
    | _, _ => none

end FileTree

end SecureUpdate
