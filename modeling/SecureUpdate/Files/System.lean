import SecureUpdate.Bytes

/-!
Files as a client sees them: single steps on an abstract state, each of which may fail, and the
replacement of a file's content as a whole. New content is written to a temporary file beside the
destination and then moved over it, so the destination holds the old content or the new one.
-/

namespace SecureUpdate

/-- Why a step on files failed. -/
inductive FileError where
  | notFound
  | other (detail : String)
deriving DecidableEq

def FileError.message : FileError → String
  | notFound => "no such file or directory"
  | other detail => detail

/-- What a step on files yields: an answer or a failure, and the next state. -/
abbrev FileStep (φ α : Type) := φ → Except FileError α × φ

/-- The steps on files of type `φ`. Paths separate their components by slashes. -/
structure FileSystem (φ : Type) where
  /-- Creates a directory and those above it, as far as they are missing. -/
  createDirs : (dir : String) → FileStep φ Unit
  /-- Creates a new empty file in a directory and gives its path. -/
  createTemp : (dir : String) → FileStep φ String
  write : (path : String) → Bytes → FileStep φ Unit
  sync : (path : String) → FileStep φ Unit
  /-- Moves a file over another path at once. -/
  rename : (source destination : String) → FileStep φ Unit
  remove : (path : String) → FileStep φ Unit
  size : (path : String) → FileStep φ Nat
  read : (path : String) → FileStep φ Bytes

/-- A path taken from a directory. An absolute path stands for itself. -/
def joinPath (dir path : String) : String :=
  if path.toList.head? = some '/' then path
  else if dir = "" ∨ dir.toList.getLast? = some '/' then dir ++ path
  else dir ++ "/" ++ path

/-- Why a file was not replaced: its content was not written, or not moved to its place. -/
inductive ReplaceError where
  | write (e : FileError)
  | move (e : FileError)
deriving DecidableEq

namespace FileSystem

variable {φ : Type}

/-- Writes a temporary file and moves it over the destination. -/
def fillAndMove (fs : FileSystem φ) (temp destination : String) (bs : Bytes) (d : φ) :
    Except ReplaceError Unit × φ :=
  match fs.write temp bs d with
  | (.error e, d) => (.error (.write e), d)
  | (.ok (), d) =>
    match fs.sync temp d with
    | (.error e, d) => (.error (.write e), d)
    | (.ok (), d) =>
      match fs.rename temp destination d with
      | (.error e, d) => (.error (.move e), d)
      | (.ok (), d) => (.ok (), d)

/-- Replaces the content of a file by way of a temporary file in `dir`, which does not stay behind
when that fails. -/
def replace (fs : FileSystem φ) (dir destination : String) (bs : Bytes) (d : φ) :
    Except ReplaceError Unit × φ :=
  match fs.createTemp dir d with
  | (.error e, d) => (.error (.write e), d)
  | (.ok temp, d) =>
    match fs.fillAndMove temp destination bs d with
    | (.ok (), d) => (.ok (), d)
    | (.error e, d) => (.error e, (fs.remove temp d).2)

end FileSystem

end SecureUpdate
