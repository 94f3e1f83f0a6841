import SecureUpdate.Bytes
import SecureUpdate.Cache.Failure
import SecureUpdate.Dict
import SecureUpdate.Files.System
import SecureUpdate.Text.Percent

/-!
The local store of metadata: bytes by the name of their role. What it holds was verified when it was
saved, and is verified again when it is loaded. There is one store that keeps a file per role in a
directory, one that keeps values by the bytes of a key, and the plain map that both stand for.
-/

namespace SecureUpdate

/-- What a step on a store yields: an answer or a failure, and the next state. -/
abbrev StoreStep (κ α : Type) := κ → Except StoreError α × κ

/-- Storage by role name, on a state `κ`. -/
structure LocalStore (κ : Type) where
  load : (role : String) → StoreStep κ (Option Bytes)
  save : (role : String) → Bytes → StoreStep κ Unit
  /-- Forgets a role, whether or not it was there. -/
  remove : (role : String) → StoreStep κ Unit

namespace LocalStore

/-- A map from role names to bytes, which never fails. -/
def plain : LocalStore (Dict Bytes) where
  load role m := (.ok (m.get? role), m)
  save role bs m := (.ok (), m.insert role bs)
  remove role m := (.ok (), m.erase role)

/-- Values by the bytes of a key, which is the role name in UTF-8. -/
def keyed : LocalStore (SortedMap Bytes Bytes) where
  load role m := (.ok (m.get? (Bytes.ofText role)), m)
  save role bs m := (.ok (), m.insert (Bytes.ofText role) bs)
  remove role m := (.ok (), m.erase (Bytes.ofText role))

/-- The name of the file of a role. -/
def fileName (role : String) : String := Text.Percent.encode role ++ ".json"

/-- The file of a role in a directory. Role names are percent-encoded, so none leads elsewhere. -/
def filePath (dir role : String) : String := joinPath dir (fileName role)

/-- One file per role in a directory. -/
def inDirectory {φ : Type} (fs : FileSystem φ) (dir : String) : LocalStore φ where
  load role d :=
    match fs.read (filePath dir role) d with
    | (.ok bs, d) => (.ok (some bs), d)
    | (.error .notFound, d) => (.ok none, d)
    | (.error e, d) => (.error (.io e.message), d)
  save role bs d :=
    match fs.replace dir (filePath dir role) bs d with
    | (.ok (), d) => (.ok (), d)
    | (.error (.write e), d) => (.error (.io e.message), d)
    | (.error (.move e), d) => (.error (.persist e.message), d)
  remove role d :=
    match fs.remove (filePath dir role) d with
    | (.ok (), d) => (.ok (), d)
    | (.error .notFound, d) => (.ok (), d)
    | (.error e, d) => (.error (.io e.message), d)

/-- Opens the store in a directory, which is created if it is missing. -/
def openDirectory {φ : Type} (fs : FileSystem φ) (dir : String) : StoreStep φ Unit := fun d =>
  match fs.createDirs dir d with
  | (.ok (), d) => (.ok (), d)
  | (.error e, d) => (.error (.io e.message), d)

/-- The roles that a keyed store holds, in the order of their bytes. -/
def rolesOf (m : SortedMap Bytes Bytes) : List String := m.keys.filterMap Bytes.toText?

end LocalStore

end SecureUpdate
