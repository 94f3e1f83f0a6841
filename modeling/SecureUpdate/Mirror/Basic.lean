import SecureUpdate.Json.Fields
import SecureUpdate.Metadata.Role
import SecureUpdate.Text.Percent

/-!
Mirrors of a repository, and the addresses under which they serve its files.
-/

namespace SecureUpdate

/-- A place that serves a repository. -/
structure Mirror where
  /-- The address that all others start with. -/
  baseUrl : String
  /-- The directory of metadata below the base address. -/
  metadataDir : String
  /-- The directory of targets below the base address. -/
  targetsDir : String
  /-- How the paths of the targets served here may start; all targets are served if absent. -/
  confinedTo : Option (List String)
deriving DecidableEq

namespace Mirror

/-- Characters without the slashes at their end. -/
def dropTrailingSlashes (cs : List Char) : List Char := (cs.reverse.dropWhile (· == '/')).reverse

/-- A text without the slashes at its two ends. -/
def trimSlashes (s : String) : String :=
  String.ofList (dropTrailingSlashes (s.toList.dropWhile (· == '/')))

/-- A mirror with the usual directories below an address. -/
def ofUrl (url : String) : Mirror where
  baseUrl := String.ofList (dropTrailingSlashes url.toList)
  metadataDir := "metadata"
  targetsDir := "targets"
  confinedTo := none

/-- The address of a file in a directory below another address. -/
def join (base dir name : String) : String :=
  let dir := trimSlashes dir
  if dir.isEmpty then base ++ "/" ++ name else base ++ "/" ++ dir ++ "/" ++ name

def metadataUrl (m : Mirror) (file : String) : String := join m.baseUrl m.metadataDir file

def targetUrl (m : Mirror) (name : String) : String := join m.baseUrl m.targetsDir name

/-- Whether the mirror may be asked for a target. -/
def serves (m : Mirror) (path : String) : Bool :=
  match m.confinedTo with
  | none => true
  | some dirs => dirs.any fun dir => dir.toList.isPrefixOf path.toList

def toJson (m : Mirror) : Json :=
  .mkObj ([("url_prefix", .str m.baseUrl), ("metadata_path", .str m.metadataDir),
    ("targets_path", .str m.targetsDir)] ++
    Json.optionalMember "confined_target_dirs" (fun dirs => .arr (dirs.map .str)) m.confinedTo)

def ofJson? (v : Json) : Option Mirror :=
  match v.fields? ["url_prefix", "metadata_path", "targets_path", "confined_target_dirs"] with
  | some [base, metadata, targets, confined] => do
    some ⟨← base >>= Json.text?, ← metadata >>= Json.text?, ← targets >>= Json.text?,
      ← Json.optional (Json.list? Json.text?) confined⟩
  | _ => none

end Mirror

/-- The file name of a role's metadata, which starts with the version if one is given. The role is
percent-encoded, so that no name leads out of the directory. -/
def metadataFile (role : String) (version : Option UInt64) : String :=
  let file := Role.fileOf (Text.Percent.encode role)
  match version with
  | some v => toString v.toNat ++ "." ++ file
  | none => file

/-- Something to retrieve from the mirrors. -/
inductive Resource where
  /-- A file of metadata. -/
  | metadata (file : String)
  /-- A target: its path, and the name it is stored under. -/
  | target (path name : String)
deriving DecidableEq

namespace Resource

/-- The name of the resource in messages. -/
def name : Resource → String
  | metadata file => file
  | target path _ => path

def servedBy (m : Mirror) : Resource → Bool
  | metadata _ => true
  | target path _ => m.serves path

def urlAt (m : Mirror) : Resource → String
  | metadata file => m.metadataUrl file
  | target _ name => m.targetUrl name

end Resource

end SecureUpdate
