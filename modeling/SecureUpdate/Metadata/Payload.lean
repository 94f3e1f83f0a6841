import SecureUpdate.Error
import SecureUpdate.Glob.Pattern
import SecureUpdate.Key.Threshold

/-!
What the metadata of each role says: the root lists the keys of the top-level roles, the timestamp
pins the snapshot, the snapshot pins every targets role, and a targets role lists targets and
delegates parts of their paths to further roles.
-/

namespace SecureUpdate

/-- What every payload starts with. -/
structure Header where
  specVersion : String
  version : UInt64
  expires : Instant
deriving DecidableEq

/-- Who may sign for each top-level role. -/
structure RootRoles where
  root : Authority
  timestamp : Authority
  snapshot : Authority
  targets : Authority
deriving DecidableEq

def RootRoles.of (roles : RootRoles) : Role → Authority
  | .root => roles.root
  | .timestamp => roles.timestamp
  | .snapshot => roles.snapshot
  | .targets => roles.targets

/-- The payload of the root role. -/
structure Root extends Header where
  /-- Whether files are published under names that start with their version or hash. -/
  consistentSnapshot : Bool
  keys : Dict Key
  roles : RootRoles
deriving DecidableEq

/-- Who may sign for a role, with ids resolved to keys. Two roots whose signers are equal trust the
same keys for the role. -/
structure Signers where
  threshold : UInt64
  keys : SortedMap Key Unit
deriving DecidableEq

def Root.signers (root : Root) (role : Role) : Signers :=
  let authority := root.roles.of role
  ⟨authority.threshold,
    .ofList (authority.keyIds.filterMap fun id => (root.keys.get? id).map fun k => (k, ()))⟩

/-- A pinned metadata file: its version and, if given, its length and digests. -/
structure Pin where
  version : UInt64
  length : Option UInt64
  hashes : Option Hashes
deriving DecidableEq

/-- Checks bytes against the pinned length and digests. -/
def Pin.check (p : Primitives) (pin : Pin) (bs : Bytes) : Except PinMismatch Unit := do
  if let some length := pin.length then
    if bs.length ≠ length.toNat then
      throw (.length bs.length length.toNat)
  if let some hashes := pin.hashes then
    if let some algorithm := hashes.firstMismatch p bs then
      throw (.hash algorithm)

/-- The payload of the timestamp role. -/
structure Timestamp extends Header where
  pins : Dict Pin
deriving DecidableEq

/-- The pin of the snapshot. -/
def Timestamp.snapshotPin? (t : Timestamp) : Option Pin :=
  t.pins.get? (Role.fileOf Role.snapshot.name)

/-- The payload of the snapshot role. -/
structure Snapshot extends Header where
  pins : Dict Pin
deriving DecidableEq

/-- The pin of a targets role, top-level or delegated. -/
def Snapshot.pin? (s : Snapshot) (role : String) : Option Pin := s.pins.get? (Role.fileOf role)

/-- What a targets role says about one target. -/
structure Listing where
  length : UInt64
  hashes : Hashes
  custom : Option Json

/-- A target together with its path. -/
structure Target extends Listing where
  path : String

/-- Checks downloaded bytes against the exact length and every digest, of which there must be one.
-/
def Target.check (p : Primitives) (t : Target) (bs : Bytes) : Except TrustError Unit :=
  if bs.length ≠ t.length.toNat then
    .error (.downloadLengthMismatch t.path t.length.toNat bs.length)
  else if t.hashes.isEmpty then .error (.downloadHashMismatch t.path "none declared")
  else match t.hashes.firstMismatch p bs with
    | some algorithm => .error (.downloadHashMismatch t.path algorithm)
    | none => .ok ()

/-- The paths that a delegation covers. -/
inductive PathSet where
  /-- Those that one of some shell-style patterns covers. -/
  | patterns (ps : List String)
  /-- Those whose SHA-256 digest starts with one of some hexadecimal texts. -/
  | digestStarts (starts : List String)
deriving DecidableEq

def PathSet.covers (p : Primitives) (path : String) : PathSet → Bool
  | patterns ps => ps.any fun pattern => Glob.covers pattern path
  | digestStarts starts =>
    let digest := (Text.Hex.encode (p.sha256 (Bytes.ofText path))).toList
    starts.any fun start => (Hashes.lowerCase start).isPrefixOf digest

/-- One delegation: the role it names, who may sign for it, and which paths it covers. -/
structure Delegation where
  name : String
  authority : Authority
  paths : PathSet
  /-- Whether the search for a path ends here, even when the delegation does not cover it. -/
  terminating : Bool
deriving DecidableEq

/-- The delegations of a targets role in order of priority, and the keys they refer to. -/
structure Delegations where
  keys : Dict Key
  roles : List Delegation
deriving DecidableEq

/-- The payload of a targets role. -/
structure Targets extends Header where
  targets : Dict Listing
  delegations : Option Delegations

namespace Targets

/-- The target that the role itself lists under a path. -/
def target? (t : Targets) (path : String) : Option Target :=
  (t.targets.get? path).map fun listing => { listing with path }

def delegated (t : Targets) : List Delegation := (t.delegations.map (·.roles)).getD []

/-- The delegation to a role. -/
def delegation? (t : Targets) (name : String) : Option Delegation :=
  t.delegated.find? (·.name == name)

end Targets

/-- The payload of any role. -/
inductive Payload where
  | root (r : Root)
  | timestamp (t : Timestamp)
  | snapshot (s : Snapshot)
  | targets (t : Targets)

namespace Payload

def role : Payload → Role
  | root _ => .root
  | timestamp _ => .timestamp
  | snapshot _ => .snapshot
  | targets _ => .targets

def header : Payload → Header
  | root r => r.toHeader
  | timestamp t => t.toHeader
  | snapshot s => s.toHeader
  | targets t => t.toHeader

end Payload

/-- The payload types, each with the role whose metadata holds it. -/
class RolePayload (α : Type) where
  role : Role
  header : α → Header
  toPayload : α → Payload
  ofPayload? : Payload → Option α

instance : RolePayload Root where
  role := .root
  header r := r.toHeader
  toPayload := .root
  ofPayload?
    | .root r => some r
    | _ => none

instance : RolePayload Timestamp where
  role := .timestamp
  header t := t.toHeader
  toPayload := .timestamp
  ofPayload?
    | .timestamp t => some t
    | _ => none

instance : RolePayload Snapshot where
  role := .snapshot
  header s := s.toHeader
  toPayload := .snapshot
  ofPayload?
    | .snapshot s => some s
    | _ => none

instance : RolePayload Targets where
  role := .targets
  header t := t.toHeader
  toPayload := .targets
  ofPayload?
    | .targets t => some t
    | _ => none

end SecureUpdate
