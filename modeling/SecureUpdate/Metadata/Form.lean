import SecureUpdate.Json.Fields
import SecureUpdate.Metadata.Payload
import SecureUpdate.Time.Reader

/-!
The JSON form of payloads: how each type is written and read. A record may be read from an object or
from the list of its fields; a payload says its role in the member `_type`, or in the first item of
the list.
-/

namespace SecureUpdate

namespace Hashes

def toJson (h : Hashes) : Json := .ofDict .str h

def ofJson? : Json → Option Hashes := Json.dict? Json.text?

end Hashes

namespace Instant

def toJson (t : Instant) : Json := .str t.write

def ofJson? (v : Json) : Option Instant := v.text? >>= read

end Instant

namespace Header

def toMembers (h : Header) : List (String × Json) :=
  [("spec_version", .str h.specVersion), ("version", .ofUInt64 h.version),
    ("expires", h.expires.toJson)]

def ofFields? (specVersion version expires : Option Json) : Option Header := do
  some ⟨← specVersion >>= Json.text?, ← version >>= Json.uint64?, ← expires >>= Instant.ofJson?⟩

end Header

namespace RootRoles

def toJson (r : RootRoles) : Json :=
  .mkObj [("root", r.root.toJson), ("timestamp", r.timestamp.toJson),
    ("snapshot", r.snapshot.toJson), ("targets", r.targets.toJson)]

def ofJson? (v : Json) : Option RootRoles :=
  match v.fields? ["root", "timestamp", "snapshot", "targets"] with
  | some [root, timestamp, snapshot, targets] => do
    some ⟨← root >>= Authority.ofJson?, ← timestamp >>= Authority.ofJson?,
      ← snapshot >>= Authority.ofJson?, ← targets >>= Authority.ofJson?⟩
  | _ => none

end RootRoles

namespace Root

def toMembers (r : Root) : List (String × Json) :=
  r.toHeader.toMembers ++ [("consistent_snapshot", .bool r.consistentSnapshot),
    ("keys", .ofDict Key.toJson r.keys), ("roles", r.roles.toJson)]

def ofJson? (v : Json) : Option Root :=
  match v.fields?
    ["spec_version", "consistent_snapshot", "version", "expires", "keys", "roles"] with
  | some [specVersion, consistentSnapshot, version, expires, keys, roles] => do
    some {
      toHeader := ← Header.ofFields? specVersion version expires
      consistentSnapshot := ← Json.defaulting false Json.bool? consistentSnapshot
      keys := ← keys >>= Json.dict? Key.ofJson?
      roles := ← roles >>= RootRoles.ofJson? }
  | _ => none

end Root

namespace Pin

def toJson (pin : Pin) : Json :=
  .mkObj (("version", .ofUInt64 pin.version) ::
    (Json.optionalMember "length" .ofUInt64 pin.length ++
      Json.optionalMember "hashes" Hashes.toJson pin.hashes))

def ofJson? (v : Json) : Option Pin :=
  match v.fields? ["version", "length", "hashes"] with
  | some [version, length, hashes] => do
    some ⟨← version >>= Json.uint64?, ← Json.optional Json.uint64? length,
      ← Json.optional Hashes.ofJson? hashes⟩
  | _ => none

/-- The header and the pins that timestamp and snapshot consist of. -/
def listOfJson? (v : Json) : Option (Header × Dict Pin) :=
  match v.fields? ["spec_version", "version", "expires", "meta"] with
  | some [specVersion, version, expires, pins] => do
    some (← Header.ofFields? specVersion version expires, ← pins >>= Json.dict? ofJson?)
  | _ => none

def listToMembers (header : Header) (pins : Dict Pin) : List (String × Json) :=
  header.toMembers ++ [("meta", .ofDict toJson pins)]

end Pin

namespace Timestamp

def toMembers (t : Timestamp) : List (String × Json) := Pin.listToMembers t.toHeader t.pins

def ofJson? (v : Json) : Option Timestamp := (Pin.listOfJson? v).map fun (h, pins) => ⟨h, pins⟩

end Timestamp

namespace Snapshot

def toMembers (s : Snapshot) : List (String × Json) := Pin.listToMembers s.toHeader s.pins

def ofJson? (v : Json) : Option Snapshot := (Pin.listOfJson? v).map fun (h, pins) => ⟨h, pins⟩

end Snapshot

namespace Listing

def toMembers (l : Listing) : List (String × Json) :=
  [("length", .ofUInt64 l.length), ("hashes", l.hashes.toJson)] ++
    Json.optionalMember "custom" id l.custom

def toJson (l : Listing) : Json := .mkObj l.toMembers

def ofJson? (v : Json) : Option Listing :=
  match v.fields? ["length", "hashes", "custom"] with
  | some [length, hashes, custom] => do
    some ⟨← length >>= Json.uint64?, ← hashes >>= Hashes.ofJson?, ← Json.optional some custom⟩
  | _ => none

end Listing

def Target.toJson (t : Target) : Json := .mkObj (("path", .str t.path) :: t.toListing.toMembers)

namespace PathSet

def toMember : PathSet → String × Json
  | patterns ps => ("paths", .arr (ps.map .str))
  | digestStarts starts => ("path_hash_prefixes", .arr (starts.map .str))

/-- The paths that the members of an object give; digests come before patterns. -/
def ofMembers? (members : List (String × Json)) : Option PathSet :=
  match SortedMap.findEntry "path_hash_prefixes" members with
  | some v => (v.list? Json.text?).map digestStarts
  | none =>
    match SortedMap.findEntry "paths" members with
    | some v => (v.list? Json.text?).map patterns
    | none => none

end PathSet

namespace Delegation

def toJson (d : Delegation) : Json :=
  .mkObj ([("name", .str d.name), d.paths.toMember, ("terminating", .bool d.terminating)] ++
    d.authority.toMembers)

/-- Reads a delegation, of which only objects have the form. -/
def ofJson? : Json → Option Delegation
  | .obj members => do
    let field (name : String) : Option Json := SortedMap.findEntry name members
    some {
      name := ← field "name" >>= Json.text?
      authority := ← Authority.ofFields? (field "keyids") (field "threshold")
      paths := ← PathSet.ofMembers? members
      terminating := ← Json.defaulting false Json.bool? (field "terminating") }
  | _ => none

end Delegation

namespace Delegations

def toJson (d : Delegations) : Json :=
  .mkObj [("keys", .ofDict Key.toJson d.keys), ("roles", .arr (d.roles.map Delegation.toJson))]

def ofJson? (v : Json) : Option Delegations :=
  match v.fields? ["keys", "roles"] with
  | some [keys, roles] => do
    some ⟨← keys >>= Json.dict? Key.ofJson?, ← roles >>= Json.list? Delegation.ofJson?⟩
  | _ => none

end Delegations

namespace Targets

def toMembers (t : Targets) : List (String × Json) :=
  t.toHeader.toMembers ++ [("targets", .ofDict Listing.toJson t.targets)] ++
    Json.optionalMember "delegations" Delegations.toJson t.delegations

def ofJson? (v : Json) : Option Targets :=
  match v.fields? ["spec_version", "version", "expires", "targets", "delegations"] with
  | some [specVersion, version, expires, targets, delegations] => do
    some {
      toHeader := ← Header.ofFields? specVersion version expires
      targets := ← Json.defaulting .empty (Json.dict? Listing.ofJson?) targets
      delegations := ← Json.optional Delegations.ofJson? delegations }
  | _ => none

end Targets

namespace Payload

/-- The members of a payload without the one that says its role. -/
def toMembers : Payload → List (String × Json)
  | root r => r.toMembers
  | timestamp t => t.toMembers
  | snapshot s => s.toMembers
  | targets t => t.toMembers

def toJson (p : Payload) : Json := .mkObj (("_type", .str p.role.name) :: p.toMembers)

/-- Reads the payload of a role. -/
def ofJsonAs? (role : Role) (v : Json) : Option Payload :=
  match role with
  | .root => (Root.ofJson? v).map root
  | .timestamp => (Timestamp.ofJson? v).map timestamp
  | .snapshot => (Snapshot.ofJson? v).map snapshot
  | .targets => (Targets.ofJson? v).map targets

def ofJson? (v : Json) : Option Payload :=
  match v with
  | .arr (tag :: fields) => do ofJsonAs? (← tag.text? >>= Role.ofName?) (.arr fields)
  | v => do ofJsonAs? (← v.member? "_type" >>= Json.text? >>= Role.ofName?) v

end Payload

end SecureUpdate
