import SecureUpdate.Metadata.Envelope

/-!
The metadata that is trusted at one moment: for each role at most one object, kept with the bytes it
arrived as, and the time against which expiry is judged.
-/

namespace SecureUpdate

/-- Accepted metadata together with the exact bytes it was read from. -/
structure Verified (α : Type) where
  metadata : Signed α
  bytes : Bytes

namespace Verified

variable {α : Type}

def payload (v : Verified α) : α := v.metadata.payload

def version [RolePayload α] (v : Verified α) : UInt64 := v.metadata.version

def expires [RolePayload α] (v : Verified α) : Instant := v.metadata.expires

end Verified

/-- The trusted metadata of a client. -/
structure Trust where
  /-- The time against which expiry is judged. -/
  now : Instant
  root : Option (Verified Root)
  /-- The keys of the trusted root. -/
  rootKeys : KeyRing
  timestamp : Option (Verified Timestamp)
  snapshot : Option (Verified Snapshot)
  targets : Option (Verified Targets)
  delegated : Dict (Verified Targets)

namespace Trust

/-- Nothing is trusted yet. -/
def initial (now : Instant) : Trust where
  now
  root := none
  rootKeys := .empty
  timestamp := none
  snapshot := none
  targets := none
  delegated := .empty

/-- The furthest role that is trusted. -/
def stage (t : Trust) : Stage :=
  if !t.delegated.isEmpty then .delegatedLoaded
  else if t.targets.isSome then .targetsLoaded
  else if t.snapshot.isSome then .snapshotLoaded
  else if t.timestamp.isSome then .timestampLoaded
  else if t.root.isSome then .rootLoaded
  else .empty

/-- The bytes of the trusted metadata of a role. -/
def bytesOf (t : Trust) (role : String) : Option Bytes :=
  match Role.ofName? role with
  | some .root => t.root.map (·.bytes)
  | some .timestamp => t.timestamp.map (·.bytes)
  | some .snapshot => t.snapshot.map (·.bytes)
  | some .targets => t.targets.map (·.bytes)
  | none => (t.delegated.get? role).map (·.bytes)

/-- The targets metadata of a role that can delegate. -/
def delegator? (t : Trust) (name : String) : Option (Verified Targets) :=
  if name = Role.targets.name then t.targets else t.delegated.get? name

/-- Whether the trusted root publishes files under names with their version or hash. -/
def isConsistent (t : Trust) : Bool := (t.root.map (·.payload.consistentSnapshot)).getD false

/-- A role was offered too early. -/
def tooEarly (t : Trust) (role : String) : TrustError := .invalidTransition role t.stage

/-! ### Being current -/

/-- Whether an object is unexpired and exactly what a pin describes. -/
def isCurrent {α : Type} [RolePayload α] (p : Primitives) (t : Trust) (v : Verified α) (pin : Pin) :
    Bool :=
  v.version == pin.version && (pin.check p v.bytes).isOk && !v.metadata.isExpired t.now

/-- Whether the snapshot is unexpired and the one that the timestamp pins. -/
def isSnapshotCurrent (p : Primitives) (t : Trust) : Bool :=
  match t.timestamp, t.snapshot with
  | some timestamp, some snapshot =>
    match timestamp.payload.snapshotPin? with
    | some pin => t.isCurrent p snapshot pin
    | none => false
  | _, _ => false

/-- Whether an object is unexpired and the one that the snapshot pins for a role. -/
def isPinned (p : Primitives) (t : Trust) (role : String) (held : Option (Verified Targets)) :
    Bool :=
  match t.snapshot, held with
  | some snapshot, some v =>
    match snapshot.payload.pin? role with
    | some pin => t.isCurrent p v pin
    | none => false
  | _, _ => false

def isTargetsCurrent (p : Primitives) (t : Trust) : Bool :=
  t.isPinned p Role.targets.name t.targets

def isDelegatedCurrent (p : Primitives) (t : Trust) (role : String) : Bool :=
  t.isPinned p role (t.delegated.get? role)

end Trust

end SecureUpdate
