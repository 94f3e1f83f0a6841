import SecureUpdate.Trust.State

/-!
How metadata becomes trusted. A candidate passes the same checks in the same order: it is metadata
of the expected role; its version is not below the trusted one and is the pinned one; it is
unexpired; enough authorized keys signed it. Only then does it replace what was trusted, so a
refused candidate changes nothing.
-/

namespace SecureUpdate

/-- Where the bytes of a candidate come from. Those from the local store were verified when they
were saved: they serve as a floor for versions, and may have expired. -/
inductive Origin where
  | remote
  | cache
deriving DecidableEq

namespace Trust

/-! ### The single checks -/

/-- Refuses a version below the trusted one. -/
def notRolledBack (role : String) (trusted candidate : UInt64) : Except TrustError Unit :=
  if candidate < trusted then .error (.rollbackAttack role trusted candidate) else .ok ()

/-- Refuses metadata that is expired. -/
def unexpired {α : Type} [RolePayload α] (t : Trust) (role : String) (m : Signed α) :
    Except TrustError Unit :=
  if m.isExpired t.now then .error (.expiredMetadata role m.expires) else .ok ()

/-- Refuses metadata that too few keys signed. -/
def signedBy {α : Type} (p : Primitives) (m : Signed α) (authority : Authority) (ring : KeyRing)
    (role : String) : Except TrustError Unit :=
  let tally := m.tally p authority ring
  if tally.satisfied then .ok ()
  else .error (.unsignedMetadata role tally.validKeys.length tally.threshold)

/-- Refuses a candidate below the trusted version, and then one that is not what the pin describes.
-/
def matchesPin (p : Primitives) (role : String) (version : UInt64) (bs : Bytes)
    (trusted : Option UInt64) (pin : Option Pin) : Except TrustError Unit := do
  if let some trusted := trusted then
    notRolledBack role trusted version
  match pin with
  | none => throw (.pinMismatch role .unlisted)
  | some pin =>
    if version ≠ pin.version then
      throw (.pinMismatch role (.version version pin.version))
    match pin.check p bs with
    | .ok () => return ()
    | .error reason => throw (.pinMismatch role reason)

/-- The trusted root, without which no other role can be accepted. -/
def requireRoot (t : Trust) (role : String) : Except TrustError (Verified Root) :=
  match t.root with
  | some root => .ok root
  | none => .error (t.tooEarly role)

/-- The snapshot pin of a timestamp. -/
def requireSnapshotPin (t : Timestamp) : Except TrustError Pin :=
  match t.snapshotPin? with
  | some pin => .ok pin
  | none =>
    .error (.malformedMetadata Role.timestamp.name
      (.missingReference (Role.fileOf Role.snapshot.name)))

/-- The role whose metadata is listed under a file name. -/
def roleOfFile (file : String) : String :=
  let cs := file.toList
  if ".json".toList.isSuffixOf cs then String.ofList (cs.take (cs.length - 5)) else file

/-- Refuses a snapshot that drops a listed file or lowers its version. -/
def keepsPins (trusted candidate : Dict Pin) : Except TrustError Unit :=
  trusted.entries.forM fun e =>
    let version := ((candidate.get? e.1).map (·.version)).getD 0
    notRolledBack (roleOfFile e.1) e.2.version version

/-! ### Root -/

/-- Starts trust from a root given out of band, which must satisfy its own root role. -/
def loadRoot (p : Primitives) (t : Trust) (bs : Bytes) : Except TrustError Trust := do
  if t.root.isSome then
    throw (t.tooEarly Role.root.name)
  let candidate ← Signed.parseAs p Root bs
  let ring := KeyRing.ofKeys p candidate.payload.keys
  signedBy p candidate candidate.payload.roles.root ring Role.root.name
  return { t with root := some ⟨candidate, bs⟩, rootKeys := ring }

/-- Forgets what keys signed that the next root no longer trusts for it. -/
def forgetRotated (t : Trust) (previous next : Root) : Trust :=
  let changed (role : Role) : Bool := previous.signers role ≠ next.signers role
  let t := if changed .timestamp then { t with timestamp := none, snapshot := none } else t
  let t := if changed .snapshot then
      { t with snapshot := none, targets := none, delegated := .empty }
    else t
  if changed .targets then { t with targets := none, delegated := .empty } else t

/-- Moves to the next root, whose version is one higher and which both the trusted root and itself
authorize. -/
def updateRoot (p : Primitives) (t : Trust) (bs : Bytes) : Except TrustError Trust := do
  let trusted ← t.requireRoot Role.root.name
  let candidate ← Signed.parseAs p Root bs
  let expected := trusted.version + 1
  if candidate.version < expected then
    throw (.rollbackAttack Role.root.name trusted.version candidate.version)
  if expected < candidate.version then
    throw (.badVersionNumber Role.root.name expected candidate.version)
  signedBy p candidate trusted.payload.roles.root t.rootKeys Role.root.name
  let ring := KeyRing.ofKeys p candidate.payload.keys
  signedBy p candidate candidate.payload.roles.root ring Role.root.name
  return { t.forgetRotated trusted.payload candidate.payload with
    root := some ⟨candidate, bs⟩, rootKeys := ring }

/-- Refuses a trusted root that is expired. -/
def checkRootExpiry (t : Trust) : Except TrustError Unit := do
  let root ← t.requireRoot Role.root.name
  t.unexpired Role.root.name root.metadata

/-! ### The roles under the root -/

/-- Accepts a timestamp. -/
def updateTimestamp (p : Primitives) (t : Trust) (bs : Bytes) (origin : Origin) :
    Except TrustError Trust := do
  let root ← t.requireRoot Role.timestamp.name
  let candidate ← Signed.parseAs p Timestamp bs
  if let some current := t.timestamp then
    notRolledBack Role.timestamp.name current.version candidate.version
    let trusted ← requireSnapshotPin current.payload
    let offered ← requireSnapshotPin candidate.payload
    notRolledBack Role.snapshot.name trusted.version offered.version
  if origin = .remote then
    t.unexpired Role.timestamp.name candidate
  signedBy p candidate root.payload.roles.timestamp t.rootKeys Role.timestamp.name
  return { t with timestamp := some ⟨candidate, bs⟩ }

/-- Accepts the snapshot that the timestamp pins; trusted delegated roles are forgotten. -/
def updateSnapshot (p : Primitives) (t : Trust) (bs : Bytes) (origin : Origin) :
    Except TrustError Trust := do
  let role := Role.snapshot.name
  let root ← t.requireRoot role
  let some timestamp := t.timestamp | throw (t.tooEarly role)
  let candidate ← Signed.parseAs p Snapshot bs
  let pin ← requireSnapshotPin timestamp.payload
  matchesPin p role candidate.version bs (t.snapshot.map (·.version)) (some pin)
  if let some current := t.snapshot then
    keepsPins current.payload.pins candidate.payload.pins
  if origin = .remote then
    t.unexpired Role.timestamp.name timestamp.metadata
    t.unexpired role candidate
  signedBy p candidate root.payload.roles.snapshot t.rootKeys role
  return { t with snapshot := some ⟨candidate, bs⟩, delegated := .empty }

/-- Accepts the top-level targets that the snapshot pins; trusted delegated roles are forgotten. -/
def updateTargets (p : Primitives) (t : Trust) (bs : Bytes) (origin : Origin) :
    Except TrustError Trust := do
  let role := Role.targets.name
  let root ← t.requireRoot role
  let some snapshot := t.snapshot | throw (t.tooEarly role)
  let candidate ← Signed.parseAs p Targets bs
  matchesPin p role candidate.version bs (t.targets.map (·.version)) (snapshot.payload.pin? role)
  if origin = .remote then
    t.unexpired Role.snapshot.name snapshot.metadata
    t.unexpired role candidate
  signedBy p candidate root.payload.roles.targets t.rootKeys role
  return { t with targets := some ⟨candidate, bs⟩, delegated := .empty }

/-- Who may sign for a role, with which keys, by the delegations of a trusted role. -/
def delegationOf (t : Trust) (role delegator : String) :
    Except TrustError (Delegation × Dict Key) :=
  match t.delegator? delegator with
  | none => .error (t.tooEarly role)
  | some parent =>
    match parent.payload.delegation? role, parent.payload.delegations with
    | some delegation, some delegations => .ok (delegation, delegations.keys)
    | _, _ => .error (.malformedMetadata role (.notDelegatedBy delegator))

/-- Accepts metadata of a delegated role that the snapshot pins and the delegator authorizes. -/
def updateDelegated (p : Primitives) (t : Trust) (bs : Bytes) (role delegator : String)
    (origin : Origin) : Except TrustError Trust := do
  let some snapshot := t.snapshot | throw (t.tooEarly role)
  let (delegation, keys) ← t.delegationOf role delegator
  let candidate ← Signed.parseAs p Targets bs
  matchesPin p role candidate.version bs ((t.delegated.get? role).map (·.version))
    (snapshot.payload.pin? role)
  if origin = .remote then
    t.unexpired Role.snapshot.name snapshot.metadata
    t.unexpired role candidate
  signedBy p candidate delegation.authority (KeyRing.ofKeys p keys) role
  return { t with delegated := t.delegated.insert role ⟨candidate, bs⟩ }

/-! ### The whole chain -/

/-- Refuses an object that is missing or expired. -/
def presentAndUnexpired {α : Type} [RolePayload α] (t : Trust) (role : String)
    (held : Option (Verified α)) : Except TrustError Unit :=
  match held with
  | none => .error (t.tooEarly role)
  | some v => t.unexpired role v.metadata

/-- Refuses a chain of top-level roles that is incomplete, expired or not pinned link by link. -/
def checkConsistent (p : Primitives) (t : Trust) : Except TrustError Unit := do
  t.checkRootExpiry
  let some timestamp := t.timestamp | throw (t.tooEarly Role.snapshot.name)
  t.unexpired Role.timestamp.name timestamp.metadata
  t.presentAndUnexpired Role.snapshot.name t.snapshot
  t.presentAndUnexpired Role.targets.name t.targets
  if !t.isSnapshotCurrent p then
    throw (.pinMismatch Role.snapshot.name .notTimestampPin)
  if !t.isTargetsCurrent p then
    throw (.pinMismatch Role.targets.name .notSnapshotPin)

end Trust

end SecureUpdate
