import SecureUpdate.Trust.Acceptance

/-!
Acceptance in place. What is trusted is one object that an operation reads and writes field by
field, and what it wrote stays when it fails afterwards. Each operation here makes its checks and
its writes in the order in which they are made on that object.
-/

namespace SecureUpdate.Trust

/-- A step that reads and writes what is trusted, and may fail on the way. -/
abbrev Change := ExceptT TrustError (StateM Trust)

/-! ### The operations -/

namespace InPlace

variable (p : Primitives) (bs : Bytes)

/-- Starts trust from a root given out of band. -/
def loadRoot : Change Unit := do
  let t ← get
  if t.root.isSome then
    throw (t.tooEarly Role.root.name)
  let candidate ← Signed.parseAs p Root bs
  let ring := KeyRing.ofKeys p candidate.payload.keys
  signedBy p candidate candidate.payload.roles.root ring Role.root.name
  modify ({ · with rootKeys := ring })
  modify ({ · with root := some ⟨candidate, bs⟩ })

/-- Forgets what keys signed that the next root no longer trusts for it. -/
def forgetRotated (previous next : Root) : Change Unit := do
  let changed (role : Role) : Bool := previous.signers role ≠ next.signers role
  if changed .timestamp then
    modify ({ · with timestamp := none })
    modify ({ · with snapshot := none })
  if changed .snapshot then
    modify ({ · with snapshot := none })
    modify ({ · with targets := none })
    modify ({ · with delegated := .empty })
  if changed .targets then
    modify ({ · with targets := none })
    modify ({ · with delegated := .empty })

/-- Moves to the next root. -/
def updateRoot : Change Unit := do
  let t ← get
  let trusted ← t.requireRoot Role.root.name
  let candidate ← Signed.parseAs p Root bs
  let expected := trusted.version + 1
  if candidate.version < expected then
    throw (.rollbackAttack Role.root.name trusted.version candidate.version)
  if expected < candidate.version then
    throw (.badVersionNumber Role.root.name expected candidate.version)
  signedBy p candidate trusted.payload.roles.root t.rootKeys Role.root.name
  let ring := KeyRing.ofKeys p candidate.payload.keys
  signedBy p candidate candidate.payload.roles.root ring Role.root.name
  forgetRotated trusted.payload candidate.payload
  modify ({ · with rootKeys := ring })
  modify ({ · with root := some ⟨candidate, bs⟩ })

/-- Accepts a timestamp. -/
def updateTimestamp (origin : Origin) : Change Unit := do
  let t ← get
  let root ← t.requireRoot Role.timestamp.name
  let candidate ← Signed.parseAs p Timestamp bs
  if let some current := t.timestamp then
    notRolledBack Role.timestamp.name current.version candidate.version
    let trusted ← requireSnapshotPin current.payload
    let offered ← requireSnapshotPin candidate.payload
    notRolledBack Role.snapshot.name trusted.version offered.version
  if origin = .remote then
    t.unexpired Role.timestamp.name candidate
  signedBy p candidate root.payload.roles.timestamp t.rootKeys Role.timestamp.name
  modify ({ · with timestamp := some ⟨candidate, bs⟩ })

/-- Accepts the snapshot that the timestamp pins. -/
def updateSnapshot (origin : Origin) : Change Unit := do
  let role := Role.snapshot.name
  let t ← get
  let root ← t.requireRoot role
  let some timestamp := t.timestamp | throw (t.tooEarly role)
  let candidate ← Signed.parseAs p Snapshot bs
  let pin ← requireSnapshotPin timestamp.payload
  matchesPin p role candidate.version bs (t.snapshot.map (·.version)) (some pin)
  if let some current := t.snapshot then
    keepsPins current.payload.pins candidate.payload.pins
  if origin = .remote then
    t.unexpired Role.timestamp.name timestamp.metadata
    t.unexpired role candidate
  signedBy p candidate root.payload.roles.snapshot t.rootKeys role
  modify ({ · with snapshot := some ⟨candidate, bs⟩ })
  modify ({ · with delegated := .empty })

/-- Accepts the top-level targets that the snapshot pins. -/
def updateTargets (origin : Origin) : Change Unit := do
  let role := Role.targets.name
  let t ← get
  let root ← t.requireRoot role
  let some snapshot := t.snapshot | throw (t.tooEarly role)
  let candidate ← Signed.parseAs p Targets bs
  matchesPin p role candidate.version bs (t.targets.map (·.version)) (snapshot.payload.pin? role)
  if origin = .remote then
    t.unexpired Role.snapshot.name snapshot.metadata
    t.unexpired role candidate
  signedBy p candidate root.payload.roles.targets t.rootKeys role
  modify ({ · with targets := some ⟨candidate, bs⟩ })
  modify ({ · with delegated := .empty })

/-- Accepts metadata of a delegated role that the snapshot pins and the delegator authorizes. -/
def updateDelegated (role delegator : String) (origin : Origin) : Change Unit := do
  let t ← get
  let some snapshot := t.snapshot | throw (t.tooEarly role)
  let (delegation, keys) ← t.delegationOf role delegator
  let candidate ← Signed.parseAs p Targets bs
  matchesPin p role candidate.version bs ((t.delegated.get? role).map (·.version))
    (snapshot.payload.pin? role)
  if origin = .remote then
    t.unexpired Role.snapshot.name snapshot.metadata
    t.unexpired role candidate
  signedBy p candidate delegation.authority (KeyRing.ofKeys p keys) role
  modify fun t => { t with delegated := t.delegated.insert role ⟨candidate, bs⟩ }

end InPlace

end SecureUpdate.Trust
