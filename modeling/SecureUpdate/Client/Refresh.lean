import SecureUpdate.Client.Session

/-!
The refresh: it brings trust up to date along the chain of roles, root, timestamp, snapshot,
targets. It works on a copy of what is trusted and commits the copy only when the whole chain is
verified, so a refresh that fails leaves what is committed as it was. Metadata is saved as it is
accepted; a failure to save is reported after the commit and undoes nothing.
-/

namespace SecureUpdate

/-- The copy of trust that a refresh works on. -/
structure Working where
  trust : Trust
  /-- Whether nothing was committed before. -/
  cold : Bool
  /-- The first failure to save. -/
  saveError : Option StoreError

/-- What a client has committed, and its world. -/
structure Session (ν κ : Type) where
  committed : Option Trust
  world : World ν κ

namespace Client

variable {ν κ : Type}

/-- Saves accepted bytes and notes the first failure. -/
def persist (c : Client ν κ) (role : Role) (bs : Bytes) (k : Working) : Task ν κ Working := do
  let failure ← c.save role.name bs
  return { k with saveError := k.saveError.or failure }

/-- Reports accepted metadata and saves it. -/
def noteAccepted (c : Client ν κ) (role : Role) (version : UInt64) (bs : Bytes) (k : Working) :
    Task ν κ Working := do
  report (.accepted role.name version)
  c.persist role bs k

/-! ### Where a refresh starts -/

/-- Trust in the initial root, which is saved. -/
def startFromInitial (c : Client ν κ) (now : Instant) : Task ν κ Working := do
  let trust ← Task.ofExcept ((Trust.initial now).loadRoot c.primitives c.initialRoot)
  c.persist .root c.initialRoot { trust, cold := true, saveError := none }

/-- Trust in the cached root, or in the initial root if there is no valid one in the cache. -/
def startCold (c : Client ν κ) (now : Instant) : Task ν κ Working := do
  match ← c.loadCached Role.root.name with
  | none => c.startFromInitial now
  | some bs =>
    match (Trust.initial now).loadRoot c.primitives bs with
    | .ok trust => return { trust, cold := true, saveError := none }
    | .error _ => c.startFromInitial now

/-- The copy of trust to work on: what is committed, judged at a new time, or else a cold start. -/
def workingCopy (c : Client ν κ) (now : Instant) : Option Trust → Task ν κ Working
  | some trust => return { trust := { trust with now }, cold := false, saveError := none }
  | none => c.startCold now

/-! ### Root -/

/-- The version that follows the trusted root's. -/
def nextRootVersion (t : Trust) : UInt64 := ((t.root.map (·.version)).getD 0) + 1

/-- Follows the chain of roots by at most `steps` versions, until no next root can be retrieved. -/
def rotateRoots (c : Client ν κ) : (steps : Nat) → Working → Task ν κ Working
  | 0, k => return k
  | steps + 1, k => fun w =>
    let next := nextRootVersion k.trust
    match c.fetchAccepted (metadataFile Role.root.name (some next)) c.limits.rootSizeCap
        (fun bs t => t.updateRoot c.primitives bs) k.trust w with
    | (.error e, w) => if e.isTransport then (.ok k, w) else (.error e, w)
    | (.ok (bs, trust), w) =>
      Task.andThen (do
        report (.accepted Role.root.name next)
        report (.rotated next)
        c.persist .root bs { k with trust }) (c.rotateRoots steps) w

/-- Follows the chain of roots; the root it ends at must not be expired. -/
def updateRootChain (c : Client ν κ) (k : Working) : Task ν κ Working := do
  let k ← c.rotateRoots c.limits.maxRootRotations.toNat k
  Task.ofExcept k.trust.checkRootExpiry
  return k

/-! ### The roles under the root -/

/-- Accepts what the cache holds for a role, if it is acceptable. -/
def loadFloor (c : Client ν κ) (role : Role)
    (accept : Bytes → Trust → Except TrustError Trust) (k : Working) : Task ν κ Working := do
  match ← c.loadCached role.name with
  | none => return k
  | some bs =>
    match accept bs k.trust with
    | .ok trust => return { k with trust }
    | .error _ => return k

/-- Accepts cached metadata as a floor for versions, each role against the one that pins it. -/
def loadFloors (c : Client ν κ) (k : Working) : Task ν κ Working := do
  let p := c.primitives
  let k ← c.loadFloor .timestamp (fun bs t => t.updateTimestamp p bs .cache) k
  let k ← c.loadFloor .snapshot (fun bs t => t.updateSnapshot p bs .cache) k
  c.loadFloor .targets (fun bs t => t.updateTargets p bs .cache) k

/-- Retrieves a timestamp, always. -/
def updateTimestamp (c : Client ν κ) (k : Working) : Task ν κ Working := do
  let (bs, trust) ← c.fetchAccepted (metadataFile Role.timestamp.name none)
    c.limits.timestampSizeCap (fun bs t => t.updateTimestamp c.primitives bs .remote) k.trust
  let version := (trust.timestamp.map (·.version)).getD 0
  c.noteAccepted .timestamp version bs { k with trust }

/-- The file of a pinned role, whose name has the version in a consistent repository. -/
def pinnedFile (t : Trust) (role : String) (pin : Pin) : String :=
  metadataFile role (if t.isConsistent then some pin.version else none)

/-- Retrieves the metadata that a pin describes. -/
def fetchPinned (c : Client ν κ) (role : String) (pin : Pin) (cap : UInt64)
    (accept : Bytes → Trust → Except TrustError Trust) (t : Trust) : Task ν κ (Bytes × Trust) :=
  (c.fetchAccepted (pinnedFile t role pin) (pin.cap cap) accept t).mapError (pin.explain role)

/-- Retrieves the snapshot that the timestamp pins, unless it is current. -/
def updateSnapshot (c : Client ν κ) (k : Working) : Task ν κ Working := do
  if k.trust.isSnapshotCurrent c.primitives then return k
  let some timestamp := k.trust.timestamp
    | Task.fail (k.trust.tooEarly Role.snapshot.name)
  let pin ← Task.ofExcept (Trust.requireSnapshotPin timestamp.payload)
  let (bs, trust) ← c.fetchPinned Role.snapshot.name pin c.limits.snapshotSizeCap
    (fun bs t => t.updateSnapshot c.primitives bs .remote) k.trust
  c.noteAccepted .snapshot pin.version bs { k with trust }

/-- The pin of a targets role in the trusted snapshot. -/
def requireTargetsPin (s : Snapshot) (role : String) : Except TrustError Pin :=
  match s.pin? role with
  | some pin => .ok pin
  | none => .error (.pinMismatch role .unlistedBySnapshot)

/-- Retrieves the top-level targets that the snapshot pins, unless they are current. -/
def updateTargets (c : Client ν κ) (k : Working) : Task ν κ Working := do
  if k.trust.isTargetsCurrent c.primitives then return k
  let some snapshot := k.trust.snapshot
    | Task.fail (k.trust.tooEarly Role.targets.name)
  let pin ← Task.ofExcept (requireTargetsPin snapshot.payload Role.targets.name)
  let (bs, trust) ← c.fetchPinned Role.targets.name pin c.limits.targetsSizeCap
    (fun bs t => t.updateTargets c.primitives bs .remote) k.trust
  c.noteAccepted .targets pin.version bs { k with trust }

/-! ### The whole refresh -/

/-- The chain of steps from the copy of trust to one that is verified as a whole. -/
def runRefresh (c : Client ν κ) (now : Instant) (committed : Option Trust) : Task ν κ Working := do
  let k ← c.workingCopy now committed
  let k ← c.updateRootChain k
  let k ← if k.cold then c.loadFloors k else pure k
  let k ← c.updateTimestamp k
  let k ← c.updateSnapshot k
  let k ← c.updateTargets k
  Task.ofExcept (k.trust.checkConsistent c.primitives)
  return k

/-- Brings what is committed up to date. -/
def refresh (c : Client ν κ) (now : Instant) (s : Session ν κ) :
    Except TrustError Unit × Session ν κ :=
  match c.runRefresh now s.committed s.world with
  | (.error e, w) =>
    (.error e, { s with world := { w with events := w.events ++ [.refreshFailed e] } })
  | (.ok k, w) =>
    let world := { w with events := w.events ++ [.refreshCompleted] }
    let outcome := match k.saveError with
      | some e => .error (.store e)
      | none => .ok ()
    (outcome, { committed := some k.trust, world })

end Client

end SecureUpdate
