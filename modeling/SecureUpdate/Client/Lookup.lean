import SecureUpdate.Client.Refresh
import SecureUpdate.Delegation.Search

/-!
The look-up of a target in the trusted targets and their delegations. Metadata of delegated roles
comes from what is trusted, then from the local store, then from the mirrors, and in each case only
if it is the current one by the trusted snapshot.
-/

namespace SecureUpdate

namespace Client

variable {ν κ : Type}

/-- The state of a search: what is trusted, and the world. -/
abbrev LookupState (ν κ : Type) := Trust × World ν κ

/-- Accepts cached metadata of a delegated role if it is current, and says whether it did. -/
def loadDelegated (c : Client ν κ) (role delegator : String) (s : LookupState ν κ) :
    Bool × LookupState ν κ :=
  match c.store.load role s.2.cache with
  | (.ok (some bs), cache) =>
    let w := { s.2 with cache }
    match s.1.updateDelegated c.primitives bs role delegator .cache with
    | .ok t => if t.isDelegatedCurrent c.primitives role then (true, t, w) else (false, s.1, w)
    | .error _ => (false, s.1, w)
  | (_, cache) => (false, s.1, { s.2 with cache })

/-- Retrieves metadata of a delegated role, reports it and saves it; a failure to save is ignored.
-/
def fetchDelegated (c : Client ν κ) (role delegator : String) (t : Trust) : Task ν κ Trust := do
  let some pin := t.snapshot.bind fun s => s.payload.pin? role
    | Task.fail (.pinMismatch role .unlistedBySnapshot)
  let (bs, t) ← c.fetchPinned role pin c.limits.targetsSizeCap
    (fun bs t => t.updateDelegated c.primitives bs role delegator .remote) t
  report (.accepted role pin.version)
  let _ ← c.save role bs
  return t

/-- The metadata that is trusted for a delegated role. -/
def heldDelegated (t : Trust) (role : String) : Except TrustError (Verified Targets) :=
  match t.delegated.get? role with
  | some held => .ok held
  | none => .error (t.tooEarly role)

/-- Supplies a search with the current metadata of delegated roles. -/
def delegatedTargets (c : Client ν κ) : DelegationSource (LookupState ν κ) :=
  fun delegation delegator s =>
    let role := delegation.name
    if s.1.isDelegatedCurrent c.primitives role then (heldDelegated s.1 role, s)
    else
      match c.loadDelegated role delegator s with
      | (true, s) => (heldDelegated s.1 role, s)
      | (false, s) =>
        match c.fetchDelegated role delegator s.1 s.2 with
        | (.ok t, w) => (heldDelegated t role, t, w)
        | (.error e, w) => (.error e, s.1, w)

def searchBounds (c : Client ν κ) : SearchBounds where
  maxVisited := c.limits.maxDelegations.toNat
  maxDepth := c.limits.maxDelegationDepth.toNat

/-- What the outcome of a search means for whoever asked for the path. -/
def answer (bounds : SearchBounds) (path : String) : SearchOutcome → Except TrustError Target
  | .found _ target => .ok target
  | .exhausted _ => .error (.unknownTarget path)
  | .boundExceeded role depth visited =>
    .error (.delegationLoopOrDepth role
      (.reached visited bounds.maxVisited depth bounds.maxDepth))
  | .fetchFailed _ e => .error e

/-- Looks a target up in what is trusted. -/
def lookup (c : Client ν κ) (path : String) (t : Trust) (w : World ν κ) :
    Except TrustError Target × LookupState ν κ :=
  match t.targets with
  | none => (.error (t.tooEarly Role.targets.name), t, w)
  | some top =>
    match Search.run c.primitives c.searchBounds c.delegatedTargets path top.payload (t, w) with
    | (.ok outcome, s) => (answer c.searchBounds path outcome, s)
    | (.error e, s) => (.error e, s)

/-- Looks a target up in what is committed. -/
def lookupCommitted (c : Client ν κ) (path : String) (s : Session ν κ) :
    Except TrustError Target × Session ν κ :=
  match s.committed with
  | none => (.error (.invalidTransition Role.targets.name .empty), s)
  | some t =>
    let (outcome, t, w) := c.lookup path t s.world
    (outcome, { committed := some t, world := w })

/-- The trusted description of a target; refreshes first if nothing is committed yet. -/
def targetInfo (c : Client ν κ) (now : Instant) (path : String) (s : Session ν κ) :
    Except TrustError Target × Session ν κ :=
  if s.committed.isSome then c.lookupCommitted path s
  else
    match c.refresh now s with
    | (.error e, s) => (.error e, s)
    | (.ok (), s) => c.lookupCommitted path s

end Client

end SecureUpdate
