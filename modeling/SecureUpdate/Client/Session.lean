import SecureUpdate.Cache.Store
import SecureUpdate.Limits
import SecureUpdate.Mirror.Failover
import SecureUpdate.Telemetry
import SecureUpdate.Transport.Ceiling
import SecureUpdate.Trust.Acceptance

/-!
A client of one repository, the world it acts on, and its single steps on that world: to retrieve
and accept metadata, and to load and save it locally. A step that fails keeps what it did to the
world.
-/

namespace SecureUpdate

/-- A client: how it reaches mirrors and its local store, its limits, and the root it was shipped
with. -/
structure Client (ν κ : Type) where
  primitives : Primitives
  fetcher : Fetcher ν
  store : LocalStore κ
  mirrors : List Mirror
  limits : Limits
  initialRoot : Bytes

/-- What a client acts on: the network, the local store, and the events reported so far. -/
structure World (ν κ : Type) where
  net : ν
  cache : κ
  events : List Event

/-- A step that acts on the world and may fail. -/
def Task (ν κ α : Type) : Type := World ν κ → Except TrustError α × World ν κ

namespace Task

variable {ν κ α β : Type}

/-- The step that yields a value and leaves the world alone. -/
def done (x : α) : Task ν κ α := fun w => (.ok x, w)

/-- The step that fails and leaves the world alone. -/
def fail (e : TrustError) : Task ν κ α := fun w => (.error e, w)

/-- Does one step and then, if it succeeds, the next. -/
def andThen (a : Task ν κ α) (f : α → Task ν κ β) : Task ν κ β := fun w =>
  match a w with
  | (.ok x, w) => f x w
  | (.error e, w) => (.error e, w)

instance : Monad (Task ν κ) where
  pure := done
  bind := andThen

/-- The step that a computation without effects describes. -/
def ofExcept : Except TrustError α → Task ν κ α
  | .ok x => done x
  | .error e => fail e

/-- The same step, whose failure is put differently. -/
def mapError (f : TrustError → TrustError) (a : Task ν κ α) : Task ν κ α := fun w =>
  match a w with
  | (.ok x, w) => (.ok x, w)
  | (.error e, w) => (.error (f e), w)

end Task

/-- Reports an event. -/
def report {ν κ : Type} (e : Event) : Task ν κ Unit := fun w =>
  (.ok (), { w with events := w.events ++ [e] })

namespace Client

variable {ν κ : Type}

/-- The mirrors with the time that one request may take. -/
def mirrorList (c : Client ν κ) : MirrorList := ⟨c.mirrors, c.limits.fetchTimeout⟩

/-- Whether the initial root is metadata of the root role; no client is made otherwise. -/
def checkInitialRoot (c : Client ν κ) : Except TrustError Unit := do
  let _ ← Signed.parseAs c.primitives Root c.initialRoot
  return ()

/-- Retrieves a file of metadata that `accept` accepts on top of `t`, and gives its bytes and what
is trusted then. -/
def fetchAccepted (c : Client ν κ) (file : String) (maxLength : UInt64)
    (accept : Bytes → Trust → Except TrustError Trust) (t : Trust) : Task ν κ (Bytes × Trust) :=
  fun w =>
    match c.mirrorList.fetchVerified c.fetcher (Verifier.ofAcceptance accept) (.metadata file)
        maxLength w.net t with
    | (.ok bs, net, t) => (.ok (bs, t), { w with net })
    | (.error e, net, _) => (.error e, { w with net })

/-- The bytes that the local store holds for a role; a failure to load counts as nothing. -/
def loadCached (c : Client ν κ) (role : String) : Task ν κ (Option Bytes) := fun w =>
  match c.store.load role w.cache with
  | (.ok bs, cache) => (.ok bs, { w with cache })
  | (.error _, cache) => (.ok none, { w with cache })

/-- Saves the bytes of a role and tells how that failed, if it did. -/
def save (c : Client ν κ) (role : String) (bs : Bytes) : Task ν κ (Option StoreError) := fun w =>
  match c.store.save role bs w.cache with
  | (.ok (), cache) => (.ok none, { w with cache })
  | (.error e, cache) => (.ok (some e), { w with cache })

end Client

/-! ### Pinned lengths -/

namespace TrustError

mutual

/-- The failure in which each transfer that was cut off for its length is replaced by what `f` makes
of the length received. -/
def replaceLengthExceeded (f : Nat → TrustError) : TrustError → TrustError
  | fetch resource source =>
    match source with
    | .lengthExceeded _ received => f received
    | _ => fetch resource source
  | noWorkingMirror resource errors =>
    noWorkingMirror resource (replaceLengthExceededEach f errors)
  | e => e

def replaceLengthExceededEach (f : Nat → TrustError) :
    List (String × TrustError) → List (String × TrustError)
  | [] => []
  | (url, e) :: es => (url, replaceLengthExceeded f e) :: replaceLengthExceededEach f es

end

end TrustError

namespace Pin

/-- The greatest length to accept for a pinned file: one byte past a pinned length, so that a longer
body reaches the check of the pin. -/
def cap (pin : Pin) (otherwise : UInt64) : UInt64 :=
  match pin.length with
  | some length => onePast length
  | none => otherwise

/-- A failure to retrieve a pinned file, in which a transfer cut off past the pinned length is a
mismatch with the pin. -/
def explain (pin : Pin) (role : String) (e : TrustError) : TrustError :=
  match pin.length with
  | some length =>
    e.replaceLengthExceeded fun received => .pinMismatch role (.overlong received length.toNat)
  | none => e

end Pin

end SecureUpdate
