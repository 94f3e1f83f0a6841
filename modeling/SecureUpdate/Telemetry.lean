import SecureUpdate.Error

/-!
What a client reports about its work, and counters that sum it up.
-/

namespace SecureUpdate

/-- Something that happened in a client. -/
inductive Event where
  /-- Metadata of a role was verified and is trusted. -/
  | accepted (role : String) (version : UInt64)
  /-- The trusted root moved to a version. -/
  | rotated (version : UInt64)
  | refreshCompleted
  | refreshFailed (error : TrustError)
  /-- A target was verified and written. -/
  | downloaded (path : String) (length : UInt64)

/-- Counts of events. They wrap at 64 bits. -/
structure Counters where
  metadataAccepted : UInt64 := 0
  rootRotations : UInt64 := 0
  refreshSuccess : UInt64 := 0
  refreshError : UInt64 := 0
  /-- Refreshes that failed because of a rollback. -/
  rollbackRejected : UInt64 := 0
  targetsDownloaded : UInt64 := 0
  targetBytes : UInt64 := 0
deriving DecidableEq

namespace Counters

def isRollback : TrustError → Bool
  | .rollbackAttack _ _ _ => true
  | _ => false

/-- The counters after one more event. -/
def record (c : Counters) : Event → Counters
  | .accepted _ _ => { c with metadataAccepted := c.metadataAccepted + 1 }
  | .rotated _ => { c with rootRotations := c.rootRotations + 1 }
  | .refreshCompleted => { c with refreshSuccess := c.refreshSuccess + 1 }
  | .refreshFailed e =>
    { c with
      refreshError := c.refreshError + 1
      rollbackRejected := if isRollback e then c.rollbackRejected + 1 else c.rollbackRejected }
  | .downloaded _ length =>
    { c with
      targetsDownloaded := c.targetsDownloaded + 1
      targetBytes := c.targetBytes + length }

/-- The counters after some events. -/
def ofEvents (events : List Event) : Counters := events.foldl record {}

def display (c : Counters) : String :=
  s!"metadata_accepted={c.metadataAccepted}, root_rotations={c.rootRotations}, " ++
  s!"refresh_success={c.refreshSuccess}, refresh_error={c.refreshError}, " ++
  s!"rollback_rejected={c.rollbackRejected}, targets_downloaded={c.targetsDownloaded}, " ++
  s!"target_bytes={c.targetBytes}"

end Counters

/-- An observer of events: one that ignores them, or one that counts. -/
inductive Observer where
  | silent
  | counting (c : Counters)
deriving DecidableEq

def Observer.notify (o : Observer) (e : Event) : Observer :=
  match o with
  | silent => silent
  | counting c => counting (c.record e)

/-- Observers that all receive the same events. -/
structure Observers where
  members : List Observer
deriving DecidableEq

namespace Observers

def notify (os : Observers) (e : Event) : Observers := ⟨os.members.map (·.notify e)⟩

/-- How a group of observers shows itself in a log. -/
def describe (os : Observers) : String :=
  "CompositeTelemetry \x7b observer_count: " ++ toString os.members.length ++ " \x7d"

end Observers

end SecureUpdate
