/-!
The four top-level roles, and how far trust has come along their chain.
-/

namespace SecureUpdate

/-- A top-level role. -/
inductive Role where
  | root
  | timestamp
  | snapshot
  | targets
deriving DecidableEq

namespace Role

/-- The name that metadata and the local store use for a role. -/
def name : Role → String
  | root => "root"
  | timestamp => "timestamp"
  | snapshot => "snapshot"
  | targets => "targets"

def ofName? (s : String) : Option Role :=
  if s = "root" then some root
  else if s = "timestamp" then some timestamp
  else if s = "snapshot" then some snapshot
  else if s = "targets" then some targets
  else none

theorem ofName?_name (r : Role) : ofName? r.name = some r := by cases r <;> decide

theorem name_injective {r s : Role} (h : r.name = s.name) : r = s := by
  cases r <;> cases s <;> first | rfl | exact absurd h (by decide)

/-- The name under which a role's metadata is listed. -/
def fileOf (role : String) : String := role ++ ".json"

end Role

/-- The furthest role whose metadata is trusted. -/
inductive Stage where
  | empty
  | rootLoaded
  | timestampLoaded
  | snapshotLoaded
  | targetsLoaded
  | delegatedLoaded
deriving DecidableEq

def Stage.label : Stage → String
  | empty => "empty"
  | rootLoaded => "root-loaded"
  | timestampLoaded => "timestamp-loaded"
  | snapshotLoaded => "snapshot-loaded"
  | targetsLoaded => "targets-loaded"
  | delegatedLoaded => "delegated-targets-loaded"

end SecureUpdate
