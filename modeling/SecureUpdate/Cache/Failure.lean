/-!
The ways in which the local store of metadata fails.
-/

namespace SecureUpdate

inductive StoreError where
  | database (detail : String)
  | io (detail : String)
  /-- A written file could not be moved to its place. -/
  | persist (detail : String)
deriving DecidableEq

def StoreError.message : StoreError → String
  | database detail => s!"database error: {detail}"
  | io detail => s!"filesystem error: {detail}"
  | persist detail => s!"failed to persist file: {detail}"

end SecureUpdate
