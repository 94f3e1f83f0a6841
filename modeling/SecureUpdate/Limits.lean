import SecureUpdate.Dict
import SecureUpdate.Text.Blank
import SecureUpdate.Text.Decimal

/-!
The limits that a client works under, and their settings in the environment. Each limit bounds the
work that an untrusted mirror can cause.
-/

namespace SecureUpdate

structure Limits where
  /-- Root versions accepted in one refresh. -/
  maxRootRotations : UInt64
  /-- Roles visited in one search, the top-level one included. -/
  maxDelegations : UInt64
  /-- Length of a chain of delegations. -/
  maxDelegationDepth : UInt64
  rootSizeCap : UInt64
  timestampSizeCap : UInt64
  /-- Used when the timestamp does not pin the length of the snapshot. -/
  snapshotSizeCap : UInt64
  /-- Used when the snapshot does not pin the length of a targets role. -/
  targetsSizeCap : UInt64
  /-- The largest target that may be downloaded. -/
  targetSizeCap : UInt64
  /-- The time that one request may take, in nanoseconds. -/
  fetchTimeout : Nat
  /-- Whether targets of consistent repositories are requested under names with their hash. -/
  prefixTargetsWithHash : Bool
deriving DecidableEq

namespace Limits

def standard : Limits where
  maxRootRotations := 32
  maxDelegations := 32
  maxDelegationDepth := 16
  rootSizeCap := 512000
  timestampSizeCap := 16384
  snapshotSizeCap := 2000000
  targetsSizeCap := 5000000
  targetSizeCap := 1024 * 1024 * 1024
  fetchTimeout := 30 * 1000000000
  prefixTargetsWithHash := true

/-- A positive number; any other setting, and none at all, leaves the value as it is. -/
def positive (setting : Option String) (value : UInt64) : UInt64 :=
  match setting.bind fun s => Text.readUnsigned (Text.trim s.toList) with
  | some n => if n = 0 then value else n
  | none => value

/-- A yes or no; any other setting leaves the value as it is. -/
def flag (setting : Option String) (value : Bool) : Bool :=
  match setting.map fun s => String.ofList ((Text.trim s.toList).map Char.toLower) with
  | some s =>
    if ["1", "true", "t", "yes", "y"].contains s then true
    else if ["0", "false", "f", "no", "n"].contains s then false
    else value
  | none => value

/-- The standard limits with the settings of an environment, of which the last one of a name
counts. -/
def ofEnvironment (settings : List (String × String)) : Limits :=
  let env := (SortedMap.ofList settings).get?
  let timeout : UInt64 := positive (env "TUF_FETCH_TIMEOUT_SECS") 30
  { maxRootRotations := positive (env "TUF_MAX_ROOT_ROTATIONS") standard.maxRootRotations
    maxDelegations := positive (env "TUF_MAX_DELEGATIONS") standard.maxDelegations
    maxDelegationDepth := positive (env "TUF_MAX_DELEGATION_DEPTH") standard.maxDelegationDepth
    rootSizeCap := positive (env "TUF_ROOT_SIZE_CAP") standard.rootSizeCap
    timestampSizeCap := positive (env "TUF_TIMESTAMP_SIZE_CAP") standard.timestampSizeCap
    snapshotSizeCap := positive (env "TUF_SNAPSHOT_SIZE_CAP") standard.snapshotSizeCap
    targetsSizeCap := positive (env "TUF_TARGETS_SIZE_CAP") standard.targetsSizeCap
    targetSizeCap := positive (env "TUF_TARGET_SIZE_CAP") standard.targetSizeCap
    fetchTimeout := timeout.toNat * 1000000000
    prefixTargetsWithHash :=
      flag (env "TUF_PREFIX_TARGETS_WITH_HASH") standard.prefixTargetsWithHash }

end Limits

end SecureUpdate
