import SecureUpdate.Cache.Failure
import SecureUpdate.Metadata.Role
import SecureUpdate.Time.Instant
import SecureUpdate.Transport.Failure

/-!
Why metadata or a target was not accepted. Failures of trust are kept apart from failures to move
bytes, so that an attack is not taken for an outage.
-/

namespace SecureUpdate

/-- What is wrong with the form of metadata. -/
inductive Malformation where
  /-- The text, a date or a number in it cannot be decoded, or it has no canonical form. -/
  | undecodable
  | unsupportedVersion (specVersion : String)
  | versionZero
  /-- A file that has to be listed is not. -/
  | missingReference (file : String)
  | pinsVersionZero (file : String)
  | pinsNoHashes (file : String)
  | targetWithoutHashes (path : String)
  | delegatedTwice (name : String)
  | unexpectedRole (expected found : Role)
  | notDelegatedBy (delegator : String)
  /-- A reason given by whoever supplied the metadata. -/
  | stated (reason : String)
deriving DecidableEq

def Malformation.message : Malformation → String
  | undecodable => "not decodable"
  | unsupportedVersion specVersion => s!"unsupported spec_version '{specVersion}'"
  | versionZero => "version must be at least 1"
  | missingReference file => s!"missing {file} reference"
  | pinsVersionZero file => s!"'{file}' pins version 0"
  | pinsNoHashes file => s!"'{file}' pins an empty hash set"
  | targetWithoutHashes path => s!"target '{path}' declares no hashes"
  | delegatedTwice name => s!"delegated role '{name}' declared twice"
  | unexpectedRole expected found => s!"expected {expected.name} metadata, found {found.name}"
  | notDelegatedBy delegator => s!"role is not delegated by '{delegator}'"
  | stated reason => reason

/-- How metadata differs from what another role pins for it. -/
inductive PinMismatch where
  | length (actual pinned : Nat)
  | hash (algorithm : String)
  | version (actual pinned : UInt64)
  /-- The role that has to list it does not. -/
  | unlisted
  /-- The snapshot that has to list it does not. -/
  | unlistedBySnapshot
  /-- The transfer was cut off past the pinned length. -/
  | overlong (received pinned : Nat)
  | notTimestampPin
  | notSnapshotPin
  | stated (reason : String)
deriving DecidableEq

def PinMismatch.message : PinMismatch → String
  | length actual pinned => s!"length {actual} differs from pinned {pinned}"
  | hash algorithm => s!"{algorithm} hash differs from pinned value"
  | version actual pinned => s!"version {actual} differs from pinned version {pinned}"
  | unlisted => "role is not listed by its parent"
  | unlistedBySnapshot => "role is not listed by the snapshot"
  | overlong received pinned => s!"received at least {received} bytes, pinned length is {pinned}"
  | notTimestampPin => "does not match the timestamp pin"
  | notSnapshotPin => "does not match the snapshot pin"
  | stated reason => reason

/-- Why a search through delegations was given up. -/
inductive SearchLimit where
  | reached (visited maxVisited depth maxDepth : Nat)
  | stated (reason : String)
deriving DecidableEq

def SearchLimit.message : SearchLimit → String
  | reached visited maxVisited depth maxDepth =>
    s!"visited {visited} of {maxVisited} roles at depth {depth} of {maxDepth}"
  | stated reason => reason

inductive TrustError where
  | malformedMetadata (role : String) (reason : Malformation)
  /-- Too few distinct authorized keys signed. -/
  | unsignedMetadata (role : String) (valid : Nat) (threshold : UInt64)
  /-- A candidate is older than what is trusted; version 0 stands for a file no longer listed. -/
  | rollbackAttack (role : String) (trusted candidate : UInt64)
  /-- A root candidate is not the next version. -/
  | badVersionNumber (role : String) (expected actual : UInt64)
  | expiredMetadata (role : String) (expires : Instant)
  | pinMismatch (role : String) (reason : PinMismatch)
  | downloadLengthMismatch (path : String) (expected actual : Nat)
  | downloadHashMismatch (path : String) (algorithm : String)
  | delegationLoopOrDepth (role : String) (reason : SearchLimit)
  | unknownTarget (path : String)
  | targetTooLarge (path : String) (length cap : UInt64)
  /-- A role was offered before the roles it rests on. -/
  | invalidTransition (role : String) (stage : Stage)
  | fetch (resource : String) (source : FetchError)
  /-- Every eligible mirror failed; each failure stands with the address of its mirror. -/
  | noWorkingMirror (resource : String) (errors : List (String × TrustError))
  | store (source : StoreError)
  | io (detail : String)

namespace TrustError

mutual

/-- The text that a user sees. -/
def message : TrustError → String
  | malformedMetadata role reason => s!"malformed {role} metadata: {reason.message}"
  | unsignedMetadata role valid threshold =>
    s!"{role} metadata signature threshold not met ({valid}/{threshold})"
  | rollbackAttack role trusted candidate =>
    s!"rollback attack on {role}: candidate version {candidate} is below trusted version {trusted}"
  | badVersionNumber role expected actual =>
    s!"{role} version {actual} does not match expected version {expected}"
  | expiredMetadata role expires => s!"{role} metadata expired at {expires.display}"
  | pinMismatch role reason =>
    s!"{role} metadata does not match its pinned reference: {reason.message}"
  | downloadLengthMismatch path expected actual =>
    s!"target '{path}' length mismatch (expected {expected}, received {actual})"
  | downloadHashMismatch path algorithm =>
    s!"target '{path}' failed '{algorithm}' hash verification"
  | delegationLoopOrDepth role reason => s!"delegation search stopped at '{role}': {reason.message}"
  | unknownTarget path => s!"target '{path}' is not listed by any trusted targets role"
  | targetTooLarge path length cap =>
    s!"target '{path}' declares {length} bytes, above the {cap} byte ceiling"
  | invalidTransition role stage =>
    s!"cannot load {role} metadata while the trusted store is {stage.label}"
  | fetch resource source => s!"failed to fetch '{resource}': {source.message}"
  | noWorkingMirror resource [] => s!"no working mirror for '{resource}': no mirrors configured"
  | noWorkingMirror resource (e :: es) =>
    s!"no working mirror for '{resource}': " ++ "; ".intercalate (messages (e :: es))
  | store source => s!"local store error: {source.message}"
  | io detail => s!"filesystem error: {detail}"

/-- The failures of mirrors, each after the address of its mirror. -/
def messages : List (String × TrustError) → List String
  | [] => []
  | (url, e) :: es => s!"{url}: {message e}" :: messages es

end

mutual

/-- Whether the failure came from moving bytes and not from checking them. -/
def isTransport : TrustError → Bool
  | fetch _ _ => true
  | noWorkingMirror _ errors => allTransport errors
  | _ => false

def allTransport : List (String × TrustError) → Bool
  | [] => true
  | (_, e) :: es => isTransport e && allTransport es

end

mutual

/-- Whether the failure means that the resource does not exist. -/
def isNotFound : TrustError → Bool
  | fetch _ source => source.isNotFound
  | noWorkingMirror _ errors => !errors.isEmpty && allNotFound errors
  | _ => false

def allNotFound : List (String × TrustError) → Bool
  | [] => true
  | (_, e) :: es => isNotFound e && allNotFound es

end

end TrustError

end SecureUpdate
