import SecureUpdate.Text.Duration

/-!
The ways in which moving bytes fails, before anything is said about trust in them.
-/

namespace SecureUpdate

inductive FetchError where
  /-- The resource does not exist. -/
  | notFound (resource : String)
  /-- The body is longer than the caller allowed. -/
  | lengthExceeded (maxLength received : Nat)
  /-- No answer came within so many nanoseconds. -/
  | timeout (nanos : Nat)
  /-- The credentials were refused. -/
  | unauthorized (status : Nat)
  /-- The server reported an outage of its own. -/
  | retryable (status : Nat)
  /-- Any other status that is not success. -/
  | status (status : Nat)
  /-- A plaintext address was used without leave. -/
  | insecureUrl (url : String)
  /-- The connection failed. -/
  | transport (detail : String)
  /-- A local file could not be read. -/
  | io (detail : String)
deriving DecidableEq

namespace FetchError

def message : FetchError → String
  | notFound resource => s!"resource not found: {resource}"
  | lengthExceeded maxLength received =>
    s!"response exceeds {maxLength} bytes (received at least {received})"
  | timeout nanos => s!"request timed out after {Text.duration nanos}"
  | unauthorized code => s!"unauthorized: status {code}"
  | retryable code => s!"transient remote error: status {code}"
  | status code => s!"unexpected status {code}"
  | insecureUrl url => s!"insecure url requires explicit opt-in: {url}"
  | transport detail => s!"transport error: {detail}"
  | io detail => s!"io error: {detail}"

/-- Whether trying again, or elsewhere, may succeed. -/
def isRetryable : FetchError → Bool
  | timeout _ | retryable _ | transport _ => true
  | _ => false

def isNotFound : FetchError → Bool
  | notFound _ => true
  | _ => false

end FetchError

end SecureUpdate
