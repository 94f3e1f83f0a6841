import SecureUpdate.Bytes
import SecureUpdate.Files.System
import SecureUpdate.Transport.Ceiling
import SecureUpdate.Transport.Failure

/-!
The two ways to move bytes, over HTTP and from local files. Both refuse a body that is longer than
the caller allows, and both read no more of it than it takes to know that.
-/

namespace SecureUpdate.Transport

/-- How an HTTP response gives its body. -/
structure Response where
  status : Nat
  /-- The length that the response declares, if it does. -/
  declared : Option Nat
  /-- The pieces in which the body arrives. -/
  chunks : List Bytes
  /-- Whether the connection fails before the body is complete. -/
  broken : Bool

/-- Whether responses of a status have a body. -/
def hasBody (status : Nat) : Bool := status != 101 && status != 204 && status != 304

/-- The response with a declared length, of which `sent` is what arrives: bytes past the declared
length are ignored, and too few break the connection. -/
def Response.sized (status declared : Nat) (sent : Bytes) : Response :=
  if hasBody status then
    { status, declared := some declared, chunks := [sent.take declared]
      broken := sent.length < declared }
  else { status, declared := some 0, chunks := [], broken := false }

/-- The response that comes in chunks, of which an empty one is the last. -/
def Response.chunked (status : Nat) (chunks : List Bytes) : Response :=
  let chunks := chunks.takeWhile fun chunk => !chunk.isEmpty
  { status, declared := none, chunks := if hasBody status then chunks else [], broken := false }

/-- Whether a response of a status ends an exchange. Others announce a response that never comes, or
are no responses at all. -/
def isFinal (status : Nat) : Bool := status == 101 || (200 ≤ status && status ≤ 999)

/-- The greatest length that a response may declare. -/
def greatestDeclared : Nat := UInt64.size - 3

/-- Whether there is a response to go by at all. -/
def Response.isReadable (r : Response) : Bool :=
  isFinal r.status && r.declared.getD 0 ≤ greatestDeclared

/-- The failure that a status stands for. -/
def statusError? (resource : String) (status : Nat) : Option FetchError :=
  if 200 ≤ status ∧ status < 300 then none
  else if status = 404 then some (.notFound resource)
  else if status = 401 ∨ status = 403 then some (.unauthorized status)
  else if 500 ≤ status ∧ status < 600 then some (.retryable status)
  else some (.status status)

/-- Collects chunks after the first `received` bytes, up to the greatest length. -/
def collect (maxLength : UInt64) (received : Nat) : List Bytes → Except FetchError Bytes
  | [] => .ok []
  | chunk :: chunks =>
    let received := received + chunk.length
    if maxLength.toNat < received then .error (.lengthExceeded maxLength.toNat received)
    else (collect maxLength received chunks).map (chunk ++ ·)

/-- The body of a response. -/
def bodyOf (resource : String) (maxLength : UInt64) (r : Response) : Except FetchError Bytes := do
  if !r.isReadable then
    throw (.transport "no response")
  if let some e := statusError? resource r.status then
    throw e
  if let some declared := r.declared then
    if maxLength.toNat < declared then
      throw (.lengthExceeded maxLength.toNat declared)
  let body ← collect maxLength 0 r.chunks
  if r.broken then
    throw (.transport "connection closed before the message completed")
  return body

/-- How an address of plain HTTP starts. -/
def plaintextScheme : String := "http://"

/-- Whether an address may be asked for. -/
def requireSecure (allowPlaintext : Bool) (resource : String) : Except FetchError Unit :=
  if !allowPlaintext && plaintextScheme.toList.isPrefixOf resource.toList then
    .error (.insecureUrl resource)
  else .ok ()

/-- What requests say about who makes them. -/
def userAgent : String := "tuf-updater/0.1.0"

/-- Retrieves an address over HTTP, where `exchange` gives the response to it. -/
def fetchHttp (exchange : String → Response) (allowPlaintext : Bool) (resource : String)
    (maxLength : UInt64) : Except FetchError Bytes := do
  requireSecure allowPlaintext resource
  bodyOf resource maxLength (exchange resource)

/-- How an address of a local file starts, which may be left out. -/
def fileScheme : String := "file://"

/-- The path in the address of a local file. -/
def localPath (resource : String) : String :=
  if fileScheme.toList.isPrefixOf resource.toList then
    String.ofList (resource.toList.drop fileScheme.length)
  else resource

/-- The part of a body that is read: one byte past the greatest length shows that it is longer. -/
def readUpTo (maxLength : UInt64) (bs : Bytes) : Except FetchError Bytes :=
  let body := bs.take (onePast maxLength).toNat
  if maxLength.toNat < body.length then .error (.lengthExceeded maxLength.toNat body.length)
  else .ok body

/-- Retrieves a local file. -/
def fetchFile {φ : Type} (fs : FileSystem φ) (resource : String) (maxLength : UInt64) (d : φ) :
    Except FetchError Bytes × φ :=
  match fs.read (localPath resource) d with
  | (.ok bs, d) => (readUpTo maxLength bs, d)
  | (.error .notFound, d) => (.error (.notFound resource), d)
  | (.error e, d) => (.error (.io e.message), d)

end SecureUpdate.Transport
