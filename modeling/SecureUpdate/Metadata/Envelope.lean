import SecureUpdate.Json.Reader
import SecureUpdate.Metadata.Check
import SecureUpdate.Metadata.Form

/-!
The envelope in which metadata travels: the payload under `signed`, and signatures over the
canonical form of `signed` exactly as it was received, members that nobody knows included.
-/

namespace SecureUpdate

/-- Metadata with its signatures. -/
structure Signed (α : Type) where
  payload : α
  signatures : List Signature
  /-- The value under `signed`. -/
  raw : Json
  /-- The canonical form of `raw`, which every signature covers. -/
  canonical : Bytes

namespace Signed

variable {α : Type}

/-- The envelope with one more signature. -/
def addSignature (m : Signed α) (s : Signature) : Signed α :=
  { m with signatures := m.signatures ++ [s] }

/-- The verdicts on the signatures. -/
def tally (p : Primitives) (m : Signed α) (authority : Authority) (ring : KeyRing) : Tally :=
  Tally.take p m.canonical m.signatures authority ring

/-- Whether enough distinct authorized keys signed. -/
def verifies (p : Primitives) (m : Signed α) (authority : Authority) (ring : KeyRing) : Bool :=
  (m.tally p authority ring).satisfied

/-- The envelope as a JSON value. -/
def toJson (m : Signed α) : Json :=
  .mkObj [("signatures", .arr (m.signatures.map Signature.toJson)), ("signed", m.raw)]

/-- The canonical form of the whole envelope. -/
def toBytes (p : Primitives) (m : Signed α) : Except TrustError Bytes :=
  match m.toJson.canonical p.normalize with
  | some bs => .ok bs
  | none => .error (.malformedMetadata "envelope" .undecodable)

/-- The same envelope around the payload of an expected role. -/
def narrow (α : Type) [RolePayload α] (m : Signed Payload) : Except TrustError (Signed α) :=
  match RolePayload.ofPayload? m.payload with
  | some payload => .ok { m with payload }
  | none =>
    let expected := RolePayload.role α
    .error (.malformedMetadata expected.name (.unexpectedRole expected m.payload.role))

section Header

variable [RolePayload α]

def version (m : Signed α) : UInt64 := (RolePayload.header m.payload).version

def expires (m : Signed α) : Instant := (RolePayload.header m.payload).expires

/-- Whether the metadata is expired: it must expire strictly after `now`. -/
def isExpired (m : Signed α) (now : Instant) : Bool := m.expires.isOver now

end Header

/-- Wraps a payload in an envelope without signatures. -/
def ofPayload (p : Primitives) (payload : Payload) : Except TrustError (Signed Payload) := do
  payload.check
  let raw := payload.toJson
  match raw.canonical p.normalize with
  | some canonical => return { payload, signatures := [], raw, canonical }
  | none => throw (.malformedMetadata payload.role.name .undecodable)

end Signed

/-! ### Reading -/

namespace Envelope

open Json.Reader

/-- The part of an envelope that a member holds. -/
inductive Part where
  | signed (v : Json)
  | signatures (ss : List Signature)
  | other

/-- The part of a signature that a member holds. -/
inductive SignaturePart where
  | keyId (s : String)
  | sig (s : String)
  | other

/-- A string, without blanks before it. -/
def text : Json.Reader String
  | 0x22 :: bs => stringBody bs
  | _ => none

/-- The one element of a list. -/
def single? {α : Type} : List α → Option α
  | [x] => some x
  | _ => none

/-- A signature: an object with a key id and signature bytes, each given once, or a list of the two.
Other members are skipped. -/
def signature (most : Nat) : Json.Reader Signature
  | 0x7B :: bs => do
    let (parts, bs) ← enclosed most (memberOf fun name bs =>
      if name = "keyid" then (text bs).map fun (s, bs) => (SignaturePart.keyId s, bs)
      else if name = "sig" then (text bs).map fun (s, bs) => (SignaturePart.sig s, bs)
      else (skip most bs).map fun (_, bs) => (.other, bs)) 0x7D bs
    let keyId ← single? (parts.filterMap fun
      | .keyId s => some s
      | _ => none)
    let sig ← single? (parts.filterMap fun
      | .sig s => some s
      | _ => none)
    some (⟨keyId, sig⟩, bs)
  | 0x5B :: bs => do
    let (texts, bs) ← enclosed most text 0x5D bs
    match texts with
    | [keyId, sig] => some (⟨keyId, sig⟩, bs)
    | _ => none
  | _ => none

/-- A list of signatures. -/
def signatures (most : Nat) : Json.Reader (List Signature)
  | 0x5B :: bs => enclosed most (signature most) 0x5D bs
  | _ => none

/-- The value under `signed`, which is one level inside the envelope. -/
def signed (most : Nat) : Json.Reader Json := value most (maxDepth - 1)

/-- The value and the signatures of an envelope: an object that holds each once, or a list of the
two. Other members are skipped. -/
def envelope (most : Nat) : Json.Reader (Json × List Signature)
  | 0x7B :: bs => do
    let (parts, bs) ← enclosed most (memberOf fun name bs =>
      if name = "signed" then (signed most bs).map fun (v, bs) => (Part.signed v, bs)
      else if name = "signatures" then (signatures most bs).map fun (ss, bs) => (.signatures ss, bs)
      else (skip most bs).map fun (_, bs) => (.other, bs)) 0x7D bs
    let v ← single? (parts.filterMap fun
      | .signed v => some v
      | _ => none)
    let ss ← single? (parts.filterMap fun
      | .signatures ss => some ss
      | _ => none)
    some ((v, ss), bs)
  | 0x5B :: bs => do
    let (v, bs) ← signed most (skipBlanks bs)
    match skipBlanks bs with
    | 0x2C :: bs =>
      let (ss, bs) ← signatures most (skipBlanks bs)
      match skipBlanks bs with
      | 0x5D :: bs => some ((v, ss), bs)
      | _ => none
    | _ => none
  | _ => none

end Envelope

/-- The role that a value says it is metadata of, for messages. -/
def declaredRole (v : Json) : String := ((v.member? "_type").bind Json.text?).getD "unknown"

/-- Reads metadata: the envelope, the canonical form of its payload, and the payload itself, which
must be without fault. -/
def Signed.parse (p : Primitives) (bs : Bytes) : Except TrustError (Signed Payload) :=
  match Json.Reader.whole Envelope.envelope bs with
  | none => .error (.malformedMetadata "unknown" .undecodable)
  | some (raw, signatures) =>
    match raw.canonical p.normalize, Payload.ofJson? raw with
    | some canonical, some payload => do
      payload.check
      return { payload, signatures, raw, canonical }
    | _, _ => .error (.malformedMetadata (declaredRole raw) .undecodable)

/-- Reads metadata of an expected role. -/
def Signed.parseAs (p : Primitives) (α : Type) [RolePayload α] (bs : Bytes) :
    Except TrustError (Signed α) := do
  let m ← Signed.parse p bs
  m.narrow α

end SecureUpdate
