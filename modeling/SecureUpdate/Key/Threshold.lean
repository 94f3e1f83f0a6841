import SecureUpdate.Key.Basic

/-!
Signatures over a message, and whether enough distinct keys made them. Every signature gets one
verdict; a key counts once, whether it signs twice or is listed under several ids.
-/

namespace SecureUpdate

/-- A signature: the id of the key it claims and its bytes in hexadecimal. -/
structure Signature where
  keyId : String
  sig : String
deriving DecidableEq

namespace Signature

def toJson (s : Signature) : Json := .mkObj [("keyid", .str s.keyId), ("sig", .str s.sig)]

def ofJson? (v : Json) : Option Signature :=
  match v.fields? ["keyid", "sig"] with
  | some [keyId, sig] => do some ⟨← keyId >>= Json.text?, ← sig >>= Json.text?⟩
  | _ => none

/-- Whether the signature verifies over a message under a public key. -/
def verifies (p : Primitives) (s : Signature) (key message : Bytes) : Bool :=
  match Text.Hex.decode s.sig with
  | some bs => bs.length == 64 && p.verifies key message bs
  | none => false

end Signature

/-- Who may sign for a role: key ids, and how many distinct keys must sign. -/
structure Authority where
  keyIds : List String
  threshold : UInt64
  threshold_pos : 0 < threshold
deriving DecidableEq

namespace Authority

def toMembers (a : Authority) : List (String × Json) :=
  [("keyids", .arr (a.keyIds.map .str)), ("threshold", .ofUInt64 a.threshold)]

def toJson (a : Authority) : Json := .mkObj a.toMembers

/-- The authority of some key ids and a threshold, which must not be zero. -/
def mk? (keyIds : List String) (threshold : UInt64) : Option Authority :=
  if h : 0 < threshold then some ⟨keyIds, threshold, h⟩ else none

/-- The authority that two fields hold. -/
def ofFields? (keyIds threshold : Option Json) : Option Authority := do
  mk? (← keyIds >>= Json.list? Json.text?) (← threshold >>= Json.uint64?)

def ofJson? (v : Json) : Option Authority :=
  match v.fields? ["keyids", "threshold"] with
  | some [keyIds, threshold] => ofFields? keyIds threshold
  | _ => none

end Authority

/-- What becomes of one signature. -/
inductive Verdict where
  /-- No key of that id is declared. -/
  | unknown
  /-- The key is declared but not authorized for the role. -/
  | untrusted
  /-- The key is authorized but of a kind that cannot verify. -/
  | unsupported
  | bad
  /-- The signature verifies under these bytes. -/
  | good (key : Bytes)
deriving DecidableEq

/-- The verdict on a signature over a message. -/
def verdict (p : Primitives) (message : Bytes) (authority : Authority) (ring : KeyRing)
    (s : Signature) : Verdict :=
  if !ring.declares s.keyId then .unknown
  else if !authority.keyIds.contains s.keyId then .untrusted
  else match ring.usable? s.keyId with
    | none => .unsupported
    | some key => if s.verifies p key message then .good key else .bad

/-- The verdicts on the signatures of one envelope, against a threshold. -/
structure Tally where
  threshold : UInt64
  /-- Each signature's key id with its verdict, in the order of the signatures. -/
  verdicts : List (String × Verdict)

namespace Tally

/-- The verdicts on signatures over a message. -/
def take (p : Primitives) (message : Bytes) (signatures : List Signature) (authority : Authority)
    (ring : KeyRing) : Tally where
  threshold := authority.threshold
  verdicts := signatures.map fun s => (s.keyId, verdict p message authority ring s)

/-- The key ids of the signatures with a kind of verdict, in order. -/
def idsOf (t : Tally) (kind : Verdict → Bool) : List String :=
  (t.verdicts.filter fun v => kind v.2).map (·.1)

def unknown (t : Tally) : List String := t.idsOf (· == .unknown)
def untrusted (t : Tally) : List String := t.idsOf (· == .untrusted)
def unsupported (t : Tally) : List String := t.idsOf (· == .unsupported)
def bad (t : Tally) : List String := t.idsOf (· == .bad)
def good (t : Tally) : List String := t.idsOf fun v => match v with
  | .good _ => true
  | _ => false

/-- The distinct keys with a good signature. -/
def validKeys (t : Tally) : List Bytes :=
  (t.verdicts.filterMap fun v => match v.2 with
    | .good key => some key
    | _ => none).eraseDups

/-- Whether enough distinct keys signed. -/
def satisfied (t : Tally) : Bool := t.threshold.toNat ≤ t.validKeys.length

end Tally

end SecureUpdate
