import SecureUpdate.Hash.Pinned
import SecureUpdate.Json.Canonical
import SecureUpdate.Json.Fields

/-!
Public keys as metadata lists them, and rings of keys. Only Ed25519 keys can verify. A key of
another kind stays in the metadata and its id stays known, but it verifies nothing.
-/

namespace SecureUpdate

/-- A public key: its kind, its signing scheme and its material in hexadecimal. -/
structure Key where
  kind : String
  scheme : String
  material : String
deriving DecidableEq

namespace Key

/-- The texts by which keys are ordered. -/
def texts (k : Key) : List String := [k.kind, k.scheme, k.material]

theorem texts_injective {a b : Key} (h : a.texts = b.texts) : a = b := by
  cases a; cases b; simp_all [texts]

instance : LT Key := ⟨fun a b => a.texts < b.texts⟩
instance : DecidableLT Key := fun a b => inferInstanceAs (Decidable (a.texts < b.texts))

instance : KeyOrder Key where
  irrefl a := List.lt_irrefl a.texts
  trans h₁ h₂ := List.lt_trans h₁ h₂
  connected h₁ h₂ := texts_injective (List.le_antisymm h₂ h₁)

/-- The kind and the scheme of the keys that can verify. -/
def ed25519 : String := "ed25519"

/-- The Ed25519 key of some bytes. -/
def ofBytes (bs : Bytes) : Key := ⟨ed25519, ed25519, Text.Hex.encode bs⟩

def toJson (k : Key) : Json :=
  .mkObj [("keytype", .str k.kind), ("scheme", .str k.scheme),
    ("keyval", .mkObj [("public", .str k.material)])]

/-- The material in the object or list that holds it. -/
def materialOfJson? (v : Json) : Option String :=
  match v.fields? ["public"] with
  | some [material] => material >>= Json.text?
  | _ => none

def ofJson? (v : Json) : Option Key :=
  match v.fields? ["keytype", "scheme", "keyval"] with
  | some [kind, scheme, material] => do
    some ⟨← kind >>= Json.text?, ← scheme >>= Json.text?, ← material >>= materialOfJson?⟩
  | _ => none

/-- The conventional id of a key: the digest of its canonical form. -/
def id? (p : Primitives) (k : Key) : Option String :=
  (k.toJson.canonical p.normalize).map fun bs => Text.Hex.encode (p.sha256 bs)

/-- The bytes under which signatures of this key verify. -/
def publicKey? (p : Primitives) (k : Key) : Option Bytes :=
  if k.kind = ed25519 ∧ k.scheme = ed25519 then
    match Text.Hex.decode k.material with
    | some bs => if bs.length = 32 && p.isPublicKey bs then some bs else none
    | none => none
  else none

end Key

/-- The keys of a block of metadata by id, each with the bytes it verifies under if it can. -/
abbrev KeyRing := Dict (Option Bytes)

namespace KeyRing

/-- The ring of some declared keys. -/
def ofKeys (p : Primitives) (keys : Dict Key) : KeyRing := keys.mapEntries fun _ k => k.publicKey? p

/-- Whether an id was declared, usable or not. -/
def declares (ring : KeyRing) (id : String) : Bool := ring.contains id

/-- The bytes that signatures under an id verify with. -/
def usable? (ring : KeyRing) (id : String) : Option Bytes := (ring.get? id).join

/-- The number of usable keys. -/
def usableCount (ring : KeyRing) : Nat := ring.values.countP Option.isSome

end KeyRing

end SecureUpdate
