import SecureUpdate.Key.Basic
import SecureUpdate.Primitives
import SecureUpdate.Time.Instant

/-!
A small repository, in which one key signs for every role, and primitives with which it can be
followed by hand. Other modules run clients and stores of trust on it.
-/

namespace SecureUpdate

/-- Primitives that a reader can follow: a digest is the text itself, and a signature is good under
the key that it starts with. -/
def Primitives.transparent : Primitives where
  normalize := id
  sha256 := id
  sha512 := id
  isPublicKey _ := true
  verifies key _ signature := key.isPrefixOf signature

/-- Keys of the small repository: each is one digit over and over, and that digit is its id. -/
def Key.ofDigit (digit : Char) : Key :=
  ⟨Key.ed25519, Key.ed25519, String.ofList (List.replicate 64 digit)⟩

/-- Metadata as the small repository publishes it: the fields of a payload, and signatures. -/
def publish (signers : List Char) (payload : String) : Bytes :=
  let signatures := signers.map fun digit =>
    "[\"" ++ digit.toString ++ "\",\"" ++ String.ofList (List.replicate 128 digit) ++ "\"]"
  Bytes.ofText ("[" ++ payload ++ ",[" ++ ",".intercalate signatures ++ "]]")

namespace Sample

/-- When the small repository is asked. -/
def now : Instant := default

/-- A root that trusts key 1 for every role. -/
def root : Bytes :=
  publish ['1'] ("[\"root\",\"1\",false,1,\"2999-01-01T00:00:00Z\",\x7b\"1\":[\"ed25519\"," ++
    "\"ed25519\",[\"" ++ (Key.ofDigit '1').material ++ "\"]]\x7d," ++
    "[[[\"1\"],1],[[\"1\"],1],[[\"1\"],1],[[\"1\"],1]]]")

/-- A timestamp that pins a version of the snapshot. -/
def timestamp (version pinned : Nat) : Bytes :=
  publish ['1'] ("[\"timestamp\",\"1\"," ++ toString version ++ ",\"2999-01-01T00:00:00Z\"," ++
    "\x7b\"snapshot.json\":[" ++ toString pinned ++ "]\x7d]")

/-- A snapshot that pins a version of the targets. -/
def snapshot (version pinned : Nat) : Bytes :=
  publish ['1'] ("[\"snapshot\",\"1\"," ++ toString version ++ ",\"2999-01-01T00:00:00Z\"," ++
    "\x7b\"targets.json\":[" ++ toString pinned ++ "]\x7d]")

def targets (version : Nat) : Bytes :=
  publish ['1'] ("[\"targets\",\"1\"," ++ toString version ++ ",\"2999-01-01T00:00:00Z\"]")

end Sample

end SecureUpdate
