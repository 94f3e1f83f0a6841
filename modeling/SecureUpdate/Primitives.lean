import SecureUpdate.Ed25519.Verification
import SecureUpdate.Hash.Sha256
import SecureUpdate.Unicode.NormalForm

/-!
The primitive functions that trust rests on. The rest of the library takes them as they are given,
so what it guarantees holds whatever they compute; `standard` is what clients use.
-/

namespace SecureUpdate

structure Primitives where
  /-- The normal form of a run of characters in canonical JSON. -/
  normalize : List Char → List Char
  sha256 : Bytes → Bytes
  sha512 : Bytes → Bytes
  /-- Whether 32 bytes are a usable public key. -/
  isPublicKey : Bytes → Bool
  /-- Whether, under a public key, a message has a signature. -/
  verifies : (key message signature : Bytes) → Bool

/-- Unicode normal form C, SHA-2 and strict Ed25519. -/
def Primitives.standard : Primitives where
  normalize := Unicode.normalFormC
  sha256 := Hash.Sha256.digest
  sha512 := Hash.Sha512.digest
  isPublicKey := Ed25519.isPublicKey
  verifies := Ed25519.verifies

end SecureUpdate
