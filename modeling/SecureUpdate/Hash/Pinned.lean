import SecureUpdate.Dict
import SecureUpdate.Primitives
import SecureUpdate.Text.Hex

/-!
Digests that metadata declares for a file, by the name of the algorithm, and the check of bytes
against them. An algorithm without a known digest counts as a mismatch, so the check fails closed.
Main statement: `firstMismatch_eq_none_iff`.
-/

namespace SecureUpdate

/-- Hexadecimal digests by the name of their algorithm. -/
abbrev Hashes := Dict String

namespace Hashes

/-- The hexadecimal digest of some bytes under a known algorithm. -/
def digest? (p : Primitives) (algorithm : String) (bs : Bytes) : Option String :=
  if algorithm = "sha256" then some (Text.Hex.encode (p.sha256 bs))
  else if algorithm = "sha512" then some (Text.Hex.encode (p.sha512 bs))
  else none

/-- A text with the ASCII letters in lower case. -/
def lowerCase (s : String) : List Char := s.toList.map Char.toLower

/-- Whether the bytes have the declared digest, in either case of letters. -/
def agrees (p : Primitives) (bs : Bytes) (algorithm declared : String) : Bool :=
  match digest? p algorithm bs with
  | some actual => lowerCase actual == lowerCase declared
  | none => false

/-- The first algorithm, by name, whose digest the bytes do not have. -/
def firstMismatch (p : Primitives) (bs : Bytes) (hashes : Hashes) : Option String :=
  (hashes.entries.find? fun e => !agrees p bs e.1 e.2).map (·.1)

/-- There is no mismatch exactly when the bytes have every declared digest. -/
theorem firstMismatch_eq_none_iff {p : Primitives} {bs : Bytes} {hashes : Hashes} :
    firstMismatch p bs hashes = none ↔ ∀ e ∈ hashes.entries, agrees p bs e.1 e.2 = true := by
  simp [firstMismatch]

end Hashes

end SecureUpdate
