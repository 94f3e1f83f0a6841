import SecureUpdate.Ed25519.Curve
import SecureUpdate.Hash.Sha512

/-!
Ed25519 signatures, checked strictly: the scalar must be reduced, neither the key nor the point of
the signature may have small order, and the point must be written in its one canonical form.
-/

namespace SecureUpdate.Ed25519

/-- Whether bytes are the written form of a public key. -/
def isPublicKey (key : Bytes) : Bool := (Point.decode? key).isSome

/-- Whether `signature` is a signature of `message` under `key`. -/
def verifies (key message signature : Bytes) : Bool :=
  let written := signature.take 32
  let s := littleEndian (signature.drop 32)
  match Point.decode? key, Point.decode? written with
  | some a, some r =>
    let k := littleEndian (Hash.Sha512.digest (written ++ key ++ message)) % groupOrder
    signature.length == 64 && s < groupOrder && !a.isSmallOrder && !r.isSmallOrder &&
      ((Point.multiple s Point.base).add (Point.multiple k a.neg)).encode == written
  | _, _ => false

end SecureUpdate.Ed25519
