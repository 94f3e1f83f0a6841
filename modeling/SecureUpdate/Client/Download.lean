import SecureUpdate.Client.Refresh
import SecureUpdate.Files.Tree

/-!
The download of a target. Its bytes are checked against the declared length and every declared
digest before the destination is replaced, and the destination is replaced as a whole, so after a
download that fails it is what it was.
-/

namespace SecureUpdate

namespace Target

/-- The path with a digest before its last component. -/
def hashedName (path hash : String) : String :=
  let cs := path.toList
  let name := (cs.reverse.takeWhile (· != '/')).reverse
  String.ofList (cs.take (cs.length - name.length) ++ hash.toList ++ '.' :: name)

/-- A failed retrieval, in which a transfer cut off for its length is a mismatch of the length. -/
def explain (t : Target) (e : TrustError) : TrustError :=
  e.replaceLengthExceeded fun received =>
    .downloadLengthMismatch t.path t.length.toNat received

end Target

namespace Client

variable {ν κ φ : Type}

/-- The name that a target is stored under on the mirrors: in a consistent repository, and if the
limits say so, with its first digest. -/
def storedName (c : Client ν κ) (committed : Option Trust) (t : Target) : String :=
  if (committed.map (·.isConsistent)).getD false && c.limits.prefixTargetsWithHash then
    match t.hashes.values with
    | hash :: _ => Target.hashedName t.path hash
    | [] => t.path
  else t.path

/-- Retrieves the bytes of a target, checked against its description. One byte past the declared
length is allowed for, so that a longer body is reported with its length. -/
def fetchTarget (c : Client ν κ) (committed : Option Trust) (t : Target) : Task ν κ Bytes :=
  fun w =>
  let resource := Resource.target t.path (c.storedName committed t)
  match c.mirrorList.fetchVerified c.fetcher (Verifier.ofCheck (t.check c.primitives)) resource
      (onePast t.length) w.net () with
  | (.ok bs, net, _) => (.ok bs, { w with net })
  | (.error e, net, _) => (.error (t.explain e), { w with net })

/-- Replaces the content of a destination, whose directory is created if it is missing. -/
def writeFile (fs : FileSystem φ) (destination : String) (bs : Bytes) (d : φ) :
    Except TrustError Unit × φ :=
  let dir := FileTree.parent destination
  match fs.createDirs dir d with
  | (.error e, d) => (.error (.io e.message), d)
  | (.ok (), d) =>
    match fs.replace dir destination bs d with
    | (.ok (), d) => (.ok (), d)
    | (.error (.write e), d) => (.error (.io e.message), d)
    | (.error (.move e), d) => (.error (.io e.message), d)

/-- Downloads a target to a destination. -/
def download (c : Client ν κ) (fs : FileSystem φ) (t : Target) (destination : String)
    (s : Session ν κ) (d : φ) : Except TrustError Unit × Session ν κ × φ :=
  if c.limits.targetSizeCap < t.length then
    (.error (.targetTooLarge t.path t.length c.limits.targetSizeCap), s, d)
  else
    match c.fetchTarget s.committed t s.world with
    | (.error e, w) => (.error e, { s with world := w }, d)
    | (.ok bs, w) =>
      match writeFile fs destination bs d with
      | (.error e, d) => (.error e, { s with world := w }, d)
      | (.ok (), d) =>
        let world := { w with events := w.events ++ [.downloaded t.path t.length] }
        (.ok (), { s with world }, d)

/-- Whether a file already holds the bytes of a target. -/
def holdsTarget (p : Primitives) (fs : FileSystem φ) (t : Target) (path : String) (d : φ) :
    Except TrustError Bool × φ :=
  match fs.size path d with
  | (.error .notFound, d) => (.ok false, d)
  | (.error e, d) => (.error (.io e.message), d)
  | (.ok size, d) =>
    if size ≠ t.length.toNat then (.ok false, d)
    else
      match fs.read path d with
      | (.error e, d) => (.error (.io e.message), d)
      | (.ok bs, d) => (.ok (t.check p bs).isOk, d)

end Client

end SecureUpdate
