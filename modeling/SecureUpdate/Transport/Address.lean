import SecureUpdate.Text.Percent

/-!
The path and query of an address as a request line has them: steps up and steps that stay are taken,
and characters that an address cannot hold are percent-encoded.
-/

namespace SecureUpdate.Transport

/-- Whether a byte has to be encoded in a path. -/
def encodedInPath (b : UInt8) : Bool :=
  b ≤ 0x20 || b ≥ 0x7F || b == 0x22 || b == 0x23 || b == 0x3C || b == 0x3E || b == 0x3F ||
    b == 0x5E || b == 0x60 || b == 0x7B || b == 0x7D

/-- Whether a byte has to be encoded in a query. -/
def encodedInQuery (b : UInt8) : Bool :=
  b ≤ 0x20 || b ≥ 0x7F || b == 0x22 || b == 0x23 || b == 0x27 || b == 0x3C || b == 0x3E

/-- A text with the bytes encoded that must be. -/
def encodeWhere (must : UInt8 → Bool) (cs : List Char) : String :=
  String.ofList ((Bytes.ofText (String.ofList cs)).flatMap fun b =>
    if must b then Text.Percent.escape b else [Char.ofNat b.toNat])

/-- The spellings of a step to the same directory and of one up. -/
def isSame (step : String) : Bool := [".", "%2e"].contains step.toLower
def isUp (step : String) : Bool := ["..", ".%2e", "%2e.", "%2e%2e"].contains step.toLower

/-- The steps of a path, last first, once the spelled steps have been taken. -/
def takeSteps (taken : List String) : List String → List String
  | [] => taken
  | [last] =>
    if isUp last then "" :: taken.tail
    else if isSame last then "" :: taken
    else last :: taken
  | step :: steps =>
    if isUp step then takeSteps taken.tail steps
    else if isSame step then takeSteps taken steps
    else takeSteps (step :: taken) steps

/-- The path and query of a request for what stands after the host in an address. -/
def requestTarget (address : String) : String :=
  let cs := address.toList.filter fun c => c != '\t' && c != '\n' && c != '\r'
  let cs := (cs.reverse.dropWhile fun c => c.toNat ≤ 0x20).reverse
  let cs := cs.takeWhile (· != '#')
  let path := (cs.takeWhile (· != '?')).map fun c => if c == '\\' then '/' else c
  let query := cs.dropWhile (· != '?')
  let path := match path with
    | '/' :: path => path
    | path => path
  let steps := (String.ofList path).splitOn "/"
  let steps := (takeSteps [] (steps.map fun s => encodeWhere encodedInPath s.toList)).reverse
  "/" ++ "/".intercalate steps ++
    match query with
    | _ :: query => "?" ++ encodeWhere encodedInQuery query
    | [] => ""

end SecureUpdate.Transport
