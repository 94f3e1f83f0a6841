import SecureUpdate.Bytes
import SecureUpdate.Json.Basic
import SecureUpdate.Text.Decimal

/-!
The canonical form of a JSON value: one text per value, so that a signature over the text is a
signature over the value. There are no blanks; integers are decimal and other numbers have no
canonical form; strings escape only the quote and the backslash; the members of an object stand in
the order of their written names, quotes included. The text of a string is cut at the characters
that JSON text has to escape, and each run between two cuts is normalised on its own.

`normalize` is the normal form of runs; the client uses Unicode normal form C.
-/

namespace SecureUpdate.Json

/-- A character that JSON text cannot hold as it is: a quote, a backslash or a control character. -/
def isSpecial (c : Char) : Bool := c == '"' || c == '\\' || c.toNat < 0x20

/-- A special character as the canonical form writes it. -/
def writeSpecial (c : Char) : List Char := if c.toNat < 0x20 then [c] else ['\\', c]

/-- The characters of a string between its quotes; `run` is the run so far, last character first. -/
def writeRuns (normalize : List Char → List Char) (run : List Char) : List Char → List Char
  | [] => normalize run.reverse
  | c :: cs =>
    if isSpecial c then normalize run.reverse ++ writeSpecial c ++ writeRuns normalize [] cs
    else writeRuns normalize (c :: run) cs

/-- The canonical form of a string. -/
def writeString (normalize : List Char → List Char) (s : String) : List Char :=
  '"' :: writeRuns normalize [] s.toList ++ ['"']

/-- The canonical form of an integer. -/
def writeInt : Int → List Char
  | .ofNat n => Text.decimal n
  | .negSucc n => '-' :: Text.decimal (n + 1)

/-- Texts with a comma between any two of them. -/
def separated : List (List Char) → List Char
  | [] => []
  | [t] => t
  | t :: ts => t ++ ',' :: separated ts

/-- The members of an object between its braces, given the written names and values in the order of
the names they were written from: sorted by the written name, where a later member replaces an
earlier one of the same written name. -/
def writeMembers (members : List (String × List Char)) : List Char :=
  separated ((SortedMap.ofList members).entries.map fun m => m.1.toList ++ ':' :: m.2)

mutual

/-- The canonical form of a value, if it has one. -/
def write (normalize : List Char → List Char) : Json → Option (List Char)
  | .null => some ['n', 'u', 'l', 'l']
  | .bool true => some ['t', 'r', 'u', 'e']
  | .bool false => some ['f', 'a', 'l', 's', 'e']
  | .int n => some (writeInt n)
  | .real _ => none
  | .str s => some (writeString normalize s)
  | .arr items => (writeItems normalize items).map fun ts => '[' :: separated ts ++ [']']
  | .obj members => (writeEach normalize members).map fun ms => '{' :: writeMembers ms ++ ['}']

def writeItems (normalize : List Char → List Char) : List Json → Option (List (List Char))
  | [] => some []
  | v :: vs => do
    let t ← write normalize v
    let ts ← writeItems normalize vs
    some (t :: ts)

/-- The written names and values of members. -/
def writeEach (normalize : List Char → List Char) :
    List (String × Json) → Option (List (String × List Char))
  | [] => some []
  | (name, v) :: ms => do
    let t ← write normalize v
    let ts ← writeEach normalize ms
    some ((String.ofList (writeString normalize name), t) :: ts)

end

/-- The bytes of the canonical form. -/
def canonical (normalize : List Char → List Char) (v : Json) : Option Bytes :=
  (write normalize v).map fun t => Bytes.ofText (String.ofList t)

end SecureUpdate.Json
