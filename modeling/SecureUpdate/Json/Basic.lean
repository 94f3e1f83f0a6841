import SecureUpdate.Binary64
import SecureUpdate.Dict

/-!
JSON values. Numbers are told apart by whether they are 64-bit integers: only those have a canonical
form, all others are in floating point. The members of an object stand in key order.
-/

namespace SecureUpdate

inductive Json where
  | null
  | bool (b : Bool)
  /-- An integer that fits 64 bits, unsigned or, below zero, signed. -/
  | int (n : Int)
  /-- Any other number. -/
  | real (x : Binary64)
  | str (s : String)
  | arr (items : List Json)
  | obj (members : List (String × Json))
deriving Inhabited

namespace Json

/-- An unsigned 64-bit number as a value. -/
def ofUInt64 (n : UInt64) : Json := .int n.toNat

/-- A map as an object. -/
def ofDict {α : Type} (toJson : α → Json) (d : Dict α) : Json :=
  .obj (d.entries.map fun e => (e.1, toJson e.2))

/-- The object with these members; the last of two members with one name stays. -/
def mkObj (members : List (String × Json)) : Json :=
  .obj (SortedMap.ofList members).entries

/-- The member of an object under a name. -/
def member? (name : String) : Json → Option Json
  | .obj members => SortedMap.findEntry name members
  | _ => none

/-- The text of a string value. -/
def text? : Json → Option String
  | .str s => some s
  | _ => none

end Json

end SecureUpdate
