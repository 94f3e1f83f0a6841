import SecureUpdate.Json.Basic

/-!
Records in JSON. A record is an object that holds its fields by name, other members being ignored,
or a list of the fields in their declared order, of which fields at the end may be left out.
Whether a field may be missing is up to how it is read.
-/

namespace SecureUpdate.Json

/-- The values of the named fields of a record, in the order of the names. -/
def fields? (names : List String) : Json → Option (List (Option Json))
  | .obj members => some (names.map fun name => SortedMap.findEntry name members)
  | .arr items =>
    if items.length ≤ names.length then
      some (items.map some ++ List.replicate (names.length - items.length) none)
    else none
  | _ => none

/-- An unsigned 64-bit number. -/
def uint64? : Json → Option UInt64
  | .int n => if 0 ≤ n ∧ n.toNat < UInt64.size then some (UInt64.ofNat n.toNat) else none
  | _ => none

def bool? : Json → Option Bool
  | .bool b => some b
  | _ => none

/-- A list, each item read alike. -/
def list? {α : Type} (item : Json → Option α) : Json → Option (List α)
  | .arr items => items.mapM item
  | _ => none

/-- An object as a map, each value read alike. -/
def dict? {α : Type} (value : Json → Option α) : Json → Option (Dict α)
  | .obj members =>
    (members.mapM fun m => (value m.2).map fun x => (m.1, x)).map SortedMap.ofList
  | _ => none

/-- A field that may be missing or null. -/
def optional {α : Type} (read : Json → Option α) : Option Json → Option (Option α)
  | none => some none
  | some .null => some none
  | some v => (read v).map some

/-- A field that has a value when it is missing. -/
def defaulting {α : Type} (value : α) (read : Json → Option α) : Option Json → Option α
  | none => some value
  | some v => read v

/-- An optional member: nothing when there is no value. -/
def optionalMember {α : Type} (name : String) (toJson : α → Json) (x : Option α) :
    List (String × Json) :=
  match x with
  | some x => [(name, toJson x)]
  | none => []

end SecureUpdate.Json
