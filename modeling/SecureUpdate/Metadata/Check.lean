import SecureUpdate.Metadata.Payload

/-!
What a payload has to satisfy beyond its form: a known major version of the format, a version of its
own of at least 1, the references that its role must hold, and nothing pinned or listed without what
it takes to check it. The first fault in this order is reported.
-/

namespace SecureUpdate

/-- The text before the first point, or all of it. -/
def majorVersion (specVersion : String) : List Char := specVersion.toList.takeWhile (· != '.')

namespace Pin

/-- The fault of a pin listed under a file name. -/
def fault? (file : String) (pin : Pin) : Option Malformation :=
  if pin.version = 0 then some (.pinsVersionZero file)
  else match pin.hashes with
    | some hashes => if hashes.isEmpty then some (.pinsNoHashes file) else none
    | none => none

/-- The fault of the first pin, by file name, that has one. -/
def firstFault? (pins : Dict Pin) : Option Malformation :=
  pins.entries.findSome? fun e => fault? e.1 e.2

end Pin

/-- The first name that occurs before in a list. -/
def firstRepeated? : List String → List String → Option String
  | _, [] => none
  | seen, name :: names =>
    if seen.contains name then some name else firstRepeated? (name :: seen) names

namespace Targets

def fault? (t : Targets) : Option Malformation :=
  match t.targets.entries.find? fun e => e.2.hashes.isEmpty with
  | some e => some (.targetWithoutHashes e.1)
  | none => (firstRepeated? [] (t.delegated.map (·.name))).map .delegatedTwice

end Targets

namespace Payload

/-- The first fault of a payload. -/
def fault? (p : Payload) : Option Malformation :=
  if majorVersion p.header.specVersion ≠ ['1'] then some (.unsupportedVersion p.header.specVersion)
  else if p.header.version = 0 then some .versionZero
  else match p with
    | root _ => none
    | timestamp t =>
      if t.snapshotPin?.isNone then some (.missingReference (Role.fileOf Role.snapshot.name))
      else Pin.firstFault? t.pins
    | snapshot s =>
      if (s.pin? Role.targets.name).isNone then
        some (.missingReference (Role.fileOf Role.targets.name))
      else Pin.firstFault? s.pins
    | targets t => t.fault?

/-- Refuses a payload that has a fault. -/
def check (p : Payload) : Except TrustError Unit :=
  match p.fault? with
  | some fault => .error (.malformedMetadata p.role.name fault)
  | none => .ok ()

end Payload

end SecureUpdate
