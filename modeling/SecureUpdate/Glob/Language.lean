import SecureUpdate.Bytes

/-!
Sets of byte strings, built from sets of bytes by choice, sequence and repetition, and the test
whether a byte string belongs to one. The test reads the bytes one by one and keeps the list of what
may still follow; that list has no duplicates, so it stays as short as the expression.
-/

namespace SecureUpdate.Glob

/-- An expression for a set of byte strings. -/
inductive Language where
  /-- The empty byte string alone. -/
  | empty
  /-- One byte, from the given ranges or, when negated, outside all of them. -/
  | oneOf (negated : Bool) (ranges : List (UInt8 × UInt8))
  | seq (a b : Language)
  | choice (a b : Language)
  /-- Any number of repetitions. -/
  | many (a : Language)
deriving DecidableEq

namespace Language

/-- Any one byte. -/
def anyByte : Language := oneOf true []

/-- Any byte string. -/
def anything : Language := many anyByte

/-- One given byte. -/
def byte (b : UInt8) : Language := oneOf false [(b, b)]

/-- The members of the languages, one after the other. -/
def sequence : List Language → Language
  | [] => empty
  | [a] => a
  | a :: as => seq a (sequence as)

/-- One given byte string. -/
def literal (bs : Bytes) : Language := sequence (bs.map byte)

/-- The members of any of the languages. -/
def anyOf : Language → List Language → Language
  | a, [] => a
  | a, b :: bs => choice a (anyOf b bs)

/-- Whether the empty byte string belongs to the language. -/
def hasEmpty : Language → Bool
  | empty => true
  | oneOf _ _ => false
  | seq a b => hasEmpty a && hasEmpty b
  | choice a b => hasEmpty a || hasEmpty b
  | many _ => true

/-- Whether a byte is one of a set of bytes. -/
def admits (negated : Bool) (ranges : List (UInt8 × UInt8)) (b : UInt8) : Bool :=
  (ranges.any fun r => r.1 ≤ b && b ≤ r.2) != negated

/-- What may follow the byte `b` in the language, as the union of a list. -/
def after (b : UInt8) : Language → List Language
  | empty => []
  | oneOf negated ranges => if admits negated ranges b then [empty] else []
  | seq a c =>
    (after b a).map (fun d => if d = empty then c else seq d c) ++
      if hasEmpty a then after b c else []
  | choice a c => after b a ++ after b c
  | many a => (after b a).map fun d => if d = empty then many a else seq d (many a)

/-- Whether a byte string belongs to one of the languages. -/
def anyContains (ls : List Language) : Bytes → Bool
  | [] => ls.any hasEmpty
  | b :: bs => anyContains (ls.flatMap (after b)).eraseDups bs

/-- Whether a byte string belongs to the language. -/
def contains (l : Language) (bs : Bytes) : Bool := anyContains [l] bs

end Language

end SecureUpdate.Glob
