import SecureUpdate.Unicode.CombiningClasses
import SecureUpdate.Unicode.Decompositions

/-!
Unicode normal form C: every character is decomposed, marks that follow a character are put in the
order of their combining classes, and then characters are composed again with the marks that nothing
blocks. Characters are handled by their code points.
-/

namespace SecureUpdate.Unicode

/-! ### Tables -/

/-- The combining class of a character: zero for one that starts a sequence. -/
def combiningClass (c : Nat) : Nat :=
  if c < 0x300 then 0
  else match combiningClasses.find? fun row => row >>> 28 ≤ c && c ≤ (row >>> 8) % 0x100000 with
    | some row => row % 0x100
    | none => 0

/-- The one or two characters that a character decomposes into, as its row lists them. -/
def decomposition? (c : Nat) : Option (Nat × Nat) :=
  if c < 0xC0 then none
  else match (composites ++ oneWayDecompositions).find? fun row => row >>> 40 == c with
    | some row => some ((row >>> 20) % 0x100000, row % 0x100000)
    | none => none

/-! ### Hangul -/

/-- The vowels and the trailing consonants that a Hangul syllable is counted by. -/
def hangulVowels : Nat := 21
def hangulTrails : Nat := 28

/-- The letters of a Hangul syllable. -/
def hangulLetters? (c : Nat) : Option (List Nat) :=
  if 0xAC00 ≤ c ∧ c ≤ 0xD7A3 then
    let i := c - 0xAC00
    let lead := 0x1100 + i / (hangulVowels * hangulTrails)
    let vowel := 0x1161 + i % (hangulVowels * hangulTrails) / hangulTrails
    let trail := i % hangulTrails
    some ([lead, vowel] ++ if trail = 0 then [] else [0x11A7 + trail])
  else none

/-- The Hangul syllable of a lead and a vowel, or of a syllable without trail and a trail. -/
def hangulSyllable? (a b : Nat) : Option Nat :=
  if 0x1100 ≤ a ∧ a < 0x1113 ∧ 0x1161 ≤ b ∧ b < 0x1161 + hangulVowels then
    some (0xAC00 + ((a - 0x1100) * hangulVowels + (b - 0x1161)) * hangulTrails)
  else if 0xAC00 ≤ a ∧ a ≤ 0xD7A3 ∧ (a - 0xAC00) % hangulTrails = 0 ∧
      0x11A7 < b ∧ b < 0x11A7 + hangulTrails then
    some (a + (b - 0x11A7))
  else none

/-! ### The three steps -/

/-- The full decomposition of a character, whose rows are followed at most `steps` deep. -/
def decomposeWithin : Nat → Nat → List Nat
  | 0, c => [c]
  | steps + 1, c =>
    match hangulLetters? c with
    | some letters => letters
    | none =>
      match decomposition? c with
      | none => [c]
      | some (first, second) =>
        decomposeWithin steps first ++ if second = 0 then [] else [second]

/-- The full decomposition of a character. No character needs more than three rows. -/
def decompose (c : Nat) : List Nat := decomposeWithin 4 c

/-- Puts a character behind the text so far, given last character first, but a mark before the marks
of a higher class that end the text. -/
def place (c : Nat × Nat) : List (Nat × Nat) → List (Nat × Nat)
  | [] => [c]
  | d :: ds => if c.1 ≠ 0 ∧ c.1 < d.1 then d :: place c ds else c :: d :: ds

/-- The characters with their classes, marks in the order of classes. -/
def order (cs : List Nat) : List (Nat × Nat) :=
  (cs.foldl (fun placed c => place (combiningClass c, c) placed) []).reverse

/-- The character that two characters compose into. -/
def composite? (a b : Nat) : Option Nat :=
  match hangulSyllable? a b with
  | some c => some c
  | none =>
    if b < 0x300 then none
    else (composites.find? fun row => row % 0x100000 == b && (row >>> 20) % 0x100000 == a).map
      (· >>> 40)

/-- Composes with `starter` each character that nothing blocks: those of `marks`, which come after
the starter and are given last first, block the ones of no higher class. -/
def composeFrom (starter : Nat) (marks : List (Nat × Nat)) : List (Nat × Nat) → List Nat
  | [] => starter :: (marks.reverse.map (·.2))
  | (k, c) :: rest =>
    let blocked := match marks with
      | [] => false
      | (last, _) :: _ => k ≤ last
    match if blocked then none else composite? starter c with
    | some d => composeFrom d marks rest
    | none =>
      if k = 0 then starter :: (marks.reverse.map (·.2)) ++ composeFrom c [] rest
      else composeFrom starter ((k, c) :: marks) rest

/-- Composes characters; marks before the first starter stay as they are. -/
def compose : List (Nat × Nat) → List Nat
  | [] => []
  | (k, c) :: rest => if k = 0 then composeFrom c [] rest else c :: compose rest

/-- Normal form C of a list of characters. -/
def normalFormC (cs : List Char) : List Char :=
  if cs.all fun c => c.toNat < 0xC0 then cs
  else (compose (order (cs.flatMap fun c => decompose c.toNat))).map Char.ofNat

end SecureUpdate.Unicode
