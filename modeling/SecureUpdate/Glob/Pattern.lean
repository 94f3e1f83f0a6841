import SecureUpdate.Glob.Language

/-!
Shell-style patterns for paths. `?` stands for any one byte and `*` for any bytes, the separator
`/` included; `[...]` is a set of bytes, `{a,b}` a choice, and a backslash takes the next character
as it is. `**` as a whole path component stands for any number of components. A pattern that is not
well formed matches nothing.

A pattern is read by characters but matches bytes: a character of a set contributes its UTF-8 bytes.
-/

namespace SecureUpdate.Glob

/-- An element of a pattern. -/
inductive Token where
  | literal (c : Char)
  | anyOne
  | anyMany
  /-- `**` and the separator after it, at the start. -/
  | leading
  /-- The separator and `**`, at the end. -/
  | trailing
  /-- `**` between two separators. -/
  | between
  | set (negated : Bool) (ranges : List (Char × Char))
  | choice (branches : List (List Token))

/-- Reading a pattern: the branches that are open, innermost last token first, and for each open
choice the branches already closed. `previous` is the character before the next one. -/
structure Reading where
  /-- The tokens of the current branch, last first. -/
  current : List Token
  /-- For each open choice, innermost first: its closed branches, last first, and the tokens before
  the choice, last first. -/
  outer : List (List (List Token) × List Token)
  previous : Option Char

namespace Reading

def push (r : Reading) (t : Token) : Reading := { r with current := t :: r.current }

/-- The reading after a character has been passed. -/
def pass (r : Reading) (c : Char) : Reading := { r with previous := some c }

/-- Whether some choice is open. -/
def inChoice (r : Reading) : Bool := !r.outer.isEmpty

/-- Opens a choice. -/
def openChoice (r : Reading) : Reading :=
  { r with current := [], outer := ([], r.current) :: r.outer }

/-- Ends a branch and starts the next one; outside choices a comma is a comma. -/
def comma (r : Reading) : Reading :=
  match r.outer with
  | [] => r.push (.literal ',')
  | (closed, before) :: outer =>
    { r with current := [], outer := (r.current.reverse :: closed, before) :: outer }

/-- Closes the innermost choice. -/
def closeChoice (r : Reading) : Option Reading :=
  match r.outer with
  | [] => none
  | (closed, before) :: outer =>
    some { r with current := .choice (r.current.reverse :: closed).reverse :: before, outer }

/-- Takes in `**`, where `next` is the character after it, and says whether that character, a
separator, belongs to the token. Within a path component it is just `*` twice. -/
def doubleStar (r : Reading) (next : Option Char) : Reading × Bool :=
  let plain := ((r.push .anyMany).push .anyMany, false)
  match r.current with
  | [] =>
    match next with
    | none => (r.push .leading, false)
    | some '/' => (r.push .leading, true)
    | some _ => plain
  | last :: before =>
    let opens := r.previous = some '/' ∨
      (r.inChoice ∧ (r.previous = some ',' ∨ r.previous = some '{'))
    let extend (t : Token) : Reading :=
      match last with
      | .leading => r
      | .trailing => r
      | _ => { r with current := t :: before }
    if opens then
      match next with
      | none => (extend .trailing, false)
      | some '/' => (extend .between, true)
      | some c => if r.inChoice ∧ (c = ',' ∨ c = '}') then (extend .trailing, false) else plain
    else plain

end Reading

/-! ### Sets -/

/-- Reading a set: its ranges, last first, whether a range is open, and whether nothing was read. -/
structure SetReading where
  ranges : List (Char × Char)
  inRange : Bool
  first : Bool

/-- Ends the open range at `c`; the end must not be below the start. -/
def SetReading.endRange (s : SetReading) (c : Char) : Option SetReading :=
  match s.ranges with
  | [] => none
  | (a, _) :: rest =>
    if c < a then none else some { ranges := (a, c) :: rest, inRange := false, first := false }

/-- Takes in one character of a set that does not close it. -/
def SetReading.add (s : SetReading) (c : Char) : Option SetReading :=
  if s.inRange then s.endRange c
  else if c = '-' ∧ ¬s.first then some { s with inRange := true, first := false }
  else some { ranges := (c, c) :: s.ranges, inRange := false, first := false }

/-- The ranges of a set up to its closing bracket, and what follows it. A bracket or a dash at the
start stands for itself, and so does a dash at the end. -/
def readSet (s : SetReading) : List Char → Option (List (Char × Char) × List Char)
  | [] => none
  | c :: cs =>
    if c = ']' ∧ ¬s.first then
      some ((if s.inRange then ('-', '-') :: s.ranges else s.ranges).reverse, cs)
    else do readSet (← s.add c) cs

theorem length_readSet {s : SetReading} {cs : List Char} {ranges : List (Char × Char)}
    {rest : List Char} (h : readSet s cs = some (ranges, rest)) : rest.length < cs.length := by
  induction cs generalizing s with
  | nil => simp [readSet] at h
  | cons c cs ih =>
    rw [readSet] at h
    split at h
    · simp only [Option.some.injEq, Prod.mk.injEq] at h
      simp [← h.2]
    · cases hs : s.add c with
      | none => simp [hs] at h
      | some s' =>
        simp only [hs, Option.bind_eq_bind, Option.bind_some] at h
        exact Nat.lt_succ_of_lt (ih h)

/-- The sign that negates a set, and what follows it. -/
def negation : List Char → Bool × List Char
  | '!' :: cs => (true, cs)
  | '^' :: cs => (true, cs)
  | cs => (false, cs)

theorem length_negation (cs : List Char) : (negation cs).2.length ≤ cs.length := by
  unfold negation
  split <;> simp

/-! ### Patterns -/

/-- The tokens of a pattern, read on from where `r` stands. -/
def readTokens (r : Reading) (cs : List Char) : Option (List Token) :=
  match cs with
  | [] => if r.inChoice then none else some r.current.reverse
  | '?' :: cs => readTokens ((r.push .anyOne).pass '?') cs
  | '*' :: '*' :: cs =>
    match r.doubleStar cs.head? with
    | (r, true) => readTokens (r.pass '/') (cs.drop 1)
    | (r, false) => readTokens (r.pass '*') cs
  | '*' :: cs => readTokens ((r.push .anyMany).pass '*') cs
  | '[' :: cs =>
    match _h : readSet ⟨[], false, true⟩ (negation cs).2 with
    | none => none
    | some (ranges, rest) => readTokens ((r.push (.set (negation cs).1 ranges)).pass ']') rest
  | '{' :: cs => readTokens (r.openChoice.pass '{') cs
  | '}' :: cs =>
    match r.closeChoice with
    | none => none
    | some r => readTokens (r.pass '}') cs
  | ',' :: cs => readTokens (r.comma.pass ',') cs
  | '\\' :: cs =>
    match cs with
    | [] => none
    | c :: cs => readTokens ((r.push (.literal c)).pass c) cs
  | c :: cs => readTokens ((r.push (.literal c)).pass c) cs
termination_by cs.length
decreasing_by
  all_goals simp_wf
  all_goals first
    | omega
    | grind [length_readSet _h, length_negation cs]

/-! ### Meaning -/

/-- The bytes of one character of a set. -/
def charBytes (c : Char) : Bytes := Bytes.ofText c.toString

/-- A range of a set in bytes: it reaches from the last byte of its first character to the first
byte of its last one, and the other bytes of the two stand alone. -/
def rangeBytes (range : Char × Char) : List (UInt8 × UInt8) :=
  let alone (bs : Bytes) : List (UInt8 × UInt8) := bs.map fun b => (b, b)
  let a := charBytes range.1
  let b := charBytes range.2
  if range.1 = range.2 then alone a
  else match a.reverse, b with
    | last :: front, first :: back => alone front.reverse ++ (last, first) :: alone back
    | _, _ => []

mutual

/-- The language of a token, or none if it stands for nothing at all, like a choice without a branch
that stands for something. -/
def Token.language? : Token → Option Language
  | .literal c => some (.literal (charBytes c))
  | .anyOne => some .anyByte
  | .anyMany => some .anything
  | .leading =>
    some (.choice .empty (.choice (.byte 0x2F) (.seq .anything (.byte 0x2F))))
  | .trailing => some (.seq (.byte 0x2F) .anything)
  | .between =>
    some (.choice (.byte 0x2F) (.seq (.byte 0x2F) (.seq .anything (.byte 0x2F))))
  | .set negated ranges => some (.oneOf negated (ranges.flatMap rangeBytes))
  | .choice branches =>
    match branchLanguages branches with
    | [] => none
    | l :: ls => some (.anyOf l ls)

/-- The languages of the tokens that stand for something. -/
def tokenLanguages : List Token → List Language
  | [] => []
  | t :: ts =>
    match t.language? with
    | none => tokenLanguages ts
    | some l => l :: tokenLanguages ts

/-- The languages of the branches that stand for something. -/
def branchLanguages : List (List Token) → List Language
  | [] => []
  | b :: bs =>
    match tokenLanguages b with
    | [] => branchLanguages bs
    | ls => .sequence ls :: branchLanguages bs

end

/-- The language of a well-formed pattern; `**` alone stands for everything. -/
def language? (pattern : String) : Option Language :=
  match readTokens ⟨[], [], none⟩ pattern.toList with
  | none => none
  | some [.leading] => some .anything
  | some ts => some (.sequence (tokenLanguages ts))

/-- Whether a pattern covers a path. -/
def covers (pattern path : String) : Bool :=
  match language? pattern with
  | none => false
  | some l => l.contains (Bytes.ofText path)

end SecureUpdate.Glob
