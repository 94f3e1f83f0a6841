import Mathlib.Data.List.TakeDrop
import SecureUpdate.Json.Reader
import SecureUpdate.Proofs.Json.Readability

/-!
What is read back from the canonical form of a string or a number. The characters of a written
string are read back one by one, as long as none of them is a control character, and what comes back
are the normal forms of the runs; to write them again changes nothing. The digits of a number are
read back up to what cannot go on with a number.

Main statements: `stringBody_flatMap_writeChar`, `writeString_settled`, `numeral_writeInt`.
-/

namespace SecureUpdate

/-! ### Texts as bytes -/

namespace Bytes

/-- The UTF-8 form of some characters. -/
def ofChars (cs : List Char) : Bytes := cs.flatMap String.utf8EncodeChar

theorem ofText_ofList (cs : List Char) : ofText (String.ofList cs) = ofChars cs := by
  rw [ofText, String.toUTF8_eq_toByteArray, String.toByteArray_ofList, List.utf8Encode,
    List.toList_data_toByteArray, ofChars]

@[simp] theorem ofChars_nil : ofChars [] = [] := rfl

@[simp] theorem ofChars_append (cs ds : List Char) :
    ofChars (cs ++ ds) = ofChars cs ++ ofChars ds :=
  List.flatMap_append

theorem toNat_ofNat_toNat {c : Char} (h : c.toNat < 0x80) :
    (UInt8.ofNat c.toNat).toNat = c.toNat := by
  rw [UInt8.toNat_ofNat']
  omega

theorem eq_of_ofNat_toNat_eq {c d : Char} (hc : c.toNat < 0x80) (hd : d.toNat < 0x80)
    (h : UInt8.ofNat c.toNat = UInt8.ofNat d.toNat) : c = d := by
  have hnat := congrArg UInt8.toNat h
  rw [toNat_ofNat_toNat hc, toNat_ofNat_toNat hd] at hnat
  exact Char.toNat_inj.1 hnat

/-- An ASCII character is one byte. -/
theorem ofChars_cons {c : Char} (h : c.toNat < 0x80) (cs : List Char) :
    ofChars (c :: cs) = UInt8.ofNat c.toNat :: ofChars cs := by
  have hsize : c.val.toNat ≤ 0x7F := Nat.lt_succ_iff.1 h
  rw [ofChars, List.flatMap_cons, String.utf8EncodeChar]
  simp only [hsize, if_true]
  rfl

/-- Any other character has no ASCII byte in its form. -/
theorem le_of_mem_utf8EncodeChar {c : Char} (h : ¬ c.toNat < 0x80) :
    ∀ b ∈ String.utf8EncodeChar c, 0x80 ≤ b.toNat := by
  have hsize : ¬ c.val.toNat ≤ 0x7F := fun hle => h (Nat.lt_succ_iff.2 hle)
  rw [String.utf8EncodeChar]
  simp only [hsize, if_false]
  intro b hb
  split at hb <;> [skip; split at hb] <;>
    simp only [List.mem_cons, List.not_mem_nil, or_false] at hb
  · rcases hb with rfl | rfl <;> simp only [UInt8.toNat_ofNat'] <;> omega
  · rcases hb with rfl | rfl | rfl <;> simp only [UInt8.toNat_ofNat'] <;> omega
  · rcases hb with rfl | rfl | rfl | rfl <;> simp only [UInt8.toNat_ofNat'] <;> omega

end Bytes

open Bytes

namespace Json

/-! ### Strings -/

namespace Reader

/-- A byte of a string that stands for itself. -/
def Plain (b : UInt8) : Prop := b ≠ 0x22 ∧ b ≠ 0x5C ∧ ¬ b < 0x20

theorem plain_of_le {b : UInt8} (h : 0x80 ≤ b.toNat) : Plain b := by
  refine ⟨?_, ?_, ?_⟩
  · rintro rfl
    exact absurd h (by decide)
  · rintro rfl
    exact absurd h (by decide)
  · rw [UInt8.lt_iff_toNat_lt]
    exact Nat.not_lt.2 (Nat.le_trans (by decide) h)

theorem pieces_quote (bs : Bytes) : pieces (0x22 :: bs) = some ([], bs) := by
  rw [pieces.eq_def]
  rfl

theorem pieces_control {b : UInt8} (h : b < 0x20) (bs : Bytes) : pieces (b :: bs) = none := by
  have hquote : ¬ b = 0x22 := by
    rintro rfl
    exact absurd h (by decide)
  have hslash : ¬ b = 0x5C := by
    rintro rfl
    exact absurd h (by decide)
  rw [pieces.eq_def]
  simp [hquote, hslash, h]

theorem pieces_plain {us : Bytes} (h : ∀ b ∈ us, Plain b) (bs : Bytes) :
    pieces (us ++ bs) = (pieces bs).map fun (ps, rest) => (us.map .byte ++ ps, rest) := by
  induction us with
  | nil => simp
  | cons b us ih =>
    obtain ⟨⟨hquote, hslash, hcontrol⟩, hus⟩ := List.forall_mem_cons.1 h
    rw [List.cons_append, pieces.eq_def]
    simp only [beq_iff_eq, hquote, hslash, hcontrol, if_false, ih hus]
    cases pieces bs <;> rfl

/-- A quote or a backslash after a backslash is a piece of the string. -/
theorem pieces_escaped {c : Char} (h : c = '"' ∨ c = '\\') (bs : Bytes) :
    pieces (ofChars ['\\', c] ++ bs) =
      (pieces bs).map fun (ps, rest) => ((ofChars [c]).map .byte ++ ps, rest) := by
  rcases h with rfl | rfl
  · show pieces (0x5C :: 0x22 :: bs) = _
    rw [pieces.eq_def]
    simp only [escapedByte?]
    cases pieces bs <;> rfl
  · show pieces (0x5C :: 0x5C :: bs) = _
    rw [pieces.eq_def]
    simp only [escapedByte?]
    cases pieces bs <;> rfl

/-- Any character but a control character is read back. -/
theorem pieces_writeChar {c : Char} (h : 0x20 ≤ c.toNat) (bs : Bytes) :
    pieces (ofChars (writeChar c) ++ bs) =
      (pieces bs).map fun (ps, rest) => ((ofChars [c]).map .byte ++ ps, rest) := by
  by_cases hescaped : c = '"' ∨ c = '\\'
  · have hwrite : writeChar c = ['\\', c] := by
      rcases hescaped with rfl | rfl <;> rfl
    rw [hwrite, pieces_escaped hescaped]
  · rw [not_or] at hescaped
    have hwrite : writeChar c = [c] := by
      simp [writeChar, isSpecial, writeSpecial, hescaped.1, hescaped.2]
    rw [hwrite]
    refine pieces_plain (fun b hb => ?_) bs
    by_cases hascii : c.toNat < 0x80
    · rw [ofChars_cons hascii] at hb
      obtain rfl : b = UInt8.ofNat c.toNat := by simpa using hb
      refine ⟨?_, ?_, ?_⟩
      · exact fun hquote => hescaped.1 (eq_of_ofNat_toNat_eq hascii (by decide) hquote)
      · exact fun hslash => hescaped.2 (eq_of_ofNat_toNat_eq hascii (by decide) hslash)
      · rw [UInt8.lt_iff_toNat_lt, toNat_ofNat_toNat hascii]
        exact Nat.not_lt.2 h
    · rw [ofChars, List.flatMap_cons, List.flatMap_nil, List.append_nil] at hb
      exact plain_of_le (le_of_mem_utf8EncodeChar hascii b hb)

/-- Whether no control character is among some characters. -/
def printable (cs : List Char) : Bool := cs.all fun c => 0x20 ≤ c.toNat

/-- The characters that were written are read back up to the closing quote, unless one of them is a
control character. -/
theorem pieces_flatMap_writeChar (cs : List Char) (rest : Bytes) :
    pieces (ofChars (cs.flatMap writeChar) ++ 0x22 :: rest) =
      if printable cs then some ((ofChars cs).map .byte, rest) else none := by
  induction cs with
  | nil => exact pieces_quote rest
  | cons c cs ih =>
    rw [List.flatMap_cons, ofChars_append, List.append_assoc, printable, List.all_cons]
    by_cases hcontrol : c.toNat < 0x20
    · have hwrite : writeChar c = [c] := by
        simp [writeChar, isSpecial, writeSpecial, hcontrol]
      have hascii : c.toNat < 0x80 := Nat.lt_trans hcontrol (by decide)
      have hbyte : UInt8.ofNat c.toNat < 0x20 := by
        rw [UInt8.lt_iff_toNat_lt, toNat_ofNat_toNat hascii]
        exact hcontrol
      rw [hwrite, ofChars_cons hascii, List.cons_append, pieces_control hbyte,
        decide_eq_false (Nat.not_le.2 hcontrol), Bool.false_and]
      rfl
    · have hle := Nat.not_lt.1 hcontrol
      rw [pieces_writeChar hle, ih, decide_eq_true hle, Bool.true_and, ← printable]
      split
      · show some ((ofChars [c]).map Piece.byte ++ (ofChars cs).map Piece.byte, rest) = _
        rw [← List.map_append, ← ofChars_append, List.singleton_append]
      · rfl

theorem joinPieces_map_byte (bs : Bytes) : joinPieces (bs.map .byte) = some bs := by
  induction bs with
  | nil => rfl
  | cons b bs ih => rw [List.map_cons, joinPieces, ih]; rfl

theorem stringBody_flatMap_writeChar (cs : List Char) (rest : Bytes) :
    stringBody (ofChars (cs.flatMap writeChar) ++ 0x22 :: rest) =
      if printable cs then some (String.ofList cs, rest) else none := by
  have hjoin : (joinPieces ((ofChars cs).map .byte)).bind toText? = some (String.ofList cs) := by
    rw [joinPieces_map_byte, ← ofText_ofList]
    exact toText?_ofText _
  rw [stringBody, pieces_flatMap_writeChar]
  split
  · simp [hjoin]
  · rfl

/-- To skip a string is to read its pieces. -/
theorem skipString_eq (bs : Bytes) : skipString bs = (pieces bs).map (·.2) := by
  fun_induction skipString bs <;> rw [pieces.eq_def]
  case case1 => rfl
  case case2 b bs hquote => simp only [hquote, if_true, Option.map_some]
  case case3 b hquote hslash => simp only [hquote, hslash, if_true]; rfl
  case case4 b hquote hslash e hunit h₁ h₂ h₃ h₄ bs ih =>
    -- the four digits are read either way, and only then does the string go on
    simp only [hquote, hslash, hunit, if_true, ih]
    cases unitValue? [h₁, h₂, h₃, h₄] with
    | none => rfl
    | some n => cases pieces bs <;> rfl
  case case5 b hquote hslash e bs hunit hshort =>
    simp only [hquote, hslash, hunit, if_true]
    rfl
  case case6 b hquote hslash e bs hunit ih =>
    simp only [hquote, hslash, hunit, if_true, ih]
    cases escapedByte? e with
    | none => rfl
    | some c => cases pieces bs <;> rfl
  case case7 b bs hquote hslash hcontrol =>
    simp only [hquote, hslash, hcontrol, if_true]
    rfl
  case case8 b bs hquote hslash hcontrol ih =>
    simp only [hquote, hslash, hcontrol, if_false, ih]
    cases pieces bs <;> rfl

end Reader

/-! ### Normal forms of runs -/

/-- What is relied on of the normal form of runs: it is its own normal form, and no quote, backslash
or control character comes or goes. -/
structure IsNormalForm (normalize : List Char → List Char) : Prop where
  idem : ∀ cs, normalize (normalize cs) = normalize cs
  special : ∀ cs c, isSpecial c = true → (c ∈ normalize cs ↔ c ∈ cs)

/-- The characters of a text with each run in its normal form; `run` is the run so far, last
character first. -/
def settledRuns (normalize : List Char → List Char) (run : List Char) : List Char → List Char
  | [] => normalize run.reverse
  | c :: cs =>
    if isSpecial c then normalize run.reverse ++ c :: settledRuns normalize [] cs
    else settledRuns normalize (c :: run) cs

/-- A text with each run in its normal form. -/
def settled (normalize : List Char → List Char) (s : String) : String :=
  String.ofList (settledRuns normalize [] s.toList)

/-- Characters none of which is special. -/
def Ordinary (cs : List Char) : Prop := ∀ c ∈ cs, isSpecial c = false

theorem ordinary_nil : Ordinary [] := by
  rintro c ⟨⟩

theorem Ordinary.flatMap_writeChar {cs : List Char} (h : Ordinary cs) :
    cs.flatMap writeChar = cs := by
  induction cs with
  | nil => rfl
  | cons c cs ih =>
    obtain ⟨hc, hcs⟩ := List.forall_mem_cons.1 h
    rw [List.flatMap_cons, ih hcs, writeChar, if_neg (by simp [hc])]
    rfl

/-- Ordinary characters only make the run so far longer. -/
theorem runs_append {us : List Char} (h : Ordinary us) (run cs : List Char) :
    runs run (us ++ cs) = runs (us.reverse ++ run) cs := by
  induction us generalizing run with
  | nil => rfl
  | cons u us ih =>
    obtain ⟨hu, hus⟩ := List.forall_mem_cons.1 h
    rw [List.cons_append, runs, if_neg (by simp [hu]), ih hus]
    simp

section NormalForm

variable {normalize : List Char → List Char} (hnormal : IsNormalForm normalize)
include hnormal

theorem IsNormalForm.ordinary {cs : List Char} (h : Ordinary cs) : Ordinary (normalize cs) := by
  intro c hc
  cases hspecial : isSpecial c with
  | false => rfl
  | true =>
    rw [h c ((hnormal.special cs c hspecial).1 hc)] at hspecial
    cases hspecial

/-- What is written of a text is its settled form, character by character. -/
theorem writeRuns_eq {run cs : List Char} (h : Ordinary run) :
    writeRuns normalize run cs = (settledRuns normalize run cs).flatMap writeChar := by
  have hrun : ∀ {run : List Char}, Ordinary run →
      (normalize run.reverse).flatMap writeChar = normalize run.reverse := fun h =>
    (hnormal.ordinary fun c hc => h c (List.mem_reverse.1 hc)).flatMap_writeChar
  induction cs generalizing run with
  | nil => exact (hrun h).symm
  | cons c cs ih =>
    rw [writeRuns, settledRuns]
    split
    · rename_i hspecial
      rw [List.flatMap_append, List.flatMap_cons, hrun h, ih ordinary_nil, writeChar,
        if_pos hspecial, List.append_assoc]
    · rename_i hordinary
      exact ih (List.forall_mem_cons.2 ⟨by simpa using hordinary, h⟩)

theorem writeString_eq (s : String) : writeString normalize s =
    '"' :: (settled normalize s).toList.flatMap writeChar ++ ['"'] := by
  rw [writeString, settled, String.toList_ofList, writeRuns_eq hnormal ordinary_nil]

/-- The runs of a settled text are the normal forms of its runs. -/
theorem runs_settledRuns {run cs : List Char} (h : Ordinary run) :
    runs [] (settledRuns normalize run cs) = (runs run cs).map normalize := by
  have hrun : ∀ {run : List Char}, Ordinary run → Ordinary (normalize run.reverse) := fun h =>
    hnormal.ordinary fun c hc => h c (List.mem_reverse.1 hc)
  induction cs generalizing run with
  | nil =>
    have hruns := runs_append (hrun h) [] []
    simpa [runs, settledRuns] using hruns
  | cons c cs ih =>
    rw [settledRuns, runs]
    split
    · rename_i hspecial
      rw [runs_append (hrun h), runs, if_pos hspecial, ih ordinary_nil]
      simp
    · rename_i hordinary
      exact ih (List.forall_mem_cons.2 ⟨by simpa using hordinary, h⟩)

theorem normalText_settled (s : String) : NormalText normalize (settled normalize s) := by
  intro run hrun
  rw [settled, String.toList_ofList, runs_settledRuns hnormal ordinary_nil] at hrun
  obtain ⟨run, -, rfl⟩ := List.mem_map.1 hrun
  exact hnormal.idem run

/-- A settled text is written like the text itself. -/
theorem writeString_settled (s : String) :
    writeString normalize (settled normalize s) = writeString normalize s := by
  rw [writeString_of_normal (normalText_settled hnormal s), writeString_eq hnormal s]

theorem settled_settled (s : String) :
    settled normalize (settled normalize s) = settled normalize s := by
  have hwrite := writeString_settled hnormal s
  rw [writeString_eq hnormal, writeString_eq hnormal] at hwrite
  exact String.toList_injective (flatMap_writeChar_unique (List.cons.inj hwrite).2).1

omit hnormal in
theorem ofChars_writeString (s : String) : ofChars (writeString normalize s) =
    0x22 :: ofChars (writeString normalize s).tail :=
  ofChars_cons (by decide) _

/-- What is read back of a written text is the settled text. -/
theorem stringBody_writeString {s s' : String} {rest bs : Bytes}
    (h : Reader.stringBody (ofChars (writeString normalize s).tail ++ rest) = some (s', bs)) :
    s' = settled normalize s ∧ bs = rest := by
  rw [writeString_eq hnormal, List.cons_append, List.tail_cons, ofChars_append,
    List.append_assoc] at h
  have hbody := (Reader.stringBody_flatMap_writeChar _ rest).symm.trans h
  split at hbody <;> cases hbody
  exact ⟨String.ofList_toList, rfl⟩

/-- A text that is skipped is skipped up to its end. -/
theorem skipString_writeString {s : String} {rest bs : Bytes}
    (h : Reader.skipString (ofChars (writeString normalize s).tail ++ rest) = some bs) :
    bs = rest := by
  rw [Reader.skipString_eq, writeString_eq hnormal, List.cons_append, List.tail_cons,
    ofChars_append, List.append_assoc] at h
  obtain ⟨⟨ps, bs'⟩, hps, rfl⟩ := Option.map_eq_some_iff.1 h
  have hpieces := (Reader.pieces_flatMap_writeChar _ rest).symm.trans hps
  split at hpieces <;> cases hpieces
  rfl

end NormalForm

/-! ### Numbers -/

namespace Reader

/-- Whether nothing follows, or what follows a value in a list or an object. -/
def Ended (bs : Bytes) : Prop := ∀ b ∈ bs.head?, b = 0x2C ∨ b = 0x5D ∨ b = 0x7D

/-- A digit is one byte, which is a digit with the same value. -/
theorem ofChars_cons_digit {c : Char} (h : c.isDigit = true) (cs : List Char) :
    ∃ b, ofChars (c :: cs) = b :: ofChars cs ∧ isDigit b = true ∧ b.toNat = c.toNat := by
  obtain ⟨hlow, hhigh⟩ := Char.isDigit_iff_toNat.1 h
  have hlow : 48 ≤ c.toNat := hlow
  have hhigh : c.toNat ≤ 57 := hhigh
  have hnat := toNat_ofNat_toNat (c := c) (by omega)
  refine ⟨UInt8.ofNat c.toNat, ofChars_cons (by omega) cs, ?_, hnat⟩
  rw [isDigit, Bool.and_eq_true, decide_eq_true_eq, decide_eq_true_eq, UInt8.le_iff_toNat_le,
    UInt8.le_iff_toNat_le, hnat]
  exact ⟨hlow, hhigh⟩

theorem isDigit_of_mem_ofChars {ds : List Char} (h : ∀ c ∈ ds, c.isDigit = true) :
    ∀ b ∈ ofChars ds, isDigit b = true := by
  induction ds with
  | nil => rintro b ⟨⟩
  | cons d ds ih =>
    obtain ⟨hd, hds⟩ := List.forall_mem_cons.1 h
    obtain ⟨b, hbytes, hb, -⟩ := ofChars_cons_digit hd ds
    rw [hbytes]
    exact List.forall_mem_cons.2 ⟨hb, ih hds⟩

theorem digitsValue_ofChars {ds : List Char} (h : ∀ c ∈ ds, c.isDigit = true) :
    digitsValue (ofChars ds) = Nat.ofDigitChars 10 ds 0 := by
  rw [Nat.ofDigitChars_eq_foldl, digitsValue]
  generalize 0 = n
  induction ds generalizing n with
  | nil => rfl
  | cons d ds ih =>
    obtain ⟨hd, hds⟩ := List.forall_mem_cons.1 h
    obtain ⟨b, hbytes, -, hb⟩ := ofChars_cons_digit hd ds
    rw [hbytes, List.foldl_cons, List.foldl_cons, ih hds, hb]
    rfl

theorem digits_ofChars {ds : List Char} {rest : Bytes} (h : ∀ c ∈ ds, c.isDigit = true)
    (hrest : Ended rest) : digits (ofChars ds ++ rest) = (ofChars ds, rest) := by
  have hdigits := isDigit_of_mem_ofChars h
  have hend : rest.takeWhile isDigit = [] ∧ rest.dropWhile isDigit = rest := by
    cases rest with
    | nil => exact ⟨rfl, rfl⟩
    | cons b rest =>
      have hb : isDigit b = false := by
        rcases hrest b rfl with rfl | rfl | rfl <;> rfl
      simp [hb]
  rw [digits, List.span_eq_takeWhile_dropWhile, List.takeWhile_append_of_pos hdigits,
    List.dropWhile_append_of_pos hdigits, hend.1, hend.2, List.append_nil]

/-- The digits of a number do not start with a zero, unless it is the only one. -/
theorem decimal_begins (n : Nat) :
    ∃ d ds, Text.decimal n = d :: ds ∧ (d = '0' → ds = []) := by
  induction n using Nat.strongRecOn with
  | ind n ih =>
    by_cases hsmall : n < 10
    · exact ⟨n.digitChar, [], Nat.toDigits_of_lt_base hsmall, fun _ => rfl⟩
    · have hsplit : Text.decimal n = Text.decimal (n / 10) ++ [(n % 10).digitChar] :=
        Nat.toDigits_of_base_le (by decide) (Nat.not_lt.1 hsmall)
      obtain ⟨d, ds, hdigits, hzero⟩ := ih (n / 10) (by omega)
      refine ⟨d, ds ++ [(n % 10).digitChar], by rw [hsplit, hdigits]; rfl, fun hd => ?_⟩
      -- a leading zero would be all of `n / 10`, which is not zero
      rw [hd, hzero hd] at hdigits
      have hvalue : n / 10 = Nat.ofDigitChars 10 ['0'] 0 := by
        rw [← hdigits]
        exact Nat.ofDigitChars_ten_toDigits.symm
      have hnone : Nat.ofDigitChars 10 ['0'] 0 = 0 := rfl
      omega

theorem digitsValue_decimal (n : Nat) : digitsValue (ofChars (Text.decimal n)) = n := by
  rw [digitsValue_ofChars fun _ => isDigit_of_mem_decimal]
  exact Nat.ofDigitChars_ten_toDigits

theorem wholeDigits_decimal (n : Nat) {rest : Bytes} (hrest : Ended rest) :
    wholeDigits (ofChars (Text.decimal n) ++ rest) =
      some (ofChars (Text.decimal n), rest) := by
  have hdigits : ∀ c ∈ Text.decimal n, c.isDigit = true := fun _ => isDigit_of_mem_decimal
  obtain ⟨d, ds, hdecimal, hzero⟩ := decimal_begins n
  rw [wholeDigits, digits_ofChars hdigits hrest]
  rw [hdecimal] at hdigits ⊢
  obtain ⟨hd, hds⟩ := List.forall_mem_cons.1 hdigits
  obtain ⟨b, hbytes, -, hb⟩ := ofChars_cons_digit hd ds
  rw [hbytes]
  cases ds with
  | nil => rfl
  | cons e es =>
    obtain ⟨b', hbytes', -, -⟩ := ofChars_cons_digit (List.forall_mem_cons.1 hds).1 es
    have hne : ¬ b = 0x30 := by
      rintro rfl
      exact List.cons_ne_nil e es (hzero (Char.toNat_inj.1 hb.symm))
    rw [hbytes']
    simp [hne]

/-- What follows a value does not go on with a number. -/
theorem numeral_ends {rest : Bytes} (h : Ended rest) :
    decimalPlaces rest = some ([], rest) ∧ exponentPart rest = some ((false, []), rest) := by
  cases rest with
  | nil => exact ⟨rfl, rfl⟩
  | cons b rest => rcases h b rfl with rfl | rfl | rfl <;> exact ⟨rfl, rfl⟩

/-- The digits that were written after a sign, or none, are read back as those before the point. -/
theorem numeral_decimal {n : Nat} {rest bs : Bytes} {negative : Bool} (hrest : Ended rest)
    (hsign : (match bs with
      | 0x2D :: r => (true, r)
      | r => (false, r)) = (negative, ofChars (Text.decimal n) ++ rest)) :
    numeral bs = some (⟨negative, ofChars (Text.decimal n), [], false, []⟩, rest) := by
  unfold numeral
  split
  rename_i negative' bs' heq
  cases heq.symm.trans hsign
  simp [wholeDigits_decimal n hrest, numeral_ends hrest]

theorem sign_decimal (n : Nat) (rest : Bytes) :
    (match ofChars (Text.decimal n) ++ rest with
      | 0x2D :: r => (true, r)
      | r => (false, r)) = (false, ofChars (Text.decimal n) ++ rest) := by
  cases hdigits : Text.decimal n with
  | nil => exact absurd hdigits Nat.toDigits_ne_nil
  | cons d ds =>
    have hd : d.isDigit = true := isDigit_of_mem_decimal (by rw [hdigits]; exact List.mem_cons_self)
    obtain ⟨b, hbytes, hb, -⟩ := ofChars_cons_digit hd ds
    rw [hbytes, List.cons_append]
    split
    · rename_i heq
      cases heq
      cases hb
    · rfl

/-- Whether an integer fits 64 bits, unsigned or, below zero, signed. -/
def Fits (i : Int) : Prop := 2 * -i ≤ UInt64.size ∧ i < UInt64.size

instance {i : Int} : Decidable (Fits i) := by
  unfold Fits; infer_instance

/-- The number that is read back of an integer that was written is that integer if it fits 64 bits,
and no 64-bit integer if it does not. -/
theorem numeral_writeInt (i : Int) {rest : Bytes} (hrest : Ended rest) :
    ∃ x, numeral (ofChars (writeInt i) ++ rest) = some (x, rest) ∧
      x.integer? = if Fits i then some i else none := by
  cases i with
  | ofNat n =>
    refine ⟨_, numeral_decimal hrest (sign_decimal n rest), ?_⟩
    have hfits : Fits (n : Int) ↔ n < UInt64.size := by
      simp only [Fits, UInt64.size]
      omega
    simp [Numeral.integer?, digitsValue_decimal, hfits]
  | negSucc n =>
    have hminus : ofChars (writeInt (.negSucc n)) ++ rest =
        0x2D :: (ofChars (Text.decimal (n + 1)) ++ rest) := by
      rw [writeInt, ofChars_cons (by decide)]
      rfl
    have hfits : Fits (-((n : Int) + 1)) ↔ 2 * (n + 1) ≤ UInt64.size := by
      simp only [Fits, UInt64.size]
      omega
    rw [hminus, Int.negSucc_eq, if_congr hfits rfl rfl]
    refine ⟨_, numeral_decimal hrest rfl, ?_⟩
    simp [Numeral.integer?, digitsValue_decimal]

/-- What is read back of an integer that was written is the integer, if it fits 64 bits. -/
theorem number_writeInt {i : Int} {v : Json} {rest bs : Bytes} (hrest : Ended rest)
    (h : number (ofChars (writeInt i) ++ rest) = some (v, bs)) :
    (v = .int i ∨ ∃ x, v = .real x) ∧ bs = rest := by
  obtain ⟨x, hx, hint⟩ := numeral_writeInt i hrest
  rw [number, hx, Option.bind_eq_bind, Option.bind_some] at h
  dsimp only at h
  rw [hint] at h
  by_cases hfits : Fits i
  · rw [if_pos hfits] at h
    cases h
    exact ⟨.inl rfl, rfl⟩
  · rw [if_neg hfits] at h
    obtain ⟨y, -, hv⟩ := Option.map_eq_some_iff.1 h
    cases hv
    exact ⟨.inr ⟨y, rfl⟩, rfl⟩

theorem number_of_fits {i : Int} (h : Fits i) {rest : Bytes} (hrest : Ended rest) :
    number (ofChars (writeInt i) ++ rest) = some (.int i, rest) := by
  obtain ⟨x, hx, hint⟩ := numeral_writeInt i hrest
  rw [if_pos h] at hint
  simp [number, hx, hint]

/-- A written integer begins with a sign or a digit. -/
theorem writeInt_begins (i : Int) :
    ∃ b bs, ofChars (writeInt i) = b :: bs ∧ (b = 0x2D ∨ isDigit b = true) := by
  cases i with
  | ofNat n =>
    cases hdigits : Text.decimal n with
    | nil => exact absurd hdigits Nat.toDigits_ne_nil
    | cons d ds =>
      have hd : d.isDigit = true :=
        isDigit_of_mem_decimal (by rw [hdigits]; exact List.mem_cons_self)
      obtain ⟨b, hbytes, hb, -⟩ := ofChars_cons_digit hd ds
      exact ⟨b, ofChars ds, by rw [writeInt, hdigits, hbytes], .inr hb⟩
  | negSucc n => exact ⟨0x2D, _, ofChars_cons (by decide) _, .inl rfl⟩

end Reader

end Json

end SecureUpdate
