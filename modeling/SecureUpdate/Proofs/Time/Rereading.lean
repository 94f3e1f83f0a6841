import Mathlib.Algebra.Group.Nat.Defs
import SecureUpdate.Time.Reader

/-!
Instants are read back from the form in which metadata holds them. Every number in that form is
padded, and a character that is no digit stands after it, so it is read up to its end; the date of a
day exists and leads back to that day; and a leap second is written as second 60.

Main statement: `read_write`.
-/

namespace SecureUpdate

/-! ### Padded numbers -/

namespace Text

theorem digitsValue_eq (cs : List Char) : digitsValue cs = Nat.ofDigitChars 10 cs 0 := rfl

theorem isDigit_of_mem_padded {width n : Nat} {c : Char} (h : c ∈ paddedDecimal width n) :
    isDigit c = true := by
  rcases List.mem_append.1 h with h | h
  · rw [List.eq_of_mem_replicate h]
    decide
  · exact Nat.isDigit_of_mem_toDigits (by decide) (by decide) h

theorem digitsValue_padded (width n : Nat) : digitsValue (paddedDecimal width n) = n := by
  rw [digitsValue_eq, paddedDecimal, Nat.ofDigitChars_append, Nat.ofDigitChars_replicate_zero,
    Nat.mul_zero, decimal, Nat.ofDigitChars_ten_toDigits]

theorem length_padded {width n : Nat} (h : n < 10 ^ width) (hpos : 0 < width) :
    (paddedDecimal width n).length = width := by
  have hle : (decimal n).length ≤ width := (Nat.length_toDigits_le_iff (by decide) hpos).2 h
  rw [paddedDecimal, List.length_append, List.length_replicate]
  omega

/-- Zeros after some digits. -/
theorem digitsValue_zeros (cs : List Char) (k : Nat) :
    digitsValue (cs ++ List.replicate k '0') = digitsValue cs * 10 ^ k := by
  rw [digitsValue_eq, digitsValue_eq, Nat.ofDigitChars_append, Nat.ofDigitChars_replicate_zero,
    Nat.mul_comm]

theorem padded_begins (width n : Nat) :
    ∃ d ds, paddedDecimal width n = d :: ds ∧ isDigit d = true := by
  cases h : paddedDecimal width n with
  | nil => exact absurd (List.append_eq_nil_iff.1 h).2 Nat.toDigits_ne_nil
  | cons d ds => exact ⟨d, ds, rfl, isDigit_of_mem_padded (by rw [h]; exact List.mem_cons_self)⟩

theorem isBlank_of_isDigit {c : Char} (h : isDigit c = true) : isBlank c = false := by
  have hrange : 48 ≤ c.toNat ∧ c.toNat ≤ 57 := Char.isDigit_iff_toNat.1 h
  simp [isBlank]
  omega

/-- A number has no blanks before it. -/
theorem trimStart_padded (width n : Nat) (rest : List Char) :
    trimStart (paddedDecimal width n ++ rest) = paddedDecimal width n ++ rest := by
  obtain ⟨d, ds, hds, hd⟩ := padded_begins width n
  rw [hds, List.cons_append, trimStart, List.dropWhile_cons, isBlank_of_isDigit hd]
  rfl

theorem takeWhile_padded (width n : Nat) {c : Char} (hc : isDigit c = false) (rest : List Char) :
    (paddedDecimal width n ++ c :: rest).takeWhile isDigit = paddedDecimal width n := by
  rw [List.takeWhile_append_of_pos fun _ => isDigit_of_mem_padded, List.takeWhile_cons, hc]
  exact List.append_nil _

end Text

open Text

namespace Instant

namespace Reader

/-! ### Parts of an instant -/

section Parts

variable {width n : Nat} {c : Char} (hc : isDigit c = false) (rest : List Char)
include hc

theorem number_padded {most : Nat} (hmost : (paddedDecimal width n).length ≤ most) :
    number most (paddedDecimal width n ++ c :: rest) = some (n, c :: rest) := by
  have hne : (paddedDecimal width n).isEmpty = false := by
    obtain ⟨d, ds, hds, -⟩ := padded_begins width n
    rw [hds]
    rfl
  simp [number, takeWhile_padded width n hc, List.take_of_length_le hmost, hne, digitsValue_padded]

theorem short_padded (h : n < 100) :
    short (paddedDecimal 2 n ++ c :: rest) = some (n, c :: rest) := by
  rw [short, trimStart_padded]
  exact number_padded hc rest (Nat.le_of_eq (length_padded h (by decide)))

theorem nanoseconds_padded (h : n < 10 ^ width) (hpos : 0 < width) (hwidth : width ≤ 9) :
    nanoseconds ('.' :: paddedDecimal width n ++ c :: rest) =
      some (n * 10 ^ (9 - width), c :: rest) := by
  have hlength := length_padded h hpos
  have hne : (paddedDecimal width n).isEmpty = false := by
    obtain ⟨d, ds, hds, -⟩ := padded_begins width n
    rw [hds]
    rfl
  simp [nanoseconds, takeWhile_padded width n hc, List.take_of_length_le, hlength, hwidth, hne,
    digitsValue_zeros, digitsValue_padded]

end Parts

/-- A year is read up to the dash after it. -/
theorem year_writeYear (y : Int) (rest : List Char) :
    year (writeYear y ++ '-' :: rest) = some (y, '-' :: rest) := by
  unfold writeYear
  split
  · rename_i hy
    obtain ⟨d, ds, hds, hd⟩ := padded_begins 4 y.toNat
    have hlength : (paddedDecimal 4 y.toNat).length = 4 := length_padded (by omega) (by decide)
    have hnumber := number_padded (c := '-') (by decide) rest (Nat.le_of_eq hlength)
    rw [year, trimStart_padded]
    split
    · rename_i heq
      rw [hds] at heq
      cases heq
      cases hd
    · rename_i heq
      rw [hds] at heq
      cases heq
      cases hd
    · rw [hnumber]
      show some ((y.toNat : Int), _) = _
      rw [Int.toNat_of_nonneg hy.1]
  · have hlength : (paddedDecimal 4 y.natAbs).length ≤
        (paddedDecimal 4 y.natAbs ++ '-' :: rest).length := by simp
    have hnumber := number_padded (c := '-') (by decide) rest hlength
    generalize hcs : paddedDecimal 4 y.natAbs ++ '-' :: rest = cs at hnumber
    rw [List.cons_append, hcs]
    split
    · show (number cs.length cs).map _ = _
      rw [hnumber]
      show some (-(y.natAbs : Int), _) = _
      rw [show -(y.natAbs : Int) = y by omega]
    · show (number cs.length cs).map _ = _
      rw [hnumber]
      show some ((y.natAbs : Int), _) = _
      rw [show (y.natAbs : Int) = y by omega]

/-- A fraction of a second is read up to the letter after it. -/
theorem nanoseconds_writeFraction {nanos : Nat} (h : nanos < 1000000000) :
    nanoseconds (writeFraction nanos ++ ['Z']) = some (nanos, ['Z']) := by
  unfold writeFraction
  split
  · rename_i hzero
    rw [hzero]
    rfl
  · split
    · rw [nanoseconds_padded (by decide) [] (by omega) (by decide) (by decide)]
      congr 2
      omega
    · split
      · rw [nanoseconds_padded (by decide) [] (by omega) (by decide) (by decide)]
        congr 2
        omega
      · rw [nanoseconds_padded (by decide) [] (by omega) (by decide) (by decide)]
        simp

theorem separator_self {c : Char} (h : isBlank c = false) (rest : List Char) :
    separator c (c :: rest) = some rest := by
  simp [separator, trimStart, h]

/-- An instant is put together from a date and a time of day that are its own. -/
theorem assemble_eq {t : Instant} {d : Date} {hour minute second nanos : Nat}
    (hdate : d.exists? = true) (hhour : hour ≤ 23) (hminute : minute ≤ 59) (hsecond : second ≤ 60)
    (hseconds : d.dayNumber * 86400 + hour * 3600 + minute * 60 +
      ((if second = 60 then 59 else second : Nat) : Int) = t.seconds)
    (hnanos : nanos + (if second = 60 then 1000000000 else 0) = t.nanos) :
    assemble d hour minute second nanos 0 = some t := by
  have hvalid : Valid (t.seconds - 0 * 60) t.nanos := by simpa using t.valid
  obtain ⟨hfirst, hend, -⟩ := t.valid
  unfold assemble
  rw [if_pos (by simp [hdate, hhour, hminute, hsecond])]
  simp only [hseconds, hnanos, hfirst, hend, and_self, if_true, dif_pos hvalid]
  congr
  omega

end Reader

open Reader

theorem writeFraction_begins (nanos : Nat) :
    ∃ c rest, writeFraction nanos ++ ['Z'] = c :: rest ∧ isDigit c = false := by
  unfold writeFraction
  split
  · exact ⟨'Z', [], rfl, by decide⟩
  · split
    · exact ⟨'.', _, rfl, by decide⟩
    · split <;> exact ⟨'.', _, rfl, by decide⟩

/-- A date and a time of day are read back, number by number. -/
theorem read_parts {d : Date} {hour minute second nanos : Nat} (hmonth : d.month < 100)
    (hday : d.day < 100) (hhour : hour < 100) (hminute : minute < 100) (hsecond : second < 100)
    (hnanos : nanos < 1000000000) :
    read (String.ofList (writeYear d.year ++ '-' :: (paddedDecimal 2 d.month ++ '-' ::
      (paddedDecimal 2 d.day ++ 'T' :: (paddedDecimal 2 hour ++ ':' :: (paddedDecimal 2 minute ++
        ':' :: (paddedDecimal 2 second ++ (writeFraction nanos ++ ['Z'])))))))) =
      assemble d hour minute second nanos 0 := by
  obtain ⟨c, rest, hrest, hc⟩ := writeFraction_begins nanos
  have hfraction := nanoseconds_writeFraction hnanos
  rw [hrest] at hfraction ⊢
  have hdash (cs : List Char) : separator '-' ('-' :: cs) = some cs := separator_self (by decide) cs
  have hcolon (cs : List Char) : separator ':' (':' :: cs) = some cs :=
    separator_self (by decide) cs
  have hend : offset (trimStart ['Z']) = some (0, []) := rfl
  simp only [read, String.toList_ofList, year_writeYear, hdash, hcolon, Option.bind_eq_bind,
    Option.bind_some, short_padded (c := '-') (by decide) _ hmonth,
    short_padded (c := 'T') (by decide) _ hday, short_padded (c := ':') (by decide) _ hhour,
    short_padded (c := ':') (by decide) _ hminute, short_padded hc _ hsecond, hfraction, hend]
  rfl

/-- An instant is read back from the form in which metadata holds it. -/
theorem read_write (t : Instant) : read t.write = some t := by
  have hexists := Date.exists?_ofDayNumber (t.seconds / 86400)
  have hday := Date.dayNumber_ofDayNumber (t.seconds / 86400)
  obtain ⟨-, -, hnanos, hleap⟩ := t.valid
  generalize hd : Date.ofDayNumber (t.seconds / 86400) = d at hexists hday
  obtain ⟨r, hr⟩ : ∃ r, r = (t.seconds % 86400).toNat := ⟨_, rfl⟩
  have hdate : d.month < 100 ∧ d.day < 100 := by
    simp only [Date.exists?, Bool.and_eq_true, decide_eq_true_eq] at hexists
    have hlength : Date.daysInMonth d.year d.month ≤ 31 := by
      unfold Date.daysInMonth
      repeat' split
      all_goals decide
    omega
  have htext : t.write = String.ofList (writeYear d.year ++ '-' :: (paddedDecimal 2 d.month ++
      '-' :: (paddedDecimal 2 d.day ++ 'T' :: (paddedDecimal 2 (r / 3600) ++
        ':' :: (paddedDecimal 2 (r / 60 % 60) ++
          ':' :: (paddedDecimal 2 (r % 60 + if 1000000000 ≤ t.nanos then 1 else 0) ++
            (writeFraction (if 1000000000 ≤ t.nanos then t.nanos - 1000000000 else t.nanos) ++
              ['Z']))))))) := by
    simp [write, writeWith, writeDate, writeTime, hd, ← hr]
  rw [htext]
  split
  · rename_i h
    have hlast := hleap h
    rw [read_parts hdate.1 hdate.2 (by omega) (by omega) (by omega) (by omega)]
    refine assemble_eq hexists (by omega) (by omega) (by omega) ?_ ?_
    · rw [if_pos (by omega)]
      omega
    · rw [if_pos (by omega)]
      omega
  · rw [read_parts hdate.1 hdate.2 (by omega) (by omega) (by omega) (by omega)]
    refine assemble_eq hexists (by omega) (by omega) (by omega) ?_ ?_
    · rw [if_neg (by omega)]
      omega
    · rw [if_neg (by omega)]
      rfl

end Instant

end SecureUpdate
