/-!
The proleptic Gregorian calendar, with days counted from the start of 1970. Main statements:
`dayNumber_ofDayNumber`, the date of a day leads back to that day, and `exists?_ofDayNumber`, it is
a date of the calendar.
-/

namespace SecureUpdate

/-- A date of the calendar. -/
structure Date where
  year : Int
  month : Nat
  day : Nat
deriving DecidableEq

namespace Date

def isLeapYear (y : Int) : Bool := y % 4 == 0 && (y % 100 != 0 || y % 400 == 0)

def daysInMonth (y : Int) (m : Nat) : Nat :=
  if m = 2 then if isLeapYear y then 29 else 28
  else if m = 4 ∨ m = 6 ∨ m = 9 ∨ m = 11 then 30
  else 31

/-- Whether the month and the day of the month exist. -/
def exists? (d : Date) : Bool :=
  1 ≤ d.month && d.month ≤ 12 && 1 ≤ d.day && d.day ≤ daysInMonth d.year d.month

/-- The number of days from the start of 1970. Years are counted from March, so that the leap day is
the last of its year. -/
def dayNumber (d : Date) : Int :=
  let y := if d.month ≤ 2 then d.year - 1 else d.year
  let yearOfEra := y % 400
  let month : Int := if d.month ≤ 2 then d.month + 9 else d.month - 3
  y / 400 * 146097 + yearOfEra * 365 + yearOfEra / 4 - yearOfEra / 100 +
    (153 * month + 2) / 5 + d.day - 719469

/-- The date of a day: the 400-year era, the century, the four-year group and the year are split off
in turn. The last century and the last year of a group may be a day longer than the others. -/
def ofDayNumber (n : Int) : Date :=
  let dayOfEra := (n + 719468) % 146097
  let century := min (dayOfEra / 36524) 3
  let dayOfCentury := dayOfEra - century * 36524
  let group := dayOfCentury / 1461
  let dayOfGroup := dayOfCentury % 1461
  let yearOfGroup := min (dayOfGroup / 365) 3
  let dayOfYear := dayOfGroup - yearOfGroup * 365
  let month := (5 * dayOfYear + 2) / 153
  let year := (n + 719468) / 146097 * 400 + century * 100 + group * 4 + yearOfGroup
  { year := if month < 10 then year else year + 1
    month := (if month < 10 then month + 3 else month - 9).toNat
    day := (dayOfYear - (153 * month + 2) / 5 + 1).toNat }

/-- How the date of a day comes about: the era, the century, the group and the year are counted from
March, and the day of the year is the 366th only in leap years. -/
theorem ofDayNumber_eq (n : Int) : ∃ q c g y d : Int,
    (0 ≤ c ∧ c ≤ 3) ∧ (0 ≤ g ∧ g ≤ 24) ∧ (0 ≤ y ∧ y ≤ 3) ∧ (0 ≤ d ∧ d ≤ 365) ∧
      (d = 365 → y = 3 ∧ (g = 24 → c = 3)) ∧
      n + 719468 = q * 146097 + c * 36524 + g * 1461 + y * 365 + d ∧
      ofDayNumber n =
        let month := (5 * d + 2) / 153
        let year := q * 400 + c * 100 + g * 4 + y
        { year := if month < 10 then year else year + 1
          month := (if month < 10 then month + 3 else month - 9).toNat
          day := (d - (153 * month + 2) / 5 + 1).toNat } := by
  obtain ⟨q, hq⟩ : ∃ q, q = (n + 719468) / 146097 := ⟨_, rfl⟩
  obtain ⟨r, hr⟩ : ∃ r, r = (n + 719468) % 146097 := ⟨_, rfl⟩
  obtain ⟨c, hc⟩ : ∃ c, c = min (r / 36524) 3 := ⟨_, rfl⟩
  obtain ⟨s, hs⟩ : ∃ s, s = r - c * 36524 := ⟨_, rfl⟩
  obtain ⟨g, hg⟩ : ∃ g, g = s / 1461 := ⟨_, rfl⟩
  obtain ⟨t, ht⟩ : ∃ t, t = s % 1461 := ⟨_, rfl⟩
  obtain ⟨y, hy⟩ : ∃ y, y = min (t / 365) 3 := ⟨_, rfl⟩
  obtain ⟨d, hd⟩ : ∃ d, d = t - y * 365 := ⟨_, rfl⟩
  have hc3 : 0 ≤ c ∧ c ≤ 3 := by omega
  have hs0 : 0 ≤ s ∧ s ≤ 36524 ∧ (s = 36524 → c = 3) := by omega
  have hg24 : 0 ≤ g ∧ g ≤ 24 := by omega
  have ht0 : 0 ≤ t ∧ t ≤ 1460 := by omega
  have hy3 : 0 ≤ y ∧ y ≤ 3 := by omega
  have hd0 : 0 ≤ d ∧ d ≤ 365 ∧ (d = 365 → y = 3 ∧ t = 1460) := by omega
  refine ⟨q, c, g, y, d, hc3, hg24, hy3, ⟨hd0.1, hd0.2.1⟩, fun hlast => ?_, by omega, ?_⟩
  · obtain ⟨hy, ht⟩ := hd0.2.2 hlast
    exact ⟨hy, fun hg => hs0.2.2 (by omega)⟩
  · unfold ofDayNumber
    simp only [← hq, ← hr, ← hc, ← hs, ← hg, ← ht, ← hy, ← hd]

/-- The date of a day leads back to that day. -/
theorem dayNumber_ofDayNumber (n : Int) : (ofDayNumber n).dayNumber = n := by
  obtain ⟨q, c, g, y, d, hc, hg, hy, hd, -, hn, heq⟩ := ofDayNumber_eq n
  rw [heq]
  obtain ⟨m, hm⟩ : ∃ m, m = (5 * d + 2) / 153 := ⟨_, rfl⟩
  obtain ⟨e, he⟩ : ∃ e, e = q * 400 + c * 100 + g * 4 + y := ⟨_, rfl⟩
  simp only [dayNumber, ← hm, ← he]
  have h400 : e / 400 = q := by omega
  have hmod : e % 400 = c * 100 + g * 4 + y := by omega
  have h4 : (c * 100 + g * 4 + y) / 4 = c * 25 + g := by omega
  have h100 : (c * 100 + g * 4 + y) / 100 = c := by omega
  have hday : ((d - (153 * m + 2) / 5 + 1).toNat : Int) = d - (153 * m + 2) / 5 + 1 := by omega
  by_cases h : m < 10
  · have hmonth : ((m + 3).toNat : Int) = m + 3 := by omega
    have hle : ¬ (m + 3).toNat ≤ 2 := by omega
    simp only [h, if_true, hle, if_false, h400, hmod, h4, h100, hmonth, hday]
    rw [show m + 3 - 3 = m by omega]
    omega
  · have hmonth : ((m - 9).toNat : Int) = m - 9 := by omega
    have hle : (m - 9).toNat ≤ 2 := by omega
    simp only [h, if_true, hle, if_false, show e + 1 - 1 = e by omega, h400, hmod, h4, h100,
      hmonth, hday]
    rw [show m - 9 + 9 = m by omega]
    omega

/-- The day of a month that a day of the year is, counted from March, is one that the month has. -/
theorem le_daysInMonth {year day month : Int} (hday : 0 ≤ day ∧ day ≤ 365)
    (hmonth : month = (5 * day + 2) / 153) (hleap : day = 365 → isLeapYear year = true) :
    (day - (153 * month + 2) / 5 + 1).toNat ≤
      daysInMonth year (if month < 10 then month + 3 else month - 9).toNat := by
  by_cases h : month < 10
  · rw [if_pos h, daysInMonth, if_neg (by omega)]
    split <;> omega
  · rw [if_neg h, daysInMonth]
    split
    · -- February is the last month of the year
      split
      · omega
      · rename_i hcommon
        have hlast : day ≠ 365 := fun h => hcommon (hleap h)
        omega
    · split <;> omega

/-- The date of a day exists. -/
theorem exists?_ofDayNumber (n : Int) : (ofDayNumber n).exists? = true := by
  obtain ⟨q, c, g, y, d, hc, hg, hy, hd, hlast, -, heq⟩ := ofDayNumber_eq n
  rw [heq]
  obtain ⟨m, hm⟩ : ∃ m, m = (5 * d + 2) / 153 := ⟨_, rfl⟩
  simp only [exists?, ← hm, Bool.and_eq_true, decide_eq_true_eq]
  refine ⟨⟨⟨by split <;> omega, by split <;> omega⟩, by omega⟩, le_daysInMonth hd hm fun h => ?_⟩
  obtain ⟨rfl, hcentury⟩ := hlast h
  rw [if_neg (by omega)]
  -- the 366th day is in the February of the next year
  have hleap : (q * 400 + c * 100 + g * 4 + 3 + 1) % 4 = 0 ∧
      ((q * 400 + c * 100 + g * 4 + 3 + 1) % 100 ≠ 0 ∨
        (q * 400 + c * 100 + g * 4 + 3 + 1) % 400 = 0) := by omega
  simpa [isLeapYear] using hleap

end Date

end SecureUpdate
