import Mathlib.Algebra.Ring.Nat
import Mathlib.Data.Nat.Find

/-!
# Dates

The calendar of the language standard on time values from 1970 on, in milliseconds, and the text
that `Date.prototype.toISOString` makes of one.  Different time values have different texts
(`toISOString_injective`).
-/

namespace UbqGateway

def maxTimeValue : ℕ := 8640000000000000

/-! ### Days -/

/-- The number of days from 1970-01-01 to the first day of a year from 1970 on. -/
def dayFromYear (year : ℕ) : ℕ :=
  365 * (year - 1970) + (year - 1969) / 4 + (year - 1601) / 400 - (year - 1901) / 100

def inLeapYear (year : ℕ) : Bool := decide (year % 4 = 0 ∧ (year % 100 ≠ 0 ∨ year % 400 = 0))

/-- The year of a day: the last one that begins no later. -/
def yearFromDay (day : ℕ) : ℕ :=
  Nat.findGreatest (fun year => dayFromYear year ≤ day) (1970 + day / 365)

/-- The days of a year before its month; January is 0. -/
def daysBeforeMonth (leap : Bool) (month : ℕ) : ℕ :=
  [0, 31, 59, 90, 120, 151, 181, 212, 243, 273, 304, 334].getD month 0 +
    if leap = true ∧ 2 ≤ month then 1 else 0

def monthFromDayInYear (leap : Bool) (day : ℕ) : ℕ :=
  Nat.findGreatest (fun month => daysBeforeMonth leap month ≤ day) 11

/-- A date: its year, its month from 1 on and its day of the month from 1 on. -/
structure CalendarDate where
  year : ℕ
  month : ℕ
  date : ℕ

def dateFromDay (day : ℕ) : CalendarDate :=
  let year := yearFromDay day
  let dayInYear := day - dayFromYear year
  let month := monthFromDayInYear (inLeapYear year) dayInYear
  ⟨year, month + 1, dayInYear - daysBeforeMonth (inLeapYear year) month + 1⟩

theorem dayFromYear_succ_le (h : 1970 ≤ year) :
    dayFromYear (year + 1) ≤ dayFromYear year + 366 := by
  unfold dayFromYear
  omega

theorem le_dayFromYear (year : ℕ) (h : 1970 ≤ year) : 365 * (year - 1970) ≤ dayFromYear year := by
  unfold dayFromYear
  omega

theorem yearFromDay_spec (day : ℕ) : 1970 ≤ yearFromDay day ∧ yearFromDay day ≤ 1970 + day / 365 ∧
      dayFromYear (yearFromDay day) ≤ day ∧ day < dayFromYear (yearFromDay day + 1) := by
  have hfst : dayFromYear 1970 ≤ day := Nat.zero_le day
  have hge : 1970 ≤ yearFromDay day := Nat.le_findGreatest (Nat.le_add_right _ _) hfst
  have hle : yearFromDay day ≤ 1970 + day / 365 := Nat.findGreatest_le _
  refine ⟨hge, hle, ?_, ?_⟩
  · exact Nat.findGreatest_spec (P := fun year => dayFromYear year ≤ day) (Nat.le_add_right _ _)
      hfst
  · by_cases hbd : yearFromDay day + 1 ≤ 1970 + day / 365
    · exact not_le.mp (Nat.findGreatest_is_greatest (P := fun year => dayFromYear year ≤ day)
        (Nat.lt_succ_self _) hbd)
    · -- the search was bounded by years of 365 days
      have hnext := le_dayFromYear (yearFromDay day + 1) (by omega)
      omega

theorem dayInYear_lt (day : ℕ) : day - dayFromYear (yearFromDay day) < 366 := by
  obtain ⟨hge, -, hle, hlt⟩ := yearFromDay_spec day
  have hnext := dayFromYear_succ_le hge
  omega

theorem monthFromDayInYear_spec : ∀ leap : Bool, ∀ day < 366,
    monthFromDayInYear leap day ≤ 11 ∧ daysBeforeMonth leap (monthFromDayInYear leap day) ≤ day ∧
      day - daysBeforeMonth leap (monthFromDayInYear leap day) < 32 := by
  decide +kernel

theorem dateFromDay_bounds (day : ℕ) : (dateFromDay day).month < 100 ∧
    (dateFromDay day).date < 100 ∧
    (dateFromDay day).year ≤ 1970 + day / 365 := by
  obtain ⟨hmonth, -, hdate⟩ :=
    monthFromDayInYear_spec (inLeapYear (yearFromDay day)) _ (dayInYear_lt day)
  have hyear := (yearFromDay_spec day).2.1
  unfold dateFromDay
  dsimp only
  omega

def dayFromDate (d : CalendarDate) : ℕ :=
  dayFromYear d.year + daysBeforeMonth (inLeapYear d.year) (d.month - 1) + (d.date - 1)

theorem dayFromDate_dateFromDay (day : ℕ) : dayFromDate (dateFromDay day) = day := by
  have hle := (yearFromDay_spec day).2.2.1
  have hmonth :=
    (monthFromDayInYear_spec (inLeapYear (yearFromDay day)) _ (dayInYear_lt day)).2.1
  unfold dayFromDate dateFromDay
  dsimp only
  rw [Nat.add_sub_cancel, Nat.add_sub_cancel]
  omega

/-! ### Digits -/

/-- The last `width` decimal digits of a number. -/
def digits : ℕ → ℕ → List Char
  | 0, _ => []
  | width + 1, n => digits width (n / 10) ++ [(n % 10).digitChar]

@[simp]
theorem digits_length (width n : ℕ) : (digits width n).length = width := by
  induction width generalizing n with
  | zero => rfl
  | succ _ ih => rw [digits, List.length_append, ih, List.length_singleton]

theorem digitChar_injective : ∀ a < 10, ∀ b < 10, a.digitChar = b.digitChar → a = b := by
  decide

variable {width m n : ℕ}

theorem digits_injective (hm : m < 10 ^ width) (hn : n < 10 ^ width)
    (h : digits width m = digits width n) : m = n := by
  induction width generalizing m n with
  | zero =>
    rw [Nat.pow_zero] at hm hn
    omega
  | succ _ ih =>
    rw [digits, digits] at h
    obtain ⟨hinit, hlast⟩ := List.append_inj h (by simp)
    have hmod : m % 10 = n % 10 :=
      digitChar_injective _ (Nat.mod_lt _ (by decide)) _ (Nat.mod_lt _ (by decide))
        (List.cons.inj hlast).1
    have hdiv : m / 10 = n / 10 := by
      rw [Nat.pow_succ] at hm hn
      exact ih (by omega) (by omega) hinit
    omega

/-! ### Texts -/

/-- The year of a text: four digits, or a sign and six digits. -/
def yearChars (year : ℕ) : List Char := if year ≤ 9999 then digits 4 year else '+' :: digits 6 year

variable {s s' : List Char}

theorem yearChars_append_inj (hy : y < 1000000) (hy' : y' < 1000000)
    (h : yearChars y ++ s = yearChars y' ++ s') : y = y' ∧ s = s' := by
  have hplus : ∀ n rest rest', digits 4 n ++ rest ≠ '+' :: rest' := by
    intro n rest rest' heq
    have hhead := (List.cons.inj heq).1
    have hdg : ∀ d < 10, d.digitChar ≠ '+' := by decide
    exact hdg _ (Nat.mod_lt _ (by decide)) hhead
  unfold yearChars at h
  by_cases hshrt : y ≤ 9999 <;> by_cases hshrt' : y' ≤ 9999
  · rw [if_pos hshrt, if_pos hshrt'] at h
    obtain ⟨hdgs, hrest⟩ := List.append_inj h (by simp)
    exact ⟨digits_injective (by omega) (by omega) hdgs, hrest⟩
  · rw [if_pos hshrt, if_neg hshrt'] at h
    exact absurd h (hplus _ _ _)
  · rw [if_neg hshrt, if_pos hshrt'] at h
    exact absurd h.symm (hplus _ _ _)
  · rw [if_neg hshrt, if_neg hshrt'] at h
    obtain ⟨hdgs, hrest⟩ := List.append_inj (List.cons.inj h).2 (by simp)
    exact ⟨digits_injective (by omega) (by omega) hdgs, hrest⟩

/-- The characters of a time of the day, in milliseconds. -/
def timeChars (ms : ℕ) : List Char :=
  digits 2 (ms / 3600000) ++ ':' :: (digits 2 (ms / 60000 % 60) ++ ':' ::
    (digits 2 (ms / 1000 % 60) ++ '.' :: (digits 3 (ms % 1000) ++ ['Z'])))

/-- The characters of a time value. -/
def isoChars (time : ℕ) : List Char :=
  let date := dateFromDay (time / 86400000)
  yearChars date.year ++ '-' :: (digits 2 date.month ++ '-' :: (digits 2 date.date ++ 'T' ::
    timeChars (time % 86400000)))

def toISOString (time : ℕ) : String := String.ofList (isoChars time)

theorem digits_append_inj (hm : m < 10 ^ width) (hn : n < 10 ^ width)
    (h : digits width m ++ c :: s = digits width n ++ c :: s') : m = n ∧ s = s' := by
  obtain ⟨hdgs, hrest⟩ := List.append_inj h (by simp)
  exact ⟨digits_injective hm hn hdgs, (List.cons.inj hrest).2⟩

theorem timeChars_injective (hms : ms < 86400000) (hms' : ms' < 86400000)
    (h : timeChars ms = timeChars ms') : ms = ms' := by
  unfold timeChars at h
  obtain ⟨hhour, h⟩ := digits_append_inj (by omega) (by omega) h
  obtain ⟨hminute, h⟩ := digits_append_inj (by omega) (by omega) h
  obtain ⟨hsnd, h⟩ := digits_append_inj (by omega) (by omega) h
  obtain ⟨hmilli, -⟩ := digits_append_inj (by omega) (by omega) h
  omega

/-- **Different time values have different texts.** -/
theorem toISOString_injective (ht : t ≤ maxTimeValue) (ht' : t' ≤ maxTimeValue)
    (h : toISOString t = toISOString t') : t = t' := by
  unfold maxTimeValue at ht ht'
  obtain ⟨hmonth, hdate, hyear⟩ := dateFromDay_bounds (t / 86400000)
  obtain ⟨hmonth', hdate', hyear'⟩ := dateFromDay_bounds (t' / 86400000)
  have hchrs : isoChars t = isoChars t' := String.ofList_injective h
  unfold isoChars at hchrs
  obtain ⟨hy, hchrs⟩ := yearChars_append_inj (by omega) (by omega) hchrs
  obtain ⟨hm, hchrs⟩ := digits_append_inj hmonth hmonth' (List.cons.inj hchrs).2
  obtain ⟨hd, hchrs⟩ := digits_append_inj hdate hdate' hchrs
  have htime : t % 86400000 = t' % 86400000 := timeChars_injective (by omega) (by omega) hchrs
  have hday : t / 86400000 = t' / 86400000 := by
    have heq : dateFromDay (t / 86400000) = dateFromDay (t' / 86400000) := by
      cases hleft : dateFromDay (t / 86400000)
      cases hright : dateFromDay (t' / 86400000)
      rw [hleft, hright] at hy hm hd
      simp_all
    rw [← dayFromDate_dateFromDay (t / 86400000), heq, dayFromDate_dateFromDay]
  omega

example : toISOString 951782400123 = "2000-02-29T00:00:00.123Z" := by decide +kernel

end UbqGateway
