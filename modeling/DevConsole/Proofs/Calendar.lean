import DevConsole.Calendar
import Mathlib.Algebra.BigOperators.Intervals
import Mathlib.Data.List.Lex

/-!
# Dates and days

Days make up months, months make up years, both one after the other. `Falls length first n i rest`
says of such a row of blocks where the place `n` lies: `rest` behind the start of block `i`. Both
searches of the calendar find that place (`yearOf_eq_ok_iff`, `monthOf_eq_some_iff`), and places are
ordered like block and rest (`Falls.lt_of_lex`).

`Moment.seconds` counts a date and a time of day up, the lengths of the months by the Gregorian rule
(`Leap`). Breaking a count down into a date is the inverse of this on the years that there are
(`ofUnix_eq_ok_iff`), and keeps the order (`seconds_lt_iff`).
-/

namespace DevConsole

namespace Calendar

/-- The Gregorian rule: four divides the year, and a full hundred four hundred divides too. -/
def Leap (year : Nat) : Prop := 4 ∣ year ∧ (100 ∣ year → 400 ∣ year)

instance (year : Nat) : Decidable (Leap year) := inferInstanceAs (Decidable (_ ∧ (_ → _)))

def monthLength (year month : Nat) : Nat :=
  if month = 2 then if Leap year then 29 else 28
  else if month = 4 ∨ month = 6 ∨ month = 9 ∨ month = 11 then 30 else 31

/-- The days of the twelve months. -/
def daysInYear (year : Nat) : Nat := ∑ month ∈ Finset.Ico 1 13, monthLength year month

/-- The days of the months before `month`. -/
def daysBeforeMonth (year month : Nat) : Nat := ∑ k ∈ Finset.Ico 1 month, monthLength year k

/-- The days from the start of 1970 up to `year`. -/
def daysBeforeYear (year : Nat) : Nat := ∑ k ∈ Finset.Ico 1970 year, daysInYear k

/-- The second `secs` after the start of 1970 is in the given year. -/
def InYear (secs year : Nat) : Prop :=
  daysBeforeYear year * 86400 ≤ secs ∧ secs < daysBeforeYear (year + 1) * 86400

/-! ## Places in a row of blocks -/

/-- The place `n`, counted from the start of block `first`, lies `rest` behind the start of block
`i`. -/
structure Falls (length : Nat → Nat) (first n i rest : Nat) : Prop where
  le : first ≤ i
  lt : rest < length i
  sum : ∑ k ∈ Finset.Ico first i, length k + rest = n

variable {length : Nat → Nat} {first last n n' i i' rest rest' : Nat}

theorem falls_of_lt (h : n < length first) :
    Falls length first n i rest ↔ i = first ∧ rest = n := by
  constructor
  · rintro ⟨hle, hlt, hsum⟩
    rcases Nat.eq_or_lt_of_le hle with rfl | hless
    · exact ⟨rfl, by simpa using hsum⟩
    · rw [Finset.sum_eq_sum_Ico_succ_bot hless] at hsum
      omega
  · rintro ⟨rfl, rfl⟩
    exact ⟨Nat.le_refl _, h, by simp⟩

theorem falls_of_le (h : length first ≤ n) :
    Falls length first n i rest ↔ Falls length (first + 1) (n - length first) i rest := by
  constructor
  · rintro ⟨hle, hlt, hsum⟩
    rcases Nat.eq_or_lt_of_le hle with rfl | hless
    · rw [Finset.Ico_self, Finset.sum_empty] at hsum
      omega
    · rw [Finset.sum_eq_sum_Ico_succ_bot hless] at hsum
      exact ⟨hless, hlt, by omega⟩
  · rintro ⟨hle, hlt, hsum⟩
    refine ⟨Nat.le_of_succ_le hle, hlt, ?_⟩
    rw [Finset.sum_eq_sum_Ico_succ_bot hle]
    omega

/-- The blocks up to the one that a place lies in reach past the place. -/
theorem Falls.lt_sum (h : Falls length first n i rest) (hi : i < last) :
    n < ∑ k ∈ Finset.Ico first last, length k := by
  have hall := Finset.sum_Ico_consecutive length (Nat.le_succ_of_le h.le) hi
  rw [Finset.sum_Ico_succ_top h.le] at hall
  have hrest := h.lt
  have hsum := h.sum
  omega

theorem exists_falls (h : n < ∑ k ∈ Finset.Ico first last, length k) :
    ∃ i rest, i < last ∧ Falls length first n i rest := by
  induction hcount : last - first generalizing first n with
  | zero =>
    rw [Finset.Ico_eq_empty (by omega), Finset.sum_empty] at h
    omega
  | succ count ih =>
    have hless : first < last := by omega
    rw [Finset.sum_eq_sum_Ico_succ_bot hless] at h
    by_cases hn : n < length first
    · exact ⟨first, n, hless, (falls_of_lt hn).mpr ⟨rfl, rfl⟩⟩
    · have hrest : n - length first < ∑ k ∈ Finset.Ico (first + 1) last, length k := by omega
      obtain ⟨i, rest, hi, hfalls⟩ := ih hrest (by omega)
      exact ⟨i, rest, hi, (falls_of_le (Nat.not_lt.mp hn)).mpr hfalls⟩

/-- A place in an earlier block, or earlier in the same block, is the earlier one. -/
theorem Falls.lt_of_lex (h : Falls length first n i rest) (h' : Falls length first n' i' rest')
    (hlex : i < i' ∨ i = i' ∧ rest < rest') : n < n' := by
  have hsum' := h'.sum
  rcases hlex with hless | ⟨rfl, hless⟩
  · have hreach := h.lt_sum hless
    omega
  · have hsum := h.sum
    omega

/-! ## Lengths -/

theorem isLeap_iff {year : Nat} : isLeap year = true ↔ Leap year := by
  simp only [isLeap, Leap, Bool.or_eq_true, Bool.and_eq_true, beq_iff_eq, bne_iff_ne,
    Nat.dvd_iff_mod_eq_zero]
  omega

theorem monthLengths_eq (year : Nat) :
    monthLengths year = (List.range' 1 12).map (monthLength year) := by
  simp [monthLengths, monthLength, isLeap_iff, List.range'_succ]

theorem daysInYear_eq (year : Nat) : daysInYear year = if Leap year then 366 else 365 := by
  simp only [daysInYear, Finset.sum_Ico_eq_sum_range, Finset.sum_range_succ, monthLength]
  split <;> rfl

theorem yearLength_eq (year : Nat) : yearLength year = daysInYear year := by
  simp only [daysInYear_eq, yearLength, isLeap_iff]

theorem daysBeforeYear_succ {year : Nat} (h : 1970 ≤ year) :
    daysBeforeYear (year + 1) = daysBeforeYear year + daysInYear year :=
  Finset.sum_Ico_succ_top h _

/-- The days since the start of the year one: a day more for every fourth year, less for the full
hundreds, but more again for every fourth of these. There are 719162 of them before 1970. -/
theorem daysBeforeYear_add {year : Nat} (h : 1970 ≤ year) :
    daysBeforeYear year + 719162 + (year - 1) / 100 =
      365 * (year - 1) + (year - 1) / 4 + (year - 1) / 400 := by
  induction year, h using Nat.le_induction with
  | base => rw [daysBeforeYear, Finset.Ico_self, Finset.sum_empty]
  | succ year h ih =>
    rw [daysBeforeYear_succ h, daysInYear_eq]
    split
    · rename_i hleap
      obtain ⟨hfour, hcentury⟩ := hleap
      omega
    · rename_i hleap
      rw [Leap] at hleap
      omega

/-- There are no years before 1970. -/
theorem InYear.le {secs year : Nat} (h : InYear secs year) : 1970 ≤ year := by
  by_contra hless
  have hnone : daysBeforeYear (year + 1) = 0 := by
    rw [daysBeforeYear, Finset.Ico_eq_empty (by omega), Finset.sum_empty]
  have hlt := h.2
  omega

/-! ## The searches -/

variable {year month day days : Nat}

theorem yearOf_eq_ok_iff (hfirst : first ≤ lastYear) :
    yearOf first days = .ok (year, day) ↔
      year ≤ lastYear ∧ Falls daysInYear first days year day := by
  fun_induction yearOf first days with
  | case1 first days hless =>
    rw [yearLength_eq] at hless
    rw [falls_of_lt hless, Except.ok.injEq, Prod.mk.injEq]
    omega
  | case2 first days hless hlast =>
    rw [yearLength_eq] at hless
    refine ⟨nofun, fun ⟨hyear, hfalls⟩ => ?_⟩
    have hnext := ((falls_of_le (Nat.not_lt.mp hless)).mp hfalls).le
    omega
  | case3 first days hless hlast ih =>
    rw [ih (by omega), yearLength_eq]
    rw [yearLength_eq] at hless
    rw [falls_of_le (Nat.not_lt.mp hless)]

theorem monthOf_eq_some_iff {count : Nat} :
    monthOf first days ((List.range' first count).map length) = some (month, day) ↔
      month < first + count ∧ Falls length first days month day := by
  induction count generalizing first days with
  | zero =>
    refine ⟨nofun, fun ⟨hmonth, hfalls⟩ => ?_⟩
    have hle := hfalls.le
    omega
  | succ count ih =>
    rw [List.range'_succ, List.map_cons, monthOf]
    split
    · rename_i hless
      rw [falls_of_lt hless, Option.some.injEq, Prod.mk.injEq]
      omega
    · rename_i hless
      rw [ih, falls_of_le (Nat.not_lt.mp hless), Nat.add_right_comm, Nat.add_assoc]

/-- A day of a year falls into one of its months. -/
theorem exists_monthOf (h : day < daysInYear year) :
    ∃ month rest, monthOf 1 day (monthLengths year) = some (month, rest) ∧
      month ≤ 12 ∧ Falls (monthLength year) 1 day month rest := by
  obtain ⟨month, rest, hmonth, hfalls⟩ := exists_falls h
  refine ⟨month, rest, ?_, by omega, hfalls⟩
  rw [monthLengths_eq, monthOf_eq_some_iff]
  exact ⟨by omega, hfalls⟩

theorem dateOf_eq_ok_iff :
    dateOf days = .ok (year, month, day) ↔
      year ≤ lastYear ∧ month ≤ 12 ∧ 1 ≤ day ∧
        ∃ rest, Falls daysInYear 1970 days year rest ∧
          Falls (monthLength year) 1 rest month (day - 1) := by
  have hfirst : 1970 ≤ lastYear := by decide
  constructor
  · intro h
    unfold dateOf at h
    cases hyear : yearOf 1970 days with
    | error e =>
      rw [hyear] at h
      cases h
    | ok found =>
      obtain ⟨year', rest⟩ := found
      obtain ⟨hlast, hfalls⟩ := (yearOf_eq_ok_iff hfirst).mp hyear
      obtain ⟨month', day', hmonth, hle, hfalls'⟩ := exists_monthOf hfalls.lt
      simp only [hyear, Except.map, hmonth, Except.ok.injEq, Prod.mk.injEq] at h
      obtain ⟨rfl, rfl, rfl⟩ := h
      exact ⟨hlast, hle, by omega, rest, hfalls, hfalls'⟩
  · rintro ⟨hlast, hmonth, hday, rest, hfalls, hfalls'⟩
    have hyear := (yearOf_eq_ok_iff hfirst).mpr ⟨hlast, hfalls⟩
    have hfound : monthOf 1 rest (monthLengths year) = some (month, day - 1) := by
      rw [monthLengths_eq, monthOf_eq_some_iff]
      exact ⟨by omega, hfalls'⟩
    simp only [dateOf, hyear, Except.map, hfound, Nat.sub_add_cancel hday]

end Calendar

namespace Moment

open Calendar

variable {m m' : Moment} {secs : Nat}

/-- A date that there is, from 1970 on, and a time of day. -/
structure Civil (m : Moment) : Prop where
  year : 1970 ≤ m.year
  month : 1 ≤ m.month ∧ m.month ≤ 12
  day : 1 ≤ m.day ∧ m.day ≤ monthLength m.year m.month
  hour : m.hour < 24
  minute : m.minute < 60
  second : m.second < 60

def dayOfYear (m : Moment) : Nat := daysBeforeMonth m.year m.month + (m.day - 1)

def secondOfDay (m : Moment) : Nat := m.hour * 3600 + m.minute * 60 + m.second

/-- The seconds from the start of 1970 up to the moment. -/
def seconds (m : Moment) : Nat :=
  (daysBeforeYear m.year + m.dayOfYear) * 86400 + m.secondOfDay

/-- The fields, the coarsest first. -/
def fields (m : Moment) : List Nat := [m.year, m.month, m.day, m.hour, m.minute, m.second]

theorem Civil.falls_month (h : m.Civil) :
    Falls (monthLength m.year) 1 m.dayOfYear m.month (m.day - 1) := by
  have hday := h.day
  exact ⟨h.month.1, by omega, rfl⟩

theorem Civil.falls_year (h : m.Civil) :
    Falls daysInYear 1970 (daysBeforeYear m.year + m.dayOfYear) m.year m.dayOfYear :=
  ⟨h.year, h.falls_month.lt_sum (Nat.lt_succ_of_le h.month.2), rfl⟩

theorem Civil.secondOfDay_lt (h : m.Civil) : m.secondOfDay < 86400 := by
  have hhour := h.hour
  have hminute := h.minute
  have hsecond := h.second
  unfold secondOfDay
  omega

theorem Civil.seconds_div (h : m.Civil) :
    m.seconds / 86400 = daysBeforeYear m.year + m.dayOfYear := by
  have hlt := h.secondOfDay_lt
  unfold seconds
  omega

theorem Civil.seconds_mod (h : m.Civil) : m.seconds % 86400 = m.secondOfDay := by
  have hlt := h.secondOfDay_lt
  unfold seconds
  omega

theorem Civil.time_of_secondOfDay (h : m.Civil) :
    m.secondOfDay / 3600 = m.hour ∧ m.secondOfDay % 3600 / 60 = m.minute ∧
      m.secondOfDay % 60 = m.second := by
  have hminute := h.minute
  have hsecond := h.second
  unfold secondOfDay
  omega

theorem fields_inj (h : m.fields = m'.fields) : m = m' := by
  obtain ⟨⟩ := m
  obtain ⟨⟩ := m'
  simpa [fields] using h

/-! ## Counting up and breaking down -/

theorem ofUnix_of_dateOf {year month day : Nat}
    (h : dateOf (secs / 86400) = .ok (year, month, day)) :
    ofUnix secs = .ok ⟨year, month, day, secs % 86400 / 3600, secs % 86400 % 3600 / 60,
      secs % 86400 % 60⟩ := by
  rw [ofUnix, h]
  rfl

/-- Breaking down is the inverse of counting up. -/
theorem ofUnix_eq_ok_iff :
    ofUnix secs = .ok m ↔ m.Civil ∧ m.year ≤ lastYear ∧ m.seconds = secs := by
  constructor
  · intro h
    cases hdate : dateOf (secs / 86400) with
    | error e =>
      rw [ofUnix, hdate] at h
      cases h
    | ok date =>
      obtain ⟨year, month, day⟩ := date
      obtain ⟨hlast, hle, hday, rest, hyear, hmonth⟩ := dateOf_eq_ok_iff.mp hdate
      have hhour : secs % 86400 / 3600 < 24 := by omega
      have hminute : secs % 86400 % 3600 / 60 < 60 := by omega
      have hlength := hmonth.lt
      have hrest : daysBeforeMonth year month + (day - 1) = rest := hmonth.sum
      have hdays : daysBeforeYear year + rest = secs / 86400 := hyear.sum
      rw [ofUnix_of_dateOf hdate, Except.ok.injEq] at h
      subst h
      refine ⟨⟨hyear.le, ⟨hmonth.le, hle⟩, ⟨hday, Nat.le_of_pred_lt hlength⟩, hhour, hminute,
        Nat.mod_lt _ (by decide)⟩, hlast, ?_⟩
      rw [seconds, dayOfYear, hrest, hdays, secondOfDay]
      dsimp only
      omega
  · rintro ⟨hcivil, hlast, rfl⟩
    have hdate : dateOf (m.seconds / 86400) = .ok (m.year, m.month, m.day) := by
      rw [hcivil.seconds_div]
      exact dateOf_eq_ok_iff.mpr ⟨hlast, hcivil.month.2, hcivil.day.1, m.dayOfYear,
        hcivil.falls_year, hcivil.falls_month⟩
    obtain ⟨hhour, hminute, hsecond⟩ := hcivil.time_of_secondOfDay
    rw [ofUnix_of_dateOf hdate, hcivil.seconds_mod, hhour, hminute, hsecond]

theorem exists_ofUnix {year : Nat} (h : InYear secs year) (hlast : year ≤ lastYear) :
    ∃ m, ofUnix secs = .ok m ∧ m.year = year := by
  have hyear : Falls daysInYear 1970 (secs / 86400) year (secs / 86400 - daysBeforeYear year) := by
    have hfirst := h.le
    obtain ⟨hstart, hend⟩ := h
    rw [daysBeforeYear_succ hfirst] at hend
    refine ⟨hfirst, by omega, ?_⟩
    change daysBeforeYear year + _ = _
    omega
  obtain ⟨month, rest, -, hle, hmonth⟩ := exists_monthOf hyear.lt
  have hdate : dateOf (secs / 86400) = .ok (year, month, rest + 1) :=
    dateOf_eq_ok_iff.mpr ⟨hlast, hle, Nat.le_add_left _ _, _, hyear, hmonth⟩
  rw [ofUnix, hdate]
  exact ⟨_, rfl, rfl⟩

theorem seconds_lt_of_fields_lt (h : m.Civil) (h' : m'.Civil) (hlex : m.fields < m'.fields) :
    m.seconds < m'.seconds := by
  have htime := h.secondOfDay_lt
  have hyear := h.falls_year
  have hmonth := h.falls_month
  simp only [fields, List.cons_lt_cons_iff] at hlex
  -- a later day decides whatever the time of day is
  have hday : daysBeforeYear m.year + m.dayOfYear < daysBeforeYear m'.year + m'.dayOfYear →
      m.seconds < m'.seconds := by
    unfold seconds
    omega
  rcases hlex with hlt | ⟨heq, hlex⟩
  · exact hday (hyear.lt_of_lex h'.falls_year (.inl hlt))
  rw [heq] at hmonth
  rcases hlex with hlt | ⟨heq', hlt | ⟨heq'', hlt⟩⟩
  · have hlater := hmonth.lt_of_lex h'.falls_month (.inl hlt)
    exact hday (hyear.lt_of_lex h'.falls_year (.inr ⟨heq, hlater⟩))
  · have hfirst := h.day.1
    have hlater := hmonth.lt_of_lex h'.falls_month (.inr ⟨heq', by omega⟩)
    exact hday (hyear.lt_of_lex h'.falls_year (.inr ⟨heq, hlater⟩))
  · have hsame : m.dayOfYear = m'.dayOfYear := by rw [dayOfYear, dayOfYear, heq, heq', heq'']
    have hminute := h.minute
    have hsecond := h.second
    simp only [lt_self_iff_false, and_false, or_false] at hlt
    simp only [seconds, secondOfDay, hsame, heq]
    omega

theorem seconds_lt_iff (h : m.Civil) (h' : m'.Civil) :
    m.seconds < m'.seconds ↔ m.fields < m'.fields := by
  refine ⟨fun hlt => ?_, seconds_lt_of_fields_lt h h'⟩
  rcases lt_trichotomy m.fields m'.fields with hless | heq | hmore
  · exact hless
  · rw [fields_inj heq] at hlt
    exact absurd hlt (Nat.lt_irrefl _)
  · exact absurd (seconds_lt_of_fields_lt h' h hmore) (Nat.not_lt.mpr (Nat.le_of_lt hlt))

/-- A second of a year up to 65535 is broken down into a date and a time of day that count up to it
again, and a later second into later ones. The count of years fits, and the month is found among the
twelve. -/
theorem ofUnix_exact {year : Nat} (h : InYear secs year) (hlast : year ≤ 65535) :
    ∃ m, ofUnix secs = .ok m ∧ m.Civil ∧ m.year = year ∧ m.seconds = secs ∧
      (∃ day, yearOf 1970 (secs / 86400) = .ok (year, day) ∧
        monthOf 1 day (monthLengths year) = some (m.month, m.day - 1)) ∧
      ∀ secs' m', ofUnix secs' = .ok m' →
        (secs < secs' ↔ m.fields < m'.fields) ∧ (secs = secs' ↔ m = m') := by
  obtain ⟨m, hm, rfl⟩ := exists_ofUnix h hlast
  obtain ⟨hcivil, -, rfl⟩ := ofUnix_eq_ok_iff.mp hm
  refine ⟨m, hm, hcivil, rfl, rfl, ?_, ?_⟩
  · refine ⟨m.dayOfYear, ?_, ?_⟩
    · rw [hcivil.seconds_div, yearOf_eq_ok_iff (by decide)]
      exact ⟨hlast, hcivil.falls_year⟩
    · rw [monthLengths_eq, monthOf_eq_some_iff]
      exact ⟨Nat.lt_succ_of_le hcivil.month.2, hcivil.falls_month⟩
  · intro secs' m' hm'
    obtain ⟨hcivil', -, rfl⟩ := ofUnix_eq_ok_iff.mp hm'
    refine ⟨seconds_lt_iff hcivil hcivil', fun heq => ?_, fun heq => by rw [heq]⟩
    rw [heq, hm'] at hm
    exact (Except.ok.inj hm).symm

/-- The last second of the greatest year. -/
theorem ofUnix_exact_last :
    InYear 2005949145599 65535 ∧ 65535 ≤ 65535 ∧
      ofUnix 2005949145599 = .ok ⟨65535, 12, 31, 23, 59, 59⟩ ∧
        Civil ⟨65535, 12, 31, 23, 59, 59⟩ ∧
          seconds ⟨65535, 12, 31, 23, 59, 59⟩ = 2005949145599 := by
  -- with the year a variable, so that nothing counts up to it day by day
  have hall : ∀ year, year = 65535 →
      InYear 2005949145599 year ∧ seconds ⟨year, 12, 31, 23, 59, 59⟩ = 2005949145599 := by
    intro year hyear
    have hstart := daysBeforeYear_add (show 1970 ≤ year by omega)
    have hend := daysBeforeYear_add (show 1970 ≤ year + 1 by omega)
    have hmonths : daysBeforeMonth year 12 = 334 := by
      rw [hyear]
      decide +kernel
    simp only [InYear, seconds, dayOfYear, secondOfDay, hmonths]
    omega
  obtain ⟨hyear, hcount⟩ := hall 65535 rfl
  obtain ⟨m, hm, hcivil, -, hseconds, -⟩ := ofUnix_exact hyear (Nat.le_refl _)
  have hlast : ofUnix 2005949145599 = .ok ⟨65535, 12, 31, 23, 59, 59⟩ := by
    refine ofUnix_eq_ok_iff.mpr ⟨?_, Nat.le_refl _, hcount⟩
    exact ⟨by decide, by decide, by decide, by decide, by decide, by decide⟩
  obtain rfl : m = ⟨65535, 12, 31, 23, 59, 59⟩ := Except.ok.inj (hm.symm.trans hlast)
  exact ⟨hyear, Nat.le_refl _, hm, hcivil, hseconds⟩

end Moment

end DevConsole
