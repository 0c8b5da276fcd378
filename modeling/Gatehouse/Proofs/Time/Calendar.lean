import Gatehouse.Time.Calendar
import Mathlib.Tactic.IntervalCases
import Mathlib.Tactic.SplitIfs

/-! # Days and dates

Every count of days has a date, and the date has that count. An era is four
hundred years from a first of March; a day in it lies so many whole centuries,
groups of four years and years after its beginning, and the leap day, where
there is one, is the last of its year.
-/

namespace Gatehouse.Date

/-- A day of an era by the centuries, groups of four years, years and days that have passed. -/
structure InEra (dayOfEra century group year day : Int) : Prop where
  eq : dayOfEra = 36524 * century + 1461 * group + 365 * year + day
  century_mem : 0 ≤ century ∧ century ≤ 3
  group_mem : 0 ≤ group ∧ group ≤ 24
  year_mem : 0 ≤ year ∧ year ≤ 3
  day_mem : 0 ≤ day ∧ day ≤ 365
  leap : day = 365 → year = 3 ∧ (group = 24 → century = 3)

variable {days century group year day : Int}

/-- The last day of an era belongs to its last century, and the last day of four years to their last
year, although a division would go one further. -/
theorem exists_inEra (days : Int) :
    ∃ century group year day, InEra (days % 146097) century group year day := by
  obtain ⟨c, hc⟩ : ∃ c, c = min (days % 146097 / 36524) 3 := ⟨_, rfl⟩
  obtain ⟨r, hr⟩ : ∃ r, r = days % 146097 - 36524 * c := ⟨_, rfl⟩
  obtain ⟨y, hy⟩ : ∃ y, y = min (r % 1461 / 365) 3 := ⟨_, rfl⟩
  exact ⟨c, r / 1461, y, r % 1461 - 365 * y, by omega, by omega, by omega, by omega, by omega,
    by omega⟩

theorem InEra.yearOfEra {dayOfEra : Int} (h : InEra dayOfEra century group year day) :
    (dayOfEra - dayOfEra / 1460 + dayOfEra / 36524 - dayOfEra / 146096) / 365 =
      100 * century + 4 * group + year := by
  obtain ⟨rfl, hcentury, hgroup, hyear, hday, hleap⟩ := h
  by_cases hlast : day = 365 ∧ group = 24
  · obtain ⟨rfl, rfl⟩ := hlast
    obtain ⟨rfl, hcentury⟩ := hleap rfl
    rw [hcentury rfl]
    rfl
  · have hcenturies : (36524 * century + 1461 * group + 365 * year + day) / 36524 = century := by
      omega
    have heras : (36524 * century + 1461 * group + 365 * year + day) / 146096 = 0 := by omega
    have hgroups : (36524 * century + 1461 * group + 365 * year + day) / 1460 =
        25 * century + group + (24 * century + group + 365 * year + day) / 1460 := by omega
    have hsurplus : (24 * century + group + 365 * year + day) / 1460 ≤ 1 := by omega
    rw [hcenturies, heras, hgroups]
    omega

theorem InEra.leapYears {dayOfEra : Int} (h : InEra dayOfEra century group year day) :
    (100 * century + 4 * group + year) / 4 = 25 * century + group ∧
      (100 * century + 4 * group + year) / 100 = century := by
  obtain ⟨-, hcentury, hgroup, hyear, -, -⟩ := h
  omega

/-- The date so many days after the first of March of a year. -/
def fromMarch (year day : Int) : Date :=
  let month := (5 * day + 2) / 153
  ⟨if month < 10 then year else year + 1,
    (if month < 10 then month + 3 else month - 9).toNat,
    (day - (153 * month + 2) / 5 + 1).toNat⟩

theorem ofDays_eq (h : InEra ((days + 719468) % 146097) century group year day) :
    ofDays days =
      fromMarch (400 * ((days + 719468) / 146097) + (100 * century + 4 * group + year)) day := by
  have hyear := h.yearOfEra
  have hday : (days + 719468) % 146097 - (365 * (100 * century + 4 * group + year) +
      (100 * century + 4 * group + year) / 4 - (100 * century + 4 * group + year) / 100) = day := by
    rw [h.leapYears.1, h.leapYears.2, h.eq]
    clear hyear
    omega
  have hmonth : 0 ≤ (5 * day + 2) / 153 ∧ (5 * day + 2) / 153 ≤ 11 := by
    have := h.day_mem
    clear hday hyear h
    omega
  simp only [ofDays, hyear, hday, fromMarch]
  -- The months alone decide the rest, and arithmetic is quick only without the divisions.
  generalize (days + 719468) / 146097 = era, (5 * day + 2) / 153 = month at hmonth ⊢
  clear hyear hday h
  congr 1
  split_ifs <;> omega

theorem toDays_fromMarch (year : Int) (hday : 0 ≤ day ∧ day ≤ 365) :
    (fromMarch year day).toDays =
      year / 400 * 146097 + (year % 400 * 365 + year % 400 / 4 - year % 400 / 100 + day) -
        719468 := by
  obtain ⟨month, hmonth⟩ : ∃ month, month = (5 * day + 2) / 153 := ⟨_, rfl⟩
  have hyear : (if (if month < 10 then month + 3 else month - 9).toNat ≤ 2 then
      (if month < 10 then year else year + 1) - 1
      else if month < 10 then year else year + 1) = year := by
    split_ifs <;> omega
  have hfromMarch :
      (((if month < 10 then month + 3 else month - 9).toNat : Int) + 9) % 12 = month := by
    split_ifs <;> omega
  have hinMonth : ((day - (153 * month + 2) / 5 + 1).toNat : Int) =
      day - (153 * month + 2) / 5 + 1 := by
    omega
  simp only [toDays, fromMarch, ← hmonth, hyear, hfromMarch, hinMonth]
  omega

theorem isValid_fromMarch (hday : 0 ≤ day ∧ day ≤ 365)
    (hleap : day = 365 → isLeapYear (year + 1)) : (fromMarch year day).IsValid := by
  obtain ⟨month, hmonth⟩ : ∃ month, month = (5 * day + 2) / 153 := ⟨_, rfl⟩
  have hlow : 0 ≤ month := by omega
  have hhigh : month ≤ 11 := by omega
  simp only [IsValid, fromMarch, ← hmonth]
  interval_cases month
  case «11» =>
    by_cases hlast : day = 365
    · subst hlast
      have hlength : daysInMonth (year + 1) 2 = 29 := by simp [daysInMonth, hleap rfl]
      exact ⟨by decide, by decide, by decide, hlength.ge⟩
    · simp only [daysInMonth]
      norm_num
      split <;> omega
  all_goals
    simp only [daysInMonth]
    norm_num
    omega

theorem toDays_ofDays (days : Int) : (ofDays days).toDays = days := by
  obtain ⟨century, group, year, day, h⟩ := exists_inEra (days + 719468)
  have hleaps := h.leapYears
  rw [ofDays_eq h, toDays_fromMarch _ h.day_mem]
  obtain ⟨heq, hcentury, hgroup, hyear, -, -⟩ := h
  obtain ⟨passed, hpassed⟩ : ∃ passed, passed = 100 * century + 4 * group + year := ⟨_, rfl⟩
  have hera : (400 * ((days + 719468) / 146097) + passed) / 400 = (days + 719468) / 146097 := by
    omega
  have hyearOfEra : (400 * ((days + 719468) / 146097) + passed) % 400 = passed := by omega
  rw [← hpassed] at hleaps ⊢
  rw [hera, hyearOfEra, hleaps.1, hleaps.2]
  omega

theorem isValid_ofDays (days : Int) : (ofDays days).IsValid := by
  obtain ⟨century, group, year, day, h⟩ := exists_inEra (days + 719468)
  rw [ofDays_eq h]
  refine isValid_fromMarch h.day_mem fun hlast => ?_
  obtain ⟨rfl, hcentury⟩ := h.leap hlast
  have hgroup := h.group_mem
  have hbound := h.century_mem
  simp only [isLeapYear, Bool.and_eq_true, Bool.or_eq_true, beq_iff_eq, bne_iff_ne]
  omega

theorem IsValid.day_le {date : Date} (h : date.IsValid) : date.day ≤ 31 := by
  refine h.2.2.2.trans ?_
  unfold daysInMonth
  split_ifs <;> decide

/-- The days that moments fall on lie in the years that moments reach. -/
theorem year_ofDays_mem (hlow : -96465292 ≤ days) (hhigh : days ≤ 95026236) :
    -262143 ≤ (ofDays days).year ∧ (ofDays days).year ≤ 262142 := by
  obtain ⟨century, group, year, day, h⟩ := exists_inEra (days + 719468)
  rw [ofDays_eq h]
  obtain ⟨heq, hcentury, hgroup, hyear, hday, -⟩ := h
  have hmonth : (5 * day + 2) / 153 < 10 ↔ day < 306 := by omega
  generalize hera : (days + 719468) / 146097 = era
  simp only [fromMarch, hmonth]
  constructor
  · split_ifs <;> omega
  · -- The last year is narrowed down from its era to its group of four.
    by_contra hlate
    obtain rfl : era = 655 := by split_ifs at hlate <;> omega
    obtain rfl : century = 1 := by split_ifs at hlate <;> omega
    obtain rfl : group = 10 := by split_ifs at hlate <;> omega
    split_ifs at hlate <;> omega

end Gatehouse.Date
