import ChatFlow.Time.Calendar

namespace ChatFlow.Date

structure Place (day century span year rest : Int) : Prop where
  sum : day = 36524 * century + 1461 * span + 365 * year + rest
  century_range : 0 ≤ century ∧ century ≤ 3
  span_range : 0 ≤ span ∧ span ≤ 24
  year_range : 0 ≤ year ∧ year ≤ 3
  rest_range : 0 ≤ rest ∧ rest ≤ 365
  leap : rest = 365 → year = 3 ∧ (span = 24 → century = 3)

theorem exists_place (day : Int) (h : 0 ≤ day ∧ day < 146097) :
    ∃ century span year rest, Place day century span year rest := by
  -- the last century and the last year of a span may be a day longer than the others
  obtain ⟨century, hcentury⟩ : ∃ n : Int, n = min 3 (day / 36524) := ⟨_, rfl⟩
  obtain ⟨later, hlater⟩ : ∃ n : Int, n = day - 36524 * century := ⟨_, rfl⟩
  obtain ⟨year, hyear⟩ : ∃ n : Int, n = min 3 (later % 1461 / 365) := ⟨_, rfl⟩
  refine ⟨century, later / 1461, year, later % 1461 - 365 * year, ?_, ?_, ?_, ?_, ?_, ?_⟩ <;> omega

variable {day century span year rest : Int}

namespace Place

variable (h : Place day century span year rest)

include h

/-- The year of the cycle: the days by which leap years are longer are taken out of the count. -/
theorem yearOfCycle_eq :
    (day - day / 1460 + day / 36524 - day / 146096) / 365 = 100 * century + 4 * span + year := by
  obtain ⟨hsum, hcentury, hspan, hyear, hrest, hleap⟩ := h
  have hlong : day / 36524 - day / 146096 = century := by
    -- the last day of the cycle is beyond four centuries
    have hlast : day / 146096 = 0 ∨ day = 146096 := by omega
    rcases hlast with hlast | hlast <;> omega
  have hspans : day / 1460 = 25 * century + span ∧ rest ≤ 364 ∨
      day / 1460 = 25 * century + span + 1 ∧ 1 ≤ rest := by
    omega
  omega

theorem daysBefore_eq {yearOfCycle : Int} (hcycle : yearOfCycle = 100 * century + 4 * span + year) :
    365 * yearOfCycle + yearOfCycle / 4 - yearOfCycle / 100 = day - rest := by
  obtain ⟨hsum, hcentury, hspan, hyear, hrest, hleap⟩ := h
  have hfours : yearOfCycle / 4 = 25 * century + span := by omega
  have hhundreds : yearOfCycle / 100 = century := by omega
  omega

/-- A year that has 366 days from March on ends with the February of a leap year. -/
theorem isLeap_of_rest (cycle : Int) (hrest : rest = 365) :
    isLeap (cycle * 400 + (100 * century + 4 * span + year) + 1) = true := by
  obtain ⟨hyear, hlast⟩ := h.leap hrest
  have hspan := h.span_range
  have hcentury := h.century_range
  simp only [isLeap, Bool.and_eq_true, beq_iff_eq, Bool.or_eq_true, bne_iff_ne]
  omega

end Place

def fromMarch (year month : Int) (day : Nat) : Date :=
  if month < 10 then ⟨year, (month + 3).toNat, day⟩ else ⟨year + 1, (month - 9).toNat, day⟩

theorem toDays_fromMarch {cycle yearOfCycle month : Int} {dayOfMonth : Nat}
    (hyear : 0 ≤ yearOfCycle ∧ yearOfCycle ≤ 399) (hmonth : 0 ≤ month ∧ month ≤ 11) :
    (fromMarch (cycle * 400 + yearOfCycle) month dayOfMonth).toDays =
      cycle * 146097 +
        (yearOfCycle * 365 + yearOfCycle / 4 - yearOfCycle /
          100 + ((153 * month + 2) / 5 + dayOfMonth - 1)) -
        719468 := by
  have hcycle : (cycle * 400 + yearOfCycle) / 400 = cycle := by omega
  have hyearOfCycle : (cycle * 400 + yearOfCycle) % 400 = yearOfCycle := by omega
  unfold fromMarch
  split
  · have hmonths : ((month + 3).toNat : Int) - 3 = month := by omega
    simp only [toDays]
    rw [if_neg (by omega), if_neg (by omega), hcycle, hyearOfCycle, hmonths]
  · have hmonths : ((month - 9).toNat : Int) + 9 = month := by omega
    simp only [toDays]
    rw [if_pos (by omega), if_pos (by omega), Int.add_sub_cancel, hcycle, hyearOfCycle, hmonths]

/-- The date of a place: the year from March on, its month and the day of the month. -/
def ofPlace (cycle century span year rest : Int) : Date :=
  let month := (5 * rest + 2) / 153
  fromMarch (cycle * 400 + (100 * century + 4 * span + year)) month
    (rest - (153 * month + 2) / 5 + 1).toNat

theorem exists_place_ofDays (days : Int) :
    ∃ century span year rest, Place ((days + 719468) % 146097) century span year rest ∧
      ofDays days = ofPlace ((days + 719468) / 146097) century span year rest := by
  obtain ⟨century, span, year, rest, h⟩ := exists_place ((days + 719468) % 146097) (by omega)
  refine ⟨century, span, year, rest, h, ?_⟩
  have hrest : ∀ day : Int, day - (day - rest) = rest := fun day => by omega
  simp only [ofDays, h.yearOfCycle_eq, h.daysBefore_eq rfl, hrest, ofPlace, fromMarch]

section Month

variable {cycle : Int} (h : Place day century span year rest)

include h

theorem isValid_ofPlace : (ofPlace cycle century span year rest).isValid = true := by
  have hrest := h.rest_range
  have hleap := h.isLeap_of_rest cycle
  obtain ⟨month, hmonth⟩ : ∃ n : Int, n = (5 * rest + 2) / 153 := ⟨_, rfl⟩
  have hcases : month = 11 ∨ month = 0 ∨ month = 1 ∨ month = 2 ∨ month = 3 ∨ month = 4 ∨ month = 5 ∨
      month = 6 ∨ month = 7 ∨ month = 8 ∨ month = 9 ∨ month = 10 := by
    omega
  simp only [ofPlace, fromMarch, ← hmonth]
  rcases hcases with rfl | hcases
  · -- February comes last, and only a leap year has its 29th
    simp only [isValid, daysInMonth]
    by_cases hlong : rest = 365
    · simp [hleap hlong]
      omega
    · simp
      split <;> omega
  · rcases hcases with rfl | rfl | rfl | rfl | rfl | rfl | rfl | rfl | rfl | rfl | rfl <;>
      simp [isValid, daysInMonth] <;> omega

theorem toDays_ofPlace :
    (ofPlace cycle century span year rest).toDays = cycle * 146097 + day - 719468 := by
  have hyears := h.daysBefore_eq rfl
  obtain ⟨-, hcentury, hspan, hyear, hrest, -⟩ := h
  unfold ofPlace
  dsimp only
  rw [toDays_fromMarch (by omega) (by omega)]
  -- the days before the month and those of the month make up the rest
  have hmonth : 0 ≤ rest - (153 * ((5 * rest + 2) / 153) + 2) / 5 := by omega
  omega

end Month

theorem isValid_ofDays (days : Int) : (ofDays days).isValid = true := by
  obtain ⟨_, _, _, _, hplace, heq⟩ := exists_place_ofDays days
  rw [heq]
  exact isValid_ofPlace hplace

theorem toDays_ofDays (days : Int) : (ofDays days).toDays = days := by
  obtain ⟨_, _, _, _, hplace, heq⟩ := exists_place_ofDays days
  rw [heq, toDays_ofPlace hplace]
  omega

theorem bounds_of_isValid {d : Date} (h : d.isValid = true) : d.month ≤ 12 ∧ d.day ≤ 31 := by
  have hdays : daysInMonth d.year d.month ≤ 31 := by
    unfold daysInMonth
    split
    · split <;> decide
    all_goals decide
  simp only [isValid, Bool.and_eq_true, decide_eq_true_eq] at h
  omega

end ChatFlow.Date
