import SqlDialects.Calendar

/-!
Days and their dates. A cycle of 400 years has centuries of 36524 days and these have 1461 days for
every four years, so the year of a day is found by division, though not all years are equally long.
A day number can be computed back from its date, so different days have different dates.
-/

namespace SqlDialects

namespace Date

section Years

variable {century fourth year day : Nat}

theorem daysBeforeYear_eq (inCentury : fourth < 25) (inFourth : year < 4) :
    daysBeforeYear (100 * century + 4 * fourth + year) =
      36524 * century + 1461 * fourth + 365 * year := by
  have fourths : (100 * century + 4 * fourth + year) / 4 = 25 * century + fourth := by omega
  have centuries : (100 * century + 4 * fourth + year) / 100 = century := by omega
  rw [daysBeforeYear, fourths, centuries]
  omega

theorem cycleYear_eq (inCycle : century < 4) (inFourth : day < 1461)
    (inCentury : 1461 * fourth + day < 36524) :
    cycleYear (36524 * century + 1461 * fourth + day) =
      100 * century + 4 * fourth + min (day / 365) 3 := by
  have lastDay : (36524 * century + 1461 * fourth + day) / 146096 = 0 := by omega
  have centuries : (36524 * century + 1461 * fourth + day) / 36524 = century := by omega
  have fourths : (36524 * century + 1461 * fourth + day) / 1460 =
      25 * century + fourth + (24 * century + fourth + day) / 1460 := by omega
  rw [cycleYear, lastDay, centuries, fourths]
  omega

theorem exists_fourth {cycleDay : Nat} (early : cycleDay < 146096) :
    ∃ century fourth day, century < 4 ∧ fourth < 25 ∧ day < 1461 ∧
      1461 * fourth + day < 36524 ∧ cycleDay = 36524 * century + 1461 * fourth + day :=
  ⟨cycleDay / 36524, cycleDay % 36524 / 1461, cycleDay % 36524 % 1461,
    by omega, by omega, by omega, by omega, by omega⟩

theorem cycleYear_holds {cycleDay : Nat} (inCycle : cycleDay < 146097) :
    cycleYear cycleDay < 400 ∧ daysBeforeYear (cycleYear cycleDay) ≤ cycleDay ∧
      cycleDay ≤ daysBeforeYear (cycleYear cycleDay) + 365 := by
  by_cases lastDay : cycleDay = 146096
  · subst lastDay
    decide
  · have early : cycleDay < 146096 := by omega
    obtain ⟨century, fourth, day, centuries, inCentury, inFourth, within, rfl⟩ :=
      exists_fourth early
    have lastYear : min (day / 365) 3 < 4 := by omega
    rw [cycleYear_eq centuries inFourth within, daysBeforeYear_eq inCentury lastYear]
    omega

end Years

theorem marchMonth_holds {yearDay : Nat} (inYear : yearDay ≤ 365) :
    (5 * yearDay + 2) / 153 < 12 ∧ daysBeforeMonth ((5 * yearDay + 2) / 153) ≤ yearDay ∧
      yearDay ≤ daysBeforeMonth ((5 * yearDay + 2) / 153) + 30 := by
  unfold daysBeforeMonth
  omega

theorem eq_of_fields {left right : Date} (years : left.year = right.year)
    (months : left.month = right.month) (days : left.day = right.day) : left = right := by
  obtain ⟨leftYear, leftMonth, leftDay⟩ := left
  obtain ⟨rightYear, rightMonth, rightDay⟩ := right
  simp only [mk.injEq]
  exact ⟨years, months, days⟩

/-- The date of a day in the year of a cycle and in the month, both counted from March. -/
def ofMarch (cycle : Int) (year marchMonth day : Nat) : Date :=
  let month := if marchMonth < 10 then marchMonth + 3 else marchMonth - 9
  { year := cycle * 400 + year + if month ≤ 2 then 1 else 0
    month := month
    day := day }

theorem dayNumber_ofMarch {cycle : Int} {year marchMonth day : Nat} (inCycle : year < 400)
    (inYear : marchMonth < 12) :
    (ofMarch cycle year marchMonth day).dayNumber =
      cycle * daysPerCycle + daysBeforeYear year + daysBeforeMonth marchMonth + day - 1
        - epochShift := by
  have cycles : (cycle * 400 + year) / 400 = cycle := by omega
  have years : ((year : Int) % 400).toNat = year := by omega
  by_cases early : marchMonth < 10
  · have later : ¬marchMonth + 3 ≤ 2 := by omega
    simp [ofMarch, Date.dayNumber, early, later, cycles, years]
  · have sooner : marchMonth - 9 ≤ 2 := by omega
    have month : marchMonth - 9 + 9 = marchMonth := by omega
    simp [ofMarch, Date.dayNumber, early, sooner, cycles, years, month]

theorem exists_ofMarch (dayNumber : Int) :
    ∃ (cycle : Int) (year marchMonth day : Nat), year < 400 ∧ marchMonth < 12 ∧ day ≤ 31 ∧
      ofDayNumber dayNumber = ofMarch cycle year marchMonth day ∧
      dayNumber + epochShift =
        cycle * daysPerCycle + daysBeforeYear year + daysBeforeMonth marchMonth + day - 1 := by
  have whole := Int.ediv_mul_add_emod (dayNumber + epochShift) daysPerCycle
  have inCycle : ((dayNumber + epochShift) % daysPerCycle).toNat < 146097 := by
    unfold daysPerCycle
    omega
  have cycleDay : (dayNumber + epochShift) % daysPerCycle =
      ((dayNumber + epochShift) % daysPerCycle).toNat := by
    unfold daysPerCycle
    omega
  obtain ⟨inYears, fromYear, toYear⟩ := cycleYear_holds inCycle
  obtain ⟨inMonths, fromMonth, toMonth⟩ := marchMonth_holds (Nat.sub_le_iff_le_add'.mpr toYear)
  refine ⟨_, _, _, _, inYears, inMonths, ?_, rfl, ?_⟩
  · omega
  · omega

theorem dayNumber_ofDayNumber (dayNumber : Int) :
    (ofDayNumber dayNumber).dayNumber = dayNumber := by
  obtain ⟨cycle, year, marchMonth, day, inCycle, inYear, -, same, split⟩ :=
    exists_ofMarch dayNumber
  rw [same, dayNumber_ofMarch inCycle inYear]
  omega

theorem ofDayNumber_injective : Function.Injective ofDayNumber :=
  Function.LeftInverse.injective dayNumber_ofDayNumber

theorem fields_le_ofDayNumber (dayNumber : Int) :
    (ofDayNumber dayNumber).month ≤ 12 ∧ (ofDayNumber dayNumber).day ≤ 31 := by
  obtain ⟨cycle, year, marchMonth, day, -, inYear, inMonth, same, -⟩ := exists_ofMarch dayNumber
  refine ⟨?_, same ▸ inMonth⟩
  rw [same]
  simp only [ofMarch]
  split <;> omega

end Date

end SqlDialects
