import Mathlib.Algebra.Group.Nat.Defs
import SqlDialects.Proofs.Calendar
import SqlDialects.Proofs.Literals

/-!
Instants as literals. The bundled dialects write the date and the clock in fields of fixed widths
and the fraction of the second behind them, so that different instants are written differently;
MySQL alone drops what is behind the microseconds. A leap second that ends its minute is the
sixtieth, so the clock tells it from the second before and from the one behind. A leap second
anywhere else looks like the second behind it, and is written like that.
-/

namespace SqlDialects

namespace Timestamp

/-- The date of an instant and what a clock shows of it. -/
def stamp (time : Timestamp) : Date × Nat × Nat × Nat :=
  (time.date, time.hour, time.minute, time.second)

/-- The regular instant that looks the same on a clock. -/
def shown (time : Timestamp) : Timestamp :=
  if time.IsRegular then time
  else
    { seconds := time.seconds + 1
      nanos := time.nanos - 1000000000
      nanos_bound := Nat.lt_of_le_of_lt (Nat.sub_le _ _) time.nanos_bound }

/-- The last full microsecond of an instant. -/
def toMicroseconds (time : Timestamp) : Timestamp where
  seconds := time.seconds
  nanos := time.nanos / 1000 * 1000
  nanos_bound := by
    have bound := time.nanos_bound
    omega

def HasFourDigitYear (time : Timestamp) : Prop :=
  0 ≤ time.date.year ∧ time.date.year ≤ 9999

instance (time : Timestamp) : Decidable time.HasFourDigitYear :=
  inferInstanceAs (Decidable (_ ∧ _))

variable (time first second : Timestamp)

theorem date_le : time.date.month ≤ 12 ∧ time.date.day ≤ 31 :=
  Date.fields_le_ofDayNumber time.dayNumber

theorem clock_lt : time.hour < 24 ∧ time.minute < 60 ∧ time.second ≤ 60 := by
  have bound := time.nanos_bound
  unfold hour minute Timestamp.second secondOfDay
  omega

theorem nanosecond_lt : time.nanosecond < 1000000000 :=
  Nat.mod_lt _ (by decide)

variable {first second} in
theorem fields_eq_of_stamp (same : first.stamp = second.stamp) :
    first.date = second.date ∧ first.hour = second.hour ∧ first.minute = second.minute ∧
      first.second = second.second := by
  simpa [stamp] using same

theorem isRegular_shown : time.shown.IsRegular := by
  have bound := time.nanos_bound
  unfold shown
  split
  · next regular => exact regular
  · left
    simp only
    omega

variable {time} in
theorem shown_of_isRegular (regular : time.IsRegular) : time.shown = time :=
  if_pos regular

/-- Before the end of a minute a second more does not carry, so only the seconds change. -/
theorem stamp_shown : time.shown.stamp = time.stamp := by
  have bound := time.nanos_bound
  unfold shown
  split
  · rfl
  · next early =>
    unfold IsRegular at early
    have days : (time.seconds + 1) / 86400 = time.seconds / 86400 := by omega
    have minutes : ((time.seconds + 1) % 86400).toNat / 60 = (time.seconds % 86400).toNat / 60 := by
      omega
    have hours : ((time.seconds + 1) % 86400).toNat / 3600 =
        (time.seconds % 86400).toNat / 3600 := by
      omega
    have seconds : ((time.seconds + 1) % 86400).toNat % 60 +
        (time.nanos - 1000000000) / 1000000000 =
          (time.seconds % 86400).toNat % 60 + time.nanos / 1000000000 := by
      omega
    simp only [stamp, date, dayNumber, hour, minute, Timestamp.second, secondOfDay, days, hours,
      minutes, seconds]

theorem nanosecond_shown : time.shown.nanosecond = time.nanosecond := by
  have bound := time.nanos_bound
  unfold shown
  split
  · rfl
  · next early =>
    unfold IsRegular at early
    simp only [nanosecond]
    omega

section Regular

variable {first second} (firstRegular : first.IsRegular) (secondRegular : second.IsRegular)

include firstRegular secondRegular

theorem stamp_eq_iff_of_isRegular :
    first.stamp = second.stamp ↔
      first.seconds = second.seconds ∧ first.nanos / 1000000000 = second.nanos / 1000000000 := by
  have firstBound := first.nanos_bound
  have secondBound := second.nanos_bound
  unfold IsRegular at firstRegular secondRegular
  constructor
  · intro same
    obtain ⟨dates, hours, minutes, seconds⟩ := fields_eq_of_stamp same
    have days : first.dayNumber = second.dayNumber := Date.ofDayNumber_injective dates
    unfold dayNumber at days
    unfold hour secondOfDay at hours
    unfold minute secondOfDay at minutes
    unfold Timestamp.second secondOfDay at seconds
    omega
  · rintro ⟨seconds, leaps⟩
    simp only [stamp, date, dayNumber, hour, minute, Timestamp.second, secondOfDay, seconds, leaps]

theorem eq_iff_of_isRegular :
    first = second ↔ first.stamp = second.stamp ∧ first.nanosecond = second.nanosecond := by
  rw [stamp_eq_iff_of_isRegular firstRegular secondRegular]
  constructor
  · rintro rfl
    exact ⟨⟨rfl, rfl⟩, rfl⟩
  · rintro ⟨⟨seconds, leaps⟩, nanoseconds⟩
    obtain ⟨firstSeconds, firstNanos, firstBound⟩ := first
    obtain ⟨secondSeconds, secondNanos, secondBound⟩ := second
    unfold nanosecond at nanoseconds
    have nanos : firstNanos = secondNanos := by
      simp only at leaps nanoseconds
      omega
    simp only [mk.injEq]
    exact ⟨seconds, nanos⟩

theorem toMicroseconds_eq_iff_of_isRegular :
    first.toMicroseconds = second.toMicroseconds ↔
      first.stamp = second.stamp ∧ first.nanosecond / 1000 = second.nanosecond / 1000 := by
  rw [stamp_eq_iff_of_isRegular firstRegular secondRegular]
  simp only [toMicroseconds, mk.injEq, nanosecond]
  omega

end Regular

theorem shown_eq_iff :
    first.shown = second.shown ↔
      first.stamp = second.stamp ∧ first.nanosecond = second.nanosecond := by
  rw [eq_iff_of_isRegular first.isRegular_shown second.isRegular_shown, stamp_shown, stamp_shown,
    nanosecond_shown, nanosecond_shown]

theorem toMicroseconds_shown_eq_iff :
    first.shown.toMicroseconds = second.shown.toMicroseconds ↔
      first.stamp = second.stamp ∧ first.nanosecond / 1000 = second.nanosecond / 1000 := by
  rw [toMicroseconds_eq_iff_of_isRegular first.isRegular_shown second.isRegular_shown, stamp_shown,
    stamp_shown, nanosecond_shown, nanosecond_shown]

end Timestamp

namespace TimePattern

section Numerals

def numeral (width number : Nat) : List Char :=
  padded width .zeros false number

theorem numeral_eq_replicate_append (width number : Nat) :
    numeral width number =
      List.replicate (width - (Nat.toDigits 10 number).length) '0' ++ Nat.toDigits 10 number := by
  have positive : ¬(number : Int) < 0 := by omega
  simp [numeral, padded, positive]

theorem ofDigitChars_numeral (width number : Nat) :
    Nat.ofDigitChars 10 (numeral width number) 0 = number := by
  have zeros : ∀ count, Nat.ofDigitChars 10 (List.replicate count '0') 0 = 0 := by
    intro count
    induction count with
    | zero => rfl
    | succ count ih => exact ih
  rw [numeral_eq_replicate_append, Nat.ofDigitChars_append, zeros, Nat.ofDigitChars_ten_toDigits]

variable {width number : Nat}

theorem length_numeral (given : 0 < width) (fits : number < 10 ^ width) :
    (numeral width number).length = width := by
  have short := (Nat.length_toDigits_le_iff (by omega) given).mpr fits
  rw [numeral_eq_replicate_append, List.length_append, List.length_replicate]
  omega

theorem numeral_unique {left right : Nat} {leftRest rightRest : List Char} (given : 0 < width)
    (leftFits : left < 10 ^ width) (rightFits : right < 10 ^ width)
    (same : numeral width left ++ leftRest = numeral width right ++ rightRest) :
    left = right ∧ leftRest = rightRest := by
  have lengths : (numeral width left).length = (numeral width right).length := by
    rw [length_numeral given leftFits, length_numeral given rightFits]
  obtain ⟨numerals, rests⟩ := List.append_inj same lengths
  have numbers := congrArg (Nat.ofDigitChars 10 · 0) numerals
  simp only [ofDigitChars_numeral] at numbers
  exact ⟨numbers, rests⟩

theorem twoDigits_eq_numeral (fits : number < 100) :
    twoDigits .zeros number = numeral 2 number := by
  have all : ∀ small < 100, twoDigits .zeros small = numeral 2 small := by decide
  exact all number fits

theorem yearDigits_eq_numeral {year : Int} (positive : 0 ≤ year) (fits : year ≤ 9999) :
    yearDigits .zeros year = numeral 4 year.toNat := by
  rw [yearDigits, if_pos ⟨positive, by omega⟩, numeral, Int.toNat_of_nonneg positive]

theorem null_not_mem_padded (width : Nat) (signed : Bool) (number : Int) :
    '\x00' ∉ padded width .zeros signed number := by
  have digits : '\x00' ∉ Nat.toDigits 10 number.natAbs := by
    intro member
    exact absurd (Nat.isDigit_of_mem_toDigits (by omega) (by omega) member) (by decide)
  simp only [padded, List.mem_append, List.mem_replicate, digits, or_false, not_or]
  refine ⟨?_, by simp⟩
  split
  · simp
  · split <;> simp

end Numerals

section Stamps

def stampItems (separator : Char) : List Item :=
  dateItems ++ .literal separator :: clockItems

variable (separator : Char) (time first second : Timestamp)

theorem flatMap_text_stampItems :
    (stampItems separator).flatMap (Item.text time) =
      yearDigits .zeros time.date.year ++ '-' :: (numeral 2 time.date.month ++ '-' ::
        (numeral 2 time.date.day ++ separator :: (numeral 2 time.hour ++ ':' ::
          (numeral 2 time.minute ++ ':' :: numeral 2 time.second)))) := by
  obtain ⟨month, day⟩ := time.date_le
  obtain ⟨hour, minute, clock⟩ := time.clock_lt
  have monthText : twoDigits .zeros time.date.month = _ := twoDigits_eq_numeral (by omega)
  have dayText : twoDigits .zeros time.date.day = _ := twoDigits_eq_numeral (by omega)
  have hourText : twoDigits .zeros time.hour = _ := twoDigits_eq_numeral (by omega)
  have minuteText : twoDigits .zeros time.minute = _ := twoDigits_eq_numeral (by omega)
  have secondText : twoDigits .zeros time.second = _ := twoDigits_eq_numeral (by omega)
  simp [stampItems, dateItems, clockItems, Item.text, numberText, monthText, dayText, hourText,
    minuteText, secondText]

variable {separator time first second}

theorem null_not_mem_stamp (printable : separator ≠ '\x00') :
    '\x00' ∉ (stampItems separator).flatMap (Item.text time) := by
  have year : '\x00' ∉ yearDigits .zeros time.date.year := by
    unfold yearDigits
    split <;> exact null_not_mem_padded _ _ _
  simp [flatMap_text_stampItems, numeral, null_not_mem_padded, printable.symm, year]

theorem stamp_unique {leftRest rightRest : List Char} (firstYear : first.HasFourDigitYear)
    (secondYear : second.HasFourDigitYear)
    (same : (stampItems separator).flatMap (Item.text first) ++ leftRest =
      (stampItems separator).flatMap (Item.text second) ++ rightRest) :
    first.stamp = second.stamp ∧ leftRest = rightRest := by
  obtain ⟨firstPositive, firstShort⟩ := firstYear
  obtain ⟨secondPositive, secondShort⟩ := secondYear
  obtain ⟨firstMonth, firstDay⟩ := first.date_le
  obtain ⟨secondMonth, secondDay⟩ := second.date_le
  obtain ⟨firstHour, firstMinute, firstClock⟩ := first.clock_lt
  obtain ⟨secondHour, secondMinute, secondClock⟩ := second.clock_lt
  simp only [flatMap_text_stampItems, yearDigits_eq_numeral firstPositive firstShort,
    yearDigits_eq_numeral secondPositive secondShort, List.append_assoc, List.cons_append] at same
  obtain ⟨years, same⟩ := numeral_unique (by decide) (by omega) (by omega) same
  obtain ⟨months, same⟩ := numeral_unique (by decide) (by omega) (by omega) (List.cons.inj same).2
  obtain ⟨days, same⟩ := numeral_unique (by decide) (by omega) (by omega) (List.cons.inj same).2
  obtain ⟨hours, same⟩ := numeral_unique (by decide) (by omega) (by omega) (List.cons.inj same).2
  obtain ⟨minutes, same⟩ := numeral_unique (by decide) (by omega) (by omega) (List.cons.inj same).2
  obtain ⟨seconds, rests⟩ := numeral_unique (by decide) (by omega) (by omega) (List.cons.inj same).2
  have dates : first.date = second.date := Date.eq_of_fields (by omega) months days
  exact ⟨by simp only [Timestamp.stamp, dates, hours, minutes, seconds], rests⟩

end Stamps

section Fractions

/-- The nanoseconds of a fraction with its point before it. -/
def readFraction : List Char → Nat
  | [] => 0
  | _ :: digits => Nat.ofDigitChars 10 digits 0 * 10 ^ (9 - digits.length)

variable {nanosecond : Nat}

theorem readFraction_places {digits : Nat} (given : 0 < digits) (fits : digits ≤ 9)
    (bound : nanosecond < 1000000000) :
    readFraction ('.' :: places digits nanosecond) =
      nanosecond / 10 ^ (9 - digits) * 10 ^ (9 - digits) := by
  have cut : nanosecond / 10 ^ (9 - digits) < 10 ^ digits := by
    rw [Nat.div_lt_iff_lt_mul (Nat.pow_pos (by decide)), ← Nat.pow_add,
      Nat.add_sub_cancel' fits]
    exact bound
  have shown : places digits nanosecond = numeral digits (nanosecond / 10 ^ (9 - digits)) := rfl
  rw [readFraction, shown, ofDigitChars_numeral, length_numeral given cut]

theorem readFraction_fractionText (bound : nanosecond < 1000000000) :
    readFraction (fractionText nanosecond) = nanosecond := by
  unfold fractionText
  split
  · next none => exact none.symm
  split
  · rw [readFraction_places (by decide) (by decide) bound]
    omega
  split
  · rw [readFraction_places (by decide) (by decide) bound]
    omega
  · rw [readFraction_places (by decide) (by decide) bound]
    omega

theorem fractionText_eq_iff {left right : Nat} (leftBound : left < 1000000000)
    (rightBound : right < 1000000000) : fractionText left = fractionText right ↔ left = right := by
  constructor
  · intro same
    rw [← readFraction_fractionText leftBound, same, readFraction_fractionText rightBound]
  · rintro rfl
    rfl

theorem places_six_eq_iff {left right : Nat} (leftBound : left < 1000000000)
    (rightBound : right < 1000000000) :
    '.' :: places 6 left = '.' :: places 6 right ↔ left / 1000 = right / 1000 := by
  constructor
  · intro same
    have read := congrArg readFraction same
    rw [readFraction_places (by decide) (by decide) leftBound,
      readFraction_places (by decide) (by decide) rightBound] at read
    omega
  · intro same
    have cut : left / Nat.pow 10 (9 - 6) = right / Nat.pow 10 (9 - 6) := same
    rw [places, places, cut]

theorem null_not_mem_places (digits nanosecond : Nat) : '\x00' ∉ places digits nanosecond :=
  null_not_mem_padded _ _ _

theorem null_not_mem_fractionText (nanosecond : Nat) : '\x00' ∉ fractionText nanosecond := by
  unfold fractionText
  split
  · simp
  split
  · simp [null_not_mem_places]
  split <;> simp [null_not_mem_places]

end Fractions

end TimePattern

namespace BundledDialect

open TimePattern

def clockMark : BundledDialect → Char
  | .standard | .postgres => 'T'
  | .mySql | .sqlite | .sqlServer => ' '

def fractionItem : BundledDialect → Item
  | .mySql => .fractionDigits 6 true
  | .standard | .postgres | .sqlite | .sqlServer => .fraction

def zoneItems : BundledDialect → List Item
  | .standard | .postgres => [.zoneOffset 1]
  | .mySql | .sqlite | .sqlServer => []

/-- An instant as the dialect writes it between the quotes. -/
def timeNotation (bundled : BundledDialect) (time : Timestamp) : List Char :=
  (stampItems bundled.clockMark).flatMap (Item.text time) ++
    (bundled.fractionItem.text time ++ bundled.zoneItems.flatMap (Item.text time))

variable (bundled : BundledDialect) (time : Timestamp) {first second : Timestamp}

theorem items?_timePattern :
    items? bundled.dialect.lexicon.timePattern =
      some (stampItems bundled.clockMark ++ bundled.fractionItem :: bundled.zoneItems) := by
  cases bundled <;> rfl

theorem literalText_timestamp (name : String) :
    NamedDialect.literalText ⟨bundled.dialect, name⟩ (.timestamp time) =
      quoteText name bundled.dialect (String.ofList (bundled.timeNotation time)) := by
  have shown : format? bundled.dialect.lexicon.timePattern time =
      some (String.ofList (bundled.timeNotation time)) := by
    rw [format?, items?_timePattern, Option.map_some, render, List.flatMap_append,
      List.flatMap_cons]
    rfl
  rw [NamedDialect.literalText, NamedDialect.timeText, shown, quoteText]

theorem flatMap_text_zoneItems :
    bundled.zoneItems.flatMap (Item.text time) =
      bundled.zoneItems.flatMap fun _ => offsetText 1 := by
  cases bundled <;> rfl

theorem null_not_mem_timeNotation : '\x00' ∉ bundled.timeNotation time := by
  have stamp : '\x00' ∉ (stampItems bundled.clockMark).flatMap (Item.text time) :=
    null_not_mem_stamp (by cases bundled <;> decide)
  have fraction : '\x00' ∉ bundled.fractionItem.text time := by
    cases bundled with
    | mySql => simp [fractionItem, Item.text, null_not_mem_places]
    | standard | postgres | sqlite | sqlServer => exact null_not_mem_fractionText time.nanosecond
  have zone : '\x00' ∉ bundled.zoneItems.flatMap (Item.text time) := by
    rw [flatMap_text_zoneItems]
    cases bundled <;> decide
  simp only [timeNotation, List.mem_append, stamp, fraction, zone, or_self, not_false_eq_true]

theorem timeNotation_eq_iff (firstYear : first.HasFourDigitYear)
    (secondYear : second.HasFourDigitYear) :
    bundled.timeNotation first = bundled.timeNotation second ↔
      first.stamp = second.stamp ∧
        bundled.fractionItem.text first = bundled.fractionItem.text second := by
  rw [timeNotation, timeNotation, flatMap_text_zoneItems, flatMap_text_zoneItems]
  constructor
  · intro same
    obtain ⟨stamps, rests⟩ := stamp_unique firstYear secondYear same
    exact ⟨stamps, List.append_cancel_right rests⟩
  · rintro ⟨stamps, fractions⟩
    obtain ⟨dates, hours, minutes, seconds⟩ := Timestamp.fields_eq_of_stamp stamps
    simp only [flatMap_text_stampItems, dates, hours, minutes, seconds, fractions]

theorem literalText_timestamp_eq_iff (name : String) (firstYear : first.HasFourDigitYear)
    (secondYear : second.HasFourDigitYear) :
    NamedDialect.literalText ⟨bundled.dialect, name⟩ (.timestamp first) =
        NamedDialect.literalText ⟨bundled.dialect, name⟩ (.timestamp second) ↔
      first.stamp = second.stamp ∧
        bundled.fractionItem.text first = bundled.fractionItem.text second := by
  rw [literalText_timestamp, literalText_timestamp,
    quoteText_eq_iff (by simpa using bundled.null_not_mem_timeNotation first)
      (by simpa using bundled.null_not_mem_timeNotation second),
    ← timeNotation_eq_iff bundled firstYear secondYear]
  exact ⟨fun same => String.ofList_injective same, congrArg String.ofList⟩

end BundledDialect

def leapSecond : Timestamp :=
  ⟨1483228799, 1500000000, by decide⟩

def afterLeapSecond : Timestamp :=
  ⟨1483228800, 500000000, by decide⟩

def lateInLeapSecond : Timestamp :=
  ⟨1483228799, 1500000999, by decide⟩

def earlyLeapSecond : Timestamp :=
  ⟨43230, 1500000000, by decide⟩

def afterEarlyLeapSecond : Timestamp :=
  ⟨43231, 500000000, by decide⟩

end SqlDialects
