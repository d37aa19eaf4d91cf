import SqlDialects.Timestamp

/-!
Patterns that say how an instant is written, such as `%Y-%m-%d %H:%M:%S%.f`. A percent sign opens
a specifier, everything else stands for itself. A specifier may name one field, with a padding of
its own between the sign and the letter, or a whole sequence of fields. A pattern with a single
unknown specifier has no meaning at all.
-/

namespace SqlDialects

namespace TimePattern

inductive Padding where
  | bare
  | zeros
  | blanks
deriving DecidableEq, Repr

inductive NumberField where
  | year
  | century
  | yearOfCentury
  | weekYear
  | weekYearOfCentury
  | quarter
  | month
  | day
  | weekFromSunday
  | weekFromMonday
  | week
  | daysSinceSunday
  | dayOfWeek
  | dayOfYear
  | hour
  | clockHour
  | minute
  | second
  | nanosecond
  | epochSeconds
deriving DecidableEq, Repr

inductive Item where
  | literal (character : Char)
  | number (field : NumberField) (padding : Padding)
  | monthName (short : Bool)
  | weekdayName (short : Bool)
  | dayHalf (upper : Bool)
  | fraction
  | fractionDigits (digits : Nat) (point : Bool)
  | zoneName
  | zoneOffset (colons : Nat)
deriving DecidableEq, Repr

/-- Sign and digits filled up to a width; zeros go behind the sign, blanks before it. -/
def padded (width : Nat) (padding : Padding) (signed : Bool) (number : Int) : List Char :=
  let sign := if number < 0 then ['-'] else if signed then ['+'] else []
  let digits := Nat.toDigits 10 number.natAbs
  let missing := width - (sign.length + digits.length)
  match padding with
  | .bare => sign ++ digits
  | .zeros => sign ++ List.replicate missing '0' ++ digits
  | .blanks => List.replicate missing ' ' ++ sign ++ digits

/-- Two digits of an eight-bit number. From 100 on, the tens run on through the characters that
follow the digit nine. -/
def twoDigits (padding : Padding) (number : Nat) : List Char :=
  let small := number % 256
  let tens := small / 10
  let ones := Char.ofNat (48 + small % 10)
  if tens = 0 then
    match padding with
    | .bare => [ones]
    | .zeros => ['0', ones]
    | .blanks => [' ', ones]
  else [Char.ofNat (48 + tens), ones]

/-- Four digits; a year outside 0 to 9999 carries its sign. -/
def yearDigits (padding : Padding) (year : Int) : List Char :=
  if 0 ≤ year ∧ year < 10000 then padded 4 padding false year else padded 5 padding true year

def numberText (time : Timestamp) (padding : Padding) : NumberField → List Char
  | .year => yearDigits padding time.date.year
  | .century => twoDigits padding (time.date.year / 100 % 256).toNat
  | .yearOfCentury => twoDigits padding (time.date.year % 100).toNat
  | .weekYear => yearDigits padding (Calendar.weekYear time.dayNumber)
  | .weekYearOfCentury => twoDigits padding (Calendar.weekYear time.dayNumber % 100).toNat
  | .quarter => Nat.toDigits 10 ((time.date.month - 1) / 3 + 1)
  | .month => twoDigits padding time.date.month
  | .day => twoDigits padding time.date.day
  | .weekFromSunday =>
      twoDigits padding
        ((Calendar.yearDay time.dayNumber + 6 - Calendar.weekday time.dayNumber) / 7)
  | .weekFromMonday =>
      twoDigits padding
        ((Calendar.yearDay time.dayNumber + 6 - Calendar.weekdayFromMonday time.dayNumber) / 7)
  | .week => twoDigits padding (Calendar.week time.dayNumber)
  | .daysSinceSunday => Nat.toDigits 10 (Calendar.weekday time.dayNumber)
  | .dayOfWeek => Nat.toDigits 10 (Calendar.weekdayFromMonday time.dayNumber + 1)
  | .dayOfYear => padded 3 padding false (Calendar.yearDay time.dayNumber)
  | .hour => twoDigits padding time.hour
  | .clockHour => twoDigits padding time.clockHour
  | .minute => twoDigits padding time.minute
  | .second => twoDigits padding time.second
  | .nanosecond => padded 9 padding false time.nanosecond
  | .epochSeconds => padded 9 padding false time.seconds

def places (digits nanosecond : Nat) : List Char :=
  padded digits .zeros false (nanosecond / Nat.pow 10 (9 - digits) : Nat)

/-- The shortest of 0, 3, 6 and 9 places that loses nothing. -/
def fractionText (nanosecond : Nat) : List Char :=
  if nanosecond = 0 then []
  else if nanosecond % 1000000 = 0 then '.' :: places 3 nanosecond
  else if nanosecond % 1000 = 0 then '.' :: places 6 nanosecond
  else '.' :: places 9 nanosecond

def nameText (short : Bool) (name : String) : List Char :=
  if short then name.toList.take 3 else name.toList

/-- The offset of universal time with so many colons; a third colon leaves the hours alone. -/
def offsetText : Nat → List Char
  | 0 => "+0000".toList
  | 1 => "+00:00".toList
  | 2 => "+00:00:00".toList
  | _ => "+00".toList

def Item.text (time : Timestamp) : Item → List Char
  | .literal character => [character]
  | .number field padding => numberText time padding field
  | .monthName short => nameText short (Calendar.monthNames.getD (time.date.month - 1) "")
  | .weekdayName short =>
      nameText short (Calendar.weekdayNames.getD (Calendar.weekday time.dayNumber) "")
  | .dayHalf upper =>
      if upper then (if time.hour < 12 then ['A', 'M'] else ['P', 'M'])
      else (if time.hour < 12 then ['a', 'm'] else ['p', 'm'])
  | .fraction => fractionText time.nanosecond
  | .fractionDigits digits point =>
      (if point then ['.'] else []) ++ places digits time.nanosecond
  | .zoneName => "UTC".toList
  | .zoneOffset colons => offsetText colons

/-- The fields that a letter names on its own, each with its padding. -/
def numberItem? : Char → Option Item
  | 'Y' => some (.number .year .zeros)
  | 'C' => some (.number .century .zeros)
  | 'y' => some (.number .yearOfCentury .zeros)
  | 'G' => some (.number .weekYear .zeros)
  | 'g' => some (.number .weekYearOfCentury .zeros)
  | 'q' => some (.number .quarter .bare)
  | 'm' => some (.number .month .zeros)
  | 'd' => some (.number .day .zeros)
  | 'e' => some (.number .day .blanks)
  | 'U' => some (.number .weekFromSunday .zeros)
  | 'W' => some (.number .weekFromMonday .zeros)
  | 'V' => some (.number .week .zeros)
  | 'w' => some (.number .daysSinceSunday .bare)
  | 'u' => some (.number .dayOfWeek .bare)
  | 'j' => some (.number .dayOfYear .zeros)
  | 'H' => some (.number .hour .zeros)
  | 'k' => some (.number .hour .blanks)
  | 'I' => some (.number .clockHour .zeros)
  | 'l' => some (.number .clockHour .blanks)
  | 'M' => some (.number .minute .zeros)
  | 'S' => some (.number .second .zeros)
  | 'f' => some (.number .nanosecond .zeros)
  | 's' => some (.number .epochSeconds .bare)
  | _ => none

def clockItems : List Item :=
  [.number .hour .zeros, .literal ':', .number .minute .zeros, .literal ':',
    .number .second .zeros]

def dateItems : List Item :=
  [.number .year .zeros, .literal '-', .number .month .zeros, .literal '-', .number .day .zeros]

def slashedDateItems : List Item :=
  [.number .month .zeros, .literal '/', .number .day .zeros, .literal '/',
    .number .yearOfCentury .zeros]

def sequenceItems? : Char → Option (List Item)
  | 'b' => some [.monthName true]
  | 'h' => some [.monthName true]
  | 'B' => some [.monthName false]
  | 'a' => some [.weekdayName true]
  | 'A' => some [.weekdayName false]
  | 'P' => some [.dayHalf false]
  | 'p' => some [.dayHalf true]
  | 'D' => some slashedDateItems
  | 'x' => some slashedDateItems
  | 'F' => some dateItems
  | 'v' => some [.number .day .blanks, .literal '-', .monthName true, .literal '-',
      .number .year .zeros]
  | 'R' => some [.number .hour .zeros, .literal ':', .number .minute .zeros]
  | 'T' => some clockItems
  | 'X' => some clockItems
  | 'r' => some ([.number .clockHour .zeros, .literal ':', .number .minute .zeros, .literal ':',
      .number .second .zeros, .literal ' ', .dayHalf true])
  | 'c' => some ([.weekdayName true, .literal ' ', .monthName true, .literal ' ',
      .number .day .blanks, .literal ' '] ++ clockItems ++ [.literal ' ', .number .year .zeros])
  | '+' => some (dateItems ++ [.literal 'T'] ++ clockItems ++ [.fraction, .zoneOffset 1])
  | 'Z' => some [.zoneName]
  | 'z' => some [.zoneOffset 0]
  | 't' => some [.literal '\t']
  | 'n' => some [.literal '\n']
  | '%' => some [.literal '%']
  | _ => none

def placesCount? : Char → Option Nat
  | '3' => some 3
  | '6' => some 6
  | '9' => some 9
  | _ => none

def paddingOf? : Char → Option Padding
  | '-' => some .bare
  | '0' => some .zeros
  | '_' => some .blanks
  | _ => none

/-- The items of the specifier behind a percent sign, and how many characters it takes. -/
def specifier? : List Char → Option (List Item × Nat)
  | '.' :: 'f' :: _ => some ([.fraction], 2)
  | '.' :: digit :: 'f' :: _ =>
      (placesCount? digit).map fun count => ([.fractionDigits count true], 3)
  | ':' :: 'z' :: _ => some ([.zoneOffset 1], 2)
  | ':' :: ':' :: 'z' :: _ => some ([.zoneOffset 2], 3)
  | ':' :: ':' :: ':' :: 'z' :: _ => some ([.zoneOffset 3], 4)
  | first :: second :: _ =>
      match paddingOf? first, placesCount? first with
      | some padding, _ =>
          match numberItem? second with
          | some (.number field _) => some ([.number field padding], 2)
          | _ => none
      | none, some count => if second = 'f' then some ([.fractionDigits count false], 2) else none
      | none, none =>
          match numberItem? first with
          | some item => some ([item], 1)
          | none => (sequenceItems? first).map fun items => (items, 1)
  | [letter] =>
      match numberItem? letter with
      | some item => some ([item], 1)
      | none => (sequenceItems? letter).map fun items => (items, 1)
  | [] => none

/-- The items of a pattern, where the first `skipped` characters belong to a specifier that has
been read. -/
def itemsFrom? : Nat → List Char → Option (List Item)
  | _, [] => some []
  | skipped + 1, _ :: rest => itemsFrom? skipped rest
  | 0, '%' :: rest =>
      match specifier? rest with
      | some (items, length) => (itemsFrom? length rest).map (items ++ ·)
      | none => none
  | 0, character :: rest => (itemsFrom? 0 rest).map (.literal character :: ·)

def items? (pattern : String) : Option (List Item) :=
  itemsFrom? 0 pattern.toList

def render (time : Timestamp) (items : List Item) : String :=
  String.ofList (items.flatMap (Item.text time))

def format? (pattern : String) (time : Timestamp) : Option String :=
  (items? pattern).map (render time)

end TimePattern

end SqlDialects
