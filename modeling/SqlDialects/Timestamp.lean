import SqlDialects.Calendar

/-!
Instants in coordinated universal time. A leap second is held as the second before it with a full
second more of nanoseconds. It belongs to the end of a minute, but an instant can be changed until
one stands anywhere.
-/

namespace SqlDialects

/-- Seconds since 1970-01-01T00:00:00 and nanoseconds within the second. -/
structure Timestamp where
  seconds : Int
  nanos : Nat
  nanos_bound : nanos < 2000000000
deriving DecidableEq

namespace Timestamp

/-- A leap second, if there is one, ends its minute. -/
def IsRegular (time : Timestamp) : Prop :=
  time.nanos < 1000000000 ∨ time.seconds % 60 = 59

instance (time : Timestamp) : Decidable time.IsRegular :=
  inferInstanceAs (Decidable (_ ∨ _))

def ofParts? (seconds : Int) (nanos : Nat) : Option Timestamp :=
  if bound : nanos < 2000000000 then
    let time : Timestamp := ⟨seconds, nanos, bound⟩
    if time.IsRegular then some time else none
  else none

def dayNumber (time : Timestamp) : Int :=
  time.seconds / 86400

def date (time : Timestamp) : Date :=
  Date.ofDayNumber time.dayNumber

def secondOfDay (time : Timestamp) : Nat :=
  (time.seconds % 86400).toNat

def hour (time : Timestamp) : Nat :=
  time.secondOfDay / 3600

def minute (time : Timestamp) : Nat :=
  time.secondOfDay / 60 % 60

def second (time : Timestamp) : Nat :=
  time.secondOfDay % 60 + time.nanos / 1000000000

/-- Nanoseconds within the second that `second` names. -/
def nanosecond (time : Timestamp) : Nat :=
  time.nanos % 1000000000

/-- Hours on a clock face, from 1 to 12. -/
def clockHour (time : Timestamp) : Nat :=
  if time.hour % 12 = 0 then 12 else time.hour % 12

end Timestamp

end SqlDialects
