/-!
# Points in time

An instant is a day of the proleptic Gregorian calendar and a time of that day, both in UTC, to the
nanosecond. The last second of a minute may be followed by a leap second, which is kept as a
nanosecond count of a thousand million and more.

## Main definitions

* `Date`: days of the calendar, with `Date.next?` and `Date.previous?`
* `Instant`: points in time
* `Instant.ofLocal?`: the instant at which clocks with a given offset show a given time
-/

namespace MigrationPreview

/-! ### Days -/

/-- Whether a year has a leap day. -/
def isLeapYear (year : Int) : Bool := year % 4 == 0 && (year % 100 != 0 || year % 400 == 0)

/-- The number of days of a month. -/
def daysInMonth (year : Int) (month : Nat) : Nat :=
  if month = 2 then if isLeapYear year then 29 else 28
  else if month = 4 ∨ month = 6 ∨ month = 9 ∨ month = 11 then 30
  else 31

/-- Whether the calendar has a day, within the years that a date can hold. -/
def IsDate (year : Int) (month day : Nat) : Prop :=
  -262143 ≤ year ∧ year ≤ 262142 ∧ 1 ≤ month ∧ month ≤ 12 ∧ 1 ≤ day ∧ day ≤ daysInMonth year month

instance (year : Int) (month day : Nat) : Decidable (IsDate year month day) :=
  inferInstanceAs (Decidable (_ ∧ _))

/-- A day of the calendar. -/
structure Date where
  year : Int
  month : Nat
  day : Nat
  isDate : IsDate year month day
  deriving DecidableEq

namespace Date

/-- The day with the given year, month and day of the month, if there is one. -/
def of? (year : Int) (month day : Nat) : Option Date :=
  if h : IsDate year month day then some ⟨year, month, day, h⟩ else none

/-- The day after. -/
def next? (d : Date) : Option Date :=
  if d.day < daysInMonth d.year d.month then of? d.year d.month (d.day + 1)
  else if d.month < 12 then of? d.year (d.month + 1) 1
  else of? (d.year + 1) 1 1

/-- The day before. -/
def previous? (d : Date) : Option Date :=
  if 1 < d.day then of? d.year d.month (d.day - 1)
  else if 1 < d.month then of? d.year (d.month - 1) (daysInMonth d.year (d.month - 1))
  else of? (d.year - 1) 12 31

theorem of?_fields (d : Date) : of? d.year d.month d.day = some d := by
  simp [of?, d.isDate]

end Date

/-! ### Instants -/

/-- Whether a number of nanoseconds may follow a second of a day: less than a second, or a second
more at the end of a minute. -/
def IsFraction (second nanos : Nat) : Prop :=
  nanos < 1000000000 ∨ second % 60 = 59 ∧ nanos < 2000000000

instance (second nanos : Nat) : Decidable (IsFraction second nanos) :=
  inferInstanceAs (Decidable (_ ∨ _))

/-- A point in time. -/
structure Instant where
  date : Date
  /-- The number of full seconds since midnight. -/
  second : Nat
  nanos : Nat
  second_lt : second < 86400
  isFraction : IsFraction second nanos
  deriving DecidableEq

namespace Instant

/-- The instant of a day, a second of that day and a fraction of that second. -/
def of? (date : Date) (second nanos : Nat) : Option Instant :=
  if h : second < 86400 ∧ IsFraction second nanos then some ⟨date, second, nanos, h.1, h.2⟩
  else none

/-- The instant at which clocks that are `offset` seconds ahead of UTC show the given time. The
offset is less than a day. -/
def ofLocal? (date : Date) (second nanos : Nat) (offset : Int) : Option Instant :=
  let shifted : Int := second - offset
  if shifted < 0 then do of? (← date.previous?) (shifted + 86400).toNat nanos
  else if shifted < 86400 then of? date shifted.toNat nanos
  else do of? (← date.next?) (shifted - 86400).toNat nanos

theorem ofLocal?_fields (t : Instant) : ofLocal? t.date t.second t.nanos 0 = some t := by
  have h := t.second_lt
  have h' : (t.second : Int) < 86400 := by omega
  have h₀ : ¬ (t.second : Int) < 0 := by omega
  simp [ofLocal?, of?, h, h', h₀, t.isFraction]

end Instant

end MigrationPreview
