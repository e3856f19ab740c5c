import MigrationPreview.Json.Form
import MigrationPreview.Text.Blank
import MigrationPreview.Text.Search
import MigrationPreview.Time.Instant

/-!
# Time stamps

The text of an instant after RFC 3339. It is printed in UTC, with the fewest fraction digits of
none, three, six and nine that are exact. It is read with some leniency: blanks may stand around
the separators and before the offset, numbers may have fewer digits, a space may stand between date
and time, and the time may be given with any offset of less than a day.

## Main definitions

* `Instant.toTimestamp`: the printed form
* `Instant.ofTimestamp?`: the reader
-/

namespace MigrationPreview.Instant

open Text

/-! ### Printing -/

/-- A number with at least `width` digits. -/
def padded (width n : Nat) : List Char :=
  let digits := (toString n).toList
  List.replicate (width - digits.length) '0' ++ digits

/-- A year: four digits, or a sign and at least four digits outside the first ten thousand. -/
def yearText (year : Int) : List Char :=
  if 0 ≤ year ∧ year ≤ 9999 then padded 4 year.toNat
  else (if year < 0 then '-' else '+') :: padded 4 year.natAbs

/-- A fraction of a second with its point, or nothing if it is zero. -/
def fractionText (nanos : Nat) : List Char :=
  if nanos = 0 then []
  else if nanos % 1000000 = 0 then '.' :: padded 3 (nanos / 1000000)
  else if nanos % 1000 = 0 then '.' :: padded 6 (nanos / 1000)
  else '.' :: padded 9 nanos

/-- The time stamp of an instant. -/
def toTimestamp (t : Instant) : String :=
  let leap := 1000000000 ≤ t.nanos
  let second := t.second % 60 + (if leap then 1 else 0)
  let nanos := if leap then t.nanos - 1000000000 else t.nanos
  String.ofList <|
    yearText t.date.year ++ '-' :: padded 2 t.date.month ++ '-' :: padded 2 t.date.day ++
      'T' :: padded 2 (t.second / 3600) ++ ':' :: padded 2 (t.second / 60 % 60) ++
      ':' :: padded 2 second ++ fractionText nanos ++ ['Z']

/-! ### Reading -/

/-- Reads a number of at least one and at most `width` digits. -/
def readNumber (width : Nat) (cs : List Char) : Option (Nat × List Char) :=
  match (cs.take width).takeWhile Char.isDigit with
  | [] => none
  | digits => some (Json.natOfDigits digits, cs.drop digits.length)

/-- Reads a number of one or two digits, which blanks may precede. -/
def readField (cs : List Char) : Option (Nat × List Char) := readNumber 2 (skipBlanks cs)

/-- Reads a separator, which blanks may precede. -/
def readSeparator (c : Char) (cs : List Char) : Option (List Char) := expect [c] (skipBlanks cs)

/-- Reads a year: up to four digits, or a sign and any number of digits. -/
def readYear (cs : List Char) : Option (Int × List Char) :=
  match skipBlanks cs with
  | '-' :: rest => (readNumber rest.length rest).map fun (n, rest) => (-n, rest)
  | '+' :: rest => (readNumber rest.length rest).map fun (n, rest) => (n, rest)
  | rest => (readNumber 4 rest).map fun (n, rest) => (n, rest)

/-- Reads the fraction of a second in nanoseconds, if there is one; digits after the ninth are
dropped. -/
def readFraction : List Char → Option (Nat × List Char)
  | '.' :: cs => do
    let (n, _) ← readNumber 9 cs
    let digits := cs.takeWhile Char.isDigit
    return (n * Nat.pow 10 (9 - digits.length), cs.dropWhile Char.isDigit)
  | cs => some (0, cs)

/-- Reads the colon or the blanks between the hours and the minutes of an offset. -/
def skipOffsetSeparator (cs : List Char) : List Char :=
  cs.dropWhile fun c => c == ':' || isBlank c

/-- Reads a number of exactly two digits. -/
def readTwoDigits : List Char → Option (Nat × List Char)
  | a :: b :: rest =>
    if a.isDigit && b.isDigit then some (Json.natOfDigits [a, b], rest) else none
  | _ => none

/-- Reads hours and minutes of an offset in seconds. -/
def readOffsetTime (cs : List Char) : Option (Nat × List Char) := do
  let (hours, afterHours) ← readTwoDigits cs
  let (minutes, rest) ← readTwoDigits (skipOffsetSeparator afterHours)
  if hours < 24 ∧ minutes < 60 then some (3600 * hours + 60 * minutes, rest) else none

/-- Reads the name of UTC in any case. -/
def readUtc : List Char → Option (List Char)
  | a :: b :: c :: rest =>
    if a.toLower = 'u' ∧ b.toLower = 't' ∧ c.toLower = 'c' then some rest else none
  | _ => none

/-- Reads an offset in seconds: the name or the letter of UTC, or a sign with hours and minutes. -/
def readOffset (cs : List Char) : Option (Int × List Char) :=
  match readUtc cs with
  | some rest => some (0, rest)
  | none =>
    match cs with
    | [] => none
    | c :: rest =>
      if c = 'Z' ∨ c = 'z' then some (0, rest)
      else if c = '+' then (readOffsetTime rest).map fun (n, rest) => (n, rest)
      else if c = '-' ∨ c = '\u2212' then (readOffsetTime rest).map fun (n, rest) => (-n, rest)
      else none

/-- Reads a time stamp and the blanks behind it. -/
def readTimestamp (cs : List Char) : Option (Instant × List Char) := do
  let (year, afterYear) ← readYear cs
  let (month, afterMonth) ← readField (← readSeparator '-' afterYear)
  let (day, afterDay) ← readField (← readSeparator '-' afterMonth)
  let timeText ← match afterDay with
    | c :: rest => if c = 'T' ∨ c = 't' ∨ c = ' ' then some rest else none
    | [] => none
  let (hour, afterHour) ← readField timeText
  let (minute, afterMinute) ← readField (← readSeparator ':' afterHour)
  let (second, afterSecond) ← readField (← readSeparator ':' afterMinute)
  let (fraction, afterFraction) ← readFraction afterSecond
  let (offset, rest) ← readOffset (skipBlanks afterFraction)
  if hour < 24 ∧ minute < 60 ∧ second ≤ 60 then
    let date ← Date.of? year month day
    let sinceMidnight := 3600 * hour + 60 * minute
    let instant ←
      -- a leap second counts as a long fraction of the second before it
      if second = 60 then ofLocal? date (sinceMidnight + 59) (1000000000 + fraction) offset
      else ofLocal? date (sinceMidnight + second) fraction offset
    return (instant, skipBlanks rest)
  else none

/-- The instant of a time stamp. -/
def ofTimestamp? (s : String) : Option Instant :=
  match readTimestamp s.toList with
  | some (t, []) => some t
  | _ => none

instance : JsonForm Instant where
  encode t := .string t.toTimestamp
  decode?
    | .string s => ofTimestamp? s
    | _ => none

end MigrationPreview.Instant
