import TemplateCompiler.Text.Trim

/-! # Points in time

A point in time is a number of seconds since the beginning of 1970 in UTC, and
nanoseconds into that second; a leap second is the second before it with at least a
whole second of nanoseconds. `Timestamp.text` writes it by RFC 3339 in UTC, and
`Timestamp.ofText?` reads a date and a time with an offset, with blanks allowed between
their parts.
-/

namespace TemplateCompiler

/-- A point in time. -/
structure Timestamp where
  /-- Seconds since the beginning of 1970 in UTC. -/
  seconds : Int
  nanoseconds : Nat
deriving DecidableEq, Repr

/-- A day of the Gregorian calendar. -/
structure CalendarDay where
  year : Int
  month : Nat
  day : Nat
deriving DecidableEq, Repr

namespace CalendarDay

/-- Whether a year has a leap day. -/
def isLeapYear (year : Int) : Bool := year % 4 == 0 && (year % 100 != 0 || year % 400 == 0)

/-- How many days a month has. -/
def daysInMonth (year : Int) (month : Nat) : Nat :=
  match month with
  | 2 => if isLeapYear year then 29 else 28
  | 4 | 6 | 9 | 11 => 30
  | _ => 31

/-- Whether there is such a day within the years that can be told apart. -/
def isValid (date : CalendarDay) : Bool :=
  -262143 ≤ date.year && date.year ≤ 262142 && 1 ≤ date.month && date.month ≤ 12 &&
    1 ≤ date.day && date.day ≤ daysInMonth date.year date.month

/-- The days from the beginning of 1970 to a day. Years are counted from March, so that
a leap day is the last of its year. -/
def number (date : CalendarDay) : Int :=
  let year := if date.month ≤ 2 then date.year - 1 else date.year
  let era := year / 400
  let yearOfEra := year % 400
  let month : Int := (date.month + 9) % 12
  let dayOfYear := (153 * month + 2) / 5 + date.day - 1
  let dayOfEra := yearOfEra * 365 + yearOfEra / 4 - yearOfEra / 100 + dayOfYear
  era * 146097 + dayOfEra - 719468

/-- The day that lies so many days after the beginning of 1970. -/
def ofNumber (number : Int) : CalendarDay :=
  let shifted := number + 719468
  let era := shifted / 146097
  let dayOfEra := shifted % 146097
  let yearOfEra := (dayOfEra - dayOfEra / 1460 + dayOfEra / 36524 - dayOfEra / 146096) / 365
  let dayOfYear := dayOfEra - (365 * yearOfEra + yearOfEra / 4 - yearOfEra / 100)
  let month := (5 * dayOfYear + 2) / 153
  let day := dayOfYear - (153 * month + 2) / 5 + 1
  let calendarMonth := if month < 10 then month + 3 else month - 9
  let year := yearOfEra + era * 400
  ⟨if calendarMonth ≤ 2 then year + 1 else year, calendarMonth.toNat, day.toNat⟩

end CalendarDay

namespace Timestamp

/-! ## Writing -/

/-- A number in decimal, with zeros before it up to a width. -/
def padded (width n : Nat) : String :=
  let digits := Nat.toDigits 10 n
  String.ofList (List.replicate (width - digits.length) '0' ++ digits)

/-- A year; one that has not four digits shows its sign. -/
def yearText (year : Int) : String :=
  if 0 ≤ year ∧ year ≤ 9999 then padded 4 year.toNat
  else (if year < 0 then "-" else "+") ++ padded 4 year.natAbs

/-- The fraction of a second with three, six or nine digits; empty where it is zero. -/
def fractionText (nanoseconds : Nat) : String :=
  if nanoseconds = 0 then ""
  else if nanoseconds % 1000000 = 0 then "." ++ padded 3 (nanoseconds / 1000000)
  else if nanoseconds % 1000 = 0 then "." ++ padded 6 (nanoseconds / 1000)
  else "." ++ padded 9 nanoseconds

/-- The point in time by RFC 3339, in UTC. -/
def text (time : Timestamp) : String :=
  let date := CalendarDay.ofNumber (time.seconds / 86400)
  let clock := (time.seconds % 86400).toNat
  let leap := time.nanoseconds / 1000000000
  yearText date.year ++ "-" ++ padded 2 date.month ++ "-" ++ padded 2 date.day ++ "T" ++
    padded 2 (clock / 3600) ++ ":" ++ padded 2 (clock / 60 % 60) ++ ":" ++
    padded 2 (clock % 60 + leap) ++ fractionText (time.nanoseconds % 1000000000) ++ "Z"

/-! ## Reading -/

/-- The number that digits spell. -/
def value (digits : List Char) : Nat :=
  digits.foldl (fun n c => 10 * n + (c.toNat - '0'.toNat)) 0

/-- The text behind blanks. -/
def skipBlanks (cs : List Char) : List Char := cs.dropWhile Text.isBlank

/-- A number of at least one digit and at most so many, and the text behind it. -/
def number? (most : Nat) (cs : List Char) : Option (Nat × List Char) :=
  let digits := (cs.takeWhile Char.isDigit).take most
  if digits.isEmpty then none else some (value digits, cs.drop digits.length)

/-- A number of two digits at most behind blanks, no greater than a bound. -/
def part? (greatest : Nat) (cs : List Char) : Option (Nat × List Char) :=
  (number? 2 (skipBlanks cs)).filter fun (n, _) => n ≤ greatest

/-- A year behind blanks: four digits at most, or any number of them behind a sign. -/
def year? (cs : List Char) : Option (Int × List Char) :=
  match skipBlanks cs with
  | '-' :: rest => (number? rest.length rest).map fun (n, rest) => (-(n : Int), rest)
  | '+' :: rest => (number? rest.length rest).map fun (n, rest) => ((n : Int), rest)
  | rest => (number? 4 rest).map fun (n, rest) => ((n : Int), rest)

/-- The text behind a mark, with blanks allowed before it. -/
def mark? (mark : Char) (cs : List Char) : Option (List Char) :=
  match skipBlanks cs with
  | c :: rest => if c = mark then some rest else none
  | [] => none

/-- The nanoseconds of a fraction, of which nine digits count; zero where there is no
fraction. -/
def fraction? : List Char → Option (Nat × List Char)
  | '.' :: rest =>
    let digits := rest.takeWhile Char.isDigit
    let counted := digits.take 9
    if digits.isEmpty then none
    else some (value counted * Nat.pow 10 (9 - counted.length), rest.drop digits.length)
  | cs => some (0, cs)

/-- The hours and minutes of an offset behind its sign, in seconds. -/
def clockOffset? (cs : List Char) : Option (Nat × List Char) :=
  match cs with
  | h1 :: h2 :: rest =>
    match rest.dropWhile fun c => c == ':' || Text.isBlank c with
    | m1 :: m2 :: rest =>
      if [h1, h2, m1, m2].all Char.isDigit && m1 ≤ '5' then
        some (value [h1, h2] * 3600 + value [m1, m2] * 60, rest)
      else none
    | _ => none
  | _ => none

/-- The seconds by which a clock is ahead of UTC, less than a day. -/
def offset? (cs : List Char) : Option (Int × List Char) :=
  if (cs.take 3).map Char.toUpper = ['U', 'T', 'C'] then some (0, cs.drop 3)
  else
    let found? : Option (Int × List Char) :=
      match cs with
      | 'Z' :: rest => some (0, rest)
      | 'z' :: rest => some (0, rest)
      | '+' :: rest => (clockOffset? rest).map fun (n, rest) => ((n : Int), rest)
      | '-' :: rest => (clockOffset? rest).map fun (n, rest) => (-(n : Int), rest)
      | '−' :: rest => (clockOffset? rest).map fun (n, rest) => (-(n : Int), rest)
      | _ => none
    found?.filter fun (n, _) => n.natAbs < 86400

/-- The text behind the mark between date and time. -/
def betweenDateAndTime? : List Char → Option (List Char)
  | 'T' :: rest => some rest
  | 't' :: rest => some rest
  | ' ' :: rest => some rest
  | _ => none

/-- The point in time that a date, a time and an offset name. -/
def ofText? (text : String) : Option Timestamp := do
  let (year, rest) ← year? text.toList
  let rest ← mark? '-' rest
  let (month, rest) ← part? 12 rest
  let rest ← mark? '-' rest
  let (day, rest) ← part? 31 rest
  let rest ← betweenDateAndTime? rest
  let (hour, rest) ← part? 23 rest
  let rest ← mark? ':' rest
  let (minute, rest) ← part? 59 rest
  let rest ← mark? ':' rest
  let (second, rest) ← part? 60 rest
  let (fraction, rest) ← fraction? rest
  let (offset, rest) ← offset? (skipBlanks rest)
  let date : CalendarDay := ⟨year, month, day⟩
  if !date.isValid || !(skipBlanks rest).isEmpty then none
  else
    let leap := second / 60
    let clock : Int := hour * 3600 + minute * 60 + (second - leap)
    some ⟨date.number * 86400 + clock - offset, fraction + leap * 1000000000⟩

end Timestamp

end TemplateCompiler
