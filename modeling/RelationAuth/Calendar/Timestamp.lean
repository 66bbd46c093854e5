import RelationAuth.Calendar.Instant
import RelationAuth.Text.Blank
import RelationAuth.Text.Unsigned

/-!
# Instants as text

An instant is written in universal time with as many decimals as its nanoseconds need: none, three,
six or nine.  The reader is more liberal: blanks may stand between the parts of a date or a time,
the parts may have fewer digits, years may carry a sign, and the distance from universal time may be
given in several spellings.
-/

namespace RelationAuth.Timestamp

open Text

/-- A number in decimal, filled up with zeros to a width. -/
def padded (width value : Nat) : List Char :=
  let digits := Nat.toDigits 10 value
  List.replicate (width - digits.length) '0' ++ digits

/-- A year: four digits, or a sign and at least four digits outside of the years 0 to 9999. -/
def yearText (year : Int) : List Char :=
  if 0 ≤ year ∧ year ≤ 9999 then padded 4 year.natAbs
  else (if year < 0 then '-' else '+') :: padded 4 year.natAbs

/-- The decimals of a second, in groups of three. -/
def fractionText (nanos : Nat) : List Char :=
  if nanos = 0 then []
  else if nanos % 1000000 = 0 then '.' :: padded 3 (nanos / 1000000)
  else if nanos % 1000 = 0 then '.' :: padded 6 (nanos / 1000)
  else '.' :: padded 9 nanos

/-- The text of an instant in universal time. -/
def render (instant : Instant) : String :=
  let date := Date.ofDays (instant.seconds / Instant.secondsPerDay)
  let second := (instant.seconds % Instant.secondsPerDay).toNat
  let leap := instant.nanos / Instant.nanosPerSecond
  String.ofList <|
    yearText date.year ++ '-' :: padded 2 date.month ++ '-' :: padded 2 date.day ++
      'T' :: padded 2 (second / 3600) ++ ':' :: padded 2 (second / 60 % 60) ++
      ':' :: padded 2 (second % 60 + leap) ++
      fractionText (instant.nanos % Instant.nanosPerSecond) ++ ['Z']

/-- A number of at least one and at most a given count of digits, and the input after it. -/
def scanNumber? (most : Nat) (input : List Char) : Option (Nat × List Char) :=
  let digits := (input.takeWhile Char.isDigit).take most
  if digits = [] then none else some (natOfDigits digits, input.drop digits.length)

/-- A number after blanks. -/
def scanPart? (most : Nat) (input : List Char) : Option (Nat × List Char) :=
  scanNumber? most (skipBlanks input)

/-- A year after blanks: up to four digits, or any number of digits after a sign. -/
def scanYear? (input : List Char) : Option (Int × List Char) :=
  match skipBlanks input with
  | '-' :: rest => (scanNumber? rest.length rest).map fun scan => (-(scan.1 : Int), scan.2)
  | '+' :: rest => (scanNumber? rest.length rest).map fun scan => ((scan.1 : Int), scan.2)
  | start => (scanNumber? 4 start).map fun scan => ((scan.1 : Int), scan.2)

/-- The input after a given character, which may follow blanks. -/
def expect? (symbol : Char) (input : List Char) : Option (List Char) :=
  match skipBlanks input with
  | first :: rest => if first = symbol then some rest else none
  | [] => none

/-- The nanoseconds behind a point, if there is one.  Digits beyond the ninth do not count. -/
def scanFraction? (input : List Char) : Option (Nat × List Char) :=
  match input with
  | '.' :: rest =>
    let digits := rest.takeWhile Char.isDigit
    if digits = [] then none
    else
      let counted := digits.take 9
      some (natOfDigits counted * Nat.pow 10 (9 - counted.length), rest.drop digits.length)
  | _ => some (0, input)

/-- The distance from universal time in seconds, and the input after it. -/
def scanOffset? (input : List Char) : Option (Int × List Char) :=
  match input with
  | 'Z' :: rest | 'z' :: rest => some (0, rest)
  | sign :: h1 :: h2 :: rest => do
    guard (sign = '+' ∨ sign = '-' ∨ sign = '−')
    guard (h1.isDigit && h2.isDigit)
    match rest.dropWhile fun symbol => symbol == ':' || isBlank symbol with
    | m1 :: m2 :: after =>
      guard (m1.isDigit && m2.isDigit && m1 < '6')
      let span : Int := natOfDigits [h1, h2] * 3600 + natOfDigits [m1, m2] * 60
      return (if sign = '+' then span else -span, after)
    | _ => none
  | _ => none

/-- The distance from universal time after blanks, or the name of universal time. -/
def scanZone? (input : List Char) : Option (Int × List Char) :=
  let start := skipBlanks input
  match start with
  | u :: t :: c :: rest =>
    if [u, t, c].map Char.toUpper = ['U', 'T', 'C'] then some (0, rest) else scanOffset? start
  | _ => scanOffset? start

/-- The instant of a time of day on a date, at a distance from universal time. -/
def assemble? (date : Date) (hour minute second nanos : Nat) (offset : Int) : Option Instant := do
  guard date.isValid
  guard (hour < 24 && minute < 60 && second ≤ 60)
  guard (offset.natAbs < 86400)
  let leap := if second = 60 then Instant.nanosPerSecond else 0
  let timeOfDay := hour * 3600 + minute * 60 + (if second = 60 then 59 else second)
  let seconds := date.toDays * Instant.secondsPerDay + timeOfDay - offset
  guard (Instant.represents seconds)
  return { seconds, nanos := nanos + leap }

/-- The instant that a timestamp spells out, if it is one of the calendar. -/
def parse? (text : String) : Option Instant := do
  let (year, afterYear) ← scanYear? text.toList
  let (month, afterMonth) ← scanPart? 2 (← expect? '-' afterYear)
  let (day, afterDay) ← scanPart? 2 (← expect? '-' afterMonth)
  let clock ←
    match afterDay with
    | 'T' :: rest | 't' :: rest | ' ' :: rest => some rest
    | _ => none
  let (hour, afterHour) ← scanPart? 2 clock
  let (minute, afterMinute) ← scanPart? 2 (← expect? ':' afterHour)
  let (second, afterSecond) ← scanPart? 2 (← expect? ':' afterMinute)
  let (nanos, afterFraction) ← scanFraction? afterSecond
  let (offset, after) ← scanZone? afterFraction
  guard (skipBlanks after = [])
  assemble? { year, month, day } hour minute second nanos offset

end RelationAuth.Timestamp
