import ContentEngine.Text.Case
import ContentEngine.Number.Reading
/-!
# Days and moments

The calendar values that a database hands out, with their texts. A moment may say how far its clock
is ahead of universal time; the stamp that records carry leaves that out.
-/

namespace ContentEngine

/-- A day of the calendar. -/
structure Day where
  year : Nat
  month : Nat
  day : Nat
deriving Repr, DecidableEq

/-- A day with a time of day, and the distance of its clock from universal time in seconds, if that
is known. -/
structure Moment where
  day : Day
  hour : Nat
  minute : Nat
  second : Nat
  micro : Nat
  offset? : Option Int
deriving Repr, DecidableEq

/-- The decimal text of a number, filled up with zeros to a width. -/
def paddedText (width n : Nat) : String :=
  let digits := digitText n
  String.ofList (List.replicate (width - digits.length) '0' ++ digits)

/-- A day as `2024-02-29`. -/
def Day.text (d : Day) : String :=
  paddedText 4 d.year ++ "-" ++ paddedText 2 d.month ++ "-" ++ paddedText 2 d.day

/-- A time of day as `03:04:05`. -/
def clockText (hour minute second : Nat) : String :=
  paddedText 2 hour ++ ":" ++ paddedText 2 minute ++ ":" ++ paddedText 2 second

/-- A distance from universal time as `+05:30`, with seconds only if there are any. -/
def offsetText (offset : Int) : String :=
  let n := offset.natAbs
  (if offset < 0 then "-" else "+") ++ paddedText 2 (n / 3600) ++ ":" ++ paddedText 2 (n / 60 % 60)
    ++ (if n % 60 = 0 then "" else ":" ++ paddedText 2 (n % 60))

/-- A moment with a separator between day and time, and with a fraction only if there is one. -/
def Moment.textWith (separator : String) (m : Moment) : String :=
  m.day.text ++ separator ++ clockText m.hour m.minute m.second
    ++ (if m.micro = 0 then "" else "." ++ paddedText 6 m.micro)
    ++ (m.offset?.map offsetText).getD ""

/-- A moment as `2024-01-02T03:04:05+05:30`. -/
def Moment.text (m : Moment) : String :=
  m.textWith "T"

/-- A day as the stamp of a record. The year is not padded here. -/
def Day.stamp (d : Day) (time : String) : String :=
  paddedText 1 d.year ++ "-" ++ paddedText 2 d.month ++ "-" ++ paddedText 2 d.day
    ++ "T" ++ time ++ "Z"

/-- The stamp that a record carries for a moment: to the second, whatever its clock. -/
def Moment.stamp (m : Moment) : String :=
  m.day.stamp (clockText m.hour m.minute m.second)

/-! ### Reading -/

/-- The number that a text of ASCII digits of the given length denotes, and what follows it. -/
def takeNumber? (width : Nat) (text : List Char) : Option (Nat × List Char) :=
  let digits := text.take width
  if digits.length = width ∧ digits.all isAsciiDigit then
    some (digitsValue digits, text.drop width)
  else none

/-- What follows a character at the start of a text. -/
def takeChar? (c : Char) : List Char → Option (List Char)
  | d :: rest => if d = c then some rest else none
  | [] => none

/-- Whether a year is a leap year. -/
def isLeapYear (year : Nat) : Bool :=
  (year % 4 == 0 && year % 100 != 0) || year % 400 == 0

/-- The number of days in a month. -/
def daysInMonth (year month : Nat) : Nat :=
  if month = 2 then (if isLeapYear year then 29 else 28)
  else if month = 4 ∨ month = 6 ∨ month = 9 ∨ month = 11 then 30
  else 31

/-- A day at the start of a text, and what follows it. -/
def takeDay? (text : List Char) : Option (Day × List Char) := do
  let (year, rest) ← takeNumber? 4 text
  let rest ← takeChar? '-' rest
  let (month, rest) ← takeNumber? 2 rest
  let rest ← takeChar? '-' rest
  let (day, rest) ← takeNumber? 2 rest
  if 1 ≤ year ∧ 1 ≤ month ∧ month ≤ 12 ∧ 1 ≤ day ∧ day ≤ daysInMonth year month then
    some (⟨year, month, day⟩, rest)
  else none

/-- Seconds with a fraction, after the minute of a time of day: the seconds, the microseconds and
what follows. Both may be missing. -/
def takeSeconds? (text : List Char) : Option (Nat × Nat × List Char) :=
  match text with
  | ':' :: rest => do
    let (second, rest) ← takeNumber? 2 rest
    match rest with
    | '.' :: more =>
      let digits := more.takeWhile isAsciiDigit
      let filled := (digits ++ List.replicate 6 '0').take 6
      if digits.isEmpty then none
      else some (second, digitsValue filled, more.dropWhile isAsciiDigit)
    | _ => some (second, 0, rest)
  | _ => some (0, 0, text)

/-- The distance from universal time at the end of a text. -/
def readOffset? (text : List Char) : Option (Option Int) :=
  match text with
  | [] => some none
  | ['Z'] => some (some 0)
  | sign :: rest =>
    if sign = '+' ∨ sign = '-' then do
      let (hour, rest) ← takeNumber? 2 rest
      let rest ← takeChar? ':' rest
      let (minute, rest) ← takeNumber? 2 rest
      let (second, _, rest) ← takeSeconds? rest
      if rest.isEmpty then
        some (some (signed (decide (sign = '-')) (3600 * hour + 60 * minute + second)))
      else none
    else none

/-- The day that a text denotes. -/
def Day.ofText? (text : String) : Option Day :=
  match takeDay? text.toList with
  | some (day, []) => some day
  | _ => none

/-- The moment that a text denotes. A day alone denotes its first instant. -/
def Moment.ofText? (text : String) : Option Moment := do
  let (day, rest) ← takeDay? text.toList
  match rest with
  | [] => some ⟨day, 0, 0, 0, 0, none⟩
  | _ :: rest =>
    let (hour, rest) ← takeNumber? 2 rest
    let rest ← takeChar? ':' rest
    let (minute, rest) ← takeNumber? 2 rest
    let (second, micro, rest) ← takeSeconds? rest
    let offset? ← readOffset? rest
    if hour < 24 ∧ minute < 60 ∧ second < 60 then some ⟨day, hour, minute, second, micro, offset?⟩
    else none

/-- The number of days before the first of March of a year, counted from the first of March of
year 0. Starting years in March puts the leap day at their end. -/
def daysBeforeMarch (year : Nat) : Nat :=
  365 * year + year / 4 - year / 100 + year / 400

/-- The number of a day, counted from the first of March of year 0. -/
def Day.number (d : Day) : Nat :=
  let year := if d.month ≤ 2 then d.year - 1 else d.year
  let month := if d.month ≤ 2 then d.month + 9 else d.month - 3
  daysBeforeMarch year + (153 * month + 2) / 5 + (d.day - 1)

/-- The seconds from the start of the year 1970 to a moment on a clock of universal time. -/
def Moment.seconds (m : Moment) : Int :=
  ((m.day.number : Int) - (Day.number ⟨1970, 1, 1⟩ : Int)) * 86400
    + (3600 * m.hour + 60 * m.minute + m.second : Nat) - m.offset?.getD 0

end ContentEngine
