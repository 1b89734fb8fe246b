import BaseLanguage.Text.CharClass

namespace BaseLanguage

/-!
# Points in time and dates

A point in time is a number of seconds and a number of nanoseconds below a second.

A date is a year, a month and a day of the Gregorian calendar.  Days are counted from the first day
of 1970.  Months are counted from March on, so that the day that only some years have is the last
one of its year.
-/

/-- A point in time. -/
structure Timestamp where
  seconds : Int
  nanos : Nat
  deriving Repr, DecidableEq, Inhabited

namespace Timestamp

def nanosPerSecond : Nat :=
  1000000000

def total (time : Timestamp) : Int :=
  time.seconds * nanosPerSecond + time.nanos

/-- Whether one point in time lies before another. -/
def before (left right : Timestamp) : Bool :=
  left.total < right.total

def next (time : Timestamp) : Timestamp :=
  if time.nanos + 1 < nanosPerSecond then ⟨time.seconds, time.nanos + 1⟩
  else ⟨time.seconds + 1, time.nanos + 1 - nanosPerSecond⟩

theorem total_next (time : Timestamp) : time.next.total = time.total + 1 := by
  unfold next total
  split
  · simp only
    omega
  · simp only [nanosPerSecond] at *
    omega

theorem before_next (time : Timestamp) : time.before time.next = true := by
  simp only [before, total_next, decide_eq_true_eq]
  omega

end Timestamp

/-! ## Dates -/

structure Date where
  year : Int
  month : Nat
  day : Nat
  deriving Repr, DecidableEq

structure DayTime where
  hour : Nat
  minute : Nat
  second : Nat
  deriving Repr, DecidableEq

namespace Date

def isLeap (year : Int) : Bool :=
  year % 4 == 0 && (year % 100 != 0 || year % 400 == 0)

def monthLength (year : Int) (month : Nat) : Nat :=
  if month = 2 then (if isLeap year then 29 else 28)
  else if [4, 6, 9, 11].contains month then 30
  else 31

def isValid (date : Date) : Bool :=
  1 ≤ date.month && date.month ≤ 12 && 1 ≤ date.day &&
    date.day ≤ monthLength date.year date.month

def dayNumber (date : Date) : Int :=
  let year := if date.month ≤ 2 then date.year - 1 else date.year
  let month : Int := ((date.month : Int) + 9) % 12
  let inYear := (153 * month + 2) / 5 + date.day - 1
  365 * year + year / 4 - year / 100 + year / 400 + inYear - 719468

/-- The date that lies so many days behind the first day of 1970.  Four hundred years always have
as many days. -/
def ofDayNumber (number : Int) : Date :=
  let days := number + 719468
  let period := days / 146097
  let inPeriod := days % 146097
  let year := (inPeriod - inPeriod / 1460 + inPeriod / 36524 - inPeriod / 146096) / 365
  let inYear := inPeriod - (365 * year + year / 4 - year / 100)
  let month := (5 * inYear + 2) / 153
  let day := inYear - (153 * month + 2) / 5 + 1
  ⟨year + period * 400 + (if month < 10 then 0 else 1),
    (if month < 10 then month + 3 else month - 9).toNat, day.toNat⟩

/-- The day of the week, from Sunday on. -/
def weekday (date : Date) : Nat :=
  ((date.dayNumber + 4) % 7).toNat

def dayOfYear (date : Date) : Nat :=
  (date.dayNumber - dayNumber ⟨date.year, 1, 1⟩).toNat

/-- The date so many months later; a day that the month does not have is one of the next. -/
def addMonths (date : Date) (months : Int) : Date :=
  let all := date.year * 12 + (date.month - 1) + months
  ofDayNumber (dayNumber ⟨all / 12, (all % 12).toNat + 1, 1⟩ + (date.day - 1))

/-- The year that the week of a date belongs to, and the number of the week in it.  Weeks begin on
Monday and belong to the year of their Thursday. -/
def week (date : Date) : Int × Nat :=
  let thursday := ofDayNumber (date.dayNumber - ((date.weekday + 6) % 7 : Nat) + 3)
  (thursday.year, thursday.dayOfYear / 7 + 1)

end Date

namespace DayTime

def isValid (time : DayTime) : Bool :=
  time.hour < 24 && time.minute < 60 && time.second ≤ 60

def seconds (time : DayTime) : Nat :=
  time.hour * 3600 + time.minute * 60 + time.second

end DayTime

namespace Timestamp

def ofDate? (date : Date) (time : DayTime) : Option Timestamp :=
  if date.isValid && time.isValid then some ⟨date.dayNumber * 86400 + time.seconds, 0⟩ else none

def date (time : Timestamp) : Date :=
  Date.ofDayNumber (time.seconds / 86400)

def dayTime (time : Timestamp) : DayTime :=
  let seconds := (time.seconds % 86400).toNat
  ⟨seconds / 3600, seconds / 60 % 60, seconds % 60⟩

end Timestamp

namespace Text

/-- The number that exactly so many digits at the front of a text are, and what follows them. -/
def digitsAt? (count : Nat) (text : List Char) : Option (Nat × List Char) :=
  let digits := text.take count
  if digits.length = count && digits.all isDigit then some (valueOf digits, text.drop count)
  else none

end Text
end BaseLanguage

namespace BaseLanguage

/-!
## Dates in a format

A point in time is written by a format, in which a percent sign and a letter stand for a part of the
date or of the time of day.  All clocks show universal time.
-/

def monthNames : List String :=
  ["January", "February", "March", "April", "May", "June", "July", "August", "September",
    "October", "November", "December"]

/-- The names of the days of the week, from Sunday on. -/
def weekdayNames : List String :=
  ["Sunday", "Monday", "Tuesday", "Wednesday", "Thursday", "Friday", "Saturday"]

inductive DatePart where
  /-- A number with its usual width, and what it is filled up with. -/
  | number (value : Int) (width : Nat) (fill : Char)
  | text (value : String)
  deriving Repr, DecidableEq

/-- The part of a date that a letter stands for. -/
def datePart? (time : Timestamp) (letter : Char) : Option DatePart :=
  let date := time.date
  let clock := time.dayTime
  let twelve := if clock.hour % 12 = 0 then 12 else clock.hour % 12
  let monthName := monthNames.getD (date.month - 1) ""
  let dayName := weekdayNames.getD date.weekday ""
  let short (name : String) : String := String.ofList (name.toList.take 3)
  let isoDay := if date.weekday = 0 then 7 else date.weekday
  let half := if clock.hour < 12 then "AM" else "PM"
  match letter with
  | 'a' => some (.text (short dayName))
  | 'A' => some (.text dayName)
  | 'b' => some (.text (short monthName))
  | 'h' => some (.text (short monthName))
  | 'B' => some (.text monthName)
  | 'C' => some (.number (date.year / 100) 2 '0')
  | 'd' => some (.number date.day 2 '0')
  | 'e' => some (.number date.day 2 ' ')
  | 'g' => some (.number (date.week.1 % 100) 2 '0')
  | 'G' => some (.number date.week.1 4 '0')
  | 'H' => some (.number clock.hour 2 '0')
  | 'I' => some (.number twelve 2 '0')
  | 'j' => some (.number (date.dayOfYear + 1) 3 '0')
  | 'k' => some (.number clock.hour 2 ' ')
  | 'l' => some (.number twelve 2 ' ')
  | 'm' => some (.number date.month 2 '0')
  | 'M' => some (.number clock.minute 2 '0')
  | 'n' => some (.text "\n")
  | 'N' => some (.number time.nanos 9 '0')
  | 'p' => some (.text half)
  | 'P' => some (.text (half.map Char.toLower))
  | 'q' => some (.number ((date.month + 2) / 3) 1 '0')
  | 's' => some (.number time.seconds 1 '0')
  | 'S' => some (.number clock.second 2 '0')
  | 't' => some (.text "\t")
  | 'u' => some (.number isoDay 1 '0')
  | 'U' => some (.number ((date.dayOfYear + 7 - date.weekday) / 7) 2 '0')
  | 'V' => some (.number date.week.2 2 '0')
  | 'w' => some (.number date.weekday 1 '0')
  | 'W' => some (.number ((date.dayOfYear + 8 - isoDay) / 7) 2 '0')
  | 'y' => some (.number (date.year % 100) 2 '0')
  | 'Y' => some (.number date.year 4 '0')
  | 'z' => some (.text "+0000")
  | 'Z' => some (.text "UTC")
  | '%' => some (.text "%")
  | _ => none

/-- The format that a letter is short for. -/
def dateFormat? (letter : Char) : Option String :=
  match letter with
  | 'c' => some "%a %b %e %H:%M:%S %Y"
  | 'D' => some "%m/%d/%y"
  | 'F' => some "%Y-%m-%d"
  | 'r' => some "%I:%M:%S %p"
  | 'R' => some "%H:%M"
  | 'T' => some "%H:%M:%S"
  | 'x' => some "%m/%d/%y"
  | 'X' => some "%H:%M:%S"
  | _ => none

/-- A part of a date in letters; flags and a width may change its look. -/
def DatePart.written (part : DatePart) (flags : List Char) (width : Option Nat) : List Char :=
  let fillOf (usual : Char) : Char :=
    match (flags.filter (['_', '0'].contains ·)).getLast? with
    | some '_' => ' '
    | some _ => '0'
    | none => usual
  let fill (count : Nat) (c : Char) (text : List Char) : List Char :=
    List.replicate (count - text.length) c ++ text
  match part with
  | .number value usualWidth usual =>
    let text := Text.signedDecimal value
    if flags.contains '-' then text else fill (width.getD usualWidth) (fillOf usual) text
  | .text value =>
    let text := value.toList
    let text :=
      if flags.contains '^' then text.map Char.toUpper
      else if flags.contains '#' then
        text.map (fun c => if text.any Char.isLower then c.toUpper else c.toLower)
      else text
    fill (width.getD 0) (fillOf ' ') text

/-- A point in time in a format.  The bound is greater than the length of the format. -/
def dateTextWithin : Nat -> Timestamp -> List Char -> List Char
  | 0, _, _ => []
  | _, _, [] => []
  | limit + 1, time, '%' :: rest =>
    let flags := rest.takeWhile ['-', '_', '0', '^', '#'].contains
    let behind := rest.drop flags.length
    let digits := behind.takeWhile Text.isDigit
    let width := if digits.isEmpty then none else some (Text.valueOf digits)
    let behind := behind.drop digits.length
    let colons := behind.takeWhile (· = ':')
    match behind.drop colons.length with
    | [] => '%' :: rest
    | letter :: after =>
      let whole := '%' :: rest.take (rest.length - after.length)
      let shown :=
        match dateFormat? letter, datePart? time letter with
        | some format, _ =>
          (DatePart.text (String.ofList (dateTextWithin limit time format.toList))).written
            flags width
        | none, some part =>
          if letter = 'z' && !colons.isEmpty then
            match colons.length with
            | 1 => "+00:00".toList
            | 2 => "+00:00:00".toList
            | _ => "+00".toList
          else part.written flags width
        | none, none => whole
      shown ++ dateTextWithin limit time after
  | limit + 1, time, c :: rest => c :: dateTextWithin limit time rest

/-- A point in time in a format. -/
def dateText (format : String) (time : Timestamp) : String :=
  String.ofList (dateTextWithin (format.length + 32) time format.toList)

end BaseLanguage
