import BaseLanguage.Shell.Utility.Options

namespace BaseLanguage.Shell

open Text

/-!
# Dates in words

A date is read from words in any order: a day, a time of day, and steps from there.  It is written
by a format, in which a percent sign and a letter stand for a part of it.  All clocks show universal
time.
-/

/-! ## Reading -/

/-- The point in time that a text of digits is: a month, a day, an hour and a minute, with a year
in front and seconds behind. -/
def stampTime? (thisYear : Int) (text : String) : Option Timestamp := do
  let digits := text.toList.takeWhile (· != '.')
  let second <-
    match text.toList.drop digits.length with
    | [] => some 0
    | _ :: second => match digitsAt? 2 second with
      | some (second, []) => some second
      | _ => none
  let (year, rest) <-
    match digits.length with
    | 8 => some (thisYear, digits)
    | 10 =>
      (digitsAt? 2 digits).map fun (year, rest) =>
        (((if year < 69 then 2000 + year else 1900 + year : Nat) : Int), rest)
    | 12 => (digitsAt? 4 digits).map fun (year, rest) => ((year : Int), rest)
    | _ => none
  let (month, rest) <- digitsAt? 2 rest
  let (day, rest) <- digitsAt? 2 rest
  let (hour, rest) <- digitsAt? 2 rest
  let (minute, _) <- digitsAt? 2 rest
  Timestamp.ofDate? ⟨year, month, day⟩ ⟨hour, minute, second⟩

structure DateReading where
  date : Option Date := none
  time : Option DayTime := none
  nanos : Nat := 0
  ahead : Option Int := none
  months : Int := 0
  days : Int := 0
  seconds : Int := 0
  exact : Option Timestamp := none
  number : Option Int := none

namespace DateReading

variable (reading : DateReading)

def step? (count : Int) (unit : String) : Option DateReading :=
  let unit := if unit.endsWith "s" && unit != "s" then (unit.dropEnd 1).toString else unit
  match unit with
  | "year" => some { reading with months := reading.months + 12 * count }
  | "month" => some { reading with months := reading.months + count }
  | "fortnight" => some { reading with days := reading.days + 14 * count }
  | "week" => some { reading with days := reading.days + 7 * count }
  | "day" => some { reading with days := reading.days + count }
  | "hour" => some { reading with seconds := reading.seconds + 3600 * count }
  | "minute" => some { reading with seconds := reading.seconds + 60 * count }
  | "min" => some { reading with seconds := reading.seconds + 60 * count }
  | "second" => some { reading with seconds := reading.seconds + count }
  | "sec" => some { reading with seconds := reading.seconds + count }
  | _ => none

def placeOf? (names : List String) (word : String) : Option Nat :=
  names.findIdx? fun name =>
    let name := name.map Char.toLower
    name == word || .ofList (name.toList.take 3) == word

def digitGroups? (separator : Char) (text : Chars) : Option (List Chars) :=
  let groups := pieces separator text
  if groups.all (fun group => !group.isEmpty && group.all isDigit) then some groups else none

def date? (word : Chars) : Option Date :=
  match digitGroups? '-' word, digitGroups? '/' word with
  | some [year, month, day], _ =>
    if 4 <= year.length then some ⟨valueOf year, valueOf month, valueOf day⟩ else none
  | _, some [first, second, third] =>
    if first.length = 4 then some ⟨valueOf first, valueOf second, valueOf third⟩
    else some ⟨valueOf third, valueOf first, valueOf second⟩
  | some [digits], _ =>
    if digits.length = 8 then
      some ⟨valueOf (digits.take 4), valueOf ((digits.drop 4).take 2), valueOf (digits.drop 6)⟩
    else none
  | _, _ => none

def zone? (text : Chars) : Option Int :=
  let hoursAndMinutes (digits : Chars) : Option Int :=
    let digits := digits.filter (· != ':')
    if digits.isEmpty || !digits.all isDigit then none
    else if digits.length <= 2 then some ((valueOf digits : Nat) * 3600)
    else if digits.length = 4 then
      some ((valueOf (digits.take 2) * 3600 + valueOf (digits.drop 2) * 60 : Nat))
    else none
  match text with
  | '+' :: digits => hoursAndMinutes digits
  | '-' :: digits => (hoursAndMinutes digits).map (-·)
  | text => if ["", "z", "utc", "gmt", "ut"].contains (.ofList text) then some 0 else none

def readTime? (word : Chars) : Option DateReading := do
  let digits := word.takeWhile (fun c => isDigit c || c = ':' || c = '.')
  let behind := word.drop digits.length
  let clock := digits.takeWhile (· != '.')
  let places := ((digits.drop clock.length).drop 1).take 9
  let nanos := valueOf (places ++ List.replicate (9 - places.length) '0')
  let groups <- digitGroups? ':' clock
  let (hour, minute, second) <-
    match groups with
    | [hour] => some (valueOf hour, 0, 0)
    | [hour, minute] => some (valueOf hour, valueOf minute, 0)
    | [hour, minute, second] => some (valueOf hour, valueOf minute, valueOf second)
    | _ => none
  let half := .ofList behind
  if half = "am" || half = "pm" then
    if hour = 0 || 12 < hour then none
    else
      let hour := hour % 12 + (if half = "pm" then 12 else 0)
      some { reading with time := some ⟨hour, minute, second⟩, nanos }
  else if groups.length = 1 then none
  else
    let ahead : Option Int <- if behind.isEmpty then some none else (zone? behind).map some
    some { reading with time := some ⟨hour, minute, second⟩, nanos, ahead }

def count? (word : Chars) : Option Int :=
  let number (digits : Chars) : Option Int :=
    if !digits.isEmpty && digits.all isDigit then some (valueOf digits) else none
  match word with
  | '+' :: digits => number digits
  | '-' :: digits => (number digits).map (-·)
  | digits => number digits

def readExact? (text : Chars) : Option DateReading := do
  let whole := text.takeWhile (· != '.')
  let places := ((text.drop whole.length).drop 1).take 9
  if !places.all isDigit then none
  let nanos := valueOf (places ++ List.replicate (9 - places.length) '0')
  some { reading with exact := some ⟨<- count? whole, nanos⟩ }

def readMonth (month : Nat) : DateReading := match reading.number with
  | some day => { reading with number := none, date := some ⟨0, month + 1, day.toNat⟩ }
  | none => { reading with date := some ⟨0, month + 1, 0⟩ }

def readNumber (value : Int) : DateReading := match reading.date with
  | some ⟨0, month, 0⟩ => { reading with date := some ⟨0, month, value.toNat⟩ }
  | some ⟨0, month, day⟩ =>
    if 1000 <= value then { reading with date := some ⟨value, month, day⟩ }
    else { reading with number := some value }
  | _ => { reading with number := some value }

def read? (word : String) : Option DateReading :=
  let chars := word.toList
  match chars with
  | '@' :: rest => reading.readExact? rest
  | _ => match word with
    | "now" => some reading
    | "today" => some reading
    | "yesterday" => reading.step? (-1) "day"
    | "tomorrow" => reading.step? 1 "day"
    | "next" => some { reading with number := some 1 }
    | "last" => some { reading with number := some (-1) }
    | "ago" =>
      some { reading with
        months := -reading.months, days := -reading.days, seconds := -reading.seconds }
    | _ => match placeOf? monthNames word, placeOf? weekdayNames word, date? chars with
      | some month, _, _ => some (reading.readMonth month)
      | _, some _, _ => some reading
      | _, _, some date => some { reading with date := some date }
      | none, none, none =>
        let front := chars.takeWhile (· != 't')
        let isBoth := (date? front).isSome && front.length < chars.length
        match isBoth, reading.number, count? chars with
        | true, _, _ =>
          { reading with date := date? front }.readTime? (chars.drop (front.length + 1))
        | _, _, some value =>
          if reading.time.isSome && reading.ahead.isNone && (zone? chars).isSome then
            some { reading with ahead := zone? chars }
          else some (reading.readNumber value)
        | _, some count, none => { reading with number := none }.step? count word
        | _, none, none => match reading.readTime? chars, zone? chars with
          | some reading, _ => some reading
          | none, some ahead => some { reading with ahead := some ahead }
          | none, none => reading.step? 1 word

def time? (now : Timestamp) : Option Timestamp := do
  let start <-
    match reading.exact, reading.date, reading.time with
    | some exact, _, _ => some exact
    | none, none, none => some now
    | none, date, time =>
      let date := (date.map fun date =>
        if date.year = 0 then { date with year := now.date.year } else date).getD now.date
      (Timestamp.ofDate? date (time.getD ⟨0, 0, 0⟩)).map fun start =>
        ⟨start.seconds - reading.ahead.getD 0, reading.nanos⟩
  if reading.number.isSome then none
  let date := start.date.addMonths reading.months
  some ⟨(date.dayNumber + reading.days) * 86400 + start.dayTime.seconds + reading.seconds,
    start.nanos⟩

end DateReading

def dateTime? (now : Timestamp) (text : String) : Option Timestamp := do
  let letters := text.toList.map fun c => if c = ',' then ' ' else c.toLower
  let words := (pieces ' ' letters).filter (!·.isEmpty)
  if words.isEmpty then Timestamp.ofDate? now.date ⟨0, 0, 0⟩
  else
    let reading <- words.foldlM (fun reading word => reading.read? (.ofList word))
      ({} : DateReading)
    reading.time? now

/-! ## Writing -/

def isoFormats : List (String × String) :=
  [("hours", "%Y-%m-%dT%H%:z"), ("minutes", "%Y-%m-%dT%H:%M%:z"), ("date", "%Y-%m-%d"),
    ("seconds", "%Y-%m-%dT%H:%M:%S%:z"), ("ns", "%Y-%m-%dT%H:%M:%S,%N%:z")]

def dateFormatOf (call : ProgramCall) : Except String String :=
  let usual := "%a %b %e %H:%M:%S %Z %Y"
  let chosen (option word : String) (formats : List (String × String)) : Except String String :=
    match formats.find? (·.1.startsWith word) with
    | some (_, format) => .ok format
    | none =>
      let words := String.join (formats.map fun format => s!"\n  - '{format.1}'")
      .error s!"invalid argument {quoted word} for '{option}'\nValid arguments are:{words}"
  match call.operands with
  | _ :: extra :: _ => .error s!"extra operand {quoted extra}"
  | [only] => match only.toList with
    | '+' :: format => .ok (.ofList format)
    | _ => .ok usual
  | [] => match call.lastOf ['I', 'R', 'W'] with
    | some 'I' =>
      let word := (call.argument? 'I').getD ""
      if word.isEmpty then .ok "%Y-%m-%d" else chosen "--iso-8601" word isoFormats
    | some 'R' => .ok "%a, %d %b %Y %H:%M:%S %z"
    | some _ =>
      chosen "--rfc-3339" ((call.argument? 'W').getD "")
        [("date", "%Y-%m-%d"), ("seconds", "%Y-%m-%d %H:%M:%S%:z"),
          ("ns", "%Y-%m-%d %H:%M:%S.%N%:z")]
    | none => .ok usual

def date : Utility :=
  withOptions
    { letters := "d:f:I::r:Rs:uW:", words := [("date", 'd'), ("iso-8601", 'I'),
      ("reference", 'r'), ("rfc-email", 'R'), ("rfc-2822", 'R'), ("rfc-3339", 'W'),
      ("universal", 'u'), ("utc", 'u'), ("uct", 'u')] }
    fun program call => do
      let session <- get
      let now := session.files.clock
      match dateFormatOf call, call.operands.head? with
      | .error message, _ => complainOfCall program message
      | .ok format, operand =>
        let isFormat := operand.all (·.startsWith "+")
        match isFormat, call.argument? 'd', call.argument? 'r' with
        | false, _, _ =>
          let shown := quoted (operand.getD "")
          complain program s!"invalid date {shown}"
        | _, some text, _ => match dateTime? now text with
          | some time => answerLines program [dateText format time]
          | none => complain program s!"invalid date {quoted text}"
        | _, none, some name => match session.files.modified (pathOf name) with
          | .ok time => answerLines program [dateText format time]
          | .error fault => complain program s!"{name}: {wording fault}"
        | _, none, none => answerLines program [dateText format now]

end BaseLanguage.Shell
