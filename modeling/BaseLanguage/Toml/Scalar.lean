import BaseLanguage.Datum.Basic
import BaseLanguage.Text.Numeral

namespace BaseLanguage
namespace Toml

/-!
# Numbers, dates and times in TOML

Each reader answers with what stands at the front of a text and what is left, or with nothing if
the text does not start in that form.  Digits may be separated by single underscores.
-/

/-- Digits of a kind, with single underscores between them; the first digit is given. -/
def digitsFrom (isDigit : Char -> Bool) (front : List Char) : List Char -> List Char × List Char
  | '_' :: c :: rest =>
    if isDigit c then digitsFrom isDigit (c :: front) rest else (front.reverse, '_' :: c :: rest)
  | c :: rest =>
    if isDigit c then digitsFrom isDigit (c :: front) rest else (front.reverse, c :: rest)
  | [] => (front.reverse, [])

/-- At least one digit of a kind, with single underscores between them. -/
def digits (isDigit : Char -> Bool) : List Char -> Option (List Char × List Char)
  | [] => none
  | c :: rest => if isDigit c then some (digitsFrom isDigit [c] rest) else none

/-- The value of a digit in any base up to sixteen. -/
def digitOf (c : Char) : Nat :=
  if Text.isDigit c then Text.digitValue c
  else if 'a' ≤ c && c ≤ 'f' then c.toNat - 'a'.toNat + 10
  else if 'A' ≤ c && c ≤ 'F' then c.toNat - 'A'.toNat + 10
  else 16

def valueIn (base : Nat) (found : List Char) : Nat :=
  found.foldl (fun value c => value * base + digitOf c) 0

def long (value : Int) : Option Datum :=
  if Text.longLeast ≤ value ∧ value < Text.longBound then some (.integer value) else none

/-- Digits in a base, behind its mark. -/
def based (base : Nat) (text : List Char) : Option (Datum × List Char) := do
  let (found, rest) ← digits (digitOf · < base) text
  return (← long (valueIn base found), rest)

/-- An optional sign: whether it is a minus, and what follows. -/
def sign : List Char -> Bool × List Char
  | '+' :: rest => (false, rest)
  | '-' :: rest => (true, rest)
  | text => (false, text)

/-- Decimal digits without superfluous zeros in front. -/
def plainDigits (text : List Char) : Option (List Char × List Char) :=
  match text with
  | '0' :: rest => some (['0'], rest)
  | _ => digits Text.isDigit text

def integer (text : List Char) : Option (Datum × List Char) :=
  match text with
  | '0' :: 'x' :: rest => based 16 rest
  | '0' :: 'o' :: rest => based 8 rest
  | '0' :: 'b' :: rest => based 2 rest
  | _ => do
    let (negative, rest) := sign text
    let (found, rest) ← plainDigits rest
    let value : Int := Text.valueOf found
    return (← long (if negative then -value else value), rest)

def exponent (text : List Char) : Option (Int × List Char) :=
  match text with
  | c :: rest =>
    if c = 'e' || c = 'E' then do
      let (negative, rest) := sign rest
      let (found, rest) ← digits Text.isDigit rest
      let value : Int := Text.valueOf found
      return (if negative then -value else value, rest)
    else none
  | [] => none

/-- Whether `mantissa` times ten to `power` is beyond the greatest double. -/
def exceedsDouble (mantissa : Nat) (power : Int) : Bool :=
  let size : Int := (Text.decimal mantissa).length + power
  if mantissa = 0 || size < 308 then false
  else if 310 < size then true
  else
    let limit := Nat.pow 2 1024 - Nat.pow 2 970
    if 0 ≤ power then limit ≤ mantissa * Nat.pow 10 power.toNat
    else limit * Nat.pow 10 (-power).toNat ≤ mantissa

/-- A number with a fraction, an exponent or both.  A positive one must not exceed the greatest
double. -/
def decimalFraction (text : List Char) : Option (Datum × List Char) := do
  let (negative, rest) := sign text
  let (whole, rest) ← plainDigits rest
  let (fraction, power, rest) ←
    match rest with
    | '.' :: behind => do
      let (fraction, rest) ← digits Text.isDigit behind
      match exponent rest with
      | some (power, rest) => some (fraction, power, rest)
      | none => some (fraction, 0, rest)
    | _ => do
      let (power, rest) ← exponent rest
      some ([], power, rest)
  let mantissa := Text.valueOf (whole ++ fraction)
  if !negative && exceedsDouble mantissa (power - fraction.length) then none
  else some (.scalar (String.ofList (text.take (text.length - rest.length))), rest)

def specialNumber (text : List Char) : Option (Datum × List Char) :=
  match (sign text).2 with
  | 'i' :: 'n' :: 'f' :: rest => some (.scalar "inf", rest)
  | 'n' :: 'a' :: 'n' :: rest => some (.scalar "nan", rest)
  | _ => none

/-- Exactly `count` digits, as their value. -/
def fixedDigits (count : Nat) (text : List Char) : Option (Nat × List Char) :=
  let found := text.take count
  if found.length = count && found.all Text.isDigit then
    some (Text.valueOf found, text.drop count)
  else none

/-- What follows a character, if the text starts with it. -/
def after (c : Char) : List Char -> Option (List Char)
  | [] => none
  | d :: rest => if d = c then some rest else none

def twoDigits (greatest : Nat) (text : List Char) : Option (List Char) := do
  let (value, rest) ← fixedDigits 2 text
  if value ≤ greatest then some rest else none

def daysIn (year month : Nat) : Nat :=
  if month = 2 then
    if year % 4 = 0 && (year % 100 != 0 || year % 400 = 0) then 29 else 28
  else if month = 4 || month = 6 || month = 9 || month = 11 then 30
  else 31

def date (text : List Char) : Option (List Char) := do
  let (year, rest) ← fixedDigits 4 text
  let (month, rest) ← fixedDigits 2 (← after '-' rest)
  let (day, rest) ← fixedDigits 2 (← after '-' rest)
  if 1 ≤ month && month ≤ 12 && 1 ≤ day && day ≤ daysIn year month then some rest else none

def dropFraction (text : List Char) : List Char :=
  match text with
  | '.' :: c :: rest => if Text.isDigit c then rest.dropWhile Text.isDigit else text
  | _ => text

def time (text : List Char) : Option (List Char) := do
  let rest ← twoDigits 23 text
  let rest ← twoDigits 59 (← after ':' rest)
  let rest ← twoDigits 60 (← after ':' rest)
  return dropFraction rest

def dropOffset (text : List Char) : List Char :=
  match text with
  | 'Z' :: rest => rest
  | 'z' :: rest => rest
  | c :: rest =>
    if c = '+' || c = '-' then
      match twoDigits 23 rest >>= after ':' >>= twoDigits 59 with
      | some rest => rest
      | none => text
    else text
  | [] => text

/-- Drops a time of the day behind a date, if there is one. -/
def dropTime (text : List Char) : List Char :=
  match text with
  | c :: rest =>
    if c = 'T' || c = 't' || c = ' ' then
      match time rest with
      | some rest => dropOffset rest
      | none => text
    else text
  | [] => text

/-- A date, a time, or both, as a record with one field, which holds what was written. -/
def moment (text : List Char) : Option (Datum × List Char) := do
  let rest ← (date text).map dropTime <|> time text
  let written := String.ofList (text.take (text.length - rest.length))
  return (.record [("moment", .text written)], rest)

def boolean (text : List Char) : Option (Datum × List Char) :=
  match text with
  | 't' :: 'r' :: 'u' :: 'e' :: rest => some (.boolean true, rest)
  | 'f' :: 'a' :: 'l' :: 's' :: 'e' :: rest => some (.boolean false, rest)
  | _ => none

/-- A value without parts and without quotes. -/
def scalar (text : List Char) : Option (Datum × List Char) :=
  moment text <|> decimalFraction text <|> specialNumber text <|> integer text <|> boolean text

/-!
## Quoted text in TOML

Text stands in double quotes, with escapes, or in single quotes, as it is.  In three quotes it may
span lines: a line break right behind the opening quotes is dropped, and every line break is read
as a line feed.
-/

/-- The characters that may stand for themselves: all but the control characters, the tab being
none. -/
def isPlain (c : Char) : Bool :=
  c = '\t' || (0x20 ≤ c.toNat && c.toNat != 0x7F)

/-- What follows a line break, if the text starts with one. -/
def afterNewline : List Char -> Option (List Char)
  | '\n' :: rest => some rest
  | '\r' :: '\n' :: rest => some rest
  | _ => none

def dropNewline (text : List Char) : List Char :=
  (afterNewline text).getD text

def isSpace (c : Char) : Bool :=
  c = ' ' || c = '\t'

def skipSpaces (text : List Char) : List Char :=
  text.dropWhile isSpace

def skipBreaks : List Char -> List Char
  | [] => []
  | '\r' :: '\n' :: rest => skipBreaks rest
  | c :: rest => if isSpace c || c = '\n' then skipBreaks rest else c :: rest

theorem skipBreaks_length (text : List Char) : (skipBreaks text).length ≤ text.length := by
  fun_induction skipBreaks text with
  | case1 => simp
  | case2 rest ih =>
    simp only [List.length_cons]
    omega
  | case3 c rest _ _ ih =>
    simp only [List.length_cons]
    omega
  | case4 => simp

/-- The character whose code is given by exactly `count` hexadecimal digits. -/
def codePoint (count : Nat) (text : List Char) : Option (Char × List Char) :=
  let found := text.take count
  let code := valueIn 16 found
  if found.length = count && found.all (digitOf · < 16) && code.isValidChar then
    some (Char.ofNat code, text.drop count)
  else none

theorem codePoint_length {count : Nat} {text rest : List Char} {c : Char}
    (found : codePoint count text = some (c, rest)) : rest.length ≤ text.length := by
  unfold codePoint at found
  simp only at found
  split at found
  · simp only [Option.some.injEq, Prod.mk.injEq] at found
    simp [← found.2]
  · simp at found

/-- The character that an escape stands for, from what follows the backslash. -/
def escaped (text : List Char) : Option (Char × List Char) :=
  match text with
  | 'b' :: rest => some (Char.ofNat 8, rest)
  | 't' :: rest => some ('\t', rest)
  | 'n' :: rest => some ('\n', rest)
  | 'f' :: rest => some (Char.ofNat 12, rest)
  | 'r' :: rest => some ('\r', rest)
  | '"' :: rest => some ('"', rest)
  | '\\' :: rest => some ('\\', rest)
  | 'u' :: rest => codePoint 4 rest
  | 'U' :: rest => codePoint 8 rest
  | _ => none

theorem escaped_length {text rest : List Char} {c : Char} (found : escaped text = some (c, rest)) :
    rest.length < text.length := by
  unfold escaped at found
  split at found
  all_goals first
    | exact Nat.lt_succ_of_le (codePoint_length found)
    | (simp only [Option.some.injEq, Prod.mk.injEq] at found; simp [found.2])
    | contradiction

/-- Text in double quotes, up to the closing quote, behind the characters in `front`, which are in
reverse. -/
def basicFrom (front : List Char) (text : List Char) : Option (List Char × List Char) :=
  match text with
  | [] => none
  | '"' :: rest => some (front.reverse, rest)
  | '\\' :: rest =>
    match found : escaped rest with
    | some (c, more) =>
      have := escaped_length found
      basicFrom (c :: front) more
    | none => none
  | c :: rest => if isPlain c then basicFrom (c :: front) rest else none
termination_by text.length
decreasing_by
  · simp only [List.length_cons]
    omega
  · simp

/-- Text in single quotes, up to the closing quote. -/
def literalFrom (front : List Char) : List Char -> Option (List Char × List Char)
  | [] => none
  | '\'' :: rest => some (front.reverse, rest)
  | c :: rest => if isPlain c then literalFrom (c :: front) rest else none

/-- The quotes at the front of a text, if they close a text in three of them: those that belong to
the text, of which there may be two, and what is left. -/
def closing (quote : Char) (text : List Char) : Option (List Char × List Char) :=
  let quotes := text.takeWhile (· == quote)
  if 3 ≤ quotes.length ∧ quotes.length ≤ 5 then
    some (quotes.drop 3, text.drop quotes.length)
  else none

/-- Text in three double quotes.  A backslash in front of a line break drops the break and all
blanks behind it. -/
def longBasicFrom (front : List Char) (text : List Char) : Option (List Char × List Char) :=
  match text with
  | [] => none
  | '"' :: rest =>
    match closing '"' text with
    | some (quotes, rest) => some (front.reverse ++ quotes, rest)
    | none =>
      if '"' == rest.head?.getD ' ' && '"' == (rest.drop 1).head?.getD ' ' then none
      else longBasicFrom ('"' :: front) rest
  | '\\' :: rest =>
    match found : escaped rest with
    | some (c, more) =>
      have := escaped_length found
      longBasicFrom (c :: front) more
    | none =>
      match afterNewline (skipSpaces rest) with
      | some _ => longBasicFrom front (skipBreaks rest)
      | none => none
  | '\r' :: '\n' :: rest => longBasicFrom ('\n' :: front) rest
  | c :: rest =>
    if isPlain c || c = '\n' then longBasicFrom (c :: front) rest else none
termination_by text.length
decreasing_by
  · simp
  · simp only [List.length_cons]
    omega
  · have := skipBreaks_length rest
    simp only [List.length_cons]
    omega
  · simp only [List.length_cons]
    omega
  · simp

/-- Text in three single quotes. -/
def longLiteralFrom (front : List Char) : List Char -> Option (List Char × List Char)
  | [] => none
  | '\r' :: '\n' :: rest => longLiteralFrom ('\n' :: front) rest
  | '\'' :: rest =>
    match closing '\'' ('\'' :: rest) with
    | some (quotes, rest) => some (front.reverse ++ quotes, rest)
    | none =>
      if '\'' == rest.head?.getD ' ' && '\'' == (rest.drop 1).head?.getD ' ' then none
      else longLiteralFrom ('\'' :: front) rest
  | c :: rest =>
    if isPlain c || c = '\n' then longLiteralFrom (c :: front) rest else none

def quotedLine (text : List Char) : Option (List Char × List Char) :=
  match text with
  | '"' :: rest => basicFrom [] rest
  | '\'' :: rest => literalFrom [] rest
  | _ => none

def quoted (text : List Char) : Option (List Char × List Char) :=
  match text with
  | '"' :: '"' :: '"' :: rest => longBasicFrom [] (dropNewline rest)
  | '\'' :: '\'' :: '\'' :: rest => longLiteralFrom [] (dropNewline rest)
  | _ => quotedLine text

end Toml
end BaseLanguage
