namespace BaseLanguage

/-- A text, character by character. -/
abbrev Chars := List Char

namespace Text

/-!
# Decimal numerals

Decimal digits are ASCII here.  A word is a numeral that fits sixty-four bits without a sign, a
long one that fits sixty-four bits with a sign.
-/

def isDigit (c : Char) : Bool := '0' ≤ c && c ≤ '9'

def digitValue (c : Char) : Nat := c.toNat - '0'.toNat

/-- The value of a run of decimal digits, most significant first. -/
def valueOf (digits : List Char) : Nat := digits.foldl (fun value c => value * 10 + digitValue c) 0

/-- The decimal digits of a number, most significant first. -/
def decimal (n : Nat) : List Char := Nat.toDigits 10 n

/-- The decimal text of an integer: a minus sign if it is negative, then its digits. -/
def signedDecimal : Int -> List Char
  | .ofNat n => decimal n
  | .negSucc n => '-' :: decimal (n + 1)

/-- One more than the largest word: two to the power of sixty-four. -/
def wordBound : Nat := 18446744073709551616

def longLeast : Int := -9223372036854775808

/-- One more than the greatest long: two to the power of sixty-three. -/
def longBound : Int := 9223372036854775808

/-- A run of at least one digit whose value is a word. -/
def wordOfDigits? (digits : List Char) : Option Nat :=
  if !digits.isEmpty && digits.all isDigit && valueOf digits < wordBound then some (valueOf digits)
  else none

/-- Reads a word: an optional plus sign and digits, nothing else. -/
def word? : List Char -> Option Nat
  | '+' :: digits => wordOfDigits? digits
  | digits => wordOfDigits? digits

inductive LongFault where
  | noDigits
  | tooLarge
  | tooSmall
  deriving Repr, DecidableEq

namespace LongFault

def message : LongFault -> String
  | noDigits => "invalid digit found in string"
  | tooLarge => "number too large to fit in target type"
  | tooSmall => "number too small to fit in target type"

end LongFault

/-- The long with the given sign and digits. -/
def long? (negative : Bool) (digits : List Char) : Except LongFault Int :=
  if digits.isEmpty then .error .noDigits
  else if negative then
    let value := -(valueOf digits : Int)
    if longLeast ≤ value then .ok value else .error .tooSmall
  else
    let value := (valueOf digits : Int)
    if value < longBound then .ok value else .error .tooLarge

end Text
end BaseLanguage
