import BaseLanguage.Text.CharClass

namespace BaseLanguage
namespace Text

/-!
# Fractions in numerals

A numeral with a point or an exponent spells a fraction.  Machines keep the nearest number with so
many binary places, and write it with so many decimal ones.  All of this is done with natural
numbers, so that what is written is exact: a half goes to the even neighbour.
-/

/-- A fraction that is not negative; its denominator is positive. -/
structure Fraction where
  numerator : Nat
  denominator : Nat
  positive : 0 < denominator := by omega
  deriving Repr, DecidableEq

namespace Fraction

/-- The fraction with a numerator and a denominator, which counts as one if it is zero. -/
def ratio (numerator denominator : Nat) : Fraction :=
  if positive : 0 < denominator then ⟨numerator, denominator, positive⟩
  else ⟨numerator, 1, Nat.one_pos⟩

def ofNat (value : Nat) : Fraction := ⟨value, 1, Nat.one_pos⟩

variable (fraction : Fraction)

def scale (base : Nat) (exponent : Int) : Fraction :=
  if exponent < 0 then
    ratio fraction.numerator (fraction.denominator * Nat.pow base exponent.natAbs)
  else ratio (fraction.numerator * Nat.pow base exponent.toNat) fraction.denominator

/-- The nearest number; a half goes to the even neighbour. -/
def round : Nat :=
  let whole := fraction.numerator / fraction.denominator
  let rest := fraction.numerator % fraction.denominator
  if fraction.denominator < 2 * rest || (fraction.denominator = 2 * rest && whole % 2 = 1) then
    whole + 1
  else whole

def less (left right : Fraction) : Bool :=
  left.numerator * right.denominator < right.numerator * left.denominator

/-- The greatest exponent of a base whose power is not above a fraction that is not zero. -/
def magnitude (base : Nat) : Int :=
  let estimate : Int :=
    ((Nat.toDigits base fraction.numerator).length : Int) -
      (Nat.toDigits base fraction.denominator).length
  if less fraction (scale (ofNat 1) base estimate) then estimate - 1 else estimate

def toBinary (places : Nat) : Fraction :=
  if fraction.numerator = 0 then fraction
  else
    let unit := fraction.magnitude 2 - places + 1
    (ofNat (fraction.scale 2 (-unit)).round).scale 2 unit

end Fraction

/-- A number as machines keep it. -/
inductive Real where
  | finite (negative : Bool) (size : Fraction)
  | infinite (negative : Bool)
  | undefined
  deriving Repr, DecidableEq

/-- How often a numeral may be longer than it looks. -/
def greatestExponent : Nat := 5000

def exponentAt? (text : List Char) : Option (Int × List Char) :=
  let (negative, unsigned) :=
    match text with
    | '-' :: rest => (true, rest)
    | '+' :: rest => (false, rest)
    | _ => (false, text)
  let digits := unsigned.takeWhile isDigit
  if digits.isEmpty then none
  else
    let size : Int := min (valueOf digits) (2 * greatestExponent)
    some (if negative then -size else size, unsigned.drop digits.length)

/-- The fraction at the front of a text, and what follows it. -/
def fraction? (text : List Char) : Option (Fraction × List Char) :=
  let whole := text.takeWhile isDigit
  let behind := text.drop whole.length
  let (part, behind) :=
    match behind with
    | '.' :: rest => (rest.takeWhile isDigit, rest.dropWhile isDigit)
    | _ => ([], behind)
  if whole.isEmpty && part.isEmpty then none
  else
    let digits := valueOf (whole ++ part)
    let (exponent, behind) : Int × List Char :=
      match behind with
      | 'e' :: rest => (exponentAt? rest).getD (0, behind)
      | 'E' :: rest => (exponentAt? rest).getD (0, behind)
      | _ => (0, behind)
    some ((Fraction.ofNat digits).scale 10 (exponent - part.length), behind)

def hexValue (c : Char) : Nat :=
  if isDigit c then c.toNat - '0'.toNat else c.toLower.toNat - 'a'.toNat + 10

def hexadecimalValue (digits : List Char) : Nat :=
  digits.foldl (fun value c => 16 * value + hexValue c) 0

/-- The fraction at the front of a text of hexadecimal digits, behind which a power of two may stand,
and what follows it. -/
def hexadecimalFraction? (text : List Char) : Option (Fraction × List Char) :=
  let whole := text.takeWhile isHexDigit
  let behind := text.drop whole.length
  let (part, behind) :=
    match behind with
    | '.' :: rest => (rest.takeWhile isHexDigit, rest.dropWhile isHexDigit)
    | _ => ([], behind)
  if whole.isEmpty && part.isEmpty then none
  else
    let (exponent, behind) : Int × List Char :=
      match behind with
      | 'p' :: rest => (exponentAt? rest).getD (0, behind)
      | 'P' :: rest => (exponentAt? rest).getD (0, behind)
      | _ => (0, behind)
    let unit := exponent - 4 * part.length
    some ((Fraction.ofNat (hexadecimalValue (whole ++ part))).scale 2 unit, behind)

def withZeros (length : Nat) (digits : List Char) : List Char :=
  List.replicate (length - digits.length) '0' ++ digits

namespace Fraction

def fixed (fraction : Fraction) (places : Nat) (point : Bool) : List Char :=
  let digits := withZeros (places + 1) (decimal (fraction.scale 10 places).round)
  let whole := digits.take (digits.length - places)
  let part := digits.drop (digits.length - places)
  whole ++ (if part.isEmpty && !point then [] else '.' :: part)

/-- The first digits of a fraction, so many and one more, and the exponent of ten of the first. -/
def leading (fraction : Fraction) (places : Nat) : List Char × Int :=
  if fraction.numerator = 0 then (List.replicate (places + 1) '0', 0)
  else
    let exponent := fraction.magnitude 10
    let digits := decimal (fraction.scale 10 (places - exponent)).round
    if places + 1 < digits.length then (digits.take (places + 1), exponent + 1)
    else (digits, exponent)

/-- An exponent with its sign, in two digits at least. -/
def exponentText (exponent : Int) : List Char :=
  (if exponent < 0 then '-' else '+') :: withZeros 2 (decimal exponent.natAbs)

/-- A fraction with one digit in front of the point, so many behind it, and an exponent. -/
def scientific (fraction : Fraction) (places : Nat) (point : Bool) : List Char :=
  let (digits, exponent) := fraction.leading places
  let part := digits.drop 1
  digits.take 1 ++ (if part.isEmpty && !point then [] else '.' :: part) ++
    'e' :: exponentText exponent

def withoutZeros (text : List Char) : List Char :=
  if text.contains '.' then
    let kept := (text.reverse.dropWhile (· == '0'))
    (match kept with
    | '.' :: rest => rest
    | kept => kept).reverse
  else text

/-- A fraction with so many digits that count, in the shorter of the two ways. -/
def general (fraction : Fraction) (digits : Nat) (keepZeros : Bool) : List Char :=
  let digits := max digits 1
  let (_, exponent) := fraction.leading (digits - 1)
  let trim (text : List Char) : List Char := if keepZeros then text else withoutZeros text
  if exponent < -4 || digits ≤ exponent then
    let text := fraction.scientific (digits - 1) keepZeros
    trim (text.takeWhile (· != 'e')) ++ text.dropWhile (· != 'e')
  else trim (fraction.fixed (digits - 1 - exponent).toNat keepZeros)

/-- A fraction in hexadecimal digits and a power of two.  The first digit has so many bits, and the
power is not below a least one; so many digits follow, or as many as it takes. -/
def hexadecimal (fraction : Fraction) (bits : Nat) (least : Int) (places : Option Nat)
    (point : Bool) : List Char :=
  let exponent : Int :=
    if fraction.numerator = 0 then 0 else max least (fraction.magnitude 2 - (bits - 1 : Nat))
  let count := places.getD (if bits = 1 then 13 else 15)
  let scaled := ((fraction.scale 2 (-exponent)).scale 16 count).round
  let isFull := bits ≠ 1 && Nat.pow 16 (count + 1) ≤ scaled
  let (scaled, exponent) : Nat × Int :=
    if isFull then (scaled / 16, exponent + 4) else (scaled, exponent)
  let digits := withZeros (count + 1) (Nat.toDigits 16 scaled)
  let part := digits.drop 1
  let part := if places.isSome then part else (part.reverse.dropWhile (· == '0')).reverse
  let sign := if exponent < 0 then '-' else '+'
  ['0', 'x'] ++ digits.take 1 ++ (if part.isEmpty && !point then [] else '.' :: part) ++
    'p' :: sign :: decimal exponent.natAbs

end Fraction
end Text
end BaseLanguage

namespace BaseLanguage
namespace Text

/-!
## Numbers in bits

A machine keeps a number as a sign, an exponent and binary places.  Written with the fewest digits
that lead back to it, a number is told apart from all others that the machine can keep.
-/

/-- The sizes of the parts of a number in bits. -/
structure BinaryForm where
  /-- The number of places behind the first one. -/
  places : Nat
  /-- The number of bits of the exponent. -/
  exponent : Nat
  deriving Repr, DecidableEq

namespace BinaryForm

def long : BinaryForm := ⟨52, 11⟩

def short : BinaryForm := ⟨23, 8⟩

variable (form : BinaryForm)

/-- The number by which exponents are raised. -/
def raise : Nat := Nat.pow 2 (form.exponent - 1) - 1

/-- The exponent of the last place of the smallest numbers. -/
def leastUnit : Int := 1 - (form.raise : Int) - form.places

def read (bits : Nat) : Real :=
  let negative := bits / Nat.pow 2 (form.places + form.exponent) % 2 = 1
  let exponent := bits / Nat.pow 2 form.places % Nat.pow 2 form.exponent
  let places := bits % Nat.pow 2 form.places
  if exponent = Nat.pow 2 form.exponent - 1 then
    if places = 0 then .infinite negative else .undefined
  else
    let (size, unit) : Nat × Int :=
      if exponent = 0 then (places, form.leastUnit)
      else (places + Nat.pow 2 form.places, form.leastUnit + exponent - 1)
    .finite negative ((Fraction.ofNat size).scale 2 unit)

/-- The nearest number that can be kept, whatever its size. -/
def nearest (fraction : Fraction) : Fraction :=
  if fraction.numerator = 0 then fraction
  else
    let unit := max form.leastUnit (fraction.magnitude 2 - form.places)
    (Fraction.ofNat (fraction.scale 2 (-unit)).round).scale 2 unit

end BinaryForm

namespace Fraction

def isSame (left right : Fraction) : Bool :=
  left.numerator * right.denominator == right.numerator * left.denominator

def distance (left right : Fraction) : Fraction :=
  let first := left.numerator * right.denominator
  let second := right.numerator * left.denominator
  ratio (max first second - min first second) (left.denominator * right.denominator)

/-- The number of so many digits that is nearest to a fraction among those that lead back to it: its
digits, and the exponent of ten of the last one. -/
def digitsBack? (form : BinaryForm) (fraction : Fraction) (count : Nat) : Option (Nat × Int) :=
  let unit := fraction.magnitude 10 - count + 1
  let scaled := fraction.scale 10 (-unit)
  let low := scaled.numerator / scaled.denominator
  let leadsBack (digits : Nat) : Bool :=
    (form.nearest ((ofNat digits).scale 10 unit)).isSame fraction
  let nearer : Nat × Nat :=
    if ((ofNat (low + 1)).distance scaled).less ((ofNat low).distance scaled) then (low + 1, low)
    else (low, low + 1)
  if leadsBack nearer.1 then some (nearer.1, unit)
  else if leadsBack nearer.2 then some (nearer.2, unit)
  else none

/-- The fewest digits that lead back to a fraction, and the exponent of ten of the first one. -/
def shortest (form : BinaryForm) (fraction : Fraction) : List Char × Int :=
  if fraction.numerator = 0 then (['0'], 0)
  else
    let most := 17
    let found := (List.range most).findSome? (fun index => fraction.digitsBack? form (index + 1))
    let (digits, unit) := found.getD (0, 0)
    let written := decimal digits
    let exponent := unit + written.length - 1
    let kept := (written.reverse.dropWhile (· == '0')).reverse
    (if kept.isEmpty then ['0'] else kept, exponent)

/-- Digits with a point in their places, the first one of which has an exponent of ten. -/
def positional (digits : List Char) (exponent : Int) : List Char :=
  if exponent < 0 then '0' :: '.' :: List.replicate (exponent.natAbs - 1) '0' ++ digits
  else
    let whole := exponent.toNat + 1
    let front := digits.take whole ++ List.replicate (whole - digits.length) '0'
    match digits.drop whole with
    | [] => front
    | part => front ++ '.' :: part

def exponential (digits : List Char) (exponent : Int) : List Char :=
  let part := digits.drop 1
  digits.take 1 ++ (if part.isEmpty then [] else '.' :: part) ++ 'e' :: exponentText exponent

/-- A fraction with the fewest digits that lead back to it, with an exponent outside a range. -/
def shortestText (form : BinaryForm) (least most : Int) (fraction : Fraction) : List Char :=
  let (digits, exponent) := fraction.shortest form
  if exponent < least || most < exponent then exponential digits exponent
  else positional digits exponent

end Fraction
end Text
end BaseLanguage
