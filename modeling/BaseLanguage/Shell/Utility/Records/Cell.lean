import BaseLanguage.Shell.Utility.Output
import Std.Data.HashMap

namespace BaseLanguage.Shell.Records

open Text

/-!
# Cells

A cell holds a number or a text.  Either stands for the other where that is asked for: a text is the
number at its front, and a number is written by a form.  A text that was read counts as a number
where it looks like one.
-/

inductive Cell where
  | unset
  | number (value : Float)
  | text (octets : String)
  | read (octets : String)

/-! ## Numbers in texts -/

def numberOf (digits : Nat) (exponent : Int) : Float :=
  if digits = 0 then 0
  else if exponent < 0 then Float.ofScientific digits true exponent.natAbs
  else Float.ofScientific digits false exponent.toNat

def decimalAt? (text : Chars) : Option (Float × Chars) :=
  let whole := text.takeWhile isDigit
  let behind := text.drop whole.length
  let (part, behind) := match behind with
    | '.' :: rest => (rest.takeWhile isDigit, rest.dropWhile isDigit)
    | _ => ([], behind)
  if whole.isEmpty && part.isEmpty then none
  else
    let (exponent, behind) : Int × Chars := match behind with
      | 'e' :: rest => (exponentAt? rest).getD (0, behind)
      | 'E' :: rest => (exponentAt? rest).getD (0, behind)
      | _ => (0, behind)
    some (numberOf (valueOf (whole ++ part)) (exponent - part.length), behind)

def floatOf (fraction : Fraction) : Float :=
  let size := fraction.toBinary 53
  if size.numerator = 0 then 0
  else
    let unit := size.magnitude 2 - 52
    (Float.ofNat (size.scale 2 (-unit)).round).scaleB unit

def unsignedAt? (text : Chars) : Option (Float × Chars) :=
  let lower := (text.take 8).map Char.toLower
  let infinity : Float := 1.0 / 0.0
  if "infinity".toList.isPrefixOf lower then some (infinity, text.drop 8)
  else if "inf".toList.isPrefixOf lower then some (infinity, text.drop 3)
  else if "nan".toList.isPrefixOf lower then some (0.0 / 0.0, text.drop 3)
  else if "0x".toList.isPrefixOf lower then
    match hexadecimalFraction? (text.drop 2) with
    | some (fraction, rest) => some (floatOf fraction, rest)
    | none => decimalAt? text
  else decimalAt? text

def numberAt? (text : Chars) : Option (Float × Chars) := match text with
  | '-' :: rest => (unsignedAt? rest).map (fun found => (-found.1, found.2))
  | '+' :: rest => unsignedAt? rest
  | _ => unsignedAt? text

def numberIn (octets : String) : Float :=
  ((numberAt? (octets.toList.dropWhile isSpace)).map Prod.fst).getD 0

def numberLike? (octets : String) : Option Float :=
  let text := octets.toList.dropWhile isSpace
  match text.head? with
  | none => none
  | some c =>
    if isDigit c || c = '-' || c = '+' || c = '.' then
      match numberAt? text with
      | some (value, rest) => if rest.all isSpace then some value else none
      | none => none
    else none

/-! ## Whole numbers -/

def wholeOf (value : Float) : Int := if value.isNaN then longLeast else value.toInt64.toInt

def whole? (value : Float) : Option Int :=
  if value.isNaN || value.isInf || value.floor != value then none
  else match BinaryForm.long.read value.toBits.toNat with
    | .finite negative size =>
      let amount : Int := size.numerator / size.denominator
      let signed := if negative then -amount else amount
      if signed < longLeast then none
      else if signed < wordBound then some signed
      else if signed = wordBound then some (signed - 1)
      else none
    | _ => none

/-! ## Numbers by a form -/

def realOfFloat (value : Float) : Text.Real := BinaryForm.long.read value.toBits.toNat

def floatAt (flags : Chars) (width : Nat) (precision : Option Nat) (letter : Char)
    (value : Float) : Chars :=
  match realOfFloat value with
  | .undefined =>
    let letters := if letter.isUpper then ['N', 'A', 'N'] else ['n', 'a', 'n']
    fillTo flags width (signText flags true ++ letters)
  | real => realAt .plainShell flags width precision letter real

def wholeAt (flags : Chars) (width : Nat) (precision : Option Nat) (letter : Char)
    (value : Float) : Chars :=
  let whole : Int :=
    if letter = 'd' || letter = 'i' then wholeOf value
    else if value < 0 then wholeOf value
    else value.toUInt64.toNat
  integerAt flags width precision letter whole

def pointLetters : Chars := ['e', 'E', 'f', 'F', 'g', 'G', 'a', 'A']

def wholeLetters : Chars := ['d', 'i', 'o', 'x', 'X', 'u']

def formed (form : String) (value : Float) : Chars :=
  let text := form.toList
  let front := text.takeWhile (· != '%')
  match text.drop front.length with
  | [] => front
  | _ :: behind => match placeAt .plainShell behind with
    | (.place directive, rest) =>
      let width := match directive.width with
        | .number width => width
        | .argument => 0
      let precision := match directive.precision with
        | some (.number precision) => some precision
        | _ => none
      let letter := directive.letter
      let said :=
        if pointLetters.contains letter then floatAt directive.flags width precision letter value
        else if wholeLetters.contains letter then
          wholeAt directive.flags width precision letter value
        else []
      front ++ said ++ rest
    | _ => text

def usualForm : String := "%.6g"

def numberTextBy (form : String) (value : Float) : String := match whole? value with
  | some whole => .ofList (signedDecimal whole)
  | none => .ofList (formed form value)

/-! ## Views -/

namespace Cell

def value : Cell -> Float
  | .unset => 0
  | .number value => value
  | .text octets => numberIn octets
  | .read octets => numberIn octets

def textBy (form : String) : Cell -> String
  | .unset => ""
  | .number value => numberTextBy form value
  | .text octets => octets
  | .read octets => octets

def settled : Cell -> Cell
  | .read octets => match numberLike? octets with
    | some value => .number value
    | none => .text octets
  | cell => cell

def holds (cell : Cell) : Bool := match cell.settled with
  | .unset => false
  | .number value => value != 0
  | .text octets => !octets.isEmpty
  | .read octets => !octets.isEmpty

def order (form : String) (left right : Cell) : Option Ordering :=
  let texts (left right : String) : Option Ordering :=
    some (if left < right then .lt else if left = right then .eq else .gt)
  let numbers (left right : Float) : Option Ordering :=
    if left < right then some .lt
    else if left == right then some .eq
    else if right < left then some .gt
    else none
  match left.settled, right.settled with
  | .text first, second => texts first (second.textBy form)
  | first, .text second => texts (first.textBy form) second
  | first, second => numbers first.value second.value

end Cell

def truth (holds : Bool) : Cell := .number (if holds then 1 else 0)

/-!
## Cells in a form

A form is a text with places, each of which a cell fills.  What stands in front of a place that
cannot be filled is said before that is complained of.
-/

inductive FormFault where
  | missing
  | improper (number : Nat)

def FormFault.message (name form : String) : FormFault -> String
  | .missing => s!"not enough arguments passed to {name}(\"{form}\")"
  | .improper number => s!"improper conversion(number {numberText number}) in {name}(\"{form}\")"

def characterOf (cell : Cell) : Chars := match cell.settled with
  | .number value => [Char.ofNat (wholeOf value % 256).toNat]
  | .unset => [Char.ofNat 0]
  | .text octets => [(octets.toList.head?).getD (Char.ofNat 0)]
  | .read octets => [(octets.toList.head?).getD (Char.ofNat 0)]

def fillPlace (usual : String) (flags : Chars) (width : Nat) (precision : Option Nat)
    (letter : Char) (cell : Cell) : Option Chars :=
  if letter = 'c' then some (fillTo flags width (characterOf cell))
  else if letter = 's' then
    let octets := (cell.textBy usual).toList
    some (fillTo flags width (octets.take (precision.getD octets.length)))
  else if wholeLetters.contains letter then some (wholeAt flags width precision letter cell.value)
  else if pointLetters.contains letter && !(['a', 'A', 'F'].contains letter) then
    some (floatAt flags width precision letter cell.value)
  else none

def sizeFrom (text : Chars) (cells : List Cell) : Option Int × Chars × List Cell :=
  match sizeAt text, cells with
  | (.number value, rest), cells => (some value, rest, cells)
  | (.argument, rest), cell :: cells => (some (wholeOf cell.value), rest, cells)
  | (.argument, rest), [] => (none, rest, [])

/-- What a form says with cells, in reverse, and what is wrong with it.  The number is that of the
places so far. -/
def formFrom (usual : String) :
    Nat -> Nat -> Chars -> List Cell -> Chars -> Chars × Option FormFault
  | 0, _, _, _, said => (said, none)
  | _, _, [], _, said => (said, none)
  | limit + 1, number, '%' :: '%' :: rest, cells, said =>
    formFrom usual limit number rest cells ('%' :: said)
  | limit + 1, number, '%' :: rest, cells, said =>
    let number := number + 1
    if cells.isEmpty then (said, some .missing)
    else
      let flags := rest.takeWhile isFlag
      let (width, behind, cells) := sizeFrom (rest.dropWhile isFlag) cells
      let (precision, behind, cells) : Option (Option Int) × Chars × List Cell :=
        match behind with
        | '.' :: behind =>
          let (precision, behind, cells) := sizeFrom behind cells
          (some precision, behind, cells)
        | _ => (none, behind, cells)
      let behind := behind.dropWhile (fun c => c = 'h' || c = 'l')
      match width, precision, behind, cells with
      | none, _, _, _ => (said, some .missing)
      | _, some none, _, _ => (said, some .missing)
      | _, _, _, [] => (said, some .missing)
      | _, _, [], _ => (said, some (.improper number))
      | some width, precision, letter :: behind, cell :: cells =>
        let flags := if width < 0 then '-' :: flags else flags
        let precision : Option Nat := match precision with
          | some (some value) => if value < 0 then none else some value.toNat
          | _ => none
        match fillPlace usual flags width.natAbs precision letter cell with
        | some octets => formFrom usual limit number behind cells (octets.reverse ++ said)
        | none => (said, some (.improper number))
  | limit + 1, number, c :: rest, cells, said => formFrom usual limit number rest cells (c :: said)

def inForm (usual form : String) (cells : List Cell) : String × Option FormFault :=
  let (said, fault) := formFrom usual (form.length + 1) 0 form.toList cells []
  (.ofList said.reverse, fault)

/-!
## Tables

A table holds cells by their keys, which are texts; a whole number is the key that its digits are.
The keys are told in an order of their own: in drawers by a number that is made of the text, and
inside a drawer the one first that was last looked for.  Keys that were only looked for as numbers
join the others once a key is looked for as a text.
-/

inductive Key where
  | whole (number : Int)
  | text (octets : String)

def Key.octets : Key -> String
  | .whole number => .ofList (signedDecimal number)
  | .text octets => octets

structure Entry where
  cell : Cell := .unset
  asText : Option Nat := none
  asWhole : Option (Int × Nat) := none

structure Table where
  entries : Std.HashMap String Entry := ∅
  turn : Nat := 0
  drawers : Nat := 64
  byText : Bool := false
  isRow : Bool := false

namespace Table

def mostInDrawer : Nat := 12

def number (octets : String) : UInt32 :=
  octets.foldl (fun (value : UInt32) c => (value ^^^ c.toNat.toUInt32) * 16777619) 2166136261

def size (table : Table) : Nat := table.entries.size

variable (table : Table)

def grow : Table :=
  if mostInDrawer * table.drawers < table.size then { table with drawers := 2 * table.drawers }
  else table

def wholeKeys : List String :=
  let found := table.entries.toList.filterMap fun (name, entry) =>
    entry.asWhole.map fun (whole, turn) => ((whole % (table.drawers : Int)).toNat, turn, name)
  let before (left right : Nat × Nat × String) : Bool :=
    left.1 < right.1 || (left.1 == right.1 && right.2.1 < left.2.1)
  (found.mergeSort before).map (·.2.2)

def withTexts : Table :=
  if table.byText then { table with isRow := false }
  else
    let join (table : Table) (name : String) : Table :=
      let entry := table.entries.getD name {}
      if entry.asText.isSome then table
      else
        let turn := table.turn + 1
        { table with
          turn
          entries := table.entries.insert name { entry with asText := some turn } }
    table.wholeKeys.foldl join { table with byText := true, isRow := false }

def touchText (octets : String) : Table :=
  let table := table.withTexts
  let turn := table.turn + 1
  let entry := table.entries.getD octets {}
  { table with
    turn
    entries := table.entries.insert octets { entry with asText := some turn } }.grow

def touchWhole (whole : Int) (octets : String) : Table :=
  let known := (table.entries.getD octets {}).asWhole.isSome
  let table := if table.byText && !known then table.touchText octets else table
  let turn := table.turn + 1
  let entry := table.entries.getD octets {}
  { table with
    turn
    entries := table.entries.insert octets { entry with asWhole := some (whole, turn) } }.grow

def has (key : Key) : Bool := table.entries.contains key.octets

def touch (key : Key) : Table := match key with
  | .text octets => table.touchText octets
  | .whole whole =>
    let octets := key.octets
    if table.isRow && table.entries.contains octets then table
    else { table with isRow := false }.touchWhole whole octets

def look (key : Key) : Table :=
  if table.has key then table.touch key
  else match key with
    | .text _ => table.withTexts
    | .whole _ => if table.byText then table.withTexts else table

def get (key : Key) : Cell := (table.entries.getD key.octets {}).cell

def put (key : Key) (cell : Cell) : Table :=
  let octets := key.octets
  let entry := table.entries.getD octets {}
  { table with entries := table.entries.insert octets { entry with cell } }

def erase (table : Table) (key : Key) : Table :=
  let table := table.look key
  let entries := table.entries.erase key.octets
  if entries.isEmpty then {} else { table with entries, isRow := false }

def keys : List String × Table :=
  let table := table.withTexts
  let found := table.entries.toList.map fun (name, entry) =>
    ((number name).toNat % table.drawers, entry.asText.getD 0, name)
  let before (left right : Nat × Nat × String) : Bool :=
    left.1 < right.1 || (left.1 == right.1 && right.2.1 < left.2.1)
  ((found.mergeSort before).map (·.2.2), table)

def ofRow (cells : List Cell) : Table :=
  let add (table : Table) (place : Nat × Cell) : Table :=
    let key : Key := .whole (place.1 + 1)
    (table.touchWhole (place.1 + 1) key.octets).put key place.2
  { cells.zipIdx.foldl (fun table (cell, index) => add table (index, cell)) {} with isRow := true }

end Table
end BaseLanguage.Shell.Records
