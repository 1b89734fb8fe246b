import BaseLanguage.Shell.Utility.Objects.Memory

namespace BaseLanguage.Shell.Objects

open Text

/-!
# How values are written

Numbers are written with the fewest digits that lead back to them, or as a form says; texts are
quoted so that what cannot be seen is spelled by its number.
-/

/-! ## Characters -/

def isPrintable (c : Char) : Bool :=
  let code := c.toNat
  if code < 0x7f then 0x20 <= code
  else
    !(code < 0xa1 || code = 0xad || (isWideSpace c) || (0x200b <= code && code <= 0x200f) ||
      (0x202a <= code && code <= 0x202e) || (0x2060 <= code && code <= 0x206f) || code = 0xfeff ||
      (0xe000 <= code && code < 0xf900) || (0xfff0 <= code && code <= 0xfffb) ||
      (0xfdd0 <= code && code <= 0xfdef) || 0xe0000 <= code || code = 0xffff || code = 0xfffe ||
      [0x378, 0x379, 0x380, 0x381, 0x382, 0x383, 0x38b, 0x38d, 0x3a2].contains code)

def hexDigits (places value : Nat) : String := .ofList (withZeros places (Nat.toDigits 16 value))

def quotedChar (quote : Char) (isPlain : Bool) : Char -> String
  | '\n' => "\\n"
  | '\r' => "\\r"
  | '\t' => "\\t"
  | '\\' => "\\\\"
  | c =>
    let code := numberOfChar c
    if c = quote then .ofList ['\\', c]
    else if isPrintable c && (code < 0x80 || !isPlain) then .singleton c
    else if code < 0x100 then "\\x" ++ hexDigits 2 code
    else if code < 0x10000 then "\\u" ++ hexDigits 4 code
    else "\\U" ++ hexDigits 8 code

def quoteFor (chars : Chars) : Char :=
  if chars.contains '\'' && !chars.contains '"' then '"' else '\''

def quotedText (text : String) (isPlain : Bool) : String :=
  let chars := text.toList
  let quote := quoteFor chars
  let inside := .join (chars.map (quotedChar quote isPlain))
  .singleton quote ++ inside ++ .singleton quote

def quotedBytes (bytes : ByteArray) : String :=
  let chars := octetsOf bytes
  let quote := quoteFor chars
  let inside := .join (chars.map (quotedChar quote true))
  "b" ++ .singleton quote ++ inside ++ .singleton quote

/-! ## Numbers -/

def realText (value : Float) : String := match Records.realOfFloat value with
  | .undefined => "nan"
  | .infinite negative => if negative then "-inf" else "inf"
  | .finite negative size =>
    let digits := size.shortestText .long (-4) 15
    let digits :=
      if digits.contains '.' || digits.contains 'e' then digits else digits ++ ['.', '0']
    .ofList (if negative then '-' :: digits else digits)

def wholeText (value : Int) : String := .ofList (signedDecimal value)

def mostDigits : Nat := 4300

def isTooLong (value : Int) : Bool :=
  15000 <= value.natAbs.log2 || (14000 <= value.natAbs.log2 && Nat.pow 10 mostDigits <= value.natAbs)

def realOf (negative : Bool) (numerator denominator : Nat) : Float :=
  let value := Records.floatOf (.ratio numerator denominator)
  if negative then -value else value

def realOfWhole? (value : Int) : Option Float :=
  if 1024 <= value.natAbs.log2 then none
  else
    let found := realOf (value < 0) value.natAbs 1
    if found.isInf then none else some found

def wholeOfReal? (value : Float) : Option Int := match Records.realOfFloat value with
  | .finite negative size =>
    let amount : Int := size.numerator / size.denominator
    some (if negative then -amount else amount)
  | _ => none

def isWholeReal (value : Float) : Bool := !value.isNaN && !value.isInf && value.floor == value

/-! ## Forms -/

structure ValueForm where
  fill : Char := ' '
  align : Option Char := none
  sign : Char := '-'
  isAlternate : Bool := false
  width : Nat := 0
  grouping : Option Char := none
  precision : Option Nat := none
  letter : Option Char := none

def ValueForm.read (text : Chars) : Except String ValueForm := do
  let aligns := ['<', '>', '=', '^']
  let (form, rest) : ValueForm × Chars := match text with
    | fill :: align :: rest =>
      if aligns.contains align then ({ fill, align := some align }, rest)
      else if aligns.contains fill then ({ align := some fill }, align :: rest)
      else ({}, text)
    | [align] => if aligns.contains align then ({ align := some align }, []) else ({}, text)
    | [] => ({}, [])
  let (form, rest) : ValueForm × Chars := match rest with
    | '+' :: rest => ({ form with sign := '+' }, rest)
    | '-' :: rest => ({ form with sign := '-' }, rest)
    | ' ' :: rest => ({ form with sign := ' ' }, rest)
    | rest => (form, rest)
  let rest := match rest with
    | 'z' :: rest => rest
    | rest => rest
  let (form, rest) : ValueForm × Chars := match rest with
    | '#' :: rest => ({ form with isAlternate := true }, rest)
    | rest => (form, rest)
  let (form, rest) : ValueForm × Chars := match rest with
    | '0' :: rest =>
      if form.align.isNone then ({ form with fill := '0', align := some '=' }, rest)
      else (form, '0' :: rest)
    | rest => (form, rest)
  let digits := rest.takeWhile isDigit
  let form := { form with width := valueOf digits }
  let rest := rest.drop digits.length
  let (form, rest) <- match rest with
    | ',' :: '_' :: _ => throw "Cannot specify both ',' and '_'."
    | '_' :: ',' :: _ => throw "Cannot specify both ',' and '_'."
    | ',' :: ',' :: _ => throw "Cannot specify ',' with ','."
    | '_' :: '_' :: _ => throw "Cannot specify '_' with '_'."
    | ',' :: rest => pure ({ form with grouping := some ',' }, rest)
    | '_' :: rest => pure ({ form with grouping := some '_' }, rest)
    | rest => pure (form, rest)
  let (form, rest) <- match rest with
    | '.' :: rest =>
      let digits := rest.takeWhile isDigit
      if digits.isEmpty then throw "Format specifier missing precision"
      pure ({ form with precision := some (valueOf digits) }, rest.drop digits.length)
    | rest => pure (form, rest)
  match rest with
  | [] => return form
  | [letter] => return { form with letter := some letter }
  | _ => throw "Invalid format specifier"

variable (form : ValueForm)

def ValueForm.fillText (usual : Char) (text : Chars) : String :=
  let missing := form.width - text.length
  let fill (count : Nat) : Chars := List.replicate count form.fill
  .ofList (match form.align.getD usual with
    | '<' => text ++ fill missing
    | '^' => fill (missing / 2) ++ text ++ fill (missing - missing / 2)
    | _ => fill missing ++ text)

def grouped (separator : Char) (size : Nat) (digits : Chars) : Chars :=
  let indexed := digits.reverse.zipIdx
  (indexed.flatMap fun (c, index) =>
    if index ≠ 0 && index % size = 0 then [separator, c] else [c]).reverse

def ValueForm.fillNumber (negative : Bool) (mark digits behind : Chars) : String :=
  let sign := if negative then ['-'] else if form.sign = '-' then [] else [form.sign]
  let size := match form.letter with
    | some letter => if ['b', 'o', 'x', 'X'].contains letter then 4 else 3
    | none => 3
  let isInner := form.align = some '='
  let digits := match form.grouping with
    | none => digits
    | some separator =>
      if isInner && form.fill = '0' then
        let room := form.width - sign.length - mark.length - behind.length
        let enough := (List.range (room + 1)).find? fun count =>
          let total := max count digits.length
          room <= total + (total - 1) / size
        grouped separator size (withZeros (enough.getD 0) digits)
      else grouped separator size digits
  let front := sign ++ mark
  if isInner then
    let missing := form.width - front.length - digits.length - behind.length
    .ofList (front ++ List.replicate missing form.fill ++ digits ++ behind)
  else form.fillText '>' (front ++ digits ++ behind)

def shownLetter (letter : Char) : String :=
  if 32 < letter.toNat && letter.toNat < 128 then .singleton letter
  else "\\x" ++ .ofList (Nat.toDigits 16 letter.toNat)

def unknownLetter (letter : Char) (type : String) : String :=
  s!"Unknown format code '{shownLetter letter}' for object of type '{type}'"

def ValueForm.text (form : ValueForm) (text : String) : Except String String := do
  match form.letter with
  | some letter => if letter ≠ 's' then throw (unknownLetter letter "str")
  | none => pure ()
  if form.sign ≠ '-' then
    throw (if form.sign = ' ' then "Space not allowed in string format specifier"
      else "Sign not allowed in string format specifier")
  if form.isAlternate then throw "Alternate form (#) not allowed in string format specifier"
  match form.grouping with
  | some separator => throw s!"Cannot specify '{separator}' with 's'."
  | none => pure ()
  let isZero := form.align = some '=' && form.fill = '0'
  if form.align = some '=' && !isZero then
    throw "'=' alignment not allowed in string format specifier"
  let form := if isZero then { form with align := some '<' } else form
  let chars := text.toList
  let chars := match form.precision with
    | some count => chars.take count
    | none => chars
  return form.fillText '<' chars

def splitDigits (text : Chars) : Chars × Chars := (text.takeWhile isDigit, text.dropWhile isDigit)

def ValueForm.real (value : Float) : Except String String := do
  let letter := form.letter
  let known := ['e', 'E', 'f', 'F', 'g', 'G', 'n', '%']
  match letter with
  | some letter => if !known.contains letter then throw (unknownLetter letter "float")
  | none => pure ()
  if letter = some 'n' && form.grouping.isSome then
    let mark := form.grouping.getD ','
    throw s!"Cannot specify '{mark}' with 'n'."
  let capital := letter = some 'E' || letter = some 'F' || letter = some 'G'
  let cased (text : Chars) : Chars := if capital then text.map Char.toUpper else text
  let percent := letter = some '%'
  let behind := if percent then ['%'] else []
  match Records.realOfFloat (if percent then value * 100 else value) with
  | .undefined =>
    return { form with grouping := none }.fillNumber false [] (cased ['n', 'a', 'n']) behind
  | .infinite negative =>
    return { form with grouping := none }.fillNumber negative [] (cased ['i', 'n', 'f']) behind
  | .finite negative size =>
    let places := form.precision.getD 6
    let digits : Chars := match letter with
      | none => match form.precision with
        | none =>
          let digits := size.shortestText .long (-4) 15
          if digits.contains '.' || digits.contains 'e' then digits else digits ++ ['.', '0']
        | some precision =>
          let count := max precision 1
          let (_, exponent) := size.leading (count - 1)
          if exponent < -4 || (count : Int) - 1 <= exponent then
            let text := size.scientific (count - 1) false
            let front := text.takeWhile (· != 'e')
            Fraction.withoutZeros front ++ text.drop front.length
          else
            let text := Fraction.withoutZeros (size.fixed (count - 1 - exponent).toNat false)
            if text.contains '.' then text else text ++ ['.', '0']
      | some letter => match letter.toLower with
        | 'e' => size.scientific places form.isAlternate
        | 'g' => size.general places form.isAlternate
        | 'n' => size.general places form.isAlternate
        | _ => size.fixed places form.isAlternate
    let (front, rest) := splitDigits digits
    return form.fillNumber negative [] front (cased rest ++ behind)

def ValueForm.whole (value : Int) (type : String) : Except String String := do
  let letter := form.letter.getD 'd'
  if ['e', 'E', 'f', 'F', 'g', 'G', '%'].contains letter then
    match realOfWhole? value with
    | some value => form.real value
    | none => throw "int too large to convert to float"
  else
    if form.precision.isSome then throw "Precision not allowed in integer format specifier"
    let size := value.natAbs
    let make (base : Nat) (mark : Chars) (capital : Bool) : String :=
      let digits := Nat.toDigits base size
      let digits := if capital then digits.map Char.toUpper else digits
      form.fillNumber (value < 0) (if form.isAlternate then mark else []) digits []
    if form.grouping = some ',' && ['b', 'o', 'x', 'X', 'n', 'c'].contains letter then
      throw s!"Cannot specify ',' with '{letter}'."
    match letter with
    | 'd' => return form.fillNumber (value < 0) [] (decimal size) []
    | 'n' => return form.fillNumber (value < 0) [] (decimal size) []
    | 'b' => return make 2 ['0', 'b'] false
    | 'o' => return make 8 ['0', 'o'] false
    | 'x' => return make 16 ['0', 'x'] false
    | 'X' => return make 16 ['0', 'X'] true
    | 'c' =>
      if form.sign ≠ '-' then throw "Sign not allowed with integer format specifier 'c'"
      if value < 0 || 0x110000 <= value then throw "%c arg not in range(0x110000)"
      let align := form.align.getD '<'
      return { form with align := some align }.fillText '<' [charOfNumber size]
    | letter => throw (unknownLetter letter type)

/-! ## Places in a text -/

structure FormPlace where
  key : Option String := none
  flags : Chars := []
  width : Option (Option Nat) := none
  precision : Option (Option Nat) := none
  letter : Char
  index : Nat := 0

inductive FormPart where
  | plain (text : Chars)
  | place (place : FormPlace)
  | cut
  | cutKey

def placeSize : Chars -> Option (Option Nat) × Chars
  | '*' :: rest => (some none, rest)
  | text =>
    let digits := text.takeWhile isDigit
    if digits.isEmpty then (none, text) else (some (some (valueOf digits)), text.drop digits.length)

def keyEnd : Chars -> Nat -> Chars -> Option (Chars × Chars)
  | [], _, _ => none
  | c :: rest, depth, done =>
    if c = ')' then
      if depth = 0 then some (done.reverse, rest) else keyEnd rest (depth - 1) (c :: done)
    else if c = '(' then keyEnd rest (depth + 1) (c :: done)
    else keyEnd rest depth (c :: done)

def formParts : Nat -> Nat -> Chars -> List FormPart
  | 0, _, _ => []
  | _, _, [] => []
  | limit + 1, length, '%' :: rest =>
    let keyed : Option (Option String × Chars) := match rest with
      | '(' :: inside => (keyEnd inside 0 []).map fun (key, rest) => (some (.ofList key), rest)
      | rest => some (none, rest)
    match keyed with
    | none => [.cutKey]
    | some (key, rest) =>
      let flags := rest.takeWhile (['-', '+', ' ', '#', '0'].contains ·)
      let (width, rest) := placeSize (rest.drop flags.length)
      let (precision, rest) : Option (Option Nat) × Chars := match rest with
        | '.' :: rest =>
          let (size, rest) := placeSize rest
          (some (size.getD (some 0)), rest)
        | rest => (none, rest)
      let rest := match rest with
        | 'l' :: rest => rest
        | 'h' :: rest => rest
        | 'L' :: rest => rest
        | rest => rest
      match rest with
      | [] => [.cut]
      | letter :: rest =>
        .place { key, flags, width, precision, letter, index := length - rest.length - 1 } ::
          formParts limit length rest
  | limit + 1, length, text =>
    let plain := text.takeWhile (· != '%')
    .plain plain :: formParts limit length (text.drop plain.length)

end BaseLanguage.Shell.Objects
