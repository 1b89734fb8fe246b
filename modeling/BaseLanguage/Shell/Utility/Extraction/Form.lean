import BaseLanguage.Shell.Utility.Extraction.State

namespace BaseLanguage.Shell.Extraction

open Text

/-!
# Values in a form

A form is a text with places that values fill, in their order or as a number in the place says.
Values that are missing count as nothing.
-/

structure Forming where
  values : Array Value
  next : Nat := 0
  said : Chars := []

def Forming.take (forming : Forming) : Option Nat -> Value × Forming
  | some number => (forming.values.getD (number - 1) .undefined, forming)
  | none => (forming.values.getD forming.next .undefined, { forming with next := forming.next + 1 })

def binaryAt (flags : Chars) (width : Nat) (precision : Option Nat) (value : Int) : Chars :=
  let size := (value % (wordBound : Int)).toNat
  let digits := withZeros (precision.getD 0) (Nat.toDigits 2 size)
  let mark := if flags.contains '#' && size ≠ 0 then ['0', 'b'] else []
  fillNumber flags width precision.isNone mark digits

def pointAt (flags : Chars) (width : Nat) (precision : Option Nat) (letter : Char)
    (value : Float) : Chars :=
  if value.isNaN then fillTo flags width ['N', 'a', 'N']
  else if value.isInf then fillTo flags width (signText flags (value < 0) ++ ['I', 'n', 'f'])
  else Records.floatAt flags width precision letter value

def versionText (text : String) : String := ".".intercalate (text.toList.map (numberText ·.toNat))

def fillOne (flags : Chars) (width : Nat) (precision : Option Nat) (isVersion : Bool)
    (letter : Char) (value : Value) : Machine (Option Chars) := do
  if isVersion && letter = 'd' then
    return some (fillTo flags width (versionText (<- textOf value)).toList)
  else match letter with
    | 's' =>
      let text := (<- textOf value).toList
      let text := match precision with
        | some most => text.take most
        | none => text
      return some (fillNumber flags width true [] text)
    | 'c' => return some (fillTo flags width [Char.ofNat value.int.toNat])
    | 'b' => return some (binaryAt flags width precision value.int)
    | 'B' => return some (binaryAt flags width precision value.int)
    | letter =>
      if ['d', 'i', 'u', 'o', 'x', 'X'].contains letter then
        match value.number with
        | .real size =>
          if size.isNaN || size.isInf then return some (pointAt flags width none 'g' size)
          else return some (integerAt flags width precision letter value.int)
        | .whole size => return some (integerAt flags width precision letter size)
      else if Records.pointLetters.contains letter then
        return some (pointAt flags width precision letter value.float)
      else return none

def sizeOf (text : Chars) (forming : Forming) : Option Int × Chars × Forming :=
  match text with
  | '*' :: rest =>
    let digits := rest.takeWhile isDigit
    match rest.drop digits.length with
    | '$' :: behind =>
      let (value, forming) := forming.take (some (valueOf digits))
      (some value.int, behind, forming)
    | _ =>
      let (value, forming) := forming.take none
      (some value.int, rest, forming)
  | text =>
    let digits := text.takeWhile isDigit
    (if digits.isEmpty then none else some (valueOf digits : Int), text.drop digits.length, forming)

def formInto : Nat -> Chars -> Forming -> Machine Forming
  | 0, _, forming => return forming
  | _, [], forming => return forming
  | limit + 1, '%' :: '%' :: rest, forming =>
    formInto limit rest { forming with said := '%' :: forming.said }
  | limit + 1, '%' :: rest, forming => do
    let number := rest.takeWhile isDigit
    let (number?, behind) : Option Nat × Chars := match rest.drop number.length with
      | '$' :: behind => if number.isEmpty then (none, rest) else (some (valueOf number), behind)
      | _ => (none, rest)
    let flags := behind.takeWhile isFlag
    let behind := behind.drop flags.length
    let (isVersion, behind) := match behind with
      | 'v' :: behind => (true, behind)
      | behind => (false, behind)
    let (width, behind, forming) := sizeOf behind forming
    let (precision, behind, forming) : Option Int × Chars × Forming := match behind with
      | '.' :: behind =>
        let (size, behind, forming) := sizeOf behind forming
        (some (size.getD 0), behind, forming)
      | behind => (none, behind, forming)
    let behind := behind.dropWhile (['h', 'l', 'q', 'L', 'V'].contains ·)
    match behind with
    | [] => formInto limit rest { forming with said := '%' :: forming.said }
    | letter :: behind =>
      let (value, after) := forming.take number?
      let width := width.getD 0
      let flags := if width < 0 then '-' :: flags else flags
      let precision := precision.bind fun size => if size < 0 then none else some size.toNat
      match <- fillOne flags width.natAbs precision isVersion letter value with
      | some octets => formInto limit behind { after with said := octets.reverse ++ after.said }
      | none => formInto limit rest { forming with said := '%' :: forming.said }
  | limit + 1, c :: rest, forming => formInto limit rest { forming with said := c :: forming.said }

def inForm (form : String) (values : List Value) : Machine String := do
  let forming <- formInto (form.length + 1) form.toList { values := values.toArray }
  return .ofList forming.said.reverse

/-!
## Values in octets

A template tells letter by letter how values become octets, and how octets become values: texts of a
length, digits, and numbers of some size whose octets stand in one order or the other.
-/

inductive PackCount where
  | once
  | times (count : Nat)
  | all
  deriving DecidableEq

structure PackItem where
  letter : Char
  count : PackCount
  isBig : Option Bool := none

def groupOf : Nat -> Chars -> Chars × Chars
  | _, [] => ([], [])
  | depth, c :: rest =>
    if c = ')' && depth = 0 then ([], rest)
    else
      let depth := if c = '(' then depth + 1 else if c = ')' then depth - 1 else depth
      let (inside, behind) := groupOf depth rest
      (c :: inside, behind)

/-- The letters of a template.  Letters in parentheses stand there as often as told; where they go on
to the end, they stand between parentheses. -/
def packItems : Nat -> Chars -> List PackItem
  | 0, _ => []
  | _, [] => []
  | limit + 1, letter :: rest =>
    if isSpace letter then packItems limit rest
    else if letter = '(' then
      let (inside, behind) := groupOf 0 rest
      let items := packItems limit inside
      match behind with
      | '*' :: behind =>
        ⟨'(', .all, none⟩ :: items ++ [⟨')', .once, none⟩] ++ packItems limit behind
      | behind =>
        let digits := behind.takeWhile isDigit
        let count := if digits.isEmpty then 1 else valueOf digits
        (List.replicate count items).flatten ++ packItems limit (behind.drop digits.length)
    else
      let (isBig, rest) : Option Bool × Chars := match rest with
        | '>' :: rest => (some true, rest)
        | '<' :: rest => (some false, rest)
        | '!' :: rest => (none, rest)
        | rest => (none, rest)
      match rest with
      | '*' :: rest => ⟨letter, .all, isBig⟩ :: packItems limit rest
      | rest =>
        let digits := rest.takeWhile isDigit
        if digits.isEmpty then ⟨letter, .once, isBig⟩ :: packItems limit rest
        else ⟨letter, .times (valueOf digits), isBig⟩ :: packItems limit (rest.drop digits.length)

def itemsInside : List PackItem -> List PackItem × List PackItem
  | [] => ([], [])
  | item :: rest =>
    if item.letter = ')' then ([], rest)
    else
      let (inside, behind) := itemsInside rest
      (item :: inside, behind)

def goneOn (isMore : Bool) (group : PackItem) (rest : List PackItem) : List PackItem :=
  let (inside, behind) := itemsInside rest
  if isMore then inside ++ group :: rest else behind

/-- The size of the numbers that a letter means, whether their first octet counts most, and whether
they have a sign. -/
def numberSize? (item : PackItem) : Option (Nat × Bool × Bool) :=
  let big := item.isBig.getD false
  match item.letter with
  | 'c' => some (1, big, true)
  | 'C' => some (1, big, false)
  | 's' => some (2, big, true)
  | 'S' => some (2, big, false)
  | 'l' => some (4, big, true)
  | 'L' => some (4, big, false)
  | 'i' => some (4, big, true)
  | 'I' => some (4, big, false)
  | 'q' => some (8, big, true)
  | 'Q' => some (8, big, false)
  | 'j' => some (8, big, true)
  | 'J' => some (8, big, false)
  | 'n' => some (2, true, false)
  | 'N' => some (4, true, false)
  | 'v' => some (2, false, false)
  | 'V' => some (4, false, false)
  | _ => none

def numberOctets (size : Nat) (isBig : Bool) (value : Int) : Chars :=
  let word := (value % (Nat.pow 256 size : Int)).toNat
  let octets := (List.range size).map fun place => Char.ofNat (word / Nat.pow 256 place % 256)
  if isBig then octets.reverse else octets

def numberOfOctets (isBig isSigned : Bool) (octets : Chars) : Int :=
  let octets := if isBig then octets else octets.reverse
  let word := octets.foldl (fun value c => 256 * value + c.toNat) 0
  if isSigned && Nat.pow 256 octets.length <= 2 * word then (word : Int) - Nat.pow 256 octets.length
  else word

def octetsOfHex (isHighFirst : Bool) : Chars -> Chars
  | first :: second :: rest =>
    let (high, low) := if isHighFirst then (first, second) else (second, first)
    Char.ofNat (16 * hexadecimalValue [high] + hexadecimalValue [low]) ::
      octetsOfHex isHighFirst rest
  | [first] => [Char.ofNat (16 * hexadecimalValue [first])]
  | [] => []

def hexOfOctets (isHighFirst : Bool) (octets : Chars) : Chars :=
  octets.flatMap fun c =>
    let digits := withZeros 2 (Nat.toDigits 16 c.toNat)
    if isHighFirst then digits else digits.reverse

def bitsOfOctets (isHighFirst : Bool) (octets : Chars) : Chars :=
  octets.flatMap fun c =>
    let digits := withZeros 8 (Nat.toDigits 2 c.toNat)
    if isHighFirst then digits else digits.reverse

def octetsOfBits (isHighFirst : Bool) : Nat -> Chars -> Chars
  | 0, _ => []
  | _, [] => []
  | limit + 1, bits =>
    let group := bits.take 8
    let group := group ++ List.replicate (8 - group.length) '0'
    let group := if isHighFirst then group else group.reverse
    let value := group.foldl (fun value c => 2 * value + (if c = '1' then 1 else 0)) 0
    Char.ofNat value :: octetsOfBits isHighFirst limit (bits.drop 8)

def longDigits : Nat -> Nat -> List Nat
  | 0, _ => []
  | limit + 1, value => if value < 128 then [value] else longDigits limit (value / 128) ++ [value % 128]

def packed : Nat -> List PackItem -> List Value -> Machine Chars
  | 0, _, _ => return []
  | _, [], _ => return []
  | limit + 1, item :: rest, values => do
    let first := values.headD .undefined
    match numberSize? item with
    | some (size, isBig, _) =>
      let count := match item.count with
        | .once => 1
        | .times count => count
        | .all => values.length
      let here := (List.range count).flatMap fun index =>
        numberOctets size isBig ((values.getD index .undefined).int)
      return here ++ (<- packed limit rest (values.drop count))
    | none =>
      let text := (<- textOf first).toList
      match item.letter with
      | '(' => packed limit (goneOn (!values.isEmpty) item rest) values
      | 'a' => return filled item text (Char.ofNat 0) ++ (<- packed limit rest (values.drop 1))
      | 'A' => return filled item text ' ' ++ (<- packed limit rest (values.drop 1))
      | 'Z' =>
        let text := if item.count = .all then text ++ [Char.ofNat 0] else text
        return filled item text (Char.ofNat 0) ++ (<- packed limit rest (values.drop 1))
      | 'H' => return octetsOfHex true (cut item text) ++ (<- packed limit rest (values.drop 1))
      | 'h' => return octetsOfHex false (cut item text) ++ (<- packed limit rest (values.drop 1))
      | 'B' =>
        return octetsOfBits true (text.length + 1) (cut item text) ++
          (<- packed limit rest (values.drop 1))
      | 'b' =>
        return octetsOfBits false (text.length + 1) (cut item text) ++
          (<- packed limit rest (values.drop 1))
      | 'x' =>
        let count := match item.count with
          | .times count => count
          | _ => 1
        return List.replicate count (Char.ofNat 0) ++ (<- packed limit rest values)
      | letter =>
        let count := match item.count with
          | .once => 1
          | .times count => count
          | .all => values.length
        let taken := (values.take count).map (·.int.toNat)
        let here := taken.flatMap fun value =>
          if letter = 'w' then
            let digits := longDigits 20 value
            digits.zipIdx.map fun (digit, index) =>
              Char.ofNat (if index + 1 < digits.length then digit + 128 else digit)
          else if letter = 'U' || letter = 'W' then [Char.ofNat value]
          else []
        return here ++ (<- packed limit rest (values.drop count))
where
  cut (item : PackItem) (text : Chars) : Chars := match item.count with
    | .once => text.take 1
    | .times count => text.take count
    | .all => text
  filled (item : PackItem) (text : Chars) (fill : Char) : Chars := match item.count with
    | .once => if text.isEmpty then [fill] else text.take 1
    | .times count => text.take count ++ List.replicate (count - text.length) fill
    | .all => text

def digitsFront (write : Chars -> Chars) (perOctet : Nat) (count : PackCount)
    (octets : Chars) : Value × Chars :=
  let all := write octets
  let size := match count with
    | .once => 1
    | .times count => count
    | .all => all.length
  (.text (.ofList (all.take size)), octets.drop ((size + perOctet - 1) / perOctet))

def unpacked : Nat -> List PackItem -> Chars -> List Value
  | 0, _, _ => []
  | _, [], _ => []
  | limit + 1, item :: rest, octets => match numberSize? item with
    | some (size, isBig, isSigned) =>
      let most := octets.length / size
      let count := match item.count with
        | .once => min 1 most
        | .times count => min count most
        | .all => most
      let values := (List.range count).map fun index =>
        .whole (numberOfOctets isBig isSigned ((octets.drop (index * size)).take size))
      values ++ unpacked limit rest (octets.drop (count * size))
    | none =>
      let size := match item.count with
        | .once => 1
        | .times count => count
        | .all => octets.length
      let told (chars : Chars) : Value := .text (.ofList chars)
      match item.letter with
      | '(' => unpacked limit (goneOn (!octets.isEmpty) item rest) octets
      | 'a' => told (octets.take size) :: unpacked limit rest (octets.drop size)
      | 'A' =>
        let text := (octets.take size).reverse.dropWhile fun c => isSpace c || c = Char.ofNat 0
        told text.reverse :: unpacked limit rest (octets.drop size)
      | 'Z' =>
        told ((octets.take size).takeWhile (· != Char.ofNat 0)) ::
          unpacked limit rest (octets.drop size)
      | 'H' =>
        let (value, behind) := digitsFront (hexOfOctets true) 2 item.count octets
        value :: unpacked limit rest behind
      | 'h' =>
        let (value, behind) := digitsFront (hexOfOctets false) 2 item.count octets
        value :: unpacked limit rest behind
      | 'B' =>
        let (value, behind) := digitsFront (bitsOfOctets true) 8 item.count octets
        value :: unpacked limit rest behind
      | 'b' =>
        let (value, behind) := digitsFront (bitsOfOctets false) 8 item.count octets
        value :: unpacked limit rest behind
      | 'x' => unpacked limit rest (octets.drop (if item.count = .once then 1 else size))
      | 'U' => (octets.take size).map (.whole ·.toNat) ++ unpacked limit rest (octets.drop size)
      | 'W' => (octets.take size).map (.whole ·.toNat) ++ unpacked limit rest (octets.drop size)
      | '%' => match rest with
        | next :: rest =>
          let values := unpacked limit [next] octets
          let sum := values.foldl (fun sum value => sum + value.int) 0
          [.whole (sum % (Nat.pow 2 size : Int))] ++ unpacked limit rest []
        | [] => []
      | _ => unpacked limit rest octets
end BaseLanguage.Shell.Extraction
