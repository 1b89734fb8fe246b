import BaseLanguage.Shell.Utility.Objects.Attributes

namespace BaseLanguage.Shell.Objects

open Text

/-!
# Operations

Operators stand between values: a value is asked first what it makes of the other, then the other one
is asked.  Brackets behind a value mean an item of it, or a part.
-/

section

variable (engine : Engine)

/-! ## Numbers -/

def indexOf (value : Value) : Machine Int := do
  match value with
  | .whole value => return value
  | .truth holds => return if holds then 1 else 0
  | value => match <- heldBy value with
    | .whole value => return value
    | _ => match <- callSpecial? engine value "__index__" [] with
      | some (.whole value) => return value
      | _ => failType s!"'{← typeName value}' object cannot be interpreted as an integer"

def realQuotient (left right : Float) : Float × Float :=
  -- The remainder has the sign of what is divided by.
  let rest := remainder left right
  let rest := if rest != 0 && ((right < 0) != (rest < 0)) then rest + right else rest
  let quotient := (left - rest) / right
  let whole := quotient.floor
  let whole := if quotient - whole > 0.5 then whole + 1 else whole
  let rest := if rest == 0 then (if right < 0 then -0.0 else 0.0) else rest
  (whole, rest)
where
  remainder (left right : Float) : Float :=
    match Records.realOfFloat left, Records.realOfFloat right with
    | .finite negative size, .finite _ other =>
      let first := size.numerator * other.denominator
      let second := other.numerator * size.denominator
      realOf negative (first % second) (size.denominator * other.denominator)
    | .finite _ _, .infinite _ => left
    | _, _ => 0.0 / 0.0

def wholeQuotient? (left right : Int) : Option Float :=
  let value := realOf ((left < 0) != (right < 0)) left.natAbs right.natAbs
  if value.isInf then none else some value

def powerWithin (base : Int) : Nat -> Nat -> Int
  | 0, _ => 1
  | _, 0 => 1
  | limit + 1, exponent =>
    let half := powerWithin (base * base) limit (exponent / 2)
    if exponent % 2 = 1 then base * half else half

def powerRest (base rest : Int) : Nat -> Nat -> Int
  | 0, _ => Int.fmod 1 rest
  | _, 0 => Int.fmod 1 rest
  | limit + 1, exponent =>
    let half := powerRest (Int.fmod (base * base) rest) rest limit (exponent / 2)
    if exponent % 2 = 1 then Int.fmod (base * half) rest else half

def bitwise (operation : Bool -> Bool -> Bool) (left right : Int) : Int :=
  let size := max left.natAbs.log2 right.natAbs.log2 + 2
  let bound := Nat.pow 2 size
  let first := (left % (bound : Int)).toNat
  let second := (right % (bound : Int)).toNat
  let combined := if operation true true && !operation true false then first &&& second
    else if operation true true then first ||| second
    else first ^^^ second
  if Nat.pow 2 (size - 1) <= combined then (combined : Int) - bound else combined

def tooGreat : Machine α := fail "OverflowError" "int too large to convert to float"

variable (operator : Operator)

def wholeOperation (left right : Int) : Machine (Option Value) := do
  match operator with
  | .plus => return some (.whole (left + right))
  | .minus => return some (.whole (left - right))
  | .times => return some (.whole (left * right))
  | .wholly =>
    if right = 0 then fail "ZeroDivisionError" "integer division or modulo by zero"
    else return some (.whole (Int.fdiv left right))
  | .rest =>
    if right = 0 then fail "ZeroDivisionError" "integer modulo by zero"
    else return some (.whole (Int.fmod left right))
  | .divided =>
    if right = 0 then fail "ZeroDivisionError" "division by zero"
    else match wholeQuotient? left right with
      | some value => return some (.real value)
      | none => fail "OverflowError" "integer division result too large for a float"
  | .power =>
    if 0 <= right then
      if 10000000 < left.natAbs.log2 * right.toNat then fail "MemoryError" ""
      else return some (.whole (powerWithin left (right.toNat.log2 + 2) right.toNat))
    else if left = 0 then fail "ZeroDivisionError" "0.0 cannot be raised to a negative power"
    else match realOfWhole? left, realOfWhole? right with
      | some left, some right => return some (.real (Float.pow left right))
      | _, _ => tooGreat
  | .left =>
    if right < 0 then failValue "negative shift count"
    else if 100000000 < right then fail "MemoryError" ""
    else return some (.whole (left * Nat.pow 2 right.toNat))
  | .right =>
    if right < 0 then failValue "negative shift count"
    else if left.natAbs.log2 + 1 < right.toNat then
      return some (.whole (if left < 0 then -1 else 0))
    else return some (.whole (Int.fdiv left (Nat.pow 2 right.toNat)))
  | .both => return some (.whole (bitwise (fun a b => a && b) left right))
  | .either => return some (.whole (bitwise (fun a b => a || b) left right))
  | .other => return some (.whole (bitwise (fun a b => a != b) left right))
  | .matrixTimes => return none

def realOperation (left right : Float) : Machine (Option Value) := do
  match operator with
  | .plus => return some (.real (left + right))
  | .minus => return some (.real (left - right))
  | .times => return some (.real (left * right))
  | .divided =>
    if right == 0 then fail "ZeroDivisionError" "float division by zero"
    else return some (.real (left / right))
  | .wholly =>
    if right == 0 then fail "ZeroDivisionError" "float floor division by zero"
    else return some (.real (realQuotient left right).1)
  | .rest =>
    if right == 0 then fail "ZeroDivisionError" "float modulo"
    else return some (.real (realQuotient left right).2)
  | .power =>
    if left == 0 && right < 0 then
      fail "ZeroDivisionError" "0.0 cannot be raised to a negative power"
    else
      let found := Float.pow left right
      if found.isInf && !left.isInf && !right.isInf then
        let value <- newFault (nativeType "OverflowError")
          [.whole 34, .text "Numerical result out of range"]
        throw (.raised value)
      else return some (.real found)
  | _ => return none

def figureOperation (left right : Figure) : Machine (Option Value) := do
  match left, right with
  | .whole left, .whole right => wholeOperation operator left right
  | .real left, .real right => realOperation operator left right
  | .whole left, .real right => match realOfWhole? left with
    | some left => realOperation operator left right
    | none => tooGreat
  | .real left, .whole right => match realOfWhole? right with
    | some right => realOperation operator left right
    | none => tooGreat

/-! ## Texts with places -/

def placedWhole (place : FormPlace) (width : Nat) (precision : Option Nat) (value : Int) : String :=
  let base := match place.letter with
    | 'x' => 16
    | 'X' => 16
    | 'o' => 8
    | _ => 10
  let digits := Nat.toDigits base value.natAbs
  let digits := if place.letter = 'X' then digits.map Char.toUpper else digits
  let digits := withZeros (precision.getD 0) digits
  let mark := if place.flags.contains '#' then
      match place.letter with
      | 'x' => ['0', 'x']
      | 'X' => ['0', 'X']
      | 'o' => ['0', 'o']
      | _ => []
    else []
  let sign := signText place.flags (value < 0)
  .ofList (fillNumber place.flags width true (sign ++ mark) digits)

def placedText (place : FormPlace) (width : Nat) (precision : Option Nat) (value : Value) :
    Machine String := do
  let flags := place.flags
  let filled (text : String) : String :=
    let chars := match precision with
      | some count => text.toList.take count
      | none => text.toList
    .ofList (fillTo flags width chars)
  let letter := place.letter
  match letter with
  | 's' => return filled (<- strOf engine value)
  | 'r' => return filled (<- reprOf engine value)
  | 'a' => return filled (<- plainRepr engine value)
  | 'c' => match <- heldBy value with
    | .text text =>
      if text.length = 1 then return .ofList (fillTo flags width text.toList)
      else failType "%c requires int or char"
    | .whole number =>
      if number < 0 || 0x110000 <= number then fail "OverflowError" "%c arg not in range(0x110000)"
      return .ofList (fillTo flags width [charOfNumber number.toNat])
    | _ => failType "%c requires int or char"
  | '%' => return "%"
  | letter =>
    if ['d', 'i', 'u'].contains letter then
      match <- heldBy value with
      | .whole number => return placedWhole place width precision number
      | .truth holds => return placedWhole place width precision (if holds then 1 else 0)
      | .real number => match wholeOfReal? number with
        | some number => return placedWhole place width precision number
        | none =>
          if number.isNaN then failValue "cannot convert float NaN to integer"
          else fail "OverflowError" "cannot convert float infinity to integer"
      | _ => match <- callSpecial? engine value "__int__" [] with
        | some (.whole number) => return placedWhole place width precision number
        | _ => failType s!"%{letter} format: a real number is required, not {← typeName value}"
    else if ['x', 'X', 'o'].contains letter then
      match <- heldBy value with
      | .whole number => return placedWhole place width precision number
      | .truth holds => return placedWhole place width precision (if holds then 1 else 0)
      | _ => failType s!"%{letter} format: an integer is required, not {← typeName value}"
    else if ['e', 'E', 'f', 'F', 'g', 'G'].contains letter then
      let number <- match figure? (<- heldBy value) with
        | some (.real number) => pure number
        | some (.whole number) => match realOfWhole? number with
          | some number => pure number
          | none => tooGreat
        | none => match <- callSpecial? engine value "__float__" [] with
          | some (.real number) => pure number
          | _ => failType s!"must be real number, not {← typeName value}"
      match Records.realOfFloat number with
      | .undefined =>
        let letters := if letter.isUpper then ['N', 'A', 'N'] else ['n', 'a', 'n']
        return .ofList (fillTo flags width (signText flags false ++ letters))
      | real => return .ofList (realAt .plainShell flags width precision letter real)
    else
      let code := String.ofList (Nat.toDigits 16 letter.toNat)
      failValue
        s!"unsupported format character '{letter}' (0x{code}) at index {numberText place.index}"

def placeValues (text : String) (given : Value) : Machine String := do
  let isRow := match given with
    | .tuple _ => true
    | _ => false
  let table? <- match given with
    | .object _ => do
      match <- heldBy given with
      | .object address => match <- thingAt address with
        | .dict table => pure (some table)
        | _ => pure none
      | _ => pure none
    | _ => pure none
  let values := match given with
    | .tuple items => items
    | value => [value]
  let step (found : List String × List Value × Bool) (part : FormPart) :
      Machine (List String × List Value × Bool) := do
    let (done, left, usedKey) := found
    let next (left : List Value) : Machine (Value × List Value) := do
      match left with
      | value :: left => return (value, left)
      | [] => failType "not enough arguments for format string"
    match part with
    | .plain chars => return (.ofList chars :: done, left, usedKey)
    | .cut => failValue "incomplete format"
    | .cutKey => failValue "incomplete format key"
    | .place place =>
      if place.letter = '%' && place.key.isNone then return ("%" :: done, left, usedKey)
      else
        let (keyed, usedKey) <- match place.key with
          | some key => match table? with
            | some table => match table.named? key with
              | some value => pure (some value, true)
              | none => match <- callSpecial? engine given "__missing__" [.text key] with
                | some value => pure (some value, true)
                | none => throw (.raised (<- newFault (nativeType "KeyError") [.text key]))
            | none => match <- callSpecial? engine given "__getitem__" [.text key] with
              | some value => pure (some value, true)
              | none => failType "format requires a mapping"
          | none => pure (none, usedKey)
        let (width, flags, left) <- match place.width with
          | some none => do
            let (value, left) <- next left
            let size <- indexOf engine value
            pure (size.natAbs, if size < 0 then '-' :: place.flags else place.flags, left)
          | some (some size) => pure (size, place.flags, left)
          | none => pure (0, place.flags, left)
        let (precision, left) <- match place.precision with
          | some none => do
            let (value, left) <- next left
            pure (some (<- indexOf engine value).toNat, left)
          | some (some size) => pure (some size, left)
          | none => pure (none, left)
        let (value, left) <- match keyed with
          | some value => pure (value, left)
          | none => next left
        let shown <- placedText engine { place with flags } width precision value
        return (shown :: done, left, usedKey)
  let chars := text.toList
  let parts := formParts (chars.length + 1) chars.length chars
  let (done, left, usedKey) <- parts.foldlM step ([], values, false)
  let isIgnored := table?.isSome || usedKey || (!isRow && (<- special? given "__getitem__").isSome)
  if !left.isEmpty && !isIgnored then
    failType "not all arguments converted during string formatting"
  return .join done.reverse

/-! ## Operators -/

def unsupported (sign : String) (left right : Value) : Machine α := do
  failType
    (s!"unsupported operand type(s) for {sign}: " ++
      s!"'{← typeName left}' and '{← typeName right}'")

def times (items : List Value) (count : Int) : List Value :=
  (List.replicate count.toNat items).flatten

def setOf? (value : Value) : Machine (Option (Table × Bool)) := do
  match <- heldBy value with
  | .object address => match <- thingAt address with
    | .set table isFixed => return some (table, isFixed)
    | .view "dict_keys" table => return some (<- tableAt table, false)
    | .view "dict_items" table =>
      let entries <- (<- tableAt table).values.mapM fun entry => do
        let pair := .tuple [entry.1, entry.2]
        return (<- keyOf engine pair, (pair, .nothing))
      return some (.ofList entries, false)
    | _ => return none
  | _ => return none

def keptKeys (table : Table) (keeps : Key -> Bool) : Table :=
  .ofList (table.toList.filter (keeps ·.1))

def setOperation (left right : Table) : Option Table := match operator with
  | .both => some (keptKeys left right.contains)
  | .either => some (right.toList.foldl (fun table entry =>
    if table.contains entry.1 then table else table.insert entry.1 entry.2) left)
  | .minus => some (keptKeys left (!right.contains ·))
  | .other =>
    some (right.toList.foldl (fun table entry =>
      if left.contains entry.1 then table else table.insert entry.1 entry.2)
        (keptKeys left (!right.contains ·)))
  | _ => none

def plainOperation (left right : Value) : Machine (Option Value) := do
  let first <- heldBy left
  let second <- heldBy right
  let count? : Option Int := match figure? second with
    | some (.whole count) => some count
    | _ => none
  let repeated (count : Int) (value : Value) : Machine (Option Value) := do
    match value with
    | .text text => return some (.text (.join (List.replicate count.toNat text)))
    | .octets bytes =>
      return some (.octets ((List.range count.toNat).foldl (fun all _ => all ++ bytes) .empty))
    | .tuple items => return some (.tuple (times items count))
    | .object address => match <- thingAt address with
      | .list items => return some (<- newList (times items.toList count))
      | .octets bytes =>
        return some (<- newObject (.octets
          ((List.range count.toNat).foldl (fun all _ => all ++ bytes) .empty)))
      | _ => return none
    | _ => return none
  match operator, first, second with
  | .plus, .text first, .text second => return some (.text (first ++ second))
  | .plus, .octets first, .octets second => return some (.octets (first ++ second))
  | .plus, .tuple first, .tuple second => return some (.tuple (first ++ second))
  | .plus, .text _, _ =>
    if (<- special? right "__radd__").isSome then return none
    else failType s!"can only concatenate str (not \"{← typeName right}\") to str"
  | .plus, .octets _, .text _ => failType "can't concat str to bytes"
  | .plus, .octets _, .whole _ => failType "can't concat int to bytes"
  | .plus, .tuple _, _ =>
    if (<- special? right "__radd__").isSome then return none
    else failType s!"can only concatenate tuple (not \"{← typeName right}\") to tuple"
  | .rest, .text text, _ => return some (.text (<- placeValues engine text right))
  | .rest, .octets bytes, _ =>
    let text := .ofList (octetsOf bytes)
    let given <- match right with
      | .tuple items => do pure (.tuple (<- items.mapM asOctets))
      | value => asOctets value
    return some (.octets (bytesOf (<- placeValues engine text given).toList))
  | .times, first, second => match count? with
    | some count => match <- repeated count first with
      | some found => return some found
      | none => return none
    | none => match figure? first with
      | some (.whole count) => repeated count second
      | _ =>
        let isRow <- match first with
          | .text _ => pure true
          | .octets _ => pure true
          | .tuple _ => pure true
          | .object address => do
            match <- thingAt address with
            | .list _ => pure true
            | _ => pure false
          | _ => pure false
        if isRow && (<- special? right "__rmul__").isNone then
          failType s!"can't multiply sequence by non-int of type '{← typeName right}'"
        else
          let isOther := match second with
            | .text _ => true
            | .tuple _ => true
            | _ => false
          if isOther && (figure? first).isSome then
            failType s!"can't multiply sequence by non-int of type '{← typeName left}'"
          else return none
  | operator, .object a, second => match <- thingAt a, operator with
    | .list items, .plus => match second with
      | .object b => match <- thingAt b with
        | .list more => return some (<- newObject (.list (items ++ more)))
        | _ => refuseList
      | _ => refuseList
    | .dict table, .either => match second with
      | .object b => match <- thingAt b with
        | .dict more =>
          return some (<- newObject (.dict (more.toList.foldl
            (fun table entry => table.insert entry.1 entry.2) table)))
        | _ => return none
      | _ => return none
    | .octets bytes, .plus => match second with
      | .octets more => return some (<- newObject (.octets (bytes ++ more)))
      | .object b => match <- thingAt b with
        | .octets more => return some (<- newObject (.octets (bytes ++ more)))
        | _ => return none
      | _ => return none
    | .type _, .either => return some (.tuple [left, right])
    | _, _ => match <- setOf? engine left, <- setOf? engine right with
      | some (first, isFixed), some (second, _) => match setOperation operator first second with
        | some table => return some (<- newObject (.set table isFixed))
        | none => return none
      | _, _ => return none
  | .either, .tuple _, .object b => match <- thingAt b with
    | .type _ => return some (.tuple [left, right])
    | _ => return none
  | _, _, _ => return none
where
  asOctets (value : Value) : Machine Value := do
    match value with
    | .octets bytes => return .text (.ofList (octetsOf bytes))
    | value => return value
  refuseList : Machine (Option Value) := do
    if (<- special? right "__radd__").isSome then return none
    else failType s!"can only concatenate list (not \"{← typeName right}\") to list"

def operate (sign : String) (left right : Value) : Machine Value := do
  match left, right with
  | .whole first, .whole second => match <- wholeOperation operator first second with
    | some found => return found
    | none => unsupported sign left right
  | left, right =>
    let name := operator.name
    let isNewer <- do
      let first <- typeOf left
      let second <- typeOf right
      if first ≠ second && (<- isSubtype second first) then
        pure (<- special? right s!"__r{name}__").isSome
      else pure false
    let askRight : Machine (Option Value) := do
      match <- callSpecial? engine right s!"__r{name}__" [left] with
      | some .notImplemented => return none
      | found => return found
    let early <- if isNewer then askRight else pure none
    match early with
    | some found => return found
    | none => match <- callSpecial? engine left s!"__{name}__" [right] with
      | some .notImplemented => finish askRight isNewer
      | some found => return found
      | none => finish askRight isNewer
where
  finish (askRight : Machine (Option Value)) (isAsked : Bool) : Machine Value := do
    match <- if isAsked then pure none else askRight with
    | some found => return found
    | none => match figure? (<- heldBy left), figure? (<- heldBy right) with
      | some first, some second => match left, right, operator with
        | .truth first, .truth second, .both => return .truth (first && second)
        | .truth first, .truth second, .either => return .truth (first || second)
        | .truth first, .truth second, .other => return .truth (first != second)
        | _, _, _ => match <- figureOperation operator first second with
          | some found => return found
          | none => unsupported sign left right
      | _, _ => match <- plainOperation engine operator left right with
        | some found => return found
        | none => unsupported sign left right

def binary (left right : Value) : Machine Value := operate engine operator operator.sign left right

def changedBy (left right : Value) : Machine Value := do
  let sign := (if operator = .power then "**" else operator.sign) ++ "="
  match <- callSpecial? engine left s!"__i{operator.name}__" [right] with
  | some .notImplemented => operate engine operator sign left right
  | some found => return found
  | none => match left with
    | .object address => match <- thingAt address, operator with
      | .list _, .plus =>
        let more <- itemsOf engine right
        changeThing address fun
          | .list items => .list (items ++ more.toArray)
          | thing => thing
        return left
      | .list items, .times => match figure? right with
        | some (.whole count) =>
          setThing address (.list (times items.toList count).toArray)
          return left
        | _ => operate engine operator sign left right
      | .octets bytes, .plus => match right with
        | .octets more =>
          setThing address (.octets (bytes ++ more))
          return left
        | _ => operate engine operator sign left right
      | .set table false, operator => match <- setOf? engine right with
        | some (other, _) => match setOperation operator table other with
          | some table =>
            setThing address (.set table false)
            return left
          | none => operate engine operator sign left right
        | none => operate engine operator sign left right
      | .dict table, .either => match <- heldBy right with
        | .object other => match <- thingAt other with
          | .dict more =>
            setThing address (.dict (more.toList.foldl
              (fun table entry => table.insert entry.1 entry.2) table))
            return left
          | _ => operate engine operator sign left right
        | _ => operate engine operator sign left right
      | _, _ => operate engine operator sign left right
    | _ => operate engine operator sign left right

def signed (sign : Sign) (value : Value) : Machine Value := do
  match sign with
  | .opposite => return .truth (!(<- isTrue engine value))
  | sign =>
    let name := match sign with
      | .plus => "__pos__"
      | .minus => "__neg__"
      | _ => "__invert__"
    match <- callSpecial? engine value name [] with
    | some found => return found
    | none =>
      let shown := match sign with
        | .plus => "+"
        | .minus => "-"
        | _ => "~"
      match figure? (<- heldBy value), sign with
      | some (.whole number), .plus => return .whole number
      | some (.whole number), .minus => return .whole (-number)
      | some (.whole number), .turned => return .whole (-number - 1)
      | some (.real number), .plus => return .real number
      | some (.real number), .minus => return .real (-number)
      | _, _ => failType s!"bad operand type for unary {shown}: '{← typeName value}'"

/-! ## Comparisons -/

def holdsText (part : Chars) : Chars -> Bool
  | [] => part.isEmpty
  | c :: rest => part.isPrefixOf (c :: rest) || holdsText part rest

def contains (whole part : Value) : Machine Bool := do
  match <- callSpecial? engine whole "__contains__" [part] with
  | some found => isTrue engine found
  | none => match <- heldBy whole with
    | .text text => match <- heldBy part with
      | .text part => return holdsText part.toList text.toList
      | _ => failType s!"'in <string>' requires string as left operand, not {← typeName part}"
    | .octets bytes => inBytes bytes
    | .tuple items => items.anyM (isOneOrSame engine part)
    | .range first last step => match figure? part with
      | some (.whole value) =>
        return if 0 < step then first <= value && value < last && (value - first) % step == 0
          else value <= first && last < value && (first - value) % (-step) == 0
      | _ => return false
    | .object address => match <- thingAt address with
      | .list items => items.toList.anyM (isOneOrSame engine part)
      | .dict table => return table.contains (<- keyOf engine part)
      | .set table _ => match part with
        | .object inner => match <- thingAt inner with
          | .set other false =>
            return table.contains (.collection (other.keys.mergeSort
              (fun left right => (hash left).toNat <= (hash right).toNat)))
          | _ => return table.contains (<- keyOf engine part)
        | part => return table.contains (<- keyOf engine part)
      | .octets bytes => inBytes bytes
      | .view "dict_keys" table => return (<- tableAt table).contains (<- keyOf engine part)
      | .view kind table => (viewItems kind (<- tableAt table)).anyM (isOneOrSame engine part)
      | _ => slowly
    | _ => slowly
where
  inBytes (bytes : ByteArray) : Machine Bool := do
    match part with
    | .octets part => return holdsText (octetsOf part) (octetsOf bytes)
    | .whole value =>
      if value < 0 || 255 < value then failValue "byte must be in range(0, 256)"
      else return bytes.toList.contains (UInt8.ofNat value.toNat)
    | _ => failType s!"a bytes-like object is required, not '{← typeName part}'"
  slowly : Machine Bool := do
    let iterable <- orNothing "TypeError" (iteratorOf engine whole)
    let some source := iterable | failType s!"argument of type '{← typeName whole}' is not iterable"
    return (<- nextThat (nextOf engine source) (isOneOrSame engine part) mostSteps).isSome

def related (relation : Relation) (left right : Value) : Machine Value := do
  match relation with
  | .isOne => return .truth (isOne left right)
  | .isNotOne => return .truth (!isOne left right)
  | .within => return .truth (<- contains engine right left)
  | .outside => return .truth (!(<- contains engine right left))
  | .same => rich (pure ·)
  | .different => match <- callSpecial? engine left "__ne__" [right] with
    | some .notImplemented => return .truth (!(<- isSame engine left right))
    | some found => return found
    | none => return .truth (!(<- isSame engine left right))
  | relation =>
    let (name, _) := relationNames relation
    match <- callSpecial? engine left name [right] with
    | some .notImplemented => return .truth (<- orderedWithin engine relation deepestValue left right)
    | some found => return found
    | none => return .truth (<- orderedWithin engine relation deepestValue left right)
where
  rich (keep : Value -> Machine Value) : Machine Value := do
    let some _ <- special? left "__eq__" | return .truth (<- isSame engine left right)
    match <- callSpecial? engine left "__eq__" [right] with
    | some .notImplemented => return .truth (<- isSame engine right left)
    | some found => keep found
    | none => return .truth (<- isSame engine left right)

/-! ## Items -/

/-- The places that a part of a row means: the first one, how many, and the step between them. -/
def partOf (first last step : Value) (size : Nat) : Machine (Int × Nat × Int) := do
  let bound (value : Value) : Machine (Option Int) := do
    match value with
    | .nothing => return none
    | value => match <- orNothing "TypeError" (indexOf engine value) with
      | some number => return some number
      | none => failType "slice indices must be integers or None or have an __index__ method"
  let step := (<- bound step).getD 1
  if step = 0 then failValue "slice step cannot be zero"
  let length : Int := size
  let clip (low high value : Int) : Int :=
    let value := if value < 0 then value + length else value
    max low (min high value)
  let first <- bound first
  let last <- bound last
  let (start, ending) : Int × Int :=
    if 0 < step then ((first.map (clip 0 length)).getD 0, (last.map (clip 0 length)).getD length)
    else
      ((first.map (clip (-1) (length - 1))).getD (length - 1),
        (last.map (clip (-1) (length - 1))).getD (-1))
  return (start, rangeSize start ending step, step)

def pickFrom (items : Array α) (start : Int) (count : Nat) (step : Int) : List α :=
  (List.range count).filterMap (fun (index : Nat) => items[(start + index * step).toNat]?)

def placeIn (what : String) (size : Nat) (index : Value) : Machine Nat := do
  let number <- match <- orNothing "TypeError" (indexOf engine index) with
    | some number => pure number
    | none =>
      let kind := if what = "string" || what = "byte" then what else s!"{what}"
      let shown := if what = "string" then "string indices must be integers, not "
        else s!"{kind} indices must be integers or slices, not "
      failType s!"{shown}'{← typeName index}'"
  let number := if number < 0 then number + size else number
  if number < 0 || (size : Int) <= number then fail "IndexError" s!"{what} index out of range"
  else return number.toNat

def entryOf (whole : Value) (table : Table) (index : Value) : Machine Value := do
  match table.get? (<- keyOf engine index) with
  | some (_, found) => return found
  | none => match <- callSpecial? engine whole "__missing__" [index] with
    | some found => return found
    | none => throw (.raised (<- newFault (nativeType "KeyError") [index]))

def listPlace (size : Nat) (index : Value) (what : String) : Machine Nat := do
  let number <- match <- orNothing "TypeError" (indexOf engine index) with
    | some number => pure number
    | none => failType s!"list indices must be integers or slices, not {← typeName index}"
  let number := if number < 0 then number + size else number
  if number < 0 || (size : Int) <= number then fail "IndexError" s!"list {what}index out of range"
  else return number.toNat

def itemOf (whole index : Value) : Machine Value := do
  match <- callSpecial? engine whole "__getitem__" [index] with
  | some found => return found
  | none => match <- heldBy whole, index with
    | .text text, .slice first last step =>
      let chars := text.toList.toArray
      let (start, count, step) <- partOf engine first last step chars.size
      return .text (.ofList (pickFrom chars start count step))
    | .text text, index =>
      let place <- match index with
        | .whole number =>
          if 0 <= number then pure number.toNat else placeIn engine "string" text.length index
        | index => placeIn engine "string" text.length index
      match (text.toList)[place]? with
      | some c => return .text (.singleton c)
      | none => fail "IndexError" "string index out of range"
    | .octets bytes, .slice first last step =>
      let (start, count, step) <- partOf engine first last step bytes.size
      return .octets ⟨(pickFrom bytes.data start count step).toArray⟩
    | .octets bytes, index =>
      return .whole (bytes.get! (<- placeIn engine "index" bytes.size index)).toNat
    | .tuple items, .slice first last step =>
      let (start, count, step) <- partOf engine first last step items.length
      return .tuple (pickFrom items.toArray start count step)
    | .tuple items, index =>
      let number <- match <- orNothing "TypeError" (indexOf engine index) with
        | some number => pure number
        | none => failType s!"tuple indices must be integers or slices, not {← typeName index}"
      let number := if number < 0 then number + items.length else number
      if number < 0 then fail "IndexError" "tuple index out of range"
      match items[number.toNat]? with
      | some found => return found
      | none => fail "IndexError" "tuple index out of range"
    | .range first last step, .slice a b c =>
      let (start, count, inner) <- partOf engine a b c (rangeSize first last step)
      return .range (first + start * step) (first + (start + count * inner) * step) (inner * step)
    | .range first last step, index =>
      let place <- placeIn engine "range object" (rangeSize first last step) index
      return .whole (first + place * step)
    | .object address, index => match <- thingAt address, index with
      | .list items, .slice first last step =>
        let (start, count, step) <- partOf engine first last step items.size
        newList (pickFrom items start count step)
      | .list items, index => match index with
        | .whole number =>
          let found := if 0 <= number then items[number.toNat]?
            else if -(items.size : Int) <= number then items[(number + items.size).toNat]?
            else none
          match found with
          | some found => return found
          | none => fail "IndexError" "list index out of range"
        | index => return items.getD (<- listPlace engine items.size index "") .nothing
      | .dict table, index => entryOf engine whole table index
      | .octets bytes, .slice first last step =>
        let (start, count, step) <- partOf engine first last step bytes.size
        newObject (.octets ⟨(pickFrom bytes.data start count step).toArray⟩)
      | .octets bytes, index =>
        return .whole (bytes.get! (<- placeIn engine "bytearray" bytes.size index)).toNat
      | .type facts, index => match <- ownSaying? facts.line "__class_getitem__" with
        | some (.object inner) => match <- thingAt inner with
          | .ofType function => engine.call function [whole, index] []
          | _ => engine.call (.object inner) [whole, index] []
        | _ =>
          if ["list", "dict", "tuple", "set", "frozenset", "type"].contains facts.name &&
              facts.isNative then return whole
          else failType s!"type '{facts.name}' is not subscriptable"
      | .found _ _ _ _ _, index => engine.call (.bound whole "Match" "group") [index] []
      | _, _ => refuse
    | _, _ => refuse
where
  refuse : Machine Value := do
    match whole with
    | .builtIn _ => failType "'builtin_function_or_method' object is not subscriptable"
    | _ => failType s!"'{← typeName whole}' object is not subscriptable"

def setPart (items : Array Value) (start : Int) (count : Nat) (step : Int) (new : List Value) :
    Machine (Array Value) := do
  if step = 1 then
    let from' := start.toNat
    let to' := max from' (from' + count)
    return (items.extract 0 from') ++ new.toArray ++ items.extract to' items.size
  else if new.length ≠ count then
    failValue
      (s!"attempt to assign sequence of size {numberText new.length} to extended slice of size " ++
        numberText count)
  else
    return new.zipIdx.foldl (fun items (value, index) =>
      items.set! (start + index * step).toNat value) items

def setItem (whole index new : Value) : Machine Unit := do
  match <- callSpecial? engine whole "__setitem__" [index, new] with
  | some _ => return ()
  | none => match <- heldBy whole with
    | .object address => match <- thingAt address, index with
      | .list items, .slice first last step =>
        let new <- match <- orNothing "TypeError" (itemsOf engine new) with
          | some new => pure new
          | none => failType "can only assign an iterable"
        let (start, count, step) <- partOf engine first last step items.size
        setThing address (.list (<- setPart items start count step new))
      | .list items, index =>
        let place <- listPlace engine items.size index "assignment "
        changeThing address fun
          | .list items => .list (items.set! place new)
          | thing => thing
      | .dict _, index =>
        let key <- keyOf engine index
        changeThing address fun
          | .dict table => match table.get? key with
            | some (old, _) => .dict (table.insert key (old, new))
            | none => .dict (table.insert key (index, new))
          | thing => thing
      | .octets bytes, .slice first last step =>
        let (start, count, step) <- partOf engine first last step bytes.size
        let more := (<- itemsOf engine new).map fun
          | .whole value => value
          | _ => 0
        let items := (itemsOfBytes bytes).toArray
        let made := (<- setPart items start count step (more.map .whole)).toList.map fun
          | .whole value => UInt8.ofNat value.toNat
          | _ => 0
        setThing address (.octets ⟨made.toArray⟩)
      | .octets bytes, index =>
        let place <- placeIn engine "bytearray" bytes.size index
        let value <- indexOf engine new
        if value < 0 || 255 < value then failValue "byte must be in range(0, 256)"
        setThing address (.octets (bytes.set! place (UInt8.ofNat value.toNat)))
      | _, _ => refuse
    | _ => refuse
where
  refuse : Machine Unit := do
    failType s!"'{← typeName whole}' object does not support item assignment"

def deleteItem (whole index : Value) : Machine Unit := do
  match <- callSpecial? engine whole "__delitem__" [index] with
  | some _ => return ()
  | none => match <- heldBy whole with
    | .object address => match <- thingAt address, index with
      | .list items, .slice first last step =>
        let (start, count, step) <- partOf engine first last step items.size
        let gone := (List.range count).map (fun (index : Nat) => (start + index * step).toNat)
        let kept := items.toList.zipIdx.filterMap fun (value, place) =>
          if gone.contains place then none else some value
        setThing address (.list kept.toArray)
      | .list items, index =>
        let place <- listPlace engine items.size index "assignment "
        setThing address (.list (items.extract 0 place ++ items.extract (place + 1) items.size))
      | .dict table, index =>
        let key <- keyOf engine index
        if table.contains key then setThing address (.dict (table.erase key))
        else throw (.raised (<- newFault (nativeType "KeyError") [index]))
      | .octets bytes, index =>
        let place <- placeIn engine "bytearray" bytes.size index
        setThing address (.octets (bytes.extract 0 place ++ bytes.extract (place + 1) bytes.size))
      | _, _ => refuse
    | _ => refuse
where
  refuse : Machine Unit := do failType s!"'{← typeName whole}' object doesn't support item deletion"

end

end BaseLanguage.Shell.Objects
