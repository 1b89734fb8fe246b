import BaseLanguage.Shell.Utility.Objects.Texts

namespace BaseLanguage.Shell.Objects

/-!
# Functions of collections

Lists, tables and sets change in their places; rows and ranges stay as they are.
-/

section

variable (engine : Engine)

/-! ## Sorting -/

def merged (less : α -> α -> Machine Bool) : Nat -> List α -> List α -> List α -> Machine (List α)
  | 0, left, right, done => return done.reverse ++ left ++ right
  | _, [], right, done => return done.reverse ++ right
  | _, left, [], done => return done.reverse ++ left
  | limit + 1, a :: left, b :: right, done => do
    if <- less b a then merged less limit (a :: left) right (b :: done)
    else merged less limit left (b :: right) (a :: done)

def sortedBy (less : α -> α -> Machine Bool) : Nat -> List α -> Machine (List α)
  | 0, items => return items
  | depth + 1, items => do
    match items with
    | [] => return []
    | [item] => return [item]
    | items =>
      let half := items.length / 2
      let left <- sortedBy less depth (items.take half)
      merged less (items.length + 1) left (<- sortedBy less depth (items.drop half)) []

def sortedByKeys (pairs : List (Value × Value)) (isReversed : Bool) : Machine (List Value) := do
  let pairs := if isReversed then pairs.reverse else pairs
  let texts := pairs.filterMap fun pair => match pair.1 with
    | .text text => some (text, pair.2)
    | _ => none
  let wholes := pairs.filterMap fun pair => match pair.1 with
    | .whole value => some (value, pair.2)
    | _ => none
  let sorted <-
    if texts.length = pairs.length then
      pure ((texts.mergeSort fun left right => orderOfTexts left.1 right.1 != .gt).map Prod.snd)
    else if wholes.length = pairs.length then
      pure ((wholes.mergeSort fun left right => left.1 <= right.1).map Prod.snd)
    else do
      let found <- sortedBy (fun (left right : Value × Value) => isLess engine left.1 right.1)
        64 pairs
      pure (found.map Prod.snd)
  return if isReversed then sorted.reverse else sorted

def sortedAs (items : List Value) (named : List (String × Value)) : Machine (List Value) := do
  match named.find? (fun entry => entry.1 ≠ "key" && entry.1 ≠ "reverse") with
  | some (name, _) => failType s!"'{name}' is an invalid keyword argument for sort()"
  | none => pure ()
  let isReversed <- match named.lookup "reverse" with
    | some value => isTrue engine value
    | none => pure false
  let pairs <- match named.lookup "key" with
    | none => pure (items.map fun item => (item, item))
    | some .nothing => pure (items.map fun item => (item, item))
    | some function => items.mapM fun item => do return (<- engine.call function [item] [], item)
  sortedByKeys engine pairs isReversed

/-! ## Rows -/

def findValue (items : List Value) (wanted : Value) (first last : Nat) : Machine (Option Nat) := do
  let rec go : List Value -> Nat -> Machine (Option Nat)
    | [], _ => return none
    | item :: rest, place => do
      if last <= place then return none
      else if <- isOneOrSame engine item wanted then return some place
      else go rest (place + 1)
  go (items.drop first) first

def indexIn (items : List Value) (what : String) (given : Arguments) : Machine Value := do
  let found <- given.take ["", "", ""] 1
  let wanted := (givenAt found 0).getD .nothing
  let (first, last) <- boundsOf engine items.length (givenAt found 1) (givenAt found 2)
  match <- findValue engine items wanted first last with
  | some place => return .whole (place : Nat)
  | none =>
    if what = "tuple" then failValue "tuple.index(x): x not in tuple"
    else failValue s!"{← reprOf engine wanted} is not in {what}"

def countIn (items : List Value) (given : Arguments) : Machine Value := do
  let wanted <- given.one
  let count <- items.foldlM (fun (count : Nat) item => do
    return if <- isOneOrSame engine item wanted then count + 1 else count) 0
  return .whole (count : Nat)

def listFunction (name : String) (address : Nat) (given : Arguments) : Machine Value := do
  let items <- match <- thingAt address with
    | .list items => pure items
    | _ => pure #[]
  let done : Machine Value := return .nothing
  match name with
  | "append" =>
    let value <- given.one
    changeThing address fun
      | .list items => .list (items.push value)
      | thing => thing
    done
  | "extend" =>
    let more <- itemsOf engine (<- given.one)
    changeThing address fun
      | .list items => .list (items ++ more.toArray)
      | thing => thing
    done
  | "insert" =>
    let found <- given.take ["", ""] 2
    let place <- indexOr engine 0 (givenAt found 0)
    let place := if place < 0 then place + items.size else place
    let place := min items.size (max 0 place).toNat
    setThing address (.list (items.extract 0 place ++ #[(givenAt found 1).getD .nothing] ++
      items.extract place items.size))
    done
  | "remove" =>
    let wanted <- given.one
    match <- findValue engine items.toList wanted 0 items.size with
    | some place =>
      setThing address (.list (items.extract 0 place ++ items.extract (place + 1) items.size))
      done
    | none => failValue "list.remove(x): x not in list"
  | "pop" =>
    let found <- given.take [""] 0
    if items.isEmpty then fail "IndexError" "pop from empty list"
    match givenAt found 0 with
    | none =>
      changeThing address fun
        | .list items => .list items.pop
        | thing => thing
      return items.back?.getD .nothing
    | some index =>
      let number <- indexOf engine index
      let number := if number < 0 then number + items.size else number
      if number < 0 || (items.size : Int) <= number then fail "IndexError" "pop index out of range"
      let place := number.toNat
      setThing address (.list (items.extract 0 place ++ items.extract (place + 1) items.size))
      return items.getD place .nothing
  | "clear" =>
    setThing address (.list #[])
    done
  | "index" =>
    let found <- given.take ["", "", ""] 1
    let wanted := (givenAt found 0).getD .nothing
    let (first, last) <- boundsOf engine items.size (givenAt found 1) (givenAt found 2)
    match <- findValue engine items.toList wanted first last with
    | some place => return .whole (place : Nat)
    | none => failValue s!"{← reprOf engine wanted} is not in list"
  | "count" => countIn engine items.toList given
  | "sort" =>
    if !given.placed.isEmpty then failType "sort() takes no positional arguments"
    setThing address (.list (<- sortedAs engine items.toList given.named).toArray)
    done
  | "reverse" =>
    setThing address (.list items.reverse)
    done
  | "copy" => newObject (.list items)
  | "__reversed__" => newObject (.iterator (.items items.reverse 0 "list_reverseiterator"))
  | name => fail "AttributeError" s!"'list' object has no attribute '{name}'"

/-! ## Tables -/

def entriesOf (value : Value) : Machine (List (Value × Value)) := do
  match <- heldBy value with
  | .object address => match <- thingAt address with
    | .dict table => return table.pairs
    | _ => pairsOf value
  | _ => pairsOf value
where
  pairsOf (value : Value) : Machine (List (Value × Value)) := do
    match <- special? value "keys" with
    | some function =>
      let keys <- itemsOf engine (<- engine.call function [value] [])
      keys.mapM fun key => do return (key, <- itemOf engine value key)
    | none =>
      (<- itemsOf engine value).zipIdx.mapM fun (item, index) => do
        let parts <- match <- orNothing "TypeError" (itemsOf engine item) with
          | some parts => pure parts
          | none =>
            failType
              (s!"cannot convert dictionary update sequence element #{numberText index} " ++
                "to a sequence")
        match parts with
        | [key, found] => return (key, found)
        | parts =>
          failValue
            (s!"dictionary update sequence element #{numberText index} has length " ++
              s!"{numberText parts.length}; 2 is required")

def putEntries (address : Nat) (entries : List (Value × Value)) : Machine Unit :=
  entries.forM fun (key, value) => do
    let found <- keyOf engine key
    changeThing address fun
      | .dict table => match table.get? found with
        | some (old, _) => .dict (table.insert found (old, value))
        | none => .dict (table.insert found (key, value))
      | thing => thing

def dictFunction (name : String) (self : Value) (address : Nat) (given : Arguments) :
    Machine Value := do
  let table <- tableAt address
  let done : Machine Value := return .nothing
  match name with
  | "get" =>
    let found <- given.take ["", ""] 1
    match table.get? (<- keyOf engine ((givenAt found 0).getD .nothing)) with
    | some (_, value) => return value
    | none => return (givenAt found 1).getD .nothing
  | "keys" => newObject (.view "dict_keys" address)
  | "values" => newObject (.view "dict_values" address)
  | "items" => newObject (.view "dict_items" address)
  | "pop" =>
    let found <- given.take ["", ""] 1
    let wanted := (givenAt found 0).getD .nothing
    let key <- keyOf engine wanted
    match table.get? key with
    | some (_, value) =>
      setThing address (.dict (table.erase key))
      return value
    | none => match givenAt found 1 with
      | some value => return value
      | none => throw (.raised (<- newFault (nativeType "KeyError") [wanted]))
  | "popitem" =>
    given.check
    match table.toList.getLast? with
    | some (key, first, value) =>
      setThing address (.dict (table.erase key))
      return .tuple [first, value]
    | none =>
      throw (.raised (<- newFault (nativeType "KeyError") [.text "popitem(): dictionary is empty"]))
  | "setdefault" =>
    let found <- given.take ["", ""] 1
    let wanted := (givenAt found 0).getD .nothing
    let key <- keyOf engine wanted
    match table.get? key with
    | some (_, value) => return value
    | none =>
      let value := (givenAt found 1).getD .nothing
      setThing address (.dict (table.insert key (wanted, value)))
      return value
  | "update" =>
    if 1 < given.placed.length then
      failType s!"update expected at most 1 argument, got {numberText given.placed.length}"
    given.placed.forM fun value => do putEntries engine address (<- entriesOf engine value)
    putEntries engine address (given.named.map fun (name, value) => (.text name, value))
    done
  | "clear" =>
    setThing address (.dict {})
    done
  | "copy" => newObject (.dict table)
  | "fromkeys" =>
    let found <- given.take ["", ""] 1
    let keys <- itemsOf engine ((givenAt found 0).getD .nothing)
    let value := (givenAt found 1).getD .nothing
    let made <- match self with
      | .object type =>
        if type = nativeType "dict" then newObject (.dict {}) else engine.call self [] []
      | _ => newObject (.dict {})
    keys.forM (setItem engine made · value)
    return made
  | "__reversed__" =>
    newObject (.iterator (.items (table.values.map Prod.fst).reverse.toArray 0 "dict_keyiterator"))
  | name => fail "AttributeError" s!"'dict' object has no attribute '{name}'"

/-! ## Sets -/

def setOfValues (items : List Value) : Machine Table :=
  items.foldlM (fun (table : Table) item => do
    let key <- keyOf engine item
    return if table.contains key then table else table.insert key (item, .nothing)) {}

def setGiven (value : Value) : Machine Table := do
  match <- setOf? engine value with
  | some (table, _) => return table
  | none => setOfValues engine (<- itemsOf engine value)

def setFunction (name : String) (address : Nat) (isFixed : Bool) (given : Arguments) :
    Machine Value := do
  let table <- tableAt address
  let done : Machine Value := return .nothing
  let put (table : Table) : Machine Value := do
    setThing address (.set table isFixed)
    return .nothing
  let combined (operator : Operator) : Machine Table := do
    given.placed.foldlM (fun (table : Table) value => do
      return (setOperation operator table (<- setGiven engine value)).getD table) table
  let keyGiven (value : Value) : Machine Key := do
    match value with
    | .object inner => match <- thingAt inner with
      | .set other false =>
        return .collection (other.keys.mergeSort
          (fun left right => (hash left).toNat <= (hash right).toNat))
      | _ => keyOf engine value
    | value => keyOf engine value
  match name with
  | "add" =>
    let value <- given.one
    let key <- keyOf engine value
    if !table.contains key then changeTable address (·.insert key (value, .nothing))
    done
  | "remove" =>
    let value <- given.one
    let key <- keyGiven value
    if table.contains key then put (table.erase key)
    else throw (.raised (<- newFault (nativeType "KeyError") [value]))
  | "discard" => put (table.erase (<- keyGiven (<- given.one)))
  | "pop" =>
    given.check
    match setItems table with
    | first :: _ =>
      discard <| put (table.erase (<- keyOf engine first))
      return first
    | [] => throw (.raised (<- newFault (nativeType "KeyError") [.text "pop from an empty set"]))
  | "clear" => put {}
  | "copy" => newObject (.set table isFixed)
  | "update" => put (<- combined .either)
  | "union" => newObject (.set (<- combined .either) isFixed)
  | "intersection" => newObject (.set (<- combined .both) isFixed)
  | "difference" => newObject (.set (<- combined .minus) isFixed)
  | "symmetric_difference" => newObject (.set (<- combined .other) isFixed)
  | "intersection_update" => put (<- combined .both)
  | "difference_update" => put (<- combined .minus)
  | "symmetric_difference_update" => put (<- combined .other)
  | "issubset" => return .truth (table.keys.all (<- setGiven engine (<- given.one)).contains)
  | "issuperset" => return .truth ((<- setGiven engine (<- given.one)).keys.all table.contains)
  | "isdisjoint" =>
    let other <- setGiven engine (<- given.one)
    return .truth (!other.keys.any table.contains)
  | name => fail "AttributeError" s!"'set' object has no attribute '{name}'"

/-! ## Numbers -/

def greatBytes (count value : Nat) : List UInt8 := (smallBytes count value).reverse

def wholeFunction (name : String) (self : Value) (given : Arguments) : Machine Value := do
  let value := match figure? self with
    | some (.whole value) => value
    | _ => 0
  let isSigned : Machine Bool := do
    match given.named.lookup "signed" with
    | some value => isTrue engine value
    | none => return false
  match name with
  | "bit_length" => return .whole (if value = 0 then 0 else value.natAbs.log2 + 1 : Nat)
  | "bit_count" => return .whole ((Nat.toDigits 2 value.natAbs).filter (· = '1')).length
  | "conjugate" => return .whole value
  | "as_integer_ratio" => return .tuple [.whole value, .whole 1]
  | "to_bytes" =>
    let found <- Arguments.take
      { given with named := given.named.filter (·.1 ≠ "signed") }
      ["length", "byteorder"] 0
    let count := (<- indexOr engine 1 (givenAt found 0)).toNat
    let signed <- isSigned
    let bound : Int := Nat.pow 2 (8 * count)
    if value < 0 && !signed then fail "OverflowError" "can't convert negative int to unsigned"
    let tooBig := if signed then 2 * value < -bound || bound <= 2 * value else bound <= value
    if tooBig then fail "OverflowError" "int too big to convert"
    let amount := (value % bound).toNat
    match givenAt found 1 with
    | some (.text "little") => return .octets ⟨(smallBytes count amount).toArray⟩
    | some (.text "big") => return .octets ⟨(greatBytes count amount).toArray⟩
    | none => return .octets ⟨(greatBytes count amount).toArray⟩
    | _ => failValue "byteorder must be either 'little' or 'big'"
  | "from_bytes" =>
    let found <- Arguments.take
      { given with named := given.named.filter (·.1 ≠ "signed") }
      ["bytes", "byteorder"] 1
    let bytes <- match (givenAt found 0).getD .nothing with
      | .octets bytes => pure bytes.toList
      | value => do
        pure ((<- itemsOf engine value).map fun
          | .whole value => UInt8.ofNat value.toNat
          | _ => 0)
    let ordered := match givenAt found 1 with
      | some (.text "little") => bytes.reverse
      | _ => bytes
    let amount := ordered.foldl (fun value byte => 256 * value + byte.toNat) 0
    let bound := Nat.pow 2 (8 * bytes.length)
    if (<- isSigned) && bound <= 2 * amount then return .whole ((amount : Int) - bound)
    else return .whole amount
  | name => fail "AttributeError" s!"'int' object has no attribute '{name}'"

def realFunction (name : String) (value : Float) (given : Arguments) : Machine Value := do
  given.check
  match name with
  | "is_integer" => return .truth (isWholeReal value)
  | "conjugate" => return .real value
  | "as_integer_ratio" => match Records.realOfFloat value with
    | .finite negative size =>
      let common := Nat.gcd size.numerator size.denominator
      let numerator : Int := size.numerator / common
      return .tuple [.whole (if negative then -numerator else numerator),
        .whole (size.denominator / common)]
    | .undefined => failValue "cannot convert NaN to integer ratio"
    | .infinite _ => fail "OverflowError" "cannot convert Infinity to integer ratio"
  | "hex" => match Records.realOfFloat value with
    | .finite negative size =>
      let exact := size.hexadecimal 1 (-1022) (some 13) false
      let text := if size.numerator = 0 then "0x0.0p+0" else .ofList exact
      return .text (if negative then "-" ++ text else text)
    | _ => return .text (realText value)
  | name => fail "AttributeError" s!"'float' object has no attribute '{name}'"

def sliceIndices (first last step : Value) (given : Arguments) : Machine Value := do
  let size <- indexOf engine (<- given.one)
  let (start, count, step) <- partOf engine first last step size.toNat
  let ending := if count = 0 then start else match last with
    | .nothing => if 0 < step then size else -1
    | _ => start + count * step
  return .tuple [.whole start, .whole ending, .whole step]

end

end BaseLanguage.Shell.Objects
