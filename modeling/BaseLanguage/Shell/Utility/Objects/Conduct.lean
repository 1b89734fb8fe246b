import BaseLanguage.Shell.Utility.Objects.Form

namespace BaseLanguage.Shell.Objects

/-!
# What all values do

Values hold or do not, are the same as others, are less than others, can be gone through, and have
texts.  Types made by a program say this for their values by functions with special names.
-/

/-! ## Special functions -/

def ownSaying? (line : List Nat) (name : String) : Machine (Option Value) := do
  let state <- get
  return line.findSome? fun address => match state.things.getD address default with
    | .type facts => match state.things.getD facts.names default with
      | .dict table => table.named? name
      | _ => none
    | _ => none

def special? (value : Value) (name : String) : Machine (Option Value) := do
  match value with
  | .object address => match (<- get).things.getD address default with
    | .member type _ _ => match <- ownSaying? (<- typeAt type).line name with
      | some .nothing => return none
      | found => return found
    | _ => return none
  | _ => return none

section

variable (engine : Engine)

def callSpecial? (value : Value) (name : String) (arguments : List Value) :
    Machine (Option Value) := do
  match <- special? value name with
  | some function => match function with
    | .object address => match <- thingAt address with
      | .loose inner => return some (<- engine.call inner arguments [])
      | .ofType inner =>
        return some (<- engine.call inner (.object (<- typeOf value) :: arguments) [])
      | _ => return some (<- engine.call function (value :: arguments) [])
    | function => return some (<- engine.call function (value :: arguments) [])
  | none => return none

def rangeSize (first last step : Int) : Nat :=
  if step = 0 then 0
  else if 0 < step then (if first < last then ((last - first - 1) / step + 1).toNat else 0)
  else if last < first then ((first - last - 1) / (-step) + 1).toNat else 0

def sizeOf? (value : Value) : Machine (Option Nat) := do
  match <- callSpecial? engine value "__len__" [] with
  | some (.whole count) =>
    if count < 0 then failValue "__len__() should return >= 0"
    return some count.toNat
  | some (.truth holds) => return some (if holds then 1 else 0)
  | some other => failType s!"'{← typeName other}' object cannot be interpreted as an integer"
  | none => match <- heldBy value with
    | .text text => return some text.length
    | .octets bytes => return some bytes.size
    | .tuple items =>
      if <- isFault value "BaseException" then return none else return some items.length
    | .range first last step => return some (rangeSize first last step)
    | .object address => match <- thingAt address with
      | .list items => return some items.size
      | .dict table => return some table.size
      | .set table _ => return some table.size
      | .octets bytes => return some bytes.size
      | .view _ address => return some (<- tableAt address).size
      | _ => return none
    | _ => return none

def isTrue (value : Value) : Machine Bool := do
  match value with
  | .nothing => return false
  | .truth holds => return holds
  | .whole value => return value ≠ 0
  | .real value => return value != 0
  | .text text => return !text.isEmpty
  | .notImplemented => return true
  | value => match <- callSpecial? engine value "__bool__" [] with
    | some (.truth holds) => return holds
    | some other => failType s!"__bool__ should return bool, returned {← typeName other}"
    | none => match <- heldBy value with
      | .whole value => return value ≠ 0
      | .real value => return value != 0
      | _ => match <- sizeOf? engine value with
        | some size => return size ≠ 0
        | none => return true

/-! ## Keys -/

def hashModulus : Nat := Nat.pow 2 61 - 1

def fractionHash (negative : Bool) (numerator denominator : Nat) : Int :=
  -- The inverse of a power of two is a power of two, since sixty-one doublings lead back.
  let exponent := denominator.log2 % 61
  let value := numerator % hashModulus * Nat.pow 2 ((61 - exponent) % 61) % hashModulus
  let signed : Int := if negative then -(value : Int) else value
  if signed = -1 then -2 else signed

def rowHash (numbers : List Int) : Int :=
  let bound := Text.wordBound
  let first : Nat := 11400714785074694791
  let second : Nat := 14029467366897019727
  let fifth : Nat := 2870177450012600261
  let total := numbers.foldl (fun (sum : Nat) (number : Int) =>
    let sum := (sum + (number % (bound : Int)).toNat * second) % bound
    let turned := (sum * Nat.pow 2 31 + sum / Nat.pow 2 33) % bound
    turned * first % bound) fifth
  let total := (total + (numbers.length ^^^ (fifth ^^^ 3527539))) % bound
  if total = bound - 1 then 1546275796
  else if Nat.pow 2 63 <= total then (total : Int) - bound else total

def Key.hash? : Nat -> Key -> Option Int
  | 0, _ => none
  | depth + 1, key => match key with
    | .whole value => some (fractionHash (value < 0) value.natAbs 1)
    | .real bits => match Text.BinaryForm.long.read bits.toNat with
      | .finite negative size => some (fractionHash negative size.numerator size.denominator)
      | .infinite negative => some (if negative then -314159 else 314159)
      | .undefined => none
    | .text "" => some 0
    | .row keys => (keys.mapM (Key.hash? depth)).map rowHash
    | .numbered number => some number
    | _ => none

def keyOfReal (value : Float) : Key :=
  if isWholeReal value then .whole ((wholeOfReal? value).getD 0) else .real value.toBits

def keyWithin : Nat -> Value -> Machine Key
  | 0, _ => fail "RecursionError" "maximum recursion depth exceeded"
  | depth + 1, value => do
    match value with
    | .nothing => return .nothing
    | .truth holds => return .whole (if holds then 1 else 0)
    | .whole value => return .whole value
    | .real value => return keyOfReal value
    | .text text => return .text text
    | .octets bytes => return .octets bytes.toList
    | .tuple items => return .row (<- items.mapM (keyWithin depth))
    | .range first last step =>
      let size := rangeSize first last step
      let parts : List Int := if size = 0 then [0] else if size = 1 then [1, first]
        else [size, first, step]
      return .row (.named "range" :: parts.map .whole)
    | .slice _ _ _ => failType "unhashable type: 'slice'"
    | .ellipsis => return .named "Ellipsis"
    | .notImplemented => return .named "NotImplemented"
    | .builtIn name => return .named name
    | .bound _ type name => return .named s!"{type}.{name}()"
    | .unbound type name => return .named s!"{type}.{name}"
    | .object address => match <- thingAt address with
      | .list _ => failType "unhashable type: 'list'"
      | .dict _ => failType "unhashable type: 'dict'"
      | .octets _ => failType "unhashable type: 'bytearray'"
      | .set table isFixed =>
        if isFixed then
          let keys := table.keys
          return .collection
            (keys.mergeSort (fun left right => (hash left).toNat <= (hash right).toNat))
        else failType "unhashable type: 'set'"
      | .member type _ held =>
        let facts <- typeAt type
        match <- ownSaying? facts.line "__hash__" with
        | some .nothing => failType s!"unhashable type: '{facts.name}'"
        | some function => match <- engine.call function [value] [] with
          | .whole number => return .numbered number
          | .truth holds => return .numbered (if holds then 1 else 0)
          | _ => failType "__hash__ method should return an integer"
        | none => match <- ownSaying? facts.line "__eq__" with
          | some _ => failType s!"unhashable type: '{facts.name}'"
          | none => match held with
            | .nothing => return .object address
            | held =>
              if <- isSubtype type (nativeType "BaseException") then return .object address
              else match held with
                | .object _ => failType s!"unhashable type: '{facts.name}'"
                | held => keyWithin depth held
      | _ => return .object address

def deepestValue : Nat := 1000

def keyOf (value : Value) : Machine Key := keyWithin engine deepestValue value

/-! ## The order of sets -/

def freePlace (taken : Array (Option (Int × Value))) (mask : Nat) : Nat -> Nat -> Nat -> Nat
  | 0, place, _ => place
  | limit + 1, place, rest =>
    let count := if place + 9 <= mask then 10 else 1
    match (List.range count).find? (fun index => (taken.getD (place + index) none).isNone) with
    | some index => place + index
    | none =>
      let rest := rest / 32
      freePlace taken mask limit ((place * 5 + 1 + rest) % (mask + 1)) rest

def placeByHash (taken : Array (Option (Int × Value))) (entry : Int × Value) :
    Array (Option (Int × Value)) :=
  let mask := taken.size - 1
  let number := (entry.1 % Text.wordBound).toNat
  taken.set! (freePlace taken mask 10000 (number % taken.size) number) (some entry)

def placesAbove (number : Nat) : Nat -> Nat -> Nat
  | 0, size => size
  | limit + 1, size => if number < size then size else placesAbove number limit (2 * size)

def inPlaces (entries : List (Int × Value)) : List Value :=
  let step (found : Array (Option (Int × Value)) × Nat) (entry : Int × Value) :
      Array (Option (Int × Value)) × Nat :=
    let taken := placeByHash found.1 entry
    let count := found.2 + 1
    if count * 5 < (taken.size - 1) * 3 then (taken, count)
    else
      let size := placesAbove (if 50000 < count then count * 2 else count * 4) 60 8
      let wider := taken.foldl (fun (wider : Array (Option (Int × Value))) place => match place with
        | some entry => placeByHash wider entry
        | none => wider) (Array.replicate size none)
      (wider, count)
  let (taken, _) := entries.foldl step (Array.replicate 8 none, 0)
  taken.toList.filterMap (·.map Prod.snd)

def setItems (table : Table) : List Value :=
  let entries := table.toList.map fun (key, value) => (Key.hash? 20 key, value.1)
  if entries.all (·.1.isSome) then
    inPlaces (entries.map fun (number, value) => (number.getD 0, value))
  else entries.map Prod.snd

/-! ## Sameness -/

inductive Figure where
  | whole (value : Int)
  | real (value : Float)

def figure? : Value -> Option Figure
  | .whole value => some (.whole value)
  | .truth holds => some (.whole (if holds then 1 else 0))
  | .real value => some (.real value)
  | _ => none

def orderWithReal (left : Int) (right : Float) : Option Ordering :=
  match Records.realOfFloat right with
  | .undefined => none
  | .infinite negative => some (if negative then .gt else .lt)
  | .finite negative size =>
    let numerator : Int := if negative then -(size.numerator : Int) else size.numerator
    some (compare (left * size.denominator) numerator)

def Figure.order (left right : Figure) : Option Ordering := match left, right with
  | .whole left, .whole right => some (compare left right)
  | .whole left, .real right => orderWithReal left right
  | .real left, .whole right => (orderWithReal right left).map .swap
  | .real left, .real right =>
    if left < right then some .lt else if left > right then some .gt
    else if left == right then some .eq else none

def isOne (left right : Value) : Bool := match left, right with
  | .nothing, .nothing => true
  | .truth left, .truth right => left == right
  | .whole left, .whole right => left == right
  | .real left, .real right => left.toBits == right.toBits
  | .text left, .text right => left == right
  | .octets left, .octets right => left == right
  | .tuple [], .tuple [] => true
  | .ellipsis, .ellipsis => true
  | .notImplemented, .notImplemented => true
  | .object left, .object right => left == right
  | .builtIn left, .builtIn right => left == right
  | .unbound type name, .unbound type' name' => type == type' && name == name'
  | _, _ => false

def sameWithin : Nat -> Value -> Value -> Machine Bool
  | 0, _, _ => fail "RecursionError" "maximum recursion depth exceeded in comparison"
  | depth + 1, left, right => do
    let isMember (value : Value) : Machine Bool := do
      match value with
      | .object address => match (<- get).things.getD address default with
        | .member _ _ _ => return true
        | _ => return false
      | _ => return false
    let rows (left right : List Value) : Machine Bool := do
      if left.length ≠ right.length then return false
      else
        (left.zip right).foldlM (fun (same : Bool) (pair : Value × Value) => do
          if !same then return false
          else if isOne pair.1 pair.2 then return true
          else sameWithin depth pair.1 pair.2) true
    match left, right with
    | .nothing, .nothing => return true
    | .text left, .text right => return left == right
    | .whole left, .whole right => return left == right
    | left, right =>
      if (<- isMember left) || (<- isMember right) then
        let asked <- callSpecial? engine left "__eq__" [right]
        match asked with
        | some .notImplemented => pure ()
        | some found => return <- isTrue engine found
        | none => pure ()
        match <- callSpecial? engine right "__eq__" [left] with
        | some .notImplemented => return isOne left right
        | some found => return <- isTrue engine found
        | none =>
          if asked.isSome then return isOne left right
          else if isOne left right then return true
          else
            let first <- heldBy left
            let second <- heldBy right
            if (<- isMember first) || (<- isMember second) then return false
            else if (<- isFault left "BaseException") || (<- isFault right "BaseException") then
              return false
            else sameWithin depth first second
      else match figure? left, figure? right with
        | some left, some right => return left.order right == some .eq
        | _, _ => match left, right with
          | .tuple left, .tuple right => rows left right
          | .octets left, .octets right => return left == right
          | .range a b c, .range d e f =>
            let size := rangeSize a b c
            return size == rangeSize d e f && (size == 0 || (a == d && (size == 1 || c == f)))
          | .slice a b c, .slice d e f => rows [a, b, c] [d, e, f]
          | .bound self type name, .bound self' type' name' =>
            return type == type' && name == name' && isOne self self'
          | .octets bytes, .object address => match <- thingAt address with
            | .octets other => return bytes == other
            | _ => return false
          | .object address, .octets bytes => match <- thingAt address with
            | .octets other => return bytes == other
            | _ => return false
          | .object first, .object second =>
            if first = second then return true
            else match <- thingAt first, <- thingAt second with
              | .list left, .list right => rows left.toList right.toList
              | .dict left, .dict right =>
                if left.size ≠ right.size then return false
                else
                  left.toList.foldlM
                    (fun (same : Bool) (entry : Key × Value × Value) => do
                      if !same then return false
                      else match right.get? entry.1 with
                        | some (_, other) =>
                          if isOne entry.2.2 other then return true
                          else sameWithin depth entry.2.2 other
                        | none => return false) true
              | .set left _, .set right _ =>
                return left.size == right.size && left.keys.all right.contains
              | .view left a, .view right b =>
                if left = "dict_values" || right = "dict_values" then return false
                else
                  let first <- tableAt a
                  let second <- tableAt b
                  if first.size ≠ second.size || left ≠ right then return false
                  else if left = "dict_keys" then return first.keys.all second.contains
                  else
                    first.toList.foldlM
                      (fun (same : Bool) (entry : Key × Value × Value) => do
                        if !same then return false
                        else match second.get? entry.1 with
                          | some (_, other) => sameWithin depth entry.2.2 other
                          | none => return false) true
              | .octets left, .octets right => return left == right
              | .method function self, .method function' self' =>
                return isOne function function' && isOne self self'
              | _, _ => return false
          | left, right => return isOne left right

def isSame (left right : Value) : Machine Bool := sameWithin engine deepestValue left right

def isOneOrSame (left right : Value) : Machine Bool := do
  if isOne left right then return true else isSame engine left right

/-! ## Order -/

def relationNames : Relation -> String × String
  | .less => ("__lt__", "__gt__")
  | .lessOrSame => ("__le__", "__ge__")
  | .greater => ("__gt__", "__lt__")
  | .greaterOrSame => ("__ge__", "__le__")
  | .different => ("__ne__", "__ne__")
  | _ => ("__eq__", "__eq__")

def Relation.admits (relation : Relation) (order : Ordering) : Bool := match relation with
  | .less => order == .lt
  | .lessOrSame => order != .gt
  | .greater => order == .gt
  | .greaterOrSame => order != .lt
  | .different => order != .eq
  | _ => order == .eq

def orderOfBytes (left right : List UInt8) : Ordering := match left, right with
  | [], [] => .eq
  | [], _ :: _ => .lt
  | _ :: _, [] => .gt
  | a :: left, b :: right => match compare a.toNat b.toNat with
    | .eq => orderOfBytes left right
    | order => order

def orderOfTexts (left right : String) : Ordering :=
  let rec go : Chars -> Chars -> Ordering
    | [], [] => .eq
    | [], _ :: _ => .lt
    | _ :: _, [] => .gt
    | a :: left, b :: right =>
      let first := numberOfChar a
      let second := numberOfChar b
      if first = second then go left right else compare first second
  go left.toList right.toList

def orderedWithin (relation : Relation) : Nat -> Value -> Value -> Machine Bool
  | 0, _, _ => fail "RecursionError" "maximum recursion depth exceeded in comparison"
  | depth + 1, left, right => do
    let refuse : Machine Bool := do
      let first <- typeName left
      let second <- typeName right
      failType s!"'{relation.sign}' not supported between instances of '{first}' and '{second}'"
    let rows (left right : List Value) : Machine Bool := do
      let different <- (left.zip right).findM? fun (first, second) => do
        return !(<- isOneOrSame engine first second)
      match different with
      | some (first, second) => orderedWithin relation depth first second
      | none => return relation.admits (compare left.length right.length)
    match left, right with
    | .text left, .text right => return relation.admits (orderOfTexts left right)
    | .whole left, .whole right => return relation.admits (compare left right)
    | left, right =>
      let (name, reverse) := relationNames relation
      let asked <- callSpecial? engine left name [right]
      match asked with
      | some .notImplemented => pure ()
      | some found => return <- isTrue engine found
      | none => pure ()
      match <- callSpecial? engine right reverse [left] with
      | some .notImplemented => refuse
      | some found => isTrue engine found
      | none =>
        let first <- heldBy left
        let second <- heldBy right
        match figure? first, figure? second with
        | some first, some second => match first.order second with
          | some order => return relation.admits order
          | none => return false
        | _, _ => match first, second with
          | .text left, .text right => return relation.admits (orderOfTexts left right)
          | .tuple first', .tuple second' =>
            if <- isFault left "BaseException" then refuse else rows first' second'
          | .octets left, .octets right =>
            return relation.admits (orderOfBytes left.toList right.toList)
          | .object first', .object second' => match <- thingAt first', <- thingAt second' with
            | .list left, .list right => rows left.toList right.toList
            | .set left _, .set right _ => return among left.keys right.keys
            | .view _ left, .view _ right =>
              return among (<- tableAt left).keys (<- tableAt right).keys
            | .set left _, .view _ right => return among left.keys (<- tableAt right).keys
            | .view _ left, .set right _ => return among (<- tableAt left).keys right.keys
            | _, _ => refuse
          | _, _ => refuse
where
  among (left right : List Key) : Bool :=
    let isWithin (left right : List Key) : Bool :=
      let known : Std.HashMap Key Unit := right.foldl (fun map key => map.insert key ()) ∅
      left.all known.contains
    match relation with
    | .less => left.length < right.length && isWithin left right
    | .lessOrSame => isWithin left right
    | .greater => right.length < left.length && isWithin right left
    | _ => isWithin right left

def isLess (left right : Value) : Machine Bool := orderedWithin engine .less deepestValue left right

/-! ## Going through values -/

def itemsOfBytes (bytes : ByteArray) : List Value := bytes.toList.map (.whole ·.toNat)

def itemsOfText (text : String) : List Value := text.toList.map (fun c => .text (.singleton c))

def viewItems (kind : String) (table : Table) : List Value := match kind with
  | "dict_keys" => table.values.map Prod.fst
  | "dict_values" => table.values.map Prod.snd
  | _ => table.values.map (fun entry => .tuple [entry.1, entry.2])

def iteratorOf (value : Value) : Machine Value := do
  let make (iteration : Iteration) : Machine Value := newObject (.iterator iteration)
  let refuse : Machine Value := do failType s!"'{← typeName value}' object is not iterable"
  match <- callSpecial? engine value "__iter__" [] with
  | some found => match found with
    | .object address => match <- thingAt address with
      | .iterator _ => return found
      | .generator _ _ => return found
      | .stream _ => return found
      | .member _ _ _ =>
        if (<- special? found "__next__").isSome then return found
        else failType s!"iter() returned non-iterator of type '{← typeName found}'"
      | _ => failType s!"iter() returned non-iterator of type '{← typeName found}'"
    | found => failType s!"iter() returned non-iterator of type '{← typeName found}'"
  | none => match <- special? value "__getitem__", <- special? value "__next__" with
    | some _, _ => make (.indexed value 0)
    | none, some _ => return value
    | none, none =>
      if <- isFault value "BaseException" then refuse
      else match <- heldBy value with
        | .text text => make (.items (itemsOfText text).toArray 0 "str_iterator")
        | .octets bytes => make (.items (itemsOfBytes bytes).toArray 0 "bytes_iterator")
        | .tuple items => make (.items items.toArray 0 "tuple_iterator")
        | .range first last step => make (.range first last step)
        | .object address => match <- thingAt address with
          | .list _ => make (.list address 0)
          | .dict table =>
            make (.entries address table.size (viewItems "dict_keys" table) "dict_keyiterator")
          | .set table _ => make (.entries address table.size (setItems table) "set_iterator")
          | .octets bytes => make (.items (itemsOfBytes bytes).toArray 0 "bytes_iterator")
          | .view kind table =>
            let entries <- tableAt table
            let kind' := match kind with
              | "dict_keys" => "dict_keyiterator"
              | "dict_values" => "dict_valueiterator"
              | _ => "dict_itemiterator"
            make (.entries table entries.size (viewItems kind entries) kind')
          | .iterator _ => return .object address
          | .generator _ _ => return .object address
          | .stream facts =>
            if facts.isOpen then return .object address
            else failValue "I/O operation on closed file."
          | .type facts => match <- ownSaying? facts.line "__class_iter__" with
            | some function => engine.call function [value] []
            | none => failType "'type' object is not iterable"
          | _ => refuse
        | _ => refuse

end

end BaseLanguage.Shell.Objects
