import BaseLanguage.Shell.Utility.Objects.Collections

namespace BaseLanguage.Shell.Objects

open Text

/-!
# Making values

A type is called to make a value of it.  The types that are always there read what they are given;
types made by a program prepare a value and let their functions go on with it.
-/

section

variable (engine : Engine)

/-! ## Numbers from texts -/

def plainDigits? (isDigit : Char -> Bool) (text : Chars) : Option Chars :=
  let parts := pieces '_' text
  if parts.all (fun part => !part.isEmpty && part.all isDigit) then some parts.flatten else none

def digitIn? (base : Nat) (c : Char) : Option Nat :=
  let value : Option Nat := match decimalValue? c with
    | some value => some value
    | none => if c.isAlpha then some (c.toLower.toNat - 'a'.toNat + 10) else none
  value.filter (· < base)

def wholeFrom? (base : Nat) (text : Chars) : Option Int :=
  let text := (text.dropWhile isWideSpace).reverse.dropWhile isWideSpace
  let (negative, text) : Bool × Chars := match text.reverse with
    | '-' :: rest => (true, rest)
    | '+' :: rest => (false, rest)
    | rest => (false, rest)
  let front := (text.take 2).map Char.toLower
  let marks : List (Chars × Nat) := [(['0', 'x'], 16), (['0', 'o'], 8), (['0', 'b'], 2)]
  let (base, digits, isMarked) : Nat × Chars × Bool := match marks.lookup front with
    | some found =>
      if base = 0 || base = found then (found, text.drop 2, true) else (base, text, false)
    | none => (if base = 0 then 10 else base, text, false)
  let digits := match isMarked, digits with
    | true, '_' :: rest => rest
    | _, digits => digits
  match plainDigits? (fun c => (digitIn? base c).isSome) digits with
  | some digits =>
    let value : Int :=
      digits.foldl (fun value c => base * value + (digitIn? base c).getD 0) (0 : Nat)
    some (if negative then -value else value)
  | none => none

def realFrom? (text : Chars) : Option Float :=
  let text := ((text.dropWhile isWideSpace).reverse.dropWhile isWideSpace).reverse
  let (negative, text) : Bool × Chars := match text with
    | '-' :: rest => (true, rest)
    | '+' :: rest => (false, rest)
    | rest => (false, rest)
  let lower := .ofList (text.map Char.toLower)
  let infinity : Float := 1.0 / 0.0
  let value : Option Float :=
    if lower = "inf" || lower = "infinity" then some infinity
    else if lower = "nan" then some (0.0 / 0.0)
    else
      let text := text.map fun c => match decimalValue? c with
        | some value => Char.ofNat (48 + value)
        | none => c
      let rec plain : Option Char -> Chars -> Option Chars
        | _, [] => some []
        | before, '_' :: rest =>
          if before.any isDigit && rest.head?.any isDigit then plain (some '_') rest else none
        | _, c :: rest => (plain (some c) rest).map (c :: ·)
      match plain none text with
      | some text => match Records.decimalAt? text with
        | some (value, []) => some value
        | _ => none
      | none => none
  value.map fun value => if negative then -value else value

variable (given : Arguments)

def makeWhole : Machine Value := do
  let found <- given.take ["x", "base"] 0
  let refuse (base : Int) (value : Value) : Machine Value := do
    failValue s!"invalid literal for int() with base {wholeText base}: {← reprOf engine value}"
  let read (base : Int) (value : Value) (text : Chars) : Machine Value := do
    if mostDigits < text.length && !([2, 4, 8, 16, 32].contains base) &&
        mostDigits < (text.filter isDigit).length then
      failValue
        (s!"Exceeds the limit (4300 digits) for integer string conversion: value has " ++
          s!"{numberText (text.filter Text.isDigit).length} digits; " ++
          "use sys.set_int_max_str_digits() to increase the limit")
    match wholeFrom? base.toNat text with
    | some number => return .whole number
    | none => refuse base value
  match givenAt found 0, givenAt found 1 with
  | none, _ => return .whole 0
  | some value, some base =>
    let base <- indexOf engine base
    if base ≠ 0 && (base < 2 || 36 < base) then failValue "int() base must be >= 2 and <= 36, or 0"
    match <- heldBy value with
    | .text text => read base value text.toList
    | .octets bytes => read base value (octetsOf bytes)
    | _ => failType "int() can't convert non-string with explicit base"
  | some value, none => match <- callSpecial? engine value "__int__" [] with
    | some found => return found
    | none => match <- heldBy value with
      | .whole number => return .whole number
      | .truth holds => return .whole (if holds then 1 else 0)
      | .real number => match wholeOfReal? number with
        | some number => return .whole number
        | none =>
          if number.isNaN then failValue "cannot convert float NaN to integer"
          else fail "OverflowError" "cannot convert float infinity to integer"
      | .text text => read 10 value text.toList
      | .octets bytes => read 10 value (octetsOf bytes)
      | _ => match <- callSpecial? engine value "__index__" [] with
        | some found => return found
        | none => match <- callSpecial? engine value "__trunc__" [] with
          | some found => return found
          | none =>
            failType
              ("int() argument must be a string, a bytes-like object or a real number, " ++
                s!"not '{← typeName value}'")

def realOfValue (value : Value) : Machine Float := do
  match <- callSpecial? engine value "__float__" [] with
  | some (.real number) => return number
  | some other =>
    failType s!"{← typeName value}.__float__ returned non-float (type {← typeName other})"
  | none => match figure? (<- heldBy value) with
    | some (.real number) => return number
    | some (.whole number) => match realOfWhole? number with
      | some number => return number
      | none => tooGreat
    | none => match <- callSpecial? engine value "__index__" [] with
      | some (.whole number) => return (realOfWhole? number).getD 0
      | _ => failType s!"must be real number, not {← typeName value}"

def makeReal : Machine Value := do
  let found <- given.take [""] 0
  let some value := givenAt found 0 | return .real 0
  let read (text : Chars) : Machine Value := do
    match realFrom? text with
    | some number => return .real number
    | none => failValue s!"could not convert string to float: {← reprOf engine value}"
  match <- heldBy value with
  | .text text => read text.toList
  | .octets bytes => read (octetsOf bytes)
  | .nothing => wrong value
  | .object _ =>
    if (<- special? value "__float__").isSome || (<- special? value "__index__").isSome then
      return .real (<- realOfValue engine value)
    else wrong value
  | .tuple _ => wrong value
  | _ => return .real (<- realOfValue engine value)
where
  wrong (value : Value) : Machine Value := do
    failType s!"float() argument must be a string or a real number, not '{← typeName value}'"

/-! ## Texts and bytes -/

def makeText : Machine Value := do
  let found <- given.take ["object", "encoding", "errors"] 0
  match givenAt found 0, givenAt found 1, givenAt found 2 with
  | none, _, _ => return .text ""
  | some value, none, none => return .text (<- strOf engine value)
  | some value, encoding, errors =>
    let word (value : Option Value) (usual : String) : String := match value with
      | some (.text text) => text
      | _ => usual
    match <- heldBy value with
    | .octets bytes => return .text (<- unspell bytes (word encoding "utf-8") (word errors "strict"))
    | .object address => match <- thingAt address with
      | .octets bytes =>
        return .text (<- unspell bytes (word encoding "utf-8") (word errors "strict"))
      | _ => failType s!"decoding to str: need a bytes-like object, {← typeName value} found"
    | .text _ => failType "decoding str is not supported"
    | _ => failType s!"decoding to str: need a bytes-like object, {← typeName value} found"

def bytesGiven : Machine ByteArray := do
  let found <- given.take ["source", "encoding", "errors"] 0
  let some value := givenAt found 0 | return .empty
  match <- callSpecial? engine value "__bytes__" [] with
  | some (.octets bytes) => return bytes
  | _ => match <- heldBy value with
    | .text text => match givenAt found 1, givenAt found 2 with
      | some (.text encoding), some (.text errors) => spell text encoding errors
      | some (.text encoding), _ => spell text encoding "strict"
      | _, _ => failType "string argument without an encoding"
    | .octets bytes => return bytes
    | .whole count =>
      if count < 0 then failValue "negative count"
      return ⟨Array.replicate count.toNat 0⟩
    | value => match value with
      | .object address => match <- thingAt address with
        | .octets bytes => return bytes
        | _ => fromItems value
      | _ => fromItems value
where
  fromItems (value : Value) : Machine ByteArray := do
    let items <- match <- orNothing "TypeError" (itemsOf engine value) with
      | some items => pure items
      | none => failType s!"cannot convert '{← typeName value}' object to bytes"
    let bytes <- items.mapM fun item => do
      let number <- indexOf engine item
      if number < 0 || 255 < number then failValue "bytes must be in range(0, 256)"
      return UInt8.ofNat number.toNat
    return ⟨bytes.toArray⟩

/-! ## Types that are always there -/

def systemTypeOf (type : Nat) : List Value -> Nat
  | .whole number :: _ :: _ =>
    if type = nativeType "OSError" then nativeType (systemFaultType number.toNat) else type
  | _ => type

def makeReversed (value : Value) : Machine Value := do
  match <- callSpecial? engine value "__reversed__" [] with
  | some found => return found
  | none =>
    let back (items : List Value) (kind : String) : Machine Value :=
      newObject (.iterator (.items items.reverse.toArray 0 kind))
    match <- heldBy value with
    | .text text => back (itemsOfText text) "reversed"
    | .octets bytes => back (itemsOfBytes bytes) "reversed"
    | .tuple items => back items "reversed"
    | .range first last step =>
      let size := rangeSize first last step
      newObject (.iterator (.range (first + ((size : Int) - 1) * step) (first - step) (-step)))
    | .object address => match <- thingAt address with
      | .list items => back items.toList "list_reverseiterator"
      | .dict table => back (table.values.map Prod.fst) "dict_keyiterator"
      | .view kind table => back (viewItems kind (<- tableAt table)) "dict_keyiterator"
      | .octets bytes => back (itemsOfBytes bytes) "reversed"
      | _ => slowly
    | _ => slowly
where
  slowly : Machine Value := do
    match <- special? value "__getitem__", <- sizeOf? engine value with
    | some _, some size =>
      let items <- (List.range size).mapM fun (index : Nat) =>
        itemOf engine value (.whole ((size : Int) - 1 - index))
      newObject (.iterator (.items items.toArray 0 "reversed"))
    | _, _ => failType s!"'{← typeName value}' object is not reversible"

def makeNative (type : Nat) (name : String) (given : Arguments) : Machine Value := do
  let first? : Machine (Option Value) := do return givenAt (<- given.take [""] 0) 0
  match name with
  | "object" =>
    given.check
    newObject (.member type (<- newTable {}) .nothing)
  | "int" => makeWhole engine given
  | "float" => makeReal engine given
  | "bool" => match <- first? with
    | some value => return .truth (<- isTrue engine value)
    | none => return .truth false
  | "str" => makeText engine given
  | "bytes" => return .octets (<- bytesGiven engine given)
  | "bytearray" => newObject (.octets (<- bytesGiven engine given))
  | "memoryview" => return (<- first?).getD .nothing
  | "tuple" => match <- first? with
    | some value => return .tuple (<- itemsOf engine value)
    | none => return .tuple []
  | "list" => match <- first? with
    | some value => newList (<- itemsOf engine value)
    | none => newList []
  | "dict" =>
    let made <- newTable {}
    discard <| dictFunction engine "update" (.object made) made { given with function := "dict" }
    return .object made
  | "set" => match <- first? with
    | some value => newObject (.set (<- setGiven engine value) false)
    | none => newObject (.set {} false)
  | "frozenset" => match <- first? with
    | some value => newObject (.set (<- setGiven engine value) true)
    | none => newObject (.set {} true)
  | "range" =>
    let numbers <- ((<- given.take ["", "", ""] 1).filterMap id).mapM (indexOf engine)
    match numbers with
    | [last] => return .range 0 last 1
    | [first, last] => return .range first last 1
    | [first, last, step] =>
      if step = 0 then failValue "range() arg 3 must not be zero"
      return .range first last step
    | _ => failType "range expected at least 1 argument, got 0"
  | "slice" =>
    let found <- given.take ["", "", ""] 1
    match found.filterMap id with
    | [last] => return .slice .nothing last .nothing
    | [first, last] => return .slice first last .nothing
    | [first, last, step] => return .slice first last step
    | _ => failType "slice expected at least 1 argument, got 0"
  | "enumerate" =>
    let found <- given.take ["iterable", "start"] 1
    let source <- iteratorOf engine ((givenAt found 0).getD .nothing)
    newObject (.iterator (.enumerate source (<- indexOr engine 0 (givenAt found 1))))
  | "zip" =>
    let sources <- given.placed.mapM (iteratorOf engine)
    let isStrict <- match given.named.lookup "strict" with
      | some value => isTrue engine value
      | none => pure false
    newObject (.iterator (.zip sources isStrict))
  | "map" => match given.placed with
    | function :: sources@(_ :: _) =>
      newObject (.iterator (.map function (<- sources.mapM (iteratorOf engine))))
    | _ => failType "map() must have at least two arguments."
  | "filter" =>
    let found <- given.take ["", ""] 2
    let source <- iteratorOf engine ((givenAt found 1).getD .nothing)
    newObject (.iterator (.filter ((givenAt found 0).getD .nothing) source))
  | "reversed" => makeReversed engine (<- given.one)
  | "property" =>
    let found <- given.take ["fget", "fset", "fdel", "doc"] 0
    let getter := (givenAt found 0).getD .nothing
    newObject (.property getter ((givenAt found 1).getD .nothing) ((givenAt found 3).getD .nothing))
  | "staticmethod" => newObject (.loose (<- given.one))
  | "classmethod" => newObject (.ofType (<- given.one))
  | "super" =>
    let found <- given.take ["", ""] 1
    match givenAt found 0, givenAt found 1 with
    | some (.object type), some self => newObject (.super type self type)
    | _, _ => failType "super() argument 1 must be a type"
  | "NoneType" => return .nothing
  | "ellipsis" => return .ellipsis
  | "function" => failType "function() missing required argument 'code' (pos 1)"
  | "module" => match <- first? with
    | some (.text text) =>
      newObject (.package text (<- newTable (.ofNames [("__name__", .text text)])))
    | _ => failType "module() missing required argument 'name' (pos 1)"
  | "StringIO" =>
    let found <- given.take ["initial_value", "newline"] 0
    let text := match givenAt found 0 with
      | some (.text text) => text
      | _ => ""
    newStream
      { name := .nothing, mode := "r", reads := true, writes := true
        memory := some (encodedText text), errors := "surrogateescape" }
  | "BytesIO" =>
    let bytes <- match <- first? with
      | some value => bytesGiven engine { given with placed := [value], named := [] }
      | none => pure .empty
    newStream
      { name := .nothing, mode := "rb", reads := true, writes := true, isBinary := true
        memory := some bytes }
  | "TextIOWrapper" => match given.placed with
    | .object address :: _ =>
      let facts <- streamAt address
      let encoding := match given.named.lookup "encoding" with
        | some (.text text) => spellingName text
        | _ => "utf-8"
      let errors := match given.named.lookup "errors" with
        | some (.text text) => text
        | _ => "strict"
      newStream { facts with isBinary := false, encoding, errors }
    | _ => failType "TextIOWrapper() missing required argument 'buffer' (pos 1)"
  | name =>
    if <- isSubtype type (nativeType "BaseException") then
      if !given.named.isEmpty && name ≠ "ImportError" && name ≠ "ModuleNotFoundError" &&
          name ≠ "NameError" && name ≠ "AttributeError" then
        failType s!"{name}() takes no keyword arguments"
      let value <- newFault (systemTypeOf type given.placed)
        (if <- isSubtype type (nativeType "OSError") then given.placed.take 2 else given.placed)
      if <- isSubtype type (nativeType "OSError") then
        match value, given.placed[2]? with
        | .object address, some file => match <- thingAt address with
          | .member _ names _ => setNamedIn names "filename" file
          | _ => pure ()
        | _, _ => pure ()
      match value with
      | .object address => match <- thingAt address with
        | .member _ names _ => given.named.forM fun (name, value) => setNamedIn names name value
        | _ => pure ()
      | _ => pure ()
      return value
    else failType s!"cannot create '{name}' instances"

/-! ## Types made by a program -/

def filledTypes : List String := ["dict", "list", "set", "bytearray"]

def newMember (type : Nat) (given : Arguments) : Machine Value := do
  let facts <- typeAt type
  let names <- newTable {}
  let layout := facts.layout
  if layout = "object" then newObject (.member type names .nothing)
  else if <- isSubtype (nativeType layout) (nativeType "BaseException") then
    newFault type given.placed
  else if filledTypes.contains layout then
    let held <- makeNative engine (nativeType layout) layout { function := layout, placed := [] }
    newObject (.member type names held)
  else
    let held <- makeNative engine (nativeType layout) layout { given with function := layout }
    newObject (.member type names held)

def fillMember (value : Value) (given : Arguments) : Machine Unit := do
  match value with
  | .object address => match <- thingAt address with
    | .member type names held => match held with
      | .object inner => match <- thingAt inner with
        | .dict _ =>
          discard <| dictFunction engine "update" held inner { given with function := "dict" }
        | .list _ => match given.placed with
          | [source] => setThing inner (.list (<- itemsOf engine source).toArray)
          | _ => pure ()
        | .set _ isFixed => match given.placed with
          | [source] => setThing inner (.set (<- setGiven engine source) isFixed)
          | _ => pure ()
        | _ => pure ()
      | _ =>
        if <- isSubtype type (nativeType "BaseException") then
          setThing address (.member type names (.tuple given.placed))
    | .list _ => match given.placed with
      | [source] => setThing address (.list (<- itemsOf engine source).toArray)
      | _ => pure ()
    | _ => pure ()
  | _ => pure ()

def makeMember (type : Nat) (given : Arguments) : Machine Value := do
  let facts <- typeAt type
  let maker <- ownSaying? facts.line "__new__"
  let starter <- ownSaying? facts.line "__init__"
  let value <- match maker with
    | some function =>
      let function <- match function with
        | .object address => match <- thingAt address with
          | .loose inner => pure inner
          | _ => pure function
        | function => pure function
      engine.call function (.object type :: given.placed) given.named
    | none =>
      match <- ownSaying? facts.line "__abstractmethods__" with
      | some names =>
        let names <- itemsOf engine names
        if !names.isEmpty then
          let shown <- names.mapM (strOf engine)
          let word := if shown.length = 1 then "method" else "methods"
          failType
            (s!"Can't instantiate abstract class {facts.name} with abstract {word} " ++
              ", ".intercalate shown)
      | none => pure ()
      if facts.layout = "object" && starter.isNone &&
          !(given.placed.isEmpty && given.named.isEmpty) then
        failType s!"{facts.name}() takes no arguments"
      newMember engine type (if facts.layout ≠ "object" && starter.isSome && facts.layout ≠ "tuple" then
        { given with named := [] } else given)
  if <- isOfType value type then
    match starter with
    | some function => match <- engine.call function (value :: given.placed) given.named with
      | .nothing => pure ()
      | other => failType s!"__init__() should return None, not '{← typeName other}'"
    | none => if maker.isNone then fillMember engine value given
  return value

def make (type : Nat) (placed : List Value) (named : List (String × Value)) : Machine Value := do
  let facts <- typeAt type
  let given : Arguments := { function := facts.name, placed, named }
  if facts.isNative then
    if facts.name = "type" then
      match placed with
      | [value] => return .object (<- typeOf value)
      | [.text name, bases, table] =>
        let bases <- itemsOf engine bases
        let names <- newTable {}
        putEntries engine names (<- entriesOf engine table)
        let package <- match <- namedIn? names "__module__" with
          | some (.text package) => pure package
          | _ => pure "__main__"
        newType name name package (bases.filterMap fun
          | .object address => some address
          | _ => none) names
      | _ => failType "type() takes 1 or 3 arguments"
    else makeNative engine type facts.name given
  else makeMember engine type given

end

end BaseLanguage.Shell.Objects
