import BaseLanguage.Shell.Utility.Objects.Making
import BaseLanguage.Shell.Utility.Transfer

namespace BaseLanguage.Shell.Objects

/-!
# Functions that are always there

These functions can be called in every program without a package.
-/

section

variable (engine : Engine)

/-! ## Texts and streams as arguments -/

def systemValue (name : String) : Machine Value := do
  return (<- namedIn? (<- get).system name).getD .nothing

def sessionNow : Machine Session := liftM (m := Act) get

def fileName? (value : Value) : Machine (Option String) := do
  match <- heldBy value with
  | .text text => return some (octetsOfText text)
  | .octets bytes => return some (.ofList (Text.octetsOf bytes))
  | _ => match <- callSpecial? engine value "__fspath__" [] with
    | some (.text text) => return some (octetsOfText text)
    | some (.octets bytes) => return some (.ofList (Text.octetsOf bytes))
    | _ => return none

def fileNameOf (function : String) (value : Value) : Machine String := do
  match <- fileName? engine value with
  | some name =>
    if name.toList.contains '\x00' then failValue "embedded null byte"
    return name
  | none =>
    let words := if function.isEmpty then "expected str, bytes or os.PathLike object, not "
      else s!"{function}: path should be string, bytes, os.PathLike or integer, not "
    failType (words ++ (<- typeName value))

def streamNumber? (value : Value) : Machine (Option Nat) := do
  match value with
  | .object address => match <- thingAt address with
    | .stream _ => return some address
    | _ => return none
  | _ => return none

def writeTo (target : Value) (text : String) : Machine Unit := do
  match <- streamNumber? target with
  | some address =>
    if (<- streamAt address).isBinary then failType "a bytes-like object is required, not 'str'"
    sayText address text
  | none => discard <| engine.call (<- attributeOf engine target "write") [.text text] []

variable (given : Arguments)

def printValues : Machine Value := do
  match given.named.find? (fun entry => !(["sep", "end", "file", "flush"].contains entry.1)) with
  | some (name, _) => failType s!"'{name}' is an invalid keyword argument for print()"
  | none => pure ()
  let textFor (name usual : String) : Machine String := do
    match given.named.lookup name with
    | none => return usual
    | some .nothing => return usual
    | some (.text text) => return text
    | some value => failType s!"{name} must be None or a string, not {← typeName value}"
  let separator <- textFor "sep" " "
  let ending <- textFor "end" "\n"
  let target <- match given.named.lookup "file" with
    | none => systemValue "stdout"
    | some .nothing => systemValue "stdout"
    | some target => pure target
  match target with
  | .nothing => return .nothing
  | target =>
    match <- streamNumber? target with
    | some _ =>
      writeTo engine target (separator.intercalate (<- given.placed.mapM (strOf engine)) ++ ending)
    | none =>
      for (value, index) in given.placed.zipIdx do
        if index ≠ 0 then writeTo engine target separator
        writeTo engine target (<- strOf engine value)
      writeTo engine target ending
    match given.named.lookup "flush" with
    | some value =>
      if <- isTrue engine value then
        match <- streamNumber? target with
        | some address => flush address
        | none => discard <| engine.call (<- attributeOf engine target "flush") [] []
    | none => pure ()
    return .nothing

def askLine : Machine Value := do
  let found <- given.take [""] 0
  match givenAt found 0 with
  | some question => writeTo engine (<- systemValue "stdout") (<- strOf engine question)
  | none => pure ()
  flush outputAddress
  let source <- systemValue "stdin"
  let line : Option Value <- match <- streamNumber? source with
    | some address => nextLine address
    | none => do
      let function <- attributeOf engine source "readline"
      pure (some (<- engine.call function [] []))
  match line with
  | some (.text text) =>
    if text.isEmpty then fail "EOFError" "EOF when reading a line"
    else
      return .text (if text.endsWith "\n" then .ofList (text.toList.take (text.length - 1))
        else text)
  | _ => fail "EOFError" "EOF when reading a line"

/-! ## Files -/

/-- How a file is opened, as the letters of a text say: the kind, whether it is read and written as
well, and whether it has bytes. -/
def openingOf (mode : String) : Machine (Char × Bool × Bool) := do
  let letters := mode.toList
  let invalid : Machine (Char × Bool × Bool) := failValue s!"invalid mode: '{mode}'"
  if letters.any (fun c => !("rwxabt+U".toList.contains c)) || !letters.Nodup then invalid
  else
    let kinds := letters.filter ("rwxa".toList.contains ·)
    let isBinary := letters.contains 'b'
    if isBinary && letters.contains 't' then failValue "can't have text and binary mode at once"
    match kinds with
    | [kind] => return (kind, letters.contains '+', isBinary)
    | _ =>
      failValue
        ("must have exactly one of create/read/write/append mode" ++
          if kinds.isEmpty then " and at most one plus" else "")

def openingMode (kind : Char) (both : Bool) : OpeningMode := match kind, both with
  | 'r', false => .reading
  | 'r', true => { reads := true, writes := true }
  | 'a', reads => { OpeningMode.appending with reads }
  | _, reads => { OpeningMode.writing with reads }

def openFileAs : Machine Value := do
  let found <- given.take
    (Text.wordsIn "file mode buffering encoding errors newline closefd opener") 1
  let textAt (index : Nat) : Machine (Option String) := do
    match givenAt found index with
    | some (.text text) => return some text
    | _ => return none
  let mode := (<- textAt 1).getD "r"
  let (kind, both, isBinary) <- openingOf mode
  let file := (givenAt found 0).getD .nothing
  let lineEnd <- textAt 5
  let encoding := spellingName ((<- textAt 3).getD "utf-8")
  if isBinary then
    if (<- textAt 3).isSome then failValue "binary mode doesn't take an encoding argument"
    if (<- textAt 4).isSome then failValue "binary mode doesn't take an errors argument"
    if lineEnd.isSome then failValue "binary mode doesn't take a newline argument"
  let facts (stream : Nat) : StreamFacts :=
    { name := file, mode, stream := some stream, isBinary, lineEnd
      reads := kind = 'r' || both, writes := kind ≠ 'r' || both
      errors := "strict"
      encoding := if encoding = "utf-8" || encoding = "ascii" || encoding = "latin-1" then encoding
        else "utf-8" }
  let errors := (<- textAt 4).getD "strict"
  let eager := match givenAt found 2 with
    | some (.whole 1) => !isBinary
    | some (.whole 0) => true
    | _ => false
  match file with
  | .whole number => newStream { facts number.toNat with errors, isEager := eager }
  | file =>
    let name <- fileNameOf engine "" file
    let session <- sessionNow
    if (session.entry name).toOption.any (·.isFolder) then failSystem 21 [file]
    if kind = 'x' && (session.ownEntry name).toOption.isSome then failSystem 17 [file]
    match <- openStream (openingMode kind both) name with
    | .ok stream => newStream { facts stream with errors, isEager := eager }
    | .error fault => failFile fault file

/-! ## Numbers -/

def inBase (base : Nat) (mark : String) (value : Int) : String :=
  (if value < 0 then "-" else "") ++ mark ++ .ofList (Nat.toDigits base value.natAbs)

def roundedReal (value : Float) (places : Int) : Machine Value := do
  match Records.realOfFloat value with
  | .finite negative size =>
    if 400 < places then return .real value
    else if places < -400 then return .real (if negative then -0.0 else 0)
    else
      let factor := Nat.pow 10 places.natAbs
      let (top, bottom) := if places < 0 then (size.numerator, size.denominator * factor)
        else (size.numerator * factor, size.denominator)
      let whole := halfEven top bottom
      let (top, bottom) := if places < 0 then (whole * factor, 1) else (whole, factor)
      let result := realOf negative top bottom
      if result.isInf then fail "OverflowError" "rounded value too large to represent"
      return .real result
  | _ => return .real value
where
  halfEven (top bottom : Nat) : Nat :=
    let quotient := top / bottom
    let rest := top % bottom
    if bottom < 2 * rest || (bottom = 2 * rest && quotient % 2 = 1) then quotient + 1 else quotient

def wholeNearest (value : Float) : Machine Value := do
  match <- roundedReal value 0 with
  | .real rounded => match wholeOfReal? rounded with
    | some whole => return .whole whole
    | none =>
      if value.isNaN then failValue "cannot convert float NaN to integer"
      else fail "OverflowError" "cannot convert float infinity to integer"
  | value => return value

def roundedWhole (value places : Int) : Int :=
  if 0 <= places then value
  else
    let factor : Int := Nat.pow 10 places.natAbs
    let rest := value.fmod factor
    let down := value - rest
    if factor < 2 * rest || (2 * rest = factor && (down.fdiv factor) % 2 ≠ 0) then down + factor
    else down

def roundValue : Machine Value := do
  let found <- given.take ["number", "ndigits"] 1
  let value := (givenAt found 0).getD .nothing
  let places <- match givenAt found 1 with
    | none => pure none
    | some .nothing => pure none
    | some value => do pure (some (<- indexOf engine value))
  match <- special? value "__round__" with
  | some function => engine.call function (value :: (places.map .whole).toList) []
  | none => match <- heldBy value, places with
    | .whole value, some places => return .whole (roundedWhole value places)
    | .whole value, none => return .whole value
    | .truth holds, _ => return .whole (if holds then 1 else 0)
    | .real value, none => wholeNearest value
    | .real value, some places => roundedReal value places
    | _, _ => failType s!"type {← typeName value} doesn't define __round__ method"

def sizeOfNumber (value : Value) : Machine Value := do
  match <- callSpecial? engine value "__abs__" [] with
  | some found => return found
  | none => match <- heldBy value with
    | .whole value => return .whole value.natAbs
    | .truth holds => return .whole (if holds then 1 else 0)
    | .real value => return .real value.abs
    | _ => failType s!"bad operand type for abs(): '{← typeName value}'"

def sumOf : Machine Value := do
  let found <- given.take ["", "start"] 1
  let start := (givenAt found 1).getD (.whole 0)
  match start with
  | .text _ => failType "sum() can't sum strings [use ''.join(seq) instead]"
  | .octets _ => failType "sum() can't sum bytes [use b''.join(seq) instead]"
  | _ => pure ()
  let items <- itemsOf engine ((givenAt found 0).getD .nothing)
  items.foldlM (fun sum item => binary engine .plus sum item) start

def extremeOf (isGreatest : Bool) (given : Arguments) : Machine Value := do
  let name := given.function
  match given.named.find? (fun entry => entry.1 ≠ "key" && entry.1 ≠ "default") with
  | some (word, _) => failType s!"'{word}' is an invalid keyword argument for {name}()"
  | none => pure ()
  let usual := given.named.lookup "default"
  let values <- match given.placed with
    | [] => failType s!"{name} expected at least 1 argument, got 0"
    | [source] => itemsOf engine source
    | values =>
      if usual.isSome then
        failType s!"Cannot specify a default for {name}() with multiple positional arguments"
      else pure values
  let keyOfValue (value : Value) : Machine Value := do
    match given.named.lookup "key" with
    | none => return value
    | some .nothing => return value
    | some function => engine.call function [value] []
  match values with
  | [] => match usual with
    | some usual => return usual
    | none => failValue s!"{name}() arg is an empty sequence"
  | first :: rest =>
    let firstKey <- keyOfValue first
    let (best, _) <- rest.foldlM (fun (best : Value × Value) (value : Value) => do
      let key <- keyOfValue value
      let asked <- related engine (if isGreatest then .greater else .less) key best.2
      if <- isTrue engine asked then return (value, key) else return best) (first, firstKey)
    return best

def powerOf : Machine Value := do
  let found <- given.take ["base", "exp", "mod"] 2
  let base := (givenAt found 0).getD .nothing
  let exponent := (givenAt found 1).getD .nothing
  match givenAt found 2 with
  | none => binary engine .power base exponent
  | some .nothing => binary engine .power base exponent
  | some rest => match <- heldBy base, <- heldBy exponent, <- heldBy rest with
    | .whole base, .whole exponent, .whole rest =>
      if rest = 0 then failValue "pow() 3rd argument cannot be 0"
      else if exponent < 0 then
        match inverse base rest with
        | some inverse =>
          return .whole (powerRest inverse rest (exponent.natAbs.log2 + 2) exponent.natAbs)
        | none => failValue "base is not invertible for the given modulus"
      else return .whole (powerRest base rest (exponent.natAbs.log2 + 2) exponent.natAbs)
    | _, _, _ => failType "pow() 3rd argument not allowed unless all arguments are integers"
where
  inverse (value rest : Int) : Option Int :=
    let rec go : Nat -> Int -> Int -> Int -> Int -> Option Int
      | 0, _, _, _, _ => none
      | limit + 1, a, b, x, y =>
        if b = 0 then (if a = 1 then some (x.fmod rest) else none)
        else go limit b (a.fmod b) y (x - (a.fdiv b) * y)
    go 10000 (value.fmod rest) (rest.natAbs : Int) 1 0

/-! ## Names of attributes -/

def namesOf (value : Value) : Machine (List String) := do
  match <- callSpecial? engine value "__dir__" [] with
  | some found =>
    return (<- itemsOf engine found).filterMap fun
      | .text text => some text
      | _ => none
  | none =>
    let ofTable (address : Nat) : Machine (List String) := do
      return (<- tableAt address).values.filterMap fun (name, _) => match name with
        | .text text => some text
        | _ => none
    let own <- match <- ownTable? value with
      | some address => ofTable address
      | none => pure []
    let isPackage <- isFault value "module"
    let line <- match value with
      | .object address => match <- thingAt address with
        | .type facts => pure facts.line
        | thing => do pure (<- typeAt thing.typeNumber).line
      | value => do pure (<- typeAt (<- typeOf value)).line
    let said <- line.mapM fun address => do
      let facts <- typeAt address
      let native := if facts.isNative then functionsOf facts.name else []
      return native ++ (<- ofTable facts.names)
    let names := own ++ (if isPackage then [] else said.flatten)
    return (names.mergeSort (fun a b => decide (a <= b))).eraseReps

/-! ## All of them -/

def numberOfText (value : Value) : Machine Value := do
  match <- heldBy value with
  | .text text => match text.toList with
    | [c] => return .whole (numberOfChar c)
    | chars =>
      let count := numberText chars.length
      failType s!"ord() expected a character, but string of length {count} found"
  | .octets bytes =>
    if bytes.size = 1 then return .whole ((bytes.get! 0).toNat)
    else
      let count := numberText bytes.size
      failType s!"ord() expected a character, but string of length {count} found"
  | _ =>
    let name <- typeName value
    failType s!"ord() expected string of length 1, but {name} found"

def identity : Value -> Int
  | .object address => 140100000000000 + 64 * address
  | .nothing => 9484960
  | .truth holds => if holds then 9499392 else 9499424
  | .whole value => 140200000000000 + 32 * value
  | .text text => 140300000000000 + 16 * (text.hash.toNat % 1000000000)
  | _ => 140000000000000

def plainFunctions : List String :=
  Text.wordsIn "abs all any ascii bin callable chr delattr dir divmod format getattr hasattr hash
  hex id input isinstance issubclass iter len max min next oct open ord pow print repr round setattr
  sorted sum vars exit quit"

def isCallable (value : Value) : Machine Bool := do
  match value with
  | .builtIn _ => return true
  | .bound _ _ _ => return true
  | .unbound _ _ => return true
  | .object address => match <- thingAt address with
    | .function _ => return true
    | .method _ _ => return true
    | .type _ => return true
    | .loose _ => return true
    | .member _ _ _ => return (<- special? value "__call__").isSome
    | _ => return false
  | _ => return false

def isIterator (value : Value) : Machine Bool := do
  match value with
  | .object address => match <- thingAt address with
    | .iterator _ => return true
    | .generator _ _ => return true
    | .stream _ => return true
    | .member _ _ _ => return (<- special? value "__next__").isSome
    | _ => return false
  | _ => return false

def endingValue (value : Value) : Machine (List Value) := do
  match value with
  | .object address => match <- thingAt address with
    | .generator activation .ended =>
      setThing address (.generator { activation with stack := [] } .ended)
      return activation.stack.filter fun
        | .nothing => false
        | _ => true
    | _ => return []
  | _ => return []

def nextOrStop (value : Value) : Machine Value := do
  match <- special? value "__next__" with
  | some function => engine.call function [value] []
  | none => match <- nextOf engine value with
    | some found => return found
    | none => throw (.raised (<- newFault (nativeType "StopIteration") (<- endingValue value)))

def getNamed : Machine Value := do
  match <- given.take ["", "", ""] 2 with
  | [some value, some name, usual] => match <- heldBy name with
    | .text name => match usual with
      | none => attributeOf engine value name
      | some usual =>
        let asked : Machine Value := attributeOf engine value name
        return (<- orNothing "AttributeError" asked).getD usual
    | _ => failType "attribute name must be string, not 'int'"
  | _ => failType "getattr expected at least 2 arguments"

def plainFunction (name : String) (given : Arguments) : Machine Value := do
  match name with
  | "print" => printValues engine given
  | "len" =>
    let value <- given.one
    match <- sizeOf? engine value with
    | some size => return .whole size
    | none => failType s!"object of type '{← typeName value}' has no len()"
  | "abs" => sizeOfNumber engine (<- given.one)
  | "all" => return .truth (<- (<- itemsUpTo false (<- given.one)).allM (isTrue engine))
  | "any" => return .truth (<- (<- itemsUpTo true (<- given.one)).anyM (isTrue engine))
  | "ascii" => return .text (<- plainRepr engine (<- given.one))
  | "bin" => return .text (inBase 2 "0b" (<- indexOf engine (<- given.one)))
  | "oct" => return .text (inBase 8 "0o" (<- indexOf engine (<- given.one)))
  | "hex" => return .text (inBase 16 "0x" (<- indexOf engine (<- given.one)))
  | "callable" => return .truth (<- isCallable (<- given.one))
  | "chr" =>
    let number <- indexOf engine (<- given.one)
    if number < 0 || 0x10ffff < number then failValue "chr() arg not in range(0x110000)"
    else return .text (.singleton (charOfNumber number.toNat))
  | "ord" => numberOfText (<- given.one)
  | "delattr" => match <- given.take ["", ""] 2 with
    | [some value, some (.text name)] =>
      deleteAttribute engine value name
      return .nothing
    | _ => failType "attribute name must be string"
  | "setattr" => match <- given.take ["", "", ""] 3 with
    | [some value, some (.text name), some new] =>
      setAttribute engine value name new
      return .nothing
    | _ => failType "attribute name must be string"
  | "getattr" => getNamed engine given
  | "hasattr" => match <- given.take ["", ""] 2 with
    | [some value, some (.text name)] =>
      let asked : Machine Value := attributeOf engine value name
      return .truth (<- orNothing "AttributeError" asked).isSome
    | _ => failType "hasattr(): attribute name must be string"
  | "dir" => newList ((<- namesOf engine (<- given.one)).map .text)
  | "divmod" => match <- given.take ["", ""] 2 with
    | [some left, some right] => match <- callSpecial? engine left "__divmod__" [right] with
      | some found => return found
      | none => match figure? (<- heldBy left), figure? (<- heldBy right) with
        | some _, some _ =>
          return .tuple [<- binary engine .wholly left right, <- binary engine .rest left right]
        | _, _ => unsupported "divmod()" left right
    | _ => failType "divmod expected 2 arguments"
  | "format" =>
    let found <- given.take ["", ""] 1
    match givenAt found 1 with
    | none => return .text (<- formOf engine ((givenAt found 0).getD .nothing) "")
    | some (.text form) => return .text (<- formOf engine ((givenAt found 0).getD .nothing) form)
    | some value => failType s!"format() argument 2 must be str, not {← typeName value}"
  | "hash" =>
    let key <- keyOf engine (<- given.one)
    return .whole ((Key.hash? 100 key).getD ((hash key).toNat % Nat.pow 2 61 : Nat))
  | "id" => return .whole (identity (<- given.one))
  | "input" => askLine engine given
  | "isinstance" => match <- given.take ["", ""] 2 with
    | [some value, some type] => return .truth (<- isInstance engine value 20 type)
    | _ => failType "isinstance expected 2 arguments"
  | "issubclass" => match <- given.take ["", ""] 2 with
    | [some (.object address), some base] => match <- thingAt address with
      | .type _ => return .truth (<- buildsOn engine address 20 base)
      | _ => failType "issubclass() arg 1 must be a class"
    | _ => failType "issubclass() arg 1 must be a class"
  | "iter" => match <- given.take ["", ""] 1 with
    | [some function, some ending] => newObject (.iterator (.calls function ending))
    | [some value, none] => iteratorOf engine value
    | _ => failType "iter expected at least 1 argument, got 0"
  | "next" =>
    let found <- given.take ["", ""] 1
    let value := (givenAt found 0).getD .nothing
    if !(<- isIterator value) then failType s!"'{← typeName value}' object is not an iterator"
    match givenAt found 1 with
    | none => nextOrStop engine value
    | some usual => return (<- nextOf engine value).getD usual
  | "max" => extremeOf engine true given
  | "min" => extremeOf engine false given
  | "open" => openFileAs engine given
  | "pow" => powerOf engine given
  | "repr" => return .text (<- reprOf engine (<- given.one))
  | "round" => roundValue engine given
  | "sorted" => match given.placed with
    | [source] => newList (<- sortedAs engine (<- itemsOf engine source) given.named)
    | placed =>
      let count := numberText placed.length
      failType s!"sorted expected 1 argument, got {count}"
  | "sum" => sumOf engine given
  | "vars" =>
    let value <- given.one
    match <- attribute? engine value "__dict__" with
    | some found => return found
    | none => failType "vars() argument must have __dict__ attribute"
  | "exit" => throw (.raised (<- newFault (nativeType "SystemExit") given.placed))
  | "quit" => throw (.raised (<- newFault (nativeType "SystemExit") given.placed))
  | name => fail "NameError" s!"name '{name}' is not defined"
where
  itemsUpTo (wanted : Bool) (source : Value) : Machine (List Value) := do
    let iterator <- iteratorOf engine source
    let rec go : Nat -> Machine (List Value)
      | 0 => return []
      | limit + 1 => do
        let some value <- nextOf engine iterator | return []
        let holds <- isTrue engine value
        if holds == wanted then return [.truth holds] else go limit
    let found <- go mostSteps
    return if found.isEmpty then [.truth (!wanted)] else found

end

end BaseLanguage.Shell.Objects
