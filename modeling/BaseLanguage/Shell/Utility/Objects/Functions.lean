import BaseLanguage.Shell.Utility.Objects.Searching

namespace BaseLanguage.Shell.Objects

open Text

/-!
# Functions of types

The types that are always there have functions for their values: some with special names, which do
what operators do, and others by their own names.
-/

section

variable (engine : Engine)

/-! ## What is raised -/

def faultOf (value : Value) : Machine Value := do
  let wrong : Machine Value := failType "exceptions must derive from BaseException"
  match value with
  | .object address => match <- thingAt address with
    | .type facts =>
      if facts.line.contains (nativeType "BaseException") then engine.call value [] [] else wrong
    | .member type _ _ => if <- isSubtype type (nativeType "BaseException") then return value else wrong
    | _ => wrong
  | _ => wrong

/-! ## Generators -/

def endGenerator (address : Nat) : Machine Unit :=
  changeThing address fun
    | .generator activation _ => .generator { activation with stack := [] } .ended
    | thing => thing

def generatorFunction (name : String) (self : Value) (address : Nat) (progress : Progress)
    (given : Arguments) : Machine Value := do
  let orStop (found : Option Value) : Machine Value := do
    match found with
    | some found => return found
    | none => throw (.raised (<- newFault (nativeType "StopIteration") (<- endingValue self)))
  match name with
  | "send" =>
    let value <- given.one
    match progress, value with
    | .fresh, .nothing => orStop (<- engine.resume address .nothing none)
    | .fresh, _ => failType "can't send non-None value to a just-started generator"
    | _, value => orStop (<- engine.resume address value none)
  | "throw" => match given.placed with
    | first :: rest =>
      let fault <- match first, rest with
        | .object type, value :: _ => do
          match <- thingAt type, value with
          | .type _, .nothing => faultOf engine first
          | .type _, value => engine.call first [value] []
          | _, _ => faultOf engine first
        | first, _ => faultOf engine first
      match progress with
      | .fresh =>
        endGenerator address
        throw (.raised fault)
      | .ended => throw (.raised fault)
      | _ => orStop (<- engine.resume address .nothing (some fault))
    | [] => failType "throw expected at least 1 argument, got 0"
  | _ =>
    given.check
    match progress with
    | .paused =>
      let fault <- newFault (nativeType "GeneratorExit") []
      let resumed := orNothing "StopIteration" (engine.resume address .nothing (some fault))
      match <- orNothing "GeneratorExit" resumed with
      | some (some (some _)) => fail "RuntimeError" "generator ignored GeneratorExit"
      | _ => endGenerator address
    | _ => endGenerator address
    return .nothing

/-! ## Streams -/

def linesLeft (address : Nat) : Nat -> Array Value -> Machine (Array Value)
  | 0, done => return done
  | limit + 1, done => do
    match <- nextLine address with
    | some line => linesLeft address limit (done.push line)
    | none => return done

def placeOfStream (address : Nat) : Machine Nat := do
  flush address
  let facts <- streamAt address
  match facts.memory, facts.stream with
  | some _, _ => return facts.place - facts.rest.size
  | none, some stream =>
    let session <- sessionNow
    match session.stream? stream with
    | some (.opened number) =>
      return ((session.opened[number]?).map (·.offset)).getD 0 - facts.rest.size
    | _ => failSystem 29 []
  | none, none => return 0

def sizeOfStream (address : Nat) : Machine Nat := do
  let facts <- streamAt address
  match facts.memory, facts.stream with
  | some memory, _ => return memory.size
  | none, some stream =>
    let session <- sessionNow
    match session.stream? stream with
    | some (.opened number) =>
      let node? := (session.opened[number]?).bind (session.files.node? ·.node)
      return (node?.map (·.size)).getD 0
    | _ => return 0
  | none, none => return 0

def moveStream (address place : Nat) : Machine Unit := do
  flush address
  let facts <- streamAt address
  changeStream address ({ · with rest := .empty, ended := false, place })
  match facts.memory, facts.stream with
  | none, some stream =>
    let session <- sessionNow
    match session.stream? stream with
    | some (.opened number) =>
      let moved : Act Unit := modify fun session =>
        { session with opened := session.opened.modify number fun opening =>
          { opening with offset := place } }
      liftM moved
    | _ => failSystem 29 []
  | _, _ => pure ()

def writeValue (address : Nat) (value : Value) : Machine Value := do
  let facts <- streamAt address
  match <- heldBy value, facts.isBinary with
  | .text text, false =>
    sayText address text
    return .whole text.length
  | .text _, true => failType "a bytes-like object is required, not 'str'"
  | _, false =>
    let what := if facts.memory.isSome then "string argument expected, got " else
      "write() argument must be str, not "
    let name <- typeName value
    failType (what ++ if facts.memory.isSome then s!"'{name}'" else name)
  | .octets bytes, true =>
    sayBytes address bytes
    return .whole bytes.size
  | .object inner, true => match <- thingAt inner with
    | .octets bytes =>
      sayBytes address bytes
      return .whole bytes.size
    | _ => failType s!"a bytes-like object is required, not '{← typeName value}'"
  | _, true => failType s!"a bytes-like object is required, not '{← typeName value}'"

def streamFunction (name : String) (address : Nat) (given : Arguments) : Machine Value := do
  let self := .object address
  let facts <- streamAt address
  let sizeGiven : Machine (Option Nat) := do
    match givenAt (<- given.take [""] 0) 0 with
    | none => return none
    | some .nothing => return none
    | some value =>
      let number <- indexOf engine value
      return if number < 0 then none else some number.toNat
  match name with
  | "read" => match <- sizeGiven with
    | none => readAll address
    | some size =>
      checkReading address
      readSome address size mostWaits
  | "read1" =>
    checkReading address
    readSome address ((<- sizeGiven).getD blockSize) mostWaits
  | "readline" => match <- sizeGiven with
    | some size =>
      -- The line is read whole, and what is too much of it goes back.
      checkReading address
      let line <- readLine address mostWaits
      let (front, back) := match line with
        | .text text => (.text (.ofList (text.toList.take size)),
            encodedText (.ofList (text.toList.drop size)))
        | .octets bytes => (.octets (bytes.extract 0 size), bytes.extract size bytes.size)
        | value => (value, .empty)
      changeStream address (fun facts => { facts with rest := back ++ facts.rest })
      return front
    | none =>
      checkReading address
      readLine address mostWaits
  | "readlines" => newObject (.list (<- linesLeft address mostWaits #[]))
  | "write" => writeValue address (<- given.one)
  | "writelines" =>
    (<- itemsOf engine (<- given.one)).forM fun line => do discard <| writeValue address line
    return .nothing
  | "close" =>
    closeStream address
    return .nothing
  | "flush" =>
    if !facts.isOpen then failValue "I/O operation on closed file."
    flush address
    return .nothing
  | "detach" =>
    flush address
    attributeOf engine self "buffer"
  | "reconfigure" =>
    let textNamed (name : String) : Option String := match given.named.lookup name with
      | some (.text text) => some text
      | _ => none
    let eager := match given.named.lookup "line_buffering" with
      | some (.truth holds) => holds
      | _ => facts.isEager
    changeStream address fun facts =>
      { facts with
        encoding := ((textNamed "encoding").map spellingName).getD facts.encoding
        errors := (textNamed "errors").getD facts.errors
        isEager := eager
        lineEnd := (textNamed "newline").orElse fun _ => facts.lineEnd }
    return .nothing
  | "fileno" => match facts.stream with
    | some stream => return .whole stream
    | none => fail "UnsupportedOperation" "fileno"
  | "isatty" => return .truth false
  | "readable" => return .truth facts.reads
  | "writable" => return .truth facts.writes
  | "seekable" =>
    let session <- sessionNow
    return .truth (facts.memory.isSome || match facts.stream.bind session.stream? with
      | some (.opened _) => true
      | _ => false)
  | "seek" =>
    let found <- given.take ["", ""] 1
    let offset <- indexOr engine 0 (givenAt found 0)
    let base <- match <- indexOr engine 0 (givenAt found 1) with
      | 0 => pure 0
      | 1 => placeOfStream address
      | _ => do
        flush address
        sizeOfStream address
    let place := (offset + base).toNat
    moveStream address place
    return .whole place
  | "tell" => return .whole (<- placeOfStream address)
  | "truncate" =>
    let size <- match <- sizeGiven with
      | some size => pure size
      | none => placeOfStream address
    match facts.memory, facts.name with
    | some memory, _ => changeStream address ({ · with memory := some (memory.extract 0 size) })
    | none, .text file =>
      flush address
      match <- readNamed (octetsOfText file) with
      | .ok bytes =>
        let kept := bytes.extract 0 size
        let padded := kept ++ ⟨Array.replicate (size - kept.size) 0⟩
        discard <| writeNamed .writing (octetsOfText file) padded
      | .error _ => pure ()
    | _, _ => pure ()
    return .whole size
  | "getvalue" => match facts.memory with
    | some memory =>
      if !facts.isOpen then failValue "I/O operation on closed file."
      return if facts.isBinary then .octets memory else .text (decodedText memory)
    | none => lacksAttribute self name
  | "getbuffer" => return .octets (facts.memory.getD .empty)
  | "__enter__" =>
    if !facts.isOpen then failValue "I/O operation on closed file."
    return self
  | "__exit__" =>
    closeStream address
    return .nothing
  | "__iter__" => return self
  | "__next__" => nextOrStop engine self
  | name => lacksAttribute self name

/-! ## Functions with special names -/

def operatorNames : List (String × Operator) :=
  [.plus, .minus, .times, .matrixTimes, .divided, .wholly, .rest, .power, .left, .right,
    .both, .either, .other].map fun operator => (operator.name, operator)

def specialMiddle? (name : String) : Option String :=
  if name.startsWith "__" && name.endsWith "__" && 4 < name.length then
    some (.ofList ((name.toList.drop 2).take (name.length - 4)))
  else none

def plainObjectText (self : Value) : Machine String := do
  let facts <- typeAt (<- typeOf self)
  match self with
  | .object address => return s!"<{facts.wholeName} object at {placeText address}>"
  | _ => reprOf engine self

def objectFunction (name : String) (self : Value) (given : Arguments) : Machine Value := do
  let arguments := given.placed
  let held <- heldBy self
  let isFaultValue <- isFault self "BaseException"
  match name, arguments with
  | "__init__", _ =>
    fillMember engine self given
    return .nothing
  | "__repr__", _ =>
    if isFaultValue then
      let inside := ", ".intercalate (<- (<- faultArguments self).mapM (reprOf engine))
      return .text s!"{← typeName self}({inside})"
    else match self, held with
      | .object _, .object _ =>
        if isOne self held then return .text (<- plainObjectText engine self)
        else return .text (<- reprOf engine held)
      | _, held => return .text (<- reprOf engine held)
  | "__str__", _ =>
    if isFaultValue then
      match <- faultArguments self with
      | [] => return .text ""
      | [value] => return .text (<- strOf engine value)
      | values => return .text (<- reprOf engine (.tuple values))
    else match held with
      | .text _ => return held
      | _ => return .text (<- reprOf engine self)
  | "__eq__", [other] => match self, held with
    | .object _, .object _ =>
      if isOne self held then return if isOne self other then .truth true else .notImplemented
      else related engine .same held (<- heldBy other)
    | _, held => related engine .same held (<- heldBy other)
  | "__ne__", [other] => match <- callSpecial? engine self "__eq__" [other] with
    | some .notImplemented => return .notImplemented
    | some found => return .truth (!(<- isTrue engine found))
    | none => related engine .different held (<- heldBy other)
  | "__hash__", _ =>
    if isOne self held then return .whole (identity self)
    else plainFunction engine "hash" { given with placed := [held] }
  | "__setattr__", [.text key, new] =>
    setAttribute.setByType engine self key new
    return .nothing
  | "__delattr__", [.text key] =>
    match <- changedTable? self with
    | some table => match <- namedIn? table key with
      | some _ => changeTable table (·.erase (.text key))
      | none => lacksAttribute self key
    | none => lacksAttribute self key
    return .nothing
  | "__getattribute__", [.text key] => attributeOf engine self key
  | "__format__", [.text form] =>
    if form.isEmpty then return .text (<- strOf engine self) else return .text (<- formOf engine held form)
  | "__init_subclass__", _ => match given.named with
    | [] => return .nothing
    | _ => failType s!"{← typeName self}.__init_subclass__() takes no keyword arguments"
  | "__subclasshook__", _ => return .notImplemented
  | "__dir__", _ => newList ((<- namesOf engine self).map .text)
  | "__sizeof__", _ => return .whole 64
  | name, _ => lacksAttribute self name

def specialFunction (name : String) (self : Value) (given : Arguments) : Machine Value := do
  let held <- heldBy self
  let arguments := given.placed
  let middle := (specialMiddle? name).getD ""
  let orNot (work : Machine Value) : Machine Value := do
    return (<- orNothing "TypeError" work).getD .notImplemented
  match operatorNames.lookup middle, arguments with
  | some operator, other :: _ => orNot (binary engine operator held (<- heldBy other))
  | _, _ =>
    match operatorNames.lookup (.ofList (middle.toList.drop 1)), middle.startsWith "r",
        middle.startsWith "i", arguments with
    | some operator, true, _, [other] => orNot (binary engine operator (<- heldBy other) held)
    | some operator, _, true, [other] =>
      let changed <- changedBy engine operator held (<- heldBy other)
      return if isOne changed held then self else changed
    | _, _, _, _ => match middle, arguments with
      | "len", [] => match <- sizeOf? engine held with
        | some size => return .whole size
        | none => failType s!"object of type '{← typeName self}' has no len()"
      | "iter", [] => iteratorOf engine held
      | "next", [] => nextOrStop engine held
      | "getitem", [index] => itemOf engine held index
      | "setitem", [index, new] =>
        setItem engine held index new
        return .nothing
      | "delitem", [index] =>
        deleteItem engine held index
        return .nothing
      | "contains", [part] => return .truth (<- contains engine held part)
      | "lt", [other] => orNot (related engine .less held (<- heldBy other))
      | "le", [other] => orNot (related engine .lessOrSame held (<- heldBy other))
      | "gt", [other] => orNot (related engine .greater held (<- heldBy other))
      | "ge", [other] => orNot (related engine .greaterOrSame held (<- heldBy other))
      | "neg", [] => signed engine .minus held
      | "pos", [] => signed engine .plus held
      | "invert", [] => signed engine .opposite held
      | "abs", [] => sizeOfNumber engine held
      | "bool", [] => return .truth (<- isTrue engine held)
      | "int", [] => makeWhole engine { given with placed := [held] }
      | "trunc", [] => makeWhole engine { given with placed := [held] }
      | "index", [] => return .whole (<- indexOf engine held)
      | "float", [] => makeReal engine { given with placed := [held] }
      | "round", _ => roundValue engine { given with placed := held :: arguments }
      | "divmod", [_] => plainFunction engine "divmod" { given with placed := held :: arguments }
      | "reversed", [] => makeReversed engine held
      | "floor", [] =>
        binary engine .wholly held (.whole 1) >>= fun found =>
          makeWhole engine { given with placed := [found] }
      | "ceil", [] =>
        signed engine .minus held >>= fun found =>
          binary engine .wholly found (.whole 1) >>= fun found =>
            signed engine .minus found >>= fun found =>
              makeWhole engine { given with placed := [found] }
      | "call", _ => engine.call self given.placed given.named
      | _, _ => objectFunction engine name self given

/-! ## All functions of types -/

def changedBytes (name : String) (address : Nat) (bytes : ByteArray) (given : Arguments) :
    Machine Value := do
  let byteOf (value : Value) : Machine UInt8 := do
    let number <- indexOf engine value
    if number < 0 || 255 < number then failValue "byte must be in range(0, 256)"
    return UInt8.ofNat number.toNat
  let put (bytes : ByteArray) : Machine Value := do
    setThing address (.octets bytes)
    return .nothing
  match name with
  | "append" => put (bytes.push (<- byteOf (<- given.one)))
  | "extend" => put (bytes ++ (<- bytesGiven engine given))
  | "clear" => put .empty
  | "reverse" => put ⟨bytes.data.reverse⟩
  | "copy" => newObject (.octets bytes)
  | "pop" =>
    if bytes.isEmpty then fail "IndexError" "pop from empty bytearray"
    let index <- indexOr engine (-1) (givenAt (<- given.take [""] 0) 0)
    let place := (if index < 0 then index + bytes.size else index).toNat
    if bytes.size <= place then fail "IndexError" "pop index out of range"
    discard <| put (bytes.extract 0 place ++ bytes.extract (place + 1) bytes.size)
    return .whole (bytes.get! place).toNat
  | "insert" => match <- given.take ["", ""] 2 with
    | [some index, some value] =>
      let place := min bytes.size (<- indexOf engine index).toNat
      put (bytes.extract 0 place ++ ByteArray.empty.push (<- byteOf value) ++
        bytes.extract place bytes.size)
    | _ => return .nothing
  | "remove" =>
    let byte <- byteOf (<- given.one)
    match bytes.toList.findIdx? (· = byte) with
    | some place => put (bytes.extract 0 place ++ bytes.extract (place + 1) bytes.size)
    | none => failValue "value not found in bytearray"
  | name =>
    let result <- textFunction engine true name (octetsOf bytes) given
    match result with
    | .octets found => newObject (.octets found)
    | result => return result

def realFromHex? (text : Chars) : Option Float :=
  let text := (text.dropWhile isSpace).reverse.dropWhile isSpace |>.reverse
  let negative := text.head? == some '-'
  let text := if negative || text.head? == some '+' then text.drop 1 else text
  let digits := match text with
    | '0' :: 'x' :: rest => rest
    | '0' :: 'X' :: rest => rest
    | text => text
  match hexadecimalFraction? digits with
  | some (found, []) => some (realOf negative found.numerator found.denominator)
  | _ => none

def digestFunction (name kind : String) (address : Nat) (bytes : ByteArray) (given : Arguments) :
    Machine Value := do
  let digest : List UInt8 := ((DigestKind.named.lookup kind).map (·.digest bytes)).getD []
  match name with
  | "update" => match <- given.one with
    | .text _ => failType "Strings must be encoded before hashing"
    | _ =>
      setThing address (.digest kind (bytes ++ (<- bytesGiven engine given)))
      return .nothing
  | "digest" => return .octets ⟨digest.toArray⟩
  | "hexdigest" => return .text (hexText digest)
  | _ => newObject (.digest kind bytes)

def typeFunction (type name : String) (self : Value) (given : Arguments) : Machine Value := do
  let held <- heldBy self
  let wrong : Machine Value := do
    failType s!"descriptor '{name}' for '{type}' objects doesn't apply to a '{← typeName self}' object"
  if type = "object" then objectFunction engine name self given
  else match type, held with
    | "type", .object address => match <- thingAt address, name with
      | .type facts, "mro" => newList (typeValues facts.line)
      | .type _, "__call__" => engine.call self given.placed given.named
      | .type _, "__instancecheck__" => return .truth (<- isInstance engine (<- given.one) 20 self)
      | .type _, "__subclasses__" =>
        let state <- get
        let found := (List.range state.things.size).filter fun number =>
          match state.things.getD number default with
          | .type facts => facts.bases.contains address
          | _ => false
        newList (found.map .object)
      | _, _ => lacksAttribute self name
    | "property", .object address => match <- thingAt address, name with
      | .property getter setter doc, "setter" =>
        newObject (.property getter (<- given.one) doc) <* pure setter
      | .property _ setter doc, "getter" => newObject (.property (<- given.one) setter doc)
      | .property getter setter doc, "deleter" => newObject (.property getter setter doc)
      | .property getter _ _, "__get__" => engine.call getter (given.placed.take 1) []
      | .property _ setter _, "__set__" => engine.call setter given.placed []
      | _, _ => wrong
    | "function", .object address => match name with
      | "__get__" => match given.placed with
        | .nothing :: _ => return .object address
        | value :: _ => newObject (.method self value)
        | [] => wrong
      | _ => engine.call self given.placed given.named
    | "generator", .object address => match <- thingAt address, name with
      | .generator _ _, "__iter__" => return self
      | .generator _ _, "__next__" => nextOrStop engine self
      | .generator _ progress, name => generatorFunction engine name self address progress given
      | _, _ => wrong
    | "BaseException", _ => match name with
      | "add_note" =>
        let notes <- match <- attribute? engine self "__notes__" with
          | some notes => itemsOf engine notes
          | none => pure []
        setPlainAttribute engine self "__notes__" (<- newList (notes ++ [<- given.one]))
        return .nothing
      | _ => return self
    | type, .object address => match <- thingAt address with
      | .stream _ => streamFunction engine name address given
      | thing =>
        if (specialMiddle? name).isSome then
          match thing with
          | .found _ _ _ _ _ => foundFunction engine name address given
          | _ => specialFunction engine name self given
        else match thing with
          | .list _ => if type = "list" then listFunction engine name address given else wrong
          | .dict _ => if type = "dict" then dictFunction engine name self address given else wrong
          | .set _ isFixed =>
            if type = "set" || type = "frozenset" then setFunction engine name address isFixed given
            else wrong
          | .octets bytes => changedBytes engine name address bytes given
          | .pattern _ _ _ => patternFunction engine name address given
          | .found _ _ _ _ _ => foundFunction engine name address given
          | .digest kind bytes => digestFunction engine name kind address bytes given
          | .view kind table =>
            let items := viewItems kind (<- tableAt table)
            let found <- setOfValues engine items
            let other <- setGiven engine (<- given.one)
            return .truth (found.keys.all (!other.contains ·))
          | .type _ =>
            if type = "dict" && name = "fromkeys" then dictFunction engine name self address given
            else if type = "int" then wholeFunction engine name self given
            else if type = "bytes" then textFunction engine true name [] given
            else if type = "bytearray" then changedBytes engine name address .empty given
            else if type = "float" then
              match <- given.one with
              | .text text => match realFromHex? text.toList with
                | some value => return .real value
                | none => failValue "invalid hexadecimal floating-point string"
              | _ => failType "bad argument type for built-in operation"
            else wrong
          | _ => wrong
    | type, held =>
      if (specialMiddle? name).isSome then specialFunction engine name self given
      else match type, held with
        | "str", .text text => textFunction engine false name text.toList given
        | "bytes", .octets bytes => textFunction engine true name (octetsOf bytes) given
        | "int", .whole value => wholeFunction engine name (.whole value) given
        | "int", .truth holds => wholeFunction engine name (.whole (if holds then 1 else 0)) given
        | "float", .real value => realFunction name value given
        | "tuple", .tuple items => match name with
          | "index" => indexIn engine items "tuple" given
          | _ => countIn engine items given
        | "range", .range first last step =>
          let wanted <- given.one
          let isIn <- contains engine held wanted
          match name with
          | "count" => return .whole (if isIn then 1 else 0)
          | _ =>
            let wanted <- indexOf engine wanted
            if isIn then return .whole ((wanted - first) / step)
            else failValue s!"{wholeText wanted} is not in range" <* pure last
        | "slice", .slice first last step => sliceIndices engine first last step given
        | _, _ => wrong

end

/-!
## Activations

A function begins with its arguments in its slots.  What cannot be called, or not with such arguments,
is told in words that name the parameters.
-/

/-! ## Arguments -/

def namesInWords (names : List String) : String :=
  let quoted := names.map (fun name => s!"'{name}'")
  match quoted.reverse with
  | [] => ""
  | [name] => name
  | [last, first] => s!"{first} and {last}"
  | last :: rest =>
    let front := ", ".intercalate rest.reverse
    s!"{front}, and {last}"

def failMissing (function kind : String) (names : List String) : Machine α := do
  let words := namesInWords names
  let plural := if names.length = 1 then "" else "s"
  failType
    (s!"{function}() missing {numberText names.length} required {kind} " ++
      s!"argument{plural}: {words}")

def failTooMany (function : String) (code : Code) (defaults given : Nat) (named : Nat) :
    Machine α := do
  let most := code.placed
  let least := most - defaults
  let plural := most ≠ 1
  let taken := if defaults = 0 then numberText most
    else s!"from {numberText least} to {numberText most}"
  let word := if plural || defaults ≠ 0 then "arguments" else "argument"
  let extra := if named = 0 then ""
    else
      let word := if given = 1 then "argument" else "arguments"
      let other := if named = 1 then "argument" else "arguments"
      s!" positional {word} (and {numberText named} keyword-only {other})"
  let verb := if given = 1 && named = 0 then "was" else "were"
  failType
    (s!"{function}() takes {taken} positional {word} but {numberText given}{extra} " ++
      s!"{verb} given")

def slotsFor (facts : FunctionFacts) (code : Code) (placed : List Value)
    (named : List (String × Value)) : Machine (Array (Option Value)) := do
  let count := placed.length
  if named.isEmpty && count = code.placed && code.named = 0 && !code.hasRest &&
      !code.hasNamedRest then
    -- The usual case: all parameters are given by their places.
    let slots := placed.foldl (fun (slots : Array (Option Value)) value => slots.push (some value))
      (Array.mkEmpty code.slots.size)
    return slots ++ Array.replicate (code.slots.size - count) none
  else
    let function := facts.qualified
    let own := placed.take code.placed
    let slots : Array (Option Value) := (own.map some).toArray ++
      Array.replicate (code.slots.size - own.length) none
    let total := code.placed + code.named
    let step (found : Array (Option Value) × List (String × Value) × List String)
        (entry : String × Value) :
        Machine (Array (Option Value) × List (String × Value) × List String) := do
      let (slots, others, wrong) := found
      let (name, value) := entry
      match (code.slots.extract 0 total).findIdx? (· = name) with
      | some index =>
        if index < code.onlyPlaced then
          if code.hasNamedRest then return (slots, entry :: others, wrong)
          else return (slots, others, name :: wrong)
        else if (slots.getD index none).isSome then
          failType s!"{function}() got multiple values for argument '{name}'"
        else return (slots.set! index (some value), others, wrong)
      | none =>
        if code.hasNamedRest then return (slots, entry :: others, wrong)
        else failType s!"{function}() got an unexpected keyword argument '{name}'"
    let (slots, others, wrong) <- named.foldlM step (slots, [], [])
    if !wrong.isEmpty then
      let shown := ", ".intercalate wrong.reverse
      failType
        (s!"{function}() got some positional-only arguments passed as keyword arguments: " ++
          s!"'{shown}'")
    if code.placed < count && !code.hasRest then
      let given := ((slots.extract code.placed total).toList.filter Option.isSome).length
      failTooMany function code facts.defaults.length count given
    let firstDefault := code.placed - facts.defaults.length
    let filled := (List.range code.placed).foldl
      (fun (slots : Array (Option Value)) index =>
        if (slots.getD index none).isNone && firstDefault <= index then
          slots.set! index facts.defaults[index - firstDefault]?
        else slots) slots
    let missing := (List.range code.placed).filter fun index => (filled.getD index none).isNone
    if !missing.isEmpty then failMissing function "positional" (missing.map (code.slots.getD · ""))
    let filled := (List.range code.named).foldl
      (fun (slots : Array (Option Value)) offset =>
        let index := code.placed + offset
        if (slots.getD index none).isNone then
          slots.set! index (List.lookup (code.slots.getD index "") facts.namedDefaults)
        else slots) filled
    let missing := ((List.range code.named).map (code.placed + ·)).filter
      fun index => (filled.getD index none).isNone
    if !missing.isEmpty then
      failMissing function "keyword-only" (missing.map (code.slots.getD · ""))
    let filled := if code.hasRest then filled.set! total (some (.tuple (placed.drop code.placed)))
      else filled
    if code.hasNamedRest then
      let table <- newTable (.ofNames others.reverse)
      return filled.set! (if code.hasRest then total + 1 else total) (some (.object table))
    else return filled

/-! ## Scopes -/

def newScope (scope : Scope) : Machine Nat :=
  modifyGet fun state => (state.scopes.size, { state with scopes := state.scopes.push scope })

def scopeAround (scopes : Array Scope) : Nat -> Nat -> Nat
  | 0, scope => scope
  | depth + 1, scope => scopeAround scopes depth (scopes.getD scope default).parent

def slotIn? (scope slot : Nat) : Machine (Option Value) := do
  return ((<- get).scopes.getD scope default).slots.getD slot none

def setSlot (scope slot : Nat) (value : Option Value) : Machine Unit :=
  modify fun state => { state with
    scopes := state.scopes.modify scope fun scope =>
      { scope with slots := scope.slots.set! slot value } }

def typeAround? (scopes : Array Scope) : Nat -> Nat -> Option Nat
  | 0, _ => none
  | limit + 1, scope =>
    let found := scopes.getD scope default
    match found.type with
    | some type => some type
    | none => if scope = 0 then none else typeAround? scopes limit found.parent

def activationOf (facts : FunctionFacts) (code : Code) (placed : List Value)
    (named : List (String × Value)) : Machine Activation := do
  let slots <- slotsFor facts code placed named
  let scope <- newScope { slots, parent := facts.scope }
  return { code, scope, globals := facts.globals, names := facts.globals }

def ownNames (activation : Activation) : Machine Nat := do
  match activation.code.kind with
  | .function =>
    let scopes := (<- get).scopes
    let slots := (scopes.getD activation.scope default).slots
    let entries := (activation.code.slots.toList.zip slots.toList).filterMap
      fun (name, value) => value.map (name, ·)
    newTable (.ofNames entries)
  | _ => return activation.names

/-! ## What is called -/

section

variable (engine : Engine)

def superHere (activation : Activation) : Machine Value := do
  let state <- get
  let own <- slotIn? activation.scope 0
  match typeAround? state.scopes 100 activation.scope, own with
  | some type, some self => newObject (.super type self type)
  | none, _ => fail "RuntimeError" "super(): __class__ cell not found"
  | _, none => fail "RuntimeError" "super(): no arguments"

/-- What a call comes to at once, or the activation that has to be run for it.  What is called may ask
for the names of the activation that calls it. -/
def prepare (here : Activation) :
    Nat -> Value -> List Value -> List (String × Value) -> Machine (Value ⊕ Activation)
  | 0, _, _, _ => fail "RecursionError" "maximum recursion depth exceeded while calling a Python object"
  | limit + 1, function, placed, named => do
    match function with
    | .builtIn name => return .inl (<- engine.builtIn here name placed named)
    | .bound self type name =>
      if name = "__call__" then prepare here limit self placed named
      else
        let own := if name.startsWith "__" then name else s!"{type}.{name}"
        return .inl (<- typeFunction engine type name self { function := own, placed, named })
    | .unbound type name =>
      let own := if name.startsWith "__" then name else s!"{type}.{name}"
      if isFree type name then
        if name = "__new__" then
          match placed with
          | .object address :: rest =>
            return .inl (<- newMember engine address
              { function := (<- typeAt address).name, placed := rest, named })
          | _ => failType "object.__new__(): not enough arguments"
        else
          return .inl (<- typeFunction engine type name (.text "")
            { function := own, placed, named })
      else match placed with
        | self :: rest =>
          if !(<- isOfType self (nativeType type)) then
            failType
              (s!"descriptor '{name}' for '{type}' objects doesn't apply to a " ++
                s!"'{← typeName self}' object")
          return .inl (<- typeFunction engine type name self
            { function := own, placed := rest, named })
        | [] => failType s!"unbound method {type}.{name}() needs an argument"
    | .object address => match <- thingAt address with
      | .function facts =>
        let code := (<- get).codes.getD facts.code default
        let activation <- activationOf facts code placed named
        if code.isGenerator then return .inl (<- newObject (.generator activation .fresh))
        else return .inr activation
      | .method inner self => prepare here limit inner (self :: placed) named
      | .type facts =>
        if facts.isNative && facts.name = "super" && placed.isEmpty then
          return .inl (<- superHere here)
        else return .inl (<- make engine address placed named)
      | .loose inner => prepare here limit inner placed named
      | .member _ _ _ => match <- special? function "__call__" with
        | some (.object inner) => match <- thingAt inner with
          | .loose own => prepare here limit own placed named
          | _ => prepare here limit (.object inner) (function :: placed) named
        | some inner => prepare here limit inner (function :: placed) named
        | none => failType s!"'{← typeName function}' object is not callable"
      | _ => failType s!"'{← typeName function}' object is not callable"
    | function => failType s!"'{← typeName function}' object is not callable"

end

end BaseLanguage.Shell.Objects
