import BaseLanguage.Shell.Utility.Objects.Assembling
import BaseLanguage.Shell.Utility.Running
import BaseLanguage.Text.OrderedPattern.Reader

namespace BaseLanguage.Shell.Objects

open Text

/-!
# Objects

Whatever may change is an object, and so are types, functions and packages.  An object is known by
its address, and stays as long as the program runs.
-/

/-- A type: its attributes are in a table, and its line tells in which order types are asked for what
it does not say itself. -/
structure TypeFacts where
  name : String
  qualified : String := ""
  package : String := "builtins"
  bases : List Nat := []
  line : List Nat := []
  names : Nat := 0
  layout : String := "object"
  isNative : Bool := false
  deriving Inhabited

structure FunctionFacts where
  name : String
  qualified : String
  package : Value := .nothing
  code : Nat
  defaults : List Value := []
  namedDefaults : List (String × Value) := []
  scope : Nat := 0
  globals : Nat := 0
  names : Option Nat := none
  doc : Value := .nothing
  notes : List (String × Value) := []

/-- A block in which something may go wrong: where is gone on then, how much is on the stack, and how
much was wrong before. -/
structure Block where
  place : Nat
  height : Nat
  handled : Nat
  manager : Option Value := none

structure Activation where
  code : Code
  place : Nat := 0
  stack : List Value := []
  blocks : List Block := []
  scope : Nat := 0
  names : Nat := 0
  globals : Nat := 0
  handled : Nat := 0
  held : List Value := []
  deriving Inhabited

inductive Progress where
  | fresh
  | paused
  | running
  | ended
  deriving DecidableEq

inductive Iteration where
  | items (values : Array Value) (index : Nat) (kind : String)
  | list (address index : Nat)
  | range (next last step : Int)
  | entries (address size : Nat) (left : List Value) (kind : String)
  | calls (function ending : Value)
  | indexed (object : Value) (index : Nat)
  | map (function : Value) (sources : List Value)
  | filter (function source : Value)
  | zip (sources : List Value) (isStrict : Bool)
  | enumerate (source : Value) (next : Int)
  | ended (kind : String)

structure StreamFacts where
  name : Value
  mode : String
  stream : Option Nat := none
  isBinary : Bool := false
  reads : Bool := false
  writes : Bool := false
  isOpen : Bool := true
  rest : ByteArray := .empty
  ended : Bool := false
  held : List ByteArray := []
  size : Nat := 0
  isEager : Bool := false
  memory : Option ByteArray := none
  place : Nat := 0
  lineEnd : Option String := none
  encoding : String := "utf-8"
  errors : String := "strict"
  process : Option Nat := none
  deriving Inhabited

inductive Thing where
  | list (items : Array Value)
  | dict (table : Table)
  | set (table : Table) (isFixed : Bool)
  | octets (bytes : ByteArray)
  | function (facts : FunctionFacts)
  | method (function self : Value)
  | type (facts : TypeFacts)
  /-- A value of a type, with the address of the table of its attributes; it may hold another value,
  whose form it has. -/
  | member (type names : Nat) (held : Value)
  | iterator (iteration : Iteration)
  | generator (activation : Activation) (progress : Progress)
  | stream (facts : StreamFacts)
  | view (kind : String) (address : Nat)
  | property (getter setter : Value) (doc : Value)
  | loose (function : Value)
  | ofType (function : Value)
  | super (type : Nat) (self : Value) (start : Nat)
  | package (name : String) (names : Nat)
  | pattern (text : Value) (flags : Nat) (found : NamedPattern)
  | found (pattern : Nat) (text : Value) (found : OrderedFound) (first last : Nat)
  | code (number : Nat) (isExpression : Bool)
  | digest (kind : String) (bytes : ByteArray)
  deriving Inhabited

structure Scope where
  slots : Array (Option Value) := #[]
  parent : Nat := 0
  type : Option Nat := none
  deriving Inhabited

structure TraceEntry where
  file : String
  name : String
  span : Span
  text : Option String := none

structure Trace where
  entries : List TraceEntry := []
  cause : Value := .nothing
  context : Value := .nothing
  isSuppressed : Bool := false

inductive Interrupt where
  | raised (value : Value)
  | exit (status : Nat)

structure State where
  things : Array Thing := #[]
  scopes : Array Scope := #[{}]
  codes : Array Code := #[]
  packages : Std.HashMap String Value := ∅
  traces : Std.HashMap Nat Trace := ∅
  handled : List Value := []
  depth : Nat := 0
  mostDepth : Nat := 1000
  main : Nat := 0
  builtIns : Nat := 0
  modules : Nat := 0
  file : String := "<string>"
  lines : Std.HashMap String (Array String) := ∅
  arguments : List String := []
  environment : List (String × String) := []
  system : Nat := 0
  endings : List (Value × List Value) := []
  seed : Nat := 0
  serial : Nat := 0

abbrev Machine := ExceptT Interrupt (StateT State Act)

structure Engine where
  services : Services
  call : Value -> List Value -> List (String × Value) -> Machine Value
  run : Activation -> Machine Value
  resume : Nat -> Value -> Option Value -> Machine (Option Value)
  use : String -> Machine Value
  builtIn : Activation -> String -> List Value -> List (String × Value) -> Machine Value

/-! ## Types that are always there -/

/-- The types that are not made by a program: the name, the package and the type that each builds on.
-/
def nativeTypes : List (String × String × String) :=
  let plain (names : List String) : List (String × String × String) :=
    names.map (fun name => (name, "builtins", "object"))
  let fault (base : String) (names : List String) : List (String × String × String) :=
    names.map (fun name => (name, "builtins", base))
  [("object", "builtins", "")] ++
  plain (wordsIn "type NoneType int float str bytes bytearray tuple list dict set frozenset range
    slice ellipsis NotImplementedType function builtin_function_or_method method_descriptor method
    generator module property staticmethod classmethod super map filter zip enumerate reversed
    list_iterator tuple_iterator str_iterator bytes_iterator range_iterator dict_keyiterator
    dict_valueiterator dict_itemiterator set_iterator callable_iterator iterator
    list_reverseiterator dict_keys dict_values dict_items code traceback frame complex
    memoryview") ++
  [("bool", "builtins", "int"), ("TextIOWrapper", "_io", "object"), ("BufferedReader", "_io", "object"),
    ("BufferedWriter", "_io", "object"), ("StringIO", "_io", "object"), ("BytesIO", "_io", "object"),
    ("Pattern", "re", "object"), ("Match", "re", "object"), ("HASH", "_hashlib", "object")] ++
  fault "object" ["BaseException"] ++
  fault "BaseException" ["Exception", "GeneratorExit", "KeyboardInterrupt", "SystemExit"] ++
  fault "Exception" (wordsIn "ArithmeticError AssertionError AttributeError BufferError EOFError
    ImportError LookupError MemoryError NameError OSError ReferenceError RuntimeError
    StopAsyncIteration StopIteration SyntaxError SystemError TypeError ValueError Warning") ++
  fault "ArithmeticError" ["FloatingPointError", "OverflowError", "ZeroDivisionError"] ++
  fault "ImportError" ["ModuleNotFoundError"] ++
  fault "LookupError" ["IndexError", "KeyError"] ++
  fault "NameError" ["UnboundLocalError"] ++
  fault "OSError" (wordsIn "BlockingIOError ChildProcessError ConnectionError FileExistsError
    FileNotFoundError InterruptedError IsADirectoryError NotADirectoryError PermissionError
    ProcessLookupError TimeoutError") ++
  fault "ConnectionError" ["BrokenPipeError", "ConnectionAbortedError", "ConnectionRefusedError",
    "ConnectionResetError"] ++
  fault "RuntimeError" ["NotImplementedError", "RecursionError"] ++
  fault "SyntaxError" ["IndentationError"] ++
  fault "IndentationError" ["TabError"] ++
  fault "ValueError" ["UnicodeError"] ++
  fault "UnicodeError" ["UnicodeDecodeError", "UnicodeEncodeError", "UnicodeTranslateError"] ++
  fault "Warning" (wordsIn "BytesWarning DeprecationWarning EncodingWarning FutureWarning
    ImportWarning PendingDeprecationWarning ResourceWarning RuntimeWarning SyntaxWarning
    UnicodeWarning UserWarning") ++
  [("error", "re", "Exception"), ("JSONDecodeError", "json.decoder", "ValueError"),
    ("Error", "binascii", "ValueError"), ("UnsupportedOperation", "io", "OSError")]

def nativeNumbers : Std.HashMap String Nat :=
  (nativeTypes.zipIdx.map fun ((name, _), number) => (name, number)).foldl
    (fun map entry => map.insert entry.1 entry.2) ∅

def nativeType (name : String) : Nat := nativeNumbers.getD name 0

def namedTypes : List String :=
  (nativeTypes.filter fun (name, package, _) =>
    package = "builtins" && !((wordsIn "NoneType ellipsis NotImplementedType function
      builtin_function_or_method method_descriptor method generator module list_iterator
      tuple_iterator str_iterator bytes_iterator range_iterator dict_keyiterator dict_valueiterator
      dict_itemiterator set_iterator callable_iterator iterator list_reverseiterator dict_keys
      dict_values dict_items code traceback frame").contains name)).map Prod.fst

/-! ## Things -/

def newThing (thing : Thing) : Machine Nat :=
  modifyGet fun state => (state.things.size, { state with things := state.things.push thing })

def newObject (thing : Thing) : Machine Value := do return .object (<- newThing thing)

def thingAt (address : Nat) : Machine Thing := do return (<- get).things.getD address default

def setThing (address : Nat) (thing : Thing) : Machine Unit :=
  modify fun state => { state with things := state.things.set! address thing }

def changeThing (address : Nat) (change : Thing -> Thing) : Machine Unit :=
  modify fun state => { state with things := state.things.modify address change }

def newList (items : List Value) : Machine Value := newObject (.list items.toArray)

def newTable (table : Table) : Machine Nat := newThing (.dict table)

def tableAt (address : Nat) : Machine Table := do
  match (<- get).things.getD address default with
  | .dict table => return table
  | .set table _ => return table
  | _ => return {}

def changeTable (address : Nat) (change : Table -> Table) : Machine Unit :=
  changeThing address fun
    | .dict table => .dict (change table)
    | .set table isFixed => .set (change table) isFixed
    | thing => thing

def namedIn? (address : Nat) (name : String) : Machine (Option Value) := do
  match (<- get).things.getD address default with
  | .dict table => return table.named? name
  | _ => return none

def setNamedIn (address : Nat) (name : String) (value : Value) : Machine Unit :=
  changeTable address (·.withNamed name value)

def typeAt (address : Nat) : Machine TypeFacts := do
  match (<- get).things.getD address default with
  | .type facts => return facts
  | _ => return default

/-! ## The types of values -/

def Iteration.typeName : Iteration -> String
  | .items _ _ kind => kind
  | .list _ _ => "list_iterator"
  | .range _ _ _ => "range_iterator"
  | .entries _ _ _ kind => kind
  | .calls _ _ => "callable_iterator"
  | .indexed _ _ => "iterator"
  | .map _ _ => "map"
  | .filter _ _ => "filter"
  | .zip _ _ => "zip"
  | .enumerate _ _ => "enumerate"
  | .ended kind => kind

def Thing.typeNumber : Thing -> Nat
  | .member owner _ _ => owner
  | .list _ => nativeType "list"
  | .dict _ => nativeType "dict"
  | .set _ isFixed => nativeType (if isFixed then "frozenset" else "set")
  | .octets _ => nativeType "bytearray"
  | .function _ => nativeType "function"
  | .method _ _ => nativeType "method"
  | .type _ => nativeType "type"
  | .iterator iteration => nativeType iteration.typeName
  | .generator _ _ => nativeType "generator"
  | .stream facts =>
    nativeType (match facts.memory, facts.isBinary with
      | some _, true => "BytesIO"
      | some _, false => "StringIO"
      | none, true => if facts.writes then "BufferedWriter" else "BufferedReader"
      | none, false => "TextIOWrapper")
  | .view kind _ => nativeType kind
  | .property _ _ _ => nativeType "property"
  | .loose _ => nativeType "staticmethod"
  | .ofType _ => nativeType "classmethod"
  | .super _ _ _ => nativeType "super"
  | .package _ _ => nativeType "module"
  | .pattern _ _ _ => nativeType "Pattern"
  | .found _ _ _ _ _ => nativeType "Match"
  | .code _ _ => nativeType "code"
  | .digest _ _ => nativeType "HASH"

def typeOf (value : Value) : Machine Nat := do
  match value with
  | .object address => return (<- thingAt address).typeNumber
  | .nothing => return nativeType "NoneType"
  | .truth _ => return nativeType "bool"
  | .whole _ => return nativeType "int"
  | .real _ => return nativeType "float"
  | .text _ => return nativeType "str"
  | .octets _ => return nativeType "bytes"
  | .tuple _ => return nativeType "tuple"
  | .range _ _ _ => return nativeType "range"
  | .slice _ _ _ => return nativeType "slice"
  | .ellipsis => return nativeType "ellipsis"
  | .notImplemented => return nativeType "NotImplementedType"
  | .builtIn _ => return nativeType "builtin_function_or_method"
  | .bound _ _ _ => return nativeType "builtin_function_or_method"
  | .unbound _ _ => return nativeType "method_descriptor"

def typeName (value : Value) : Machine String := do return (<- typeAt (<- typeOf value)).name

def heldBy (value : Value) : Machine Value := do
  match value with
  | .object address => match (<- get).things.getD address default with
    | .member _ _ .nothing => return value
    | .member _ _ held => return held
    | _ => return value
  | value => return value

/-! ## What goes wrong -/

def newFault (type : Nat) (arguments : List Value) : Machine Value := do
  let value <- newThing (.member type (<- newTable {}) (.tuple arguments))
  let context := (<- get).handled.headD .nothing
  modify fun state => { state with traces := state.traces.insert value { context } }
  return .object value

def fail (type message : String) : Machine α := do
  throw (.raised (<- newFault (nativeType type) [.text message]))

def failType (message : String) : Machine α := fail "TypeError" message

def failValue (message : String) : Machine α := fail "ValueError" message

def isSubtype (type base : Nat) : Machine Bool := do return (<- typeAt type).line.contains base

def isOfType (value : Value) (type : Nat) : Machine Bool := do isSubtype (<- typeOf value) type

def isFault (value : Value) (name : String) : Machine Bool := isOfType value (nativeType name)

def faultArguments (value : Value) : Machine (List Value) := do
  match <- heldBy value with
  | .tuple arguments => return arguments
  | _ => return []

/-- Does something; what goes wrong in it, of a type that is always there, is taken as nothing. -/
def orNothing (type : String) (work : Machine α) : Machine (Option α) :=
  tryCatch (do return some (<- work)) fun interrupt => do
    match interrupt with
    | .raised value => if <- isFault value type then return none else throw interrupt
    | _ => throw interrupt

def encodedText (text : String) : ByteArray :=
  if text.any (fun c => 0x10d800 <= c.toNat && c.toNat < 0x10e000) then
    text.foldl (fun bytes c =>
      let number := numberOfChar c
      if 0xdc80 <= number && number <= 0xdcff && 0x100000 <= c.toNat then
        bytes.push (UInt8.ofNat (number - 0xdc00))
      else bytes ++ (String.singleton c).toUTF8) ByteArray.empty
  else text.toUTF8

def decodedFrom : Nat -> List UInt8 -> Chars -> Chars
  | 0, _, done => done.reverse
  | _, [], done => done.reverse
  | limit + 1, byte :: rest, done =>
    if byte < 0x80 then decodedFrom limit rest (Char.ofNat byte.toNat :: done)
    else
      let count := if byte < 0xc2 then 0 else if byte < 0xe0 then 1 else if byte < 0xf0 then 2
        else if byte < 0xf5 then 3 else 0
      let found := String.fromUTF8? ⟨(byte :: rest.take count).toArray⟩
      match count, found with
      | 0, _ => decodedFrom limit rest (Char.ofNat (0x10dc00 + byte.toNat) :: done)
      | count, some text => decodedFrom limit (rest.drop count) (text.toList.reverse ++ done)
      | _, none => decodedFrom limit rest (Char.ofNat (0x10dc00 + byte.toNat) :: done)

def decodedText (bytes : ByteArray) : String := match String.fromUTF8? bytes with
  | some text => text
  | none => .ofList (decodedFrom (bytes.size + 1) bytes.toList [])

def textOfOctets (octets : String) : String := decodedText (bytesOf octets.toList)

def octetsOfText (text : String) : String := .ofList (octetsOf (encodedText text))

end BaseLanguage.Shell.Objects
