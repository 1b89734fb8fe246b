import BaseLanguage.Shell.Utility.Digests
import BaseLanguage.Shell.Utility.Objects.Telling

namespace BaseLanguage.Shell.Objects

/-!
# Attributes

An attribute of a value is what its table says, or what its type says for it: a function of a type
becomes a function for the value.
-/

/-! ## Functions of types that are always there -/

def functionsOf : String -> List String
  | "str" => Text.wordsIn "capitalize casefold center count encode endswith expandtabs find format
    format_map index isalnum isalpha isascii isdecimal isdigit isidentifier islower isnumeric
    isprintable isspace istitle isupper join ljust lower lstrip maketrans partition removeprefix
    removesuffix replace rfind rindex rjust rpartition rsplit rstrip split splitlines startswith
    strip swapcase title translate upper zfill __len__ __iter__ __getitem__ __contains__ __add__
    __mul__ __rmul__ __mod__ __lt__ __le__ __gt__ __ge__"
  | "bytes" => Text.wordsIn "capitalize center count decode endswith expandtabs find fromhex hex
    index isalnum isalpha isascii isdigit islower isspace istitle isupper join ljust lower lstrip
    maketrans partition removeprefix removesuffix replace rfind rindex rjust rpartition rsplit
    rstrip split splitlines startswith strip swapcase title translate upper zfill __len__ __iter__
    __getitem__ __contains__ __add__ __mul__"
  | "bytearray" => Text.wordsIn "append extend clear pop insert remove reverse copy decode hex find
    count startswith endswith split strip join replace upper lower index fromhex __len__ __iter__
    __getitem__ __setitem__ __delitem__ __contains__"
  | "int" => Text.wordsIn "bit_length bit_count to_bytes from_bytes conjugate as_integer_ratio
    __add__ __sub__ __mul__ __truediv__ __floordiv__ __mod__ __pow__ __neg__ __pos__ __abs__
    __invert__ __and__ __or__ __xor__ __lshift__ __rshift__ __int__ __float__ __index__ __bool__
    __lt__ __le__ __gt__ __ge__ __radd__ __rsub__ __rmul__ __divmod__ __round__ __floor__ __ceil__
    __trunc__"
  | "float" => Text.wordsIn "is_integer hex fromhex as_integer_ratio conjugate __add__ __sub__
    __mul__ __truediv__ __floordiv__ __mod__ __pow__ __neg__ __pos__ __abs__ __int__ __float__
    __bool__ __lt__ __le__ __gt__ __ge__ __radd__ __rsub__ __rmul__ __round__ __floor__ __ceil__
    __trunc__"
  | "list" => Text.wordsIn "append extend insert remove pop clear index count sort reverse copy
    __len__ __iter__ __getitem__ __setitem__ __delitem__ __contains__ __add__ __iadd__ __mul__
    __reversed__ __lt__ __le__ __gt__ __ge__"
  | "tuple" => Text.wordsIn "index count __len__ __iter__ __getitem__ __contains__ __add__ __mul__
    __lt__ __le__ __gt__ __ge__"
  | "dict" => Text.wordsIn "get keys values items pop popitem setdefault update clear copy fromkeys
    __len__ __iter__ __getitem__ __setitem__ __delitem__ __contains__ __reversed__ __or__ __ior__"
  | "set" => Text.wordsIn "add remove discard pop clear copy update union intersection difference
    symmetric_difference intersection_update difference_update symmetric_difference_update issubset
    issuperset isdisjoint __len__ __iter__ __contains__ __and__ __or__ __sub__ __xor__ __lt__ __le__
    __gt__ __ge__"
  | "frozenset" => Text.wordsIn "copy union intersection difference symmetric_difference issubset
    issuperset isdisjoint __len__ __iter__ __contains__ __and__ __or__ __sub__ __xor__ __lt__ __le__
    __gt__ __ge__"
  | "range" => ["index", "count", "__len__", "__iter__", "__getitem__", "__contains__",
      "__reversed__"]
  | "slice" => ["indices"]
  | "generator" => ["send", "throw", "close", "__iter__", "__next__"]
  | "type" => ["mro", "__call__", "__subclasses__", "__prepare__", "__instancecheck__"]
  | "function" => ["__call__", "__get__"]
  | "method" => ["__call__"]
  | "builtin_function_or_method" => ["__call__"]
  | "method_descriptor" => ["__call__"]
  | "property" => ["getter", "setter", "deleter", "__get__", "__set__"]
  | "TextIOWrapper" => Text.wordsIn "read readline readlines write writelines close flush fileno
    isatty readable writable seekable seek tell truncate detach reconfigure __enter__ __exit__
    __iter__ __next__"
  | "dict_keys" => ["isdisjoint", "__len__", "__iter__", "__contains__"]
  | "dict_values" => ["__len__", "__iter__"]
  | "dict_items" => ["isdisjoint", "__len__", "__iter__", "__contains__"]
  | "Pattern" => Text.wordsIn "match fullmatch search sub subn split findall finditer scanner"
  | "Match" => Text.wordsIn "group groups groupdict start end span expand __getitem__"
  | "HASH" => ["update", "digest", "hexdigest", "copy"]
  | "BaseException" => ["with_traceback", "add_note"]
  | "object" => Text.wordsIn "__init__ __new__ __repr__ __str__ __eq__ __ne__ __hash__ __setattr__
    __getattribute__ __delattr__ __format__ __init_subclass__ __reduce__ __reduce_ex__ __sizeof__
    __dir__ __subclasshook__"
  | type =>
    if ["BufferedReader", "BufferedWriter", "StringIO", "BytesIO"].contains type then
      Text.wordsIn "read readline readlines write writelines close flush fileno isatty readable
      writable seekable seek tell truncate getvalue getbuffer read1 readinto detach __enter__
      __exit__ __iter__ __next__"
    else if type.endsWith "iterator" ||
        ["map", "filter", "zip", "enumerate", "reversed"].contains type then
      ["__iter__", "__next__"]
    else []

def nativeOwner? (line : List Nat) (name : String) : Option String :=
  line.findSome? fun number => match nativeTypes[number]? with
    | some (type, _, _) => if (functionsOf type).contains name then some type else none
    | none => none

def isOfTypes (type name : String) : Bool :=
  [("dict", "fromkeys"), ("int", "from_bytes"), ("bytes", "fromhex"), ("bytearray", "fromhex"),
    ("float", "fromhex"), ("object", "__init_subclass__"), ("object", "__subclasshook__")].contains
      (type, name)

def isFree (type name : String) : Bool :=
  [("str", "maketrans"), ("bytes", "maketrans"), ("object", "__new__")].contains (type, name)

section

variable (engine : Engine)

/-! ## Asking -/

def boundTo (self : Value) (type : Nat) (found : Value) : Machine Value := do
  match found with
  | .object address => match <- thingAt address with
    | .function _ => newObject (.method found self)
    | .loose inner => return inner
    | .ofType inner => newObject (.method inner (.object type))
    | .property getter _ _ => match getter with
      | .nothing => fail "AttributeError" "unreadable attribute"
      | getter => engine.call getter [self] []
    | .member _ _ _ => match <- callSpecial? engine found "__get__" [self, .object type] with
      | some value => return value
      | none => return found
    | _ => return found
  | .unbound owner name => return if isFree owner name then found else .bound self owner name
  | found => return found

def ownTable? (value : Value) : Machine (Option Nat) := do
  match value with
  | .object address => match <- thingAt address with
    | .member _ names _ => return some names
    | .type facts => return some facts.names
    | .package _ names => return some names
    | .function facts => return facts.names
    | _ => return none
  | _ => return none

def typeValues (line : List Nat) : List Value := line.map .object

def typeAttribute? (address : Nat) (facts : TypeFacts) (name : String) :
    Machine (Option Value) := do
  match name with
  | "__name__" => return some (.text facts.name)
  | "__qualname__" => return some (.text facts.qualified)
  | "__module__" => return some (.text facts.package)
  | "__mro__" => return some (.tuple (typeValues facts.line))
  | "__bases__" => return some (.tuple (typeValues facts.bases))
  | "__base__" =>
    return some (match facts.bases with
      | base :: _ => .object base
      | [] => .nothing)
  | "__dict__" => return some (.object facts.names)
  | "__class__" => return some (.object (<- typeOf (.object address)))
  | "__doc__" => match <- namedIn? facts.names "__doc__" with
    | some found => return some found
    | none => return some .nothing
  | _ => return none

def formAttribute? (value : Value) (name : String) : Machine (Option Value) := do
  match value, name with
  | _, "__class__" => return some (.object (<- typeOf value))
  | .whole _, "real" => return some value
  | .whole _, "numerator" => return some value
  | .whole _, "imag" => return some (.whole 0)
  | .whole _, "denominator" => return some (.whole 1)
  | .truth holds, "real" => return some (.whole (if holds then 1 else 0))
  | .real _, "real" => return some value
  | .real _, "imag" => return some (.real 0)
  | .range first _ _, "start" => return some (.whole first)
  | .range _ last _, "stop" => return some (.whole last)
  | .range _ _ step, "step" => return some (.whole step)
  | .slice first _ _, "start" => return some first
  | .slice _ last _, "stop" => return some last
  | .slice _ _ step, "step" => return some step
  | .builtIn full, "__name__" => return some (.text (lastPart full))
  | .builtIn full, "__qualname__" => return some (.text (lastPart full))
  | .builtIn full, "__module__" =>
    let parts := full.splitOn "."
    return some (.text (if parts.length = 1 then "builtins"
      else ".".intercalate (parts.take (parts.length - 1))))
  | .bound _ _ own, "__name__" => return some (.text own)
  | .bound self _ _, "__self__" => return some self
  | .unbound _ own, "__name__" => return some (.text own)
  | .unbound type own, "__qualname__" => return some (.text s!"{type}.{own}")
  | .object address, name => match <- thingAt address with
    | .function facts => match name with
      | "__name__" => return some (.text facts.name)
      | "__qualname__" => return some (.text facts.qualified)
      | "__doc__" => return some facts.doc
      | "__module__" => return some facts.package
      | "__defaults__" =>
        return some (if facts.defaults.isEmpty then .nothing else .tuple facts.defaults)
      | "__kwdefaults__" => return some .nothing
      | "__globals__" => return some (.object facts.globals)
      | "__annotations__" => return some (.object (<- newTable (.ofNames facts.notes)))
      | "__code__" => return some (.object (<- newThing (.code facts.code false)))
      | "__closure__" => return some .nothing
      | "__dict__" => match facts.names with
        | some names => return some (.object names)
        | none =>
          let names <- newTable {}
          setThing address (.function { facts with names := some names })
          return some (.object names)
      | _ => return none
    | .method function self => match name with
      | "__self__" => return some self
      | "__func__" => return some function
      | _ => return none
    | .code number _ =>
      let code := (<- get).codes.getD number default
      match name with
      | "co_name" => return some (.text code.name)
      | "co_argcount" => return some (.whole code.placed)
      | "co_varnames" => return some (.tuple (code.slots.toList.map .text))
      | "co_filename" => return some (.text code.file)
      | "co_firstlineno" => return some (.whole code.firstLine)
      | "co_flags" => return some (.whole (if code.isGenerator then 0x23 else 3))
      | "co_kwonlyargcount" => return some (.whole code.named)
      | "co_posonlyargcount" => return some (.whole code.onlyPlaced)
      | _ => return none
    | .generator activation progress => match name with
      | "__name__" => return some (.text activation.code.name)
      | "__qualname__" => return some (.text activation.code.qualified)
      | "gi_running" => return some (.truth (progress = .running))
      | "gi_frame" => return some .nothing
      | _ => return none
    | .stream facts => match name with
      | "name" => return some facts.name
      | "mode" => return some (.text facts.mode)
      | "closed" => return some (.truth (!facts.isOpen))
      | "encoding" => return some (if facts.isBinary then .nothing else .text facts.encoding)
      | "errors" => return some (.text facts.errors)
      | "newlines" => return some .nothing
      | "line_buffering" => return some (.truth facts.isEager)
      | "buffer" =>
        if facts.isBinary then return none
        else match <- namedIn? (<- get).modules s!"<buffer {numberText address}>" with
          | some found => return some found
          | none =>
            let found <- newStream { facts with
              isBinary := true, held := [], size := 0, isEager := true }
            setNamedIn (<- get).modules s!"<buffer {numberText address}>" found
            return some found
      | _ => return none
    | .property getter setter doc => match name with
      | "fget" => return some getter
      | "fset" => return some setter
      | "__doc__" => return some doc
      | _ => return none
    | .loose inner => return if name = "__func__" || name = "__wrapped__" then some inner else none
    | .ofType inner => return if name = "__func__" then some inner else none
    | .pattern text flags found => match name with
      | "pattern" => return some text
      | "flags" => return some (.whole flags)
      | "groups" => return some (.whole found.groups)
      | "groupindex" =>
        let entries := found.names.map fun (name, number) => (name, .whole (number : Nat))
        return some (.object (<- newTable (.ofNames entries)))
      | _ => return none
    | .found pattern text found first last => match name with
      | "string" => return some text
      | "re" => return some (.object pattern)
      | "pos" => return some (.whole first)
      | "endpos" => return some (.whole last)
      | "lastindex" => match found.groups.head? with
        | some (number, _, _) => return some (.whole (number : Nat))
        | none => return some .nothing
      | "lastgroup" => match <- thingAt pattern, found.groups.head? with
        | .pattern _ _ named, some (number, _, _) =>
          match named.names.find? (·.2 = number) with
          | some (name, _) => return some (.text name)
          | none => return some .nothing
        | _, _ => return some .nothing
      | _ => return none
    | .digest kind _ => match name with
      | "name" => return some (.text kind)
      | "digest_size" =>
        return some (.whole (((DigestKind.named.lookup kind).map (·.length)).getD 0))
      | "block_size" =>
        let isLong := ["sha384", "sha512", "blake2b"].contains kind
        return some (.whole (if isLong then 128 else 64))
      | _ => return none
    | .dict _ => return none
    | .member type names held => match name with
      | "__dict__" => return some (.object names)
      | "__module__" => return some (.text (<- typeAt type).package)
      | _ =>
        if <- isSubtype type (nativeType "BaseException") then
          let trace := ((<- get).traces[address]?).getD {}
          let arguments := match held with
            | .tuple arguments => arguments
            | _ => []
          match name with
          | "args" => return some held
          | "__traceback__" => return some (if trace.entries.isEmpty then .nothing else held)
          | "__cause__" => return some trace.cause
          | "__context__" => return some trace.context
          | "__suppress_context__" => return some (.truth trace.isSuppressed)
          | "code" =>
            if <- isSubtype type (nativeType "SystemExit") then
              return some (match arguments with
                | [] => .nothing
                | [argument] => argument
                | _ => held)
            else return none
          | "value" =>
            if <- isSubtype type (nativeType "StopIteration") then
              return some (arguments.headD .nothing)
            else return none
          | "errno" => return if 2 <= arguments.length then arguments.head? else some .nothing
          | "strerror" => return if 2 <= arguments.length then arguments[1]? else some .nothing
          | "filename" => return some .nothing
          | "msg" => return arguments.head?
          | "name" =>
            if <- isSubtype type (nativeType "ImportError") then
              match arguments with
              | [.text text] => return some (.text (lastQuoted text))
              | _ => return some .nothing
            else if (<- isSubtype type (nativeType "NameError")) ||
                (<- isSubtype type (nativeType "AttributeError")) then
              match arguments with
              | [.text text] => return some (.text (lastQuoted text))
              | _ => return some .nothing
            else return none
          | _ => return none
        else match held with
          | .nothing => return none
          | .object _ => return none
          | held => match held, name with
            | .whole _, "real" => return some held
            | _, _ => return none
    | .package _ names => return if name = "__dict__" then some (.object names) else none
    | _ => return none
  | _, _ => return none
where
  lastQuoted (text : String) : String :=
    let parts := text.splitOn "'"
    parts.getD (parts.length - 2) ""

def attribute? (value : Value) (name : String) : Machine (Option Value) := do
  match value with
  | .object address => match <- thingAt address with
    | .member type names _ =>
      let facts <- typeAt type
      let said <- ownSaying? facts.line name
      let isFirst <- match said with
        | some (.object inner) => do
          match <- thingAt inner with
          | .property _ _ _ => pure true
          | .member _ _ _ => pure ((<- special? (.object inner) "__set__").isSome)
          | _ => pure false
        | _ => pure false
      match isFirst, said with
      | true, some found => return some (<- boundTo engine value type found)
      | _, _ => match <- namedIn? names name with
        | some found => return some found
        | none => match said with
          | some found => return some (<- boundTo engine value type found)
          | none => match <- formAttribute? value name with
            | some found => return some found
            | none => match nativeOwner? facts.line name with
              | some owner =>
                if isOfTypes owner name then return some (.bound (.object type) owner name)
                else return some (.bound value owner name)
              | none => match name with
                | "__doc__" => return some .nothing
                | _ => callSpecial? engine value "__getattr__" [.text name]
    | .type facts => match <- ownSaying? facts.line name with
      | some found => match found with
        | .object inner => match <- thingAt inner with
          | .loose inner => return some inner
          | .ofType inner => return some (<- newObject (.method inner value))
          | .member _ _ _ => match <- callSpecial? engine found "__get__" [.nothing, value] with
            | some got => return some got
            | none => return some found
          | _ => return some found
        | found => return some found
      | none => match <- typeAttribute? address facts name with
        | some found => return some found
        | none => match nativeOwner? facts.line name with
          | some owner =>
            if isOfTypes owner name then return some (.bound value owner name)
            else return some (.unbound owner name)
          | none =>
            if (functionsOf "type").contains name then return some (.bound value "type" name)
            else match <- ownSaying? facts.line "__class_getattr__" with
              | some function => return some (<- engine.call function [value, .text name] [])
              | none => return none
    | .super type self start =>
      let selfType <- match self with
        | .object inner => match <- thingAt inner with
          | .type _ => pure inner
          | other => pure other.typeNumber
        | self => typeOf self
      let line := (<- typeAt selfType).line
      let behind := (line.dropWhile (· ≠ start)).drop 1
      discard <| pure type
      match <- ownSaying? behind name with
      | some found =>
        let isType <- match self with
          | .object inner => match <- thingAt inner with
            | .type _ => pure true
            | _ => pure false
          | _ => pure false
        if isType then
          match found with
          | .object inner => match <- thingAt inner with
            | .ofType function => return some (<- newObject (.method function self))
            | .loose function => return some function
            | _ => return some found
          | found => return some found
        else return some (<- boundTo engine self selfType found)
      | none => match nativeOwner? behind name with
        | some owner =>
          return some (if isFree owner name then .unbound owner name else .bound self owner name)
        | none => formAttribute? self name
    | .package _ names => match <- namedIn? names name with
      | some found => return some found
      | none => formAttribute? value name
    | .function facts =>
      let own <- match facts.names with
        | some names => namedIn? names name
        | none => pure none
      match own with
      | some found => return some found
      | none => usual value
    | _ => usual value
  | value => usual value
where
  usual (value : Value) : Machine (Option Value) := do
    match <- formAttribute? value name with
    | some found => return some found
    | none =>
      let facts <- typeAt (<- typeOf value)
      match nativeOwner? facts.line name with
      | some owner =>
        if isFree owner name then return some (.unbound owner name)
        else return some (.bound value owner name)
      | none => return if name = "__doc__" then some .nothing else none

def lacksAttribute (value : Value) (name : String) : Machine α := do
  let lacking <- match value with
    | .object address => do
      match <- thingAt address with
      | .type facts => pure s!"type object '{facts.name}' has no attribute '{name}'"
      | .package package _ => pure s!"module '{package}' has no attribute '{name}'"
      | .super _ _ _ => pure s!"'super' object has no attribute '{name}'"
      | _ => do
        let type <- typeName value
        pure s!"'{type}' object has no attribute '{name}'"
    | value => do
      let type <- typeName value
      pure s!"'{type}' object has no attribute '{name}'"
  let fault <- newFault (nativeType "AttributeError") [.text lacking]
  match fault with
  | .object address => match <- thingAt address with
    | .member _ names _ =>
      setNamedIn names "name" (.text name)
      setNamedIn names "obj" value
    | _ => pure ()
  | _ => pure ()
  throw (.raised fault)

def attributeOf (value : Value) (name : String) : Machine Value := do
  match <- attribute? engine value name with
  | some found => return found
  | none => lacksAttribute value name

/-! ## Changing -/

def changedTable? (value : Value) : Machine (Option Nat) := do
  match value with
  | .object address => match <- thingAt address with
    | .type facts => return if facts.isNative then none else some facts.names
    | .function facts => match facts.names with
      | some names => return some names
      | none =>
        let names <- newTable {}
        setThing address (.function { facts with names := some names })
        return some names
    | _ => ownTable? value
  | _ => return none

def setPlainAttribute (value : Value) (name : String) (new : Value) : Machine Unit := do
  let isException <- isFault value "BaseException"
  match value, isException, name with
  | .object address, true, "__cause__" =>
    modify fun state => { state with
      traces := state.traces.insert address
        { (state.traces[address]?).getD {} with cause := new, isSuppressed := true } }
  | .object address, true, "__context__" =>
    modify fun state => { state with
      traces := state.traces.insert address
        { (state.traces[address]?).getD {} with context := new } }
  | .object _, true, "__traceback__" => pure ()
  | .object address, true, "__suppress_context__" =>
    let holds <- isTrue engine new
    modify fun state => { state with
      traces := state.traces.insert address
        { (state.traces[address]?).getD {} with isSuppressed := holds } }
  | .object address, true, "args" => do
    match <- thingAt address with
    | .member type names _ => setThing address (.member type names (.tuple (<- itemsOf engine new)))
    | _ => pure ()
  | _, _, _ => match value with
    | .object address => match <- thingAt address, name, new with
      | .function facts, "__name__", .text text =>
        setThing address (.function { facts with name := text })
      | .function facts, "__qualname__", .text text =>
        setThing address (.function { facts with qualified := text })
      | .function facts, "__doc__", doc => setThing address (.function { facts with doc })
      | .function facts, "__module__", package =>
        setThing address (.function { facts with package })
      | .type facts, "__name__", .text text =>
        if !facts.isNative then setThing address (.type { facts with name := text })
      | .type facts, "__qualname__", .text text =>
        if !facts.isNative then setThing address (.type { facts with qualified := text })
      | _, _, _ => store
    | _ => store
where
  store : Machine Unit := do
    match <- changedTable? value with
    | some table => setNamedIn table name new
    | none => match value with
      | .object address => match <- thingAt address with
        | .type facts => failType s!"cannot set '{name}' attribute of immutable type '{facts.name}'"
        | _ => lacksAttribute value name
      | _ =>
        let facts <- typeAt (<- typeOf value)
        match nativeOwner? facts.line name with
        | some _ => fail "AttributeError" s!"'{facts.name}' object attribute '{name}' is read-only"
        | none => lacksAttribute value name

def setAttribute (value : Value) (name : String) (new : Value) : Machine Unit := do
  match <- callSpecial? engine value "__setattr__" [.text name, new] with
  | some _ => return ()
  | none => setByType
where
  setByType : Machine Unit := do
    match value with
    | .object address => match <- thingAt address with
      | .member type _ _ =>
        let facts <- typeAt type
        match <- ownSaying? facts.line name with
        | some (.object inner) => match <- thingAt inner with
          | .property _ setter _ => match setter with
            | .nothing =>
              fail "AttributeError" s!"property '{name}' of '{facts.name}' object has no setter"
            | setter => discard <| engine.call setter [value, new] []
          | .member _ _ _ => match <- callSpecial? engine (.object inner) "__set__" [value, new] with
            | some _ => pure ()
            | none => setPlainAttribute engine value name new
          | _ => setPlainAttribute engine value name new
        | _ => match <- slotsOf facts.line with
          | some slots =>
            if slots.contains name then setPlainAttribute engine value name new
            else lacksAttribute value name
          | none => setPlainAttribute engine value name new
      | _ => setPlainAttribute engine value name new
    | _ => setPlainAttribute engine value name new
  slotsOf (line : List Nat) : Machine (Option (List String)) := do
    let found <- line.mapM fun type => do
      let facts <- typeAt type
      if facts.isNative then return some []
      else match <- namedIn? facts.names "__slots__" with
        | some slots =>
          return some ((<- itemsOf engine slots).filterMap fun
            | .text text => some text
            | _ => none)
        | none => return none
    if found.all Option.isSome then return some (found.flatMap (·.getD [])) else return none

def deleteAttribute (value : Value) (name : String) : Machine Unit := do
  match <- callSpecial? engine value "__delattr__" [.text name] with
  | some _ => return ()
  | none => match <- changedTable? value with
    | some table => match <- namedIn? table name with
      | some _ => changeTable table (·.erase (.text name))
      | none => lacksAttribute value name
    | none => lacksAttribute value name

/-! ## Types -/

/-- The line of a type that builds on others: each type comes in front of those that it builds on, in
the order that they have in the lines of those. -/
def mergedLine : Nat -> List (List Nat) -> Option (List Nat)
  | 0, _ => none
  | limit + 1, lines =>
    let lines := lines.filter (!·.isEmpty)
    if lines.isEmpty then some []
    else
      let isFree (type : Nat) : Bool := lines.all (fun line => !(line.drop 1).contains type)
      match lines.findSome? (·.head?.filter isFree) with
      | some type =>
        let rest := lines.map (fun line => if line.head? = some type then line.drop 1 else line)
        (mergedLine limit rest).map (type :: ·)
      | none => none

def layoutOf (bases : List Nat) : Machine String := do
  let layouts <- bases.mapM fun base => do return (<- typeAt base).layout
  return (layouts.find? (· ≠ "object")).getD "object"

def newType (name qualified package : String) (bases : List Nat) (names : Nat) : Machine Value := do
  let bases := if bases.isEmpty then [nativeType "object"] else bases
  for base in bases do
    let facts <- typeAt base
    if facts.isNative && (Text.wordsIn "bool NoneType function range slice generator ellipsis
      method").contains facts.name then
      failType s!"type '{facts.name}' is not an acceptable base type"
  let lines <- bases.mapM fun base => do return (<- typeAt base).line
  match mergedLine 1000 (lines ++ [bases]) with
  | none =>
    let shown <- bases.mapM fun base => do return (<- typeAt base).name
    failType
      ("Cannot create a consistent method resolution\norder (MRO) for bases " ++
        ", ".intercalate shown)
  | some line =>
    let layout <- layoutOf bases
    let address <- newThing default
    setThing address (.type
      { name, qualified, package, bases, names, layout, line := address :: line })
    match <- namedIn? names "__eq__", <- namedIn? names "__hash__" with
    | some _, none => setNamedIn names "__hash__" .nothing
    | _, _ => pure ()
    return .object address

def isInstance (value : Value) : Nat -> Value -> Machine Bool
  | 0, _ => return false
  | depth + 1, type => do
    match type with
    | .tuple types => types.anyM (isInstance value depth)
    | .nothing => return match value with
        | .nothing => true
        | _ => false
    | .object address => match <- thingAt address with
      | .type facts =>
        if <- isOfType value address then return true
        else match <- ownSaying? facts.line "__instancecheck_of__" with
          | some function => isTrue engine (<- engine.call function [type, value] [])
          | none => return false
      | _ => failType "isinstance() arg 2 must be a type, a tuple of types, or a union"
    | _ => failType "isinstance() arg 2 must be a type, a tuple of types, or a union"

def buildsOn (type : Nat) : Nat -> Value -> Machine Bool
  | 0, _ => return false
  | depth + 1, base => do
    match base with
    | .tuple types => types.anyM (buildsOn type depth)
    | .object address => match <- thingAt address with
      | .type facts =>
        if <- isSubtype type address then return true
        else match <- ownSaying? facts.line "__subclasscheck_of__" with
          | some function => isTrue engine (<- engine.call function [base, .object type] [])
          | none => return false
      | _ => failType "issubclass() arg 2 must be a class, a tuple of classes, or a union"
    | _ => failType "issubclass() arg 2 must be a class, a tuple of classes, or a union"

end

end BaseLanguage.Shell.Objects
