import BaseLanguage.Shell.Utility.Objects.System

namespace BaseLanguage.Shell.Objects

/-!
# Values in a notation for all programs

Tables, lists, texts, numbers and truth values are written in a notation that programs in many
languages read.  A text in this notation is read into a tree, which then becomes a value.
-/

/-! ## Places in the library -/

/-- A place in a file of the library that something went wrong through, with its line and the columns
that are marked in it. -/
def libraryPlace (file : String) (line : Nat) (name text : String) (first last : Nat) : TraceEntry :=
  { file := libraryFolder ++ file, name, span := ⟨line, first, line, last⟩, text := some text }

def throughPlaces (places : List TraceEntry) (work : Machine α) : Machine α :=
  tryCatch work fun interrupt => do
    match interrupt with
    | .raised (.object address) =>
      modify fun state =>
        let trace := (state.traces[address]?).getD {}
        { state with
          traces := state.traces.insert address { trace with entries := places ++ trace.entries } }
      throw interrupt
    | _ => throw interrupt

/-! ## Reading -/

inductive NotationTree where
  | nothing
  | truth (holds : Bool)
  | whole (digits : String)
  | real (digits : String)
  | special (name : String)
  | text (text : String)
  | list (items : List NotationTree)
  | table (entries : List (String × NotationTree))

structure NotationFault where
  message : String
  place : Nat

namespace NotationTree

def behindBlanks (text : Array Char) : Nat -> Nat -> Nat
  | 0, place => place
  | limit + 1, place => match text[place]? with
    | some c =>
      if c = ' ' || c = '\t' || c = '\n' || c = '\r' then behindBlanks text limit (place + 1)
      else place
    | none => place

def codeAt? (text : Array Char) (place : Nat) : Option Nat :=
  let digits := (text.extract place (place + 4)).toList
  if digits.length = 4 && digits.all Text.isHexDigit then some (Text.hexadecimalValue digits)
  else none

def readText (text : Array Char) (opening : Nat) :
    Nat -> Nat -> Chars -> Except NotationFault (String × Nat)
  | 0, _, _ => .error ⟨"Unterminated string starting at", opening⟩
  | limit + 1, place, done => match text[place]? with
    | none => .error ⟨"Unterminated string starting at", opening⟩
    | some '"' => .ok (.ofList done.reverse, place + 1)
    | some '\\' => match text[place + 1]? with
      | none => .error ⟨"Unterminated string starting at", opening⟩
      | some 'u' => match codeAt? text (place + 2) with
        | none => .error ⟨"Invalid \\uXXXX escape", place + 1⟩
        | some code =>
          if 0xd800 <= code && code <= 0xdbff && text[place + 6]? == some '\\' &&
              text[place + 7]? == some 'u' then
            match codeAt? text (place + 8) with
            | some second =>
              if 0xdc00 <= second && second <= 0xdfff then
                let whole := 0x10000 + (code - 0xd800) * 0x400 + (second - 0xdc00)
                readText text opening limit (place + 12) (Char.ofNat whole :: done)
              else readText text opening limit (place + 6) (charOfNumber code :: done)
            | none => readText text opening limit (place + 6) (charOfNumber code :: done)
          else readText text opening limit (place + 6) (charOfNumber code :: done)
      | some letter =>
        match List.lookup letter [('"', '"'), ('\\', '\\'), ('/', '/'), ('b', '\x08'),
            ('f', '\x0c'), ('n', '\n'), ('r', '\r'), ('t', '\t')] with
        | some c => readText text opening limit (place + 2) (c :: done)
        | none => .error ⟨"Invalid \\escape", place⟩
    | some c =>
      if c.toNat < 32 then .error ⟨"Invalid control character at", place⟩
      else readText text opening limit (place + 1) (c :: done)

def readNumber? (text : Array Char) (place : Nat) : Option (NotationTree × Nat) :=
  let rest := (text.extract place text.size).toList
  let (sign, digits) := match rest with
    | '-' :: rest => (['-'], rest)
    | rest => ([], rest)
  let whole := match digits with
    | '0' :: _ => ['0']
    | digits => digits.takeWhile Char.isDigit
  if whole.isEmpty then none
  else
    let behind := digits.drop whole.length
    let part := match behind with
      | '.' :: rest =>
        let found := rest.takeWhile Char.isDigit
        if found.isEmpty then [] else '.' :: found
      | _ => []
    let behind := behind.drop part.length
    let exponent := match behind with
      | letter :: rest =>
        if letter = 'e' || letter = 'E' then
          let sign := match rest with
            | '-' :: _ => ['-']
            | '+' :: _ => ['+']
            | _ => []
          let found := (rest.drop sign.length).takeWhile Char.isDigit
          if found.isEmpty then [] else letter :: sign ++ found
        else []
      | [] => []
    let all := sign ++ whole ++ part ++ exponent
    let shown := .ofList all
    some (if part.isEmpty && exponent.isEmpty then .whole shown else .real shown,
      place + all.length)

def readItems (text : Array Char) (read : Nat -> Except NotationFault (NotationTree × Nat)) :
    Nat -> Nat -> List NotationTree -> Except NotationFault (NotationTree × Nat)
  | 0, place, _ => .error ⟨"Expecting value", place⟩
  | limit + 1, place, done => do
    let (item, place) <- read place
    let place := behindBlanks text text.size place
    match text[place]? with
    | some ']' => return (.list (item :: done).reverse, place + 1)
    | some ',' => readItems text read limit (behindBlanks text text.size (place + 1)) (item :: done)
    | _ => throw ⟨"Expecting ',' delimiter", place⟩

def readEntries (text : Array Char) (read : Nat -> Except NotationFault (NotationTree × Nat)) :
    Nat -> Nat -> List (String × NotationTree) -> Except NotationFault (NotationTree × Nat)
  | 0, place, _ => .error ⟨"Expecting value", place⟩
  | limit + 1, place, done => do
    if text[place]? != some '"' then
      throw ⟨"Expecting property name enclosed in double quotes", place⟩
    let (key, place) <- readText text place (text.size + 1) (place + 1) []
    let place := behindBlanks text text.size place
    if text[place]? != some ':' then throw ⟨"Expecting ':' delimiter", place⟩
    let (value, place) <- read (behindBlanks text text.size (place + 1))
    let place := behindBlanks text text.size place
    match text[place]? with
    | some '\x7d' => return (.table ((key, value) :: done).reverse, place + 1)
    | some ',' =>
      readEntries text read limit (behindBlanks text text.size (place + 1)) ((key, value) :: done)
    | _ => throw ⟨"Expecting ',' delimiter", place⟩

def words : List (String × NotationTree) :=
  [("null", .nothing), ("true", .truth true), ("false", .truth false), ("NaN", .special "NaN"),
    ("Infinity", .special "Infinity"), ("-Infinity", .special "-Infinity")]

def readAt (text : Array Char) : Nat -> Nat -> Except NotationFault (NotationTree × Nat)
  | 0, place => .error ⟨"Expecting value", place⟩
  | depth + 1, place => match text[place]? with
    | some '"' => do
      let (found, place) <- readText text place (text.size + 1) (place + 1) []
      return (.text found, place)
    | some '[' =>
      let place := behindBlanks text text.size (place + 1)
      if text[place]? == some ']' then .ok (.list [], place + 1)
      else readItems text (readAt text depth) (text.size + 1) place []
    | some '\x7b' =>
      let place := behindBlanks text text.size (place + 1)
      if text[place]? == some '\x7d' then .ok (.table [], place + 1)
      else readEntries text (readAt text depth) (text.size + 1) place []
    | some _ =>
      match words.find? (fun entry =>
        (text.extract place (place + entry.1.length)).toList == entry.1.toList) with
      | some (word, tree) => .ok (tree, place + word.length)
      | none => match readNumber? text place with
        | some found => .ok found
        | none => .error ⟨"Expecting value", place⟩
    | none => .error ⟨"Expecting value", place⟩

def read (text : Array Char) : Except NotationFault NotationTree := do
  let (tree, place) <- readAt text 990 (behindBlanks text text.size 0)
  let place := behindBlanks text text.size place
  if place < text.size then throw ⟨"Extra data", place⟩
  return tree

end NotationTree

section

variable (engine : Engine)

/-! ## Values of trees -/

structure NotationHooks where
  object : Option Value := none
  pairs : Option Value := none
  real : Option Value := none
  whole : Option Value := none
  special : Option Value := none

def valueOfTree (hooks : NotationHooks) : Nat -> NotationTree -> Machine Value
  | 0, _ => fail "RecursionError" "maximum recursion depth exceeded"
  | depth + 1, tree => do
    match tree with
    | .nothing => return .nothing
    | .truth holds => return .truth holds
    | .text text => return .text text
    | .whole digits => match hooks.whole with
      | some function => engine.call function [.text digits] []
      | none => return .whole ((wholeFrom? 10 digits.toList).getD 0)
    | .real digits => match hooks.real with
      | some function => engine.call function [.text digits] []
      | none => return .real ((realFrom? digits.toList).getD 0)
    | .special name => match hooks.special with
      | some function => engine.call function [.text name] []
      | none => return .real ((realFrom? name.toList).getD 0)
    | .list items => newList (<- items.mapM (valueOfTree hooks depth))
    | .table entries =>
      let entries <- entries.mapM fun (name, tree) => do
        return (name, <- valueOfTree hooks depth tree)
      match hooks.pairs, hooks.object with
      | some function, _ =>
        let pairs := entries.map fun (name, value) => .tuple [.text name, value]
        engine.call function [<- newList pairs] []
      | none, function? =>
        let table := .object (<- newTable (.ofNames entries))
        match function? with
        | some function => engine.call function [table] []
        | none => return table

def failNotation (fault : NotationFault) (text : String) (places : List TraceEntry) :
    Machine α := do
  let before := text.toList.take fault.place
  let line := (before.filter (· = '\n')).length + 1
  let column := (before.reverse.takeWhile (· ≠ '\n')).length + 1
  let shown := s!"{fault.message}: line {numberText line} column {numberText column} " ++
    s!"(char {numberText fault.place})"
  let value <- newFault (nativeType "JSONDecodeError") [.text shown]
  match value with
  | .object address =>
    match <- thingAt address with
    | .member _ names _ =>
      for (name, found) in [("msg", .text fault.message), ("doc", .text text),
          ("pos", .whole fault.place), ("lineno", .whole line), ("colno", .whole column)] do
        setNamedIn names name found
    | _ => pure ()
    modify fun state => { state with
      traces := state.traces.insert address { entries := places, isSuppressed := true } }
  | _ => pure ()
  throw (.raised value)

def hookOf (given : Arguments) (name : String) : Option Value := match given.named.lookup name with
  | some .nothing => none
  | found => found

def readNotation (source : Value) (given : Arguments) : Machine Value := do
  let loads := libraryPlace "json/__init__.py" 346 "loads" "return _default_decoder.decode(s)" 7 33
  let text <- match <- heldBy source with
    | .text text => pure text
    | .octets bytes => unspell bytes "utf-8" "surrogatepass"
    | .object address => match <- thingAt address with
      | .octets bytes => unspell bytes "utf-8" "surrogatepass"
      | _ => wrongSource
    | _ => wrongSource
  if text.startsWith "\ufeff" then
    failNotation ⟨"Unexpected UTF-8 BOM (decode using utf-8-sig)", 0⟩ text
      [libraryPlace "json/__init__.py" 335 "loads"
        "raise JSONDecodeError(\"Unexpected UTF-8 BOM (decode using utf-8-sig)\"," 0 0]
  let hooks : NotationHooks :=
    { object := hookOf given "object_hook", pairs := hookOf given "object_pairs_hook"
      real := hookOf given "parse_float", whole := hookOf given "parse_int"
      special := hookOf given "parse_constant" }
  match NotationTree.read text.toList.toArray with
  | .ok tree => valueOfTree engine hooks 1000 tree
  | .error fault =>
    let decode := libraryPlace "json/decoder.py" 337 "decode"
      "obj, end = self.raw_decode(s, idx=_w(s, 0).end())" 11 49
    let places :=
      if fault.message = "Extra data" then
        [loads, libraryPlace "json/decoder.py" 340 "decode"
          "raise JSONDecodeError(\"Extra data\", s, end)" 0 0]
      else if fault.message = "Expecting value" then
        [loads, decode, libraryPlace "json/decoder.py" 355 "raw_decode"
          "raise JSONDecodeError(\"Expecting value\", s, err.value) from None" 0 0]
      else
        [loads, decode, libraryPlace "json/decoder.py" 353 "raw_decode"
          "obj, end = self.scan_once(s, idx)" 11 33]
    failNotation fault text places
where
  wrongSource : Machine String := do
    let shown := s!"the JSON object must be str, bytes or bytearray, not {← typeName source}"
    throughPlaces
      [libraryPlace "json/__init__.py" 339 "loads"
        "raise TypeError(f'the JSON object must be str, bytes or bytearray, '" 0 0]
      (failType shown)

/-! ## Writing -/

structure NotationStyle where
  indent : Option String := none
  separator : String := ", "
  keySeparator : String := ": "
  isSorted : Bool := false
  isPlain : Bool := true
  skipsKeys : Bool := false
  allowsSpecial : Bool := true
  usual : Option Value := none

def notationChar (isPlain : Bool) : Char -> String
  | '"' => "\\\""
  | '\\' => "\\\\"
  | '\n' => "\\n"
  | '\r' => "\\r"
  | '\t' => "\\t"
  | '\x08' => "\\b"
  | '\x0c' => "\\f"
  | c =>
    let number := numberOfChar c
    if number < 32 || (isPlain && 126 < number && number < 0x10000) then "\\u" ++ hexDigits 4 number
    else if isPlain && 0x10000 <= number then
      let rest := number - 0x10000
      "\\u" ++ hexDigits 4 (0xd800 + rest / 0x400) ++ "\\u" ++ hexDigits 4 (0xdc00 + rest % 0x400)
    else .singleton c

def notationText (isPlain : Bool) (text : String) : String :=
  "\"" ++ .join (text.toList.map (notationChar isPlain)) ++ "\""

def notationReal (style : NotationStyle) (value : Float) : Machine String := do
  let text := realText value
  let special := List.lookup text [("nan", "NaN"), ("inf", "Infinity"), ("-inf", "-Infinity")]
  let some name := special | return text
  if style.allowsSpecial then return name
  else failValue s!"Out of range float values are not JSON compliant: {text}"

def notationKey (style : NotationStyle) (key : Value) : Machine (Option String) := do
  match <- heldBy key with
  | .text text => return some text
  | .nothing => return some "null"
  | .truth holds => return some (if holds then "true" else "false")
  | .whole value => return some (wholeText value)
  | .real value => return some (<- notationReal style value)
  | _ =>
    if style.skipsKeys then return none
    else failType s!"keys must be str, int, float, bool or None, not {← typeName key}"

def unwritablePlace : TraceEntry :=
  libraryPlace "json/encoder.py" 180 "default"
    "raise TypeError(f'Object of type \x7bo.__class__.__name__\x7d '" 0 0

def writeNotation (style : NotationStyle) : Nat -> List Nat -> Nat -> Value -> Machine String
  | 0, _, _, _ => fail "RecursionError" "maximum recursion depth exceeded while encoding a JSON object"
  | depth + 1, around, level, value => do
    let lineAt (level : Nat) : String := match style.indent with
      | some indent => "\n" ++ .join (List.replicate level indent)
      | none => ""
    let row (opening closing : String) (parts : List String) : String :=
      if parts.isEmpty then opening ++ closing
      else
        let between := style.separator ++ lineAt (level + 1)
        opening ++ lineAt (level + 1) ++ between.intercalate parts ++ lineAt level ++ closing
    let other : Machine String := do
      match style.usual with
      | some function => writeNotation style depth around level (<- engine.call function [value] [])
      | none =>
        let shown := s!"Object of type {← typeName value} is not JSON serializable"
        throughPlaces [unwritablePlace] (failType shown)
    match <- heldBy value with
    | .nothing => return "null"
    | .truth holds => return if holds then "true" else "false"
    | .whole value => return wholeText value
    | .real value => notationReal style value
    | .text text => return notationText style.isPlain text
    | .tuple items =>
      return row "[" "]" (<- items.mapM (writeNotation style depth around (level + 1)))
    | .object address => match <- thingAt address with
      | .list items =>
        if around.contains address then failValue "Circular reference detected"
        return row "[" "]"
          (<- items.toList.mapM (writeNotation style depth (address :: around) (level + 1)))
      | .dict table =>
        if around.contains address then failValue "Circular reference detected"
        let entries <- if style.isSorted then sortedEntries table.pairs else pure table.pairs
        let parts <- entries.filterMapM fun (key, found) => do
          let some key <- notationKey style key | return none
          let shown <- writeNotation style depth (address :: around) (level + 1) found
          return some (notationText style.isPlain key ++ style.keySeparator ++ shown)
        return row "\x7b" "\x7d" parts
      | _ => other
    | _ => other
where
  sortedEntries (entries : List (Value × Value)) : Machine (List (Value × Value)) := do
    let rows := entries.map fun entry => (entry.1, .tuple [entry.1, entry.2])
    return (<- sortedByKeys engine rows false).filterMap fun
      | .tuple [key, value] => some (key, value)
      | _ => none

def notationStyle (given : Arguments) : Machine NotationStyle := do
  let truthOf (name : String) (usual : Bool) : Machine Bool := do
    match given.named.lookup name with
    | some value => isTrue engine value
    | none => return usual
  let indent <- match hookOf given "indent" with
    | none => pure none
    | some (.text text) => pure (some text)
    | some value => do pure (some (.ofList (List.replicate (<- indexOf engine value).toNat ' ')))
  let separators <- match hookOf given "separators" with
    | some value => do
      match <- itemsOf engine value with
      | [.text first, .text second] => pure (first, second)
      | _ => failValue "expected two separators"
    | none => pure (if indent.isSome then "," else ", ", ": ")
  return {
    indent, separator := separators.1, keySeparator := separators.2
    isSorted := <- truthOf "sort_keys" false
    isPlain := <- truthOf "ensure_ascii" true
    skipsKeys := <- truthOf "skipkeys" false
    allowsSpecial := <- truthOf "allow_nan" true
    usual := hookOf given "default" }

def writingPlaces (given : Arguments) (indents : Bool) : List TraceEntry :=
  let first :=
    if given.named.isEmpty then
      libraryPlace "json/__init__.py" 231 "dumps" "return _default_encoder.encode(obj)" 7 35
    else libraryPlace "json/__init__.py" 238 "dumps" "**kw).encode(obj)" 6 17
  if indents then
    [first, libraryPlace "json/encoder.py" 202 "encode" "chunks = list(chunks)" 9 21,
      libraryPlace "json/encoder.py" 439 "_iterencode" "o = _default(o)" 4 15]
  else
    [first,
      libraryPlace "json/encoder.py" 200 "encode" "chunks = self.iterencode(o, _one_shot=True)" 9 43,
      libraryPlace "json/encoder.py" 258 "iterencode" "return _iterencode(o, 0)" 7 24]

def notationFunction (name : String) (given : Arguments) : Machine Value := do
  let first := argumentAt given 0
  match name with
  | "loads" => readNotation engine (((argumentFor given 0 "s")).getD .nothing) given
  | "load" =>
    let source := (argumentFor given 0 "fp").getD .nothing
    let text <- engine.call (<- attributeOf engine source "read") [] []
    throughPlaces
      [libraryPlace "json/__init__.py" 293 "load" "return loads(fp.read()," 7 23]
      (readNotation engine text given)
  | "dumps" =>
    let style <- notationStyle engine given
    throughPlaces (writingPlaces given style.indent.isSome)
      (do return .text (<- writeNotation engine style 1000 [] 0 first))
  | "dump" =>
    let style <- notationStyle engine given
    let text <- throughPlaces
      [libraryPlace "json/__init__.py" 179 "dump" "for chunk in iterable:" 0 0,
        libraryPlace "json/encoder.py" 439 "_iterencode" "o = _default(o)" 4 15]
      (writeNotation engine style 1000 [] 0 first)
    writeTo engine ((argumentFor given 1 "fp").getD .nothing) text
    return .nothing
  | name => fail "AttributeError" s!"module 'json' has no attribute '{name}'"

end

end BaseLanguage.Shell.Objects
