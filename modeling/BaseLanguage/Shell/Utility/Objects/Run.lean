import BaseLanguage.Shell.Utility.Objects.Loading

namespace BaseLanguage

open Text
namespace Shell
namespace Objects

/-!
# Reports of faults

A fault that nothing handles is told at the end: the places that it went through, with what is marked
in their lines, and what it is.  What it was caused by is told in front of it.
-/

/-! ## Marks -/

/-- Where the marked part of a line has an inner part that is marked otherwise: the sign between two
values, or the brackets behind one. -/
def innerMarks? (text : Chars) : Option (Nat × Nat) :=
  match expressionOf ("(".toList ++ text ++ ")".toList).toArray with
  | .error _ => none
  | .ok found =>
    let inner (found : Expression) : Expression := found.bare
    match inner found with
    | .binary _ left right =>
      let first := left.span.lastColumn - 1
      let last := right.span.column - 1
      let between := (text.drop first).take (last - first)
      let blanks := between.takeWhile (fun c => c = ' ' || c = ')' || c = '\t' || c = '\\')
      let start := first + blanks.length
      let isLong := match text[start + 1]? with
        | some c => start + 1 < last && c ≠ ' ' && c ≠ '('
        | none => false
      if left.span.line = 1 && right.span.line = 1 then
        some (start, if isLong then start + 2 else start + 1)
      else none
    | .item left _ => some (left.span.lastColumn - 1, text.length)
    | _ => none

def marksBelow (line : Chars) (first last : Nat) : Option String :=
  let stripped := line.dropWhile (fun c => c = ' ' || c = '\t' || c = '\x0c')
  let indent := line.length - stripped.length
  let stripped := dropTrailing isSpace stripped
  let start := first - indent
  let size := last - first
  if size = 0 || stripped.length < start then none
  else
    let marked := (line.drop first).take size
    match innerMarks? marked with
    | some (left, right) =>
      some (.ofList (List.replicate start ' ' ++ List.replicate left '~' ++
        List.replicate (right - left) '^' ++ List.replicate (size - right) '~'))
    | none =>
      if size = stripped.length then none
      else some (.ofList (List.replicate start ' ' ++ List.replicate size '^'))

/-! ## Places -/

def placeLines (lines : Std.HashMap String (Array String)) (entry : TraceEntry) : String :=
  let number := numberText entry.span.line
  let front := s!"  File \"{entry.file}\", line {number}, in {entry.name}\n"
  match entry.text with
  | some text =>
    let marks := if entry.span.lastColumn = 0 then ""
      else
        let spaces := String.ofList (List.replicate entry.span.column ' ')
        let signs := String.ofList (List.replicate (entry.span.lastColumn - entry.span.column) '^')
        s!"    {spaces}{signs}\n"
    s!"{front}    {text}\n{marks}"
  | none => match (lines[entry.file]?).bind (·[entry.span.line - 1]?) with
    | none => front
    | some line =>
      let stripped := String.ofList
        ((line.toList.dropWhile isSpace).reverse.dropWhile isSpace).reverse
      if stripped.isEmpty then front
      else
        let chars := line.toList
        let whole := (chars.reverse.dropWhile isSpace).length
        let last := if entry.span.line = entry.span.lastLine then entry.span.lastColumn else whole
        let marks := match marksBelow chars entry.span.column last with
          | some marks => s!"    {marks}\n"
          | none => ""
        s!"{front}    {stripped}\n{marks}"

def isSamePlace (left right : TraceEntry) : Bool :=
  left.file = right.file && left.name = right.name && left.span.line = right.span.line

def allPlaces (lines : Std.HashMap String (Array String)) (entries : List TraceEntry) : String :=
  let more (count : Nat) : String :=
    if count <= 3 then ""
    else
      let word := if count = 4 then "time" else "times"
      s!"  [Previous line repeated {numberText (count - 3)} more {word}]\n"
  let (said, _, count) := entries.foldl
    (fun (state : List String × Option TraceEntry × Nat) entry =>
      let (said, last, count) := state
      if last.any (isSamePlace entry) then
        (if count < 3 then placeLines lines entry :: said else said, some entry, count + 1)
      else (placeLines lines entry :: more count :: said, some entry, 1))
    (([] : List String), none, 0)
  .join (more count :: said).reverse

/-! ## Names that were meant -/

def letterDistance (left right : Char) : Nat :=
  if left = right then 0 else if left.toLower = right.toLower then 1 else 2

def nameDistance (left right : Chars) : Nat :=
  let first := (List.range (right.length + 1)).map (2 * ·)
  let rows := left.foldl (fun (row : List Nat × Nat) c =>
    let start := row.2 + 2
    let step (state : List Nat × Nat × List Nat) (other : Char) : List Nat × Nat × List Nat :=
      let (done, before, above) := state
      match above with
      | corner :: up :: rest =>
        let here := min (min (before + 2) (up + 2)) (corner + letterDistance c other)
        (here :: done, here, up :: rest)
      | _ => state
    let (done, _, _) := right.foldl step ([start], start, row.1)
    (done.reverse, start)) (first, 0)
  rows.1.getLastD 0

def meantName? (wrong : String) (names : List String) : Option String :=
  let size := wrong.length
  let step (best : Option (String × Nat)) (name : String) : Option (String × Nat) :=
    if name = wrong then best
    else
      let most := (size + name.length + 3) * 2 / 6
      let most := match best with
        | some (_, distance) => min most (distance - 1)
        | none => most
      let distance := nameDistance wrong.toList name.toList
      if distance <= most then some (name, distance) else best
  (names.foldl step none).map Prod.fst

section

variable (engine : Engine)

def meantWords (fault : Value) (message : String) : Machine String := do
  let quoted := message.splitOn "'"
  let word (name : Option String) : String := match name with
    | some name => s!". Did you mean: '{name}'?"
    | none => ""
  if (<- typeName fault) = "NameError" then
    match quoted with
    | [_, wrong, _] => match <- attribute? engine fault "__names__" with
      | some names =>
        let names := (<- itemsOf engine names).filterMap fun
          | .text text => some text
          | _ => none
        return word (meantName? wrong names)
      | none => return ""
    | _ => return ""
  else if (<- typeName fault) = "AttributeError" then
    match <- attribute? engine fault "name", <- attribute? engine fault "obj" with
    | some (.text wrong), some value => return word (meantName? wrong (<- namesOf engine value))
    | _, _ => return ""
  else return ""

def faultWords (fault : Value) : Machine String := do
  let facts <- typeAt (<- typeOf fault)
  let name := if facts.package = "__main__" || facts.package = "builtins" then facts.qualified
    else facts.wholeName
  let asked : Machine (Option String) :=
    tryCatch (do return some (<- strOf engine fault)) fun interrupt => do
      match interrupt with
      | .raised _ => return none
      | .exit _ => throw interrupt
  let notes <- match <- attribute? engine fault "__notes__" with
    | some notes => do
      pure (.join ((<- (<- itemsOf engine notes).mapM (strOf engine)).map (· ++ "\n")))
    | none => pure ""
  match <- asked with
  | none => return s!"{name}: <exception str() failed>\n{notes}"
  | some "" => return s!"{name}\n{notes}"
  | some text =>
    let meant <- meantWords engine fault text
    return s!"{name}: {text}{meant}\n{notes}"

def syntaxLines (fault : Value) : Machine String := do
  let textOf (name : String) : Machine (Option String) := do
    match <- attribute? engine fault name with
    | some (.text text) => return some text
    | _ => return none
  let numberOf (name : String) : Machine Nat := do
    match <- attribute? engine fault name with
    | some (.whole value) => return value.toNat
    | _ => return 0
  let some file <- textOf "filename" | return ""
  let lineNumber <- numberOf "lineno"
  let front := s!"  File \"{file}\", line {numberText lineNumber}\n"
  let some text <- textOf "text" | return front
  let line := dropTrailing (· = '\n') text.toList
  let stripped := line.dropWhile (fun c => c = ' ' || c = '\t' || c = '\x0c')
  let shown := String.ofList stripped
  let column := (<- numberOf "offset") - 1 - (line.length - stripped.length)
  let ending := (<- numberOf "end_offset") - 1 - (line.length - stripped.length)
  let isMultiline := (<- numberOf "end_lineno") ≠ (<- numberOf "lineno")
  let ending := if isMultiline then stripped.length else ending
  if (<- numberOf "offset") = 0 then return s!"{front}    {shown}\n"
  else
    let spaces := String.ofList (List.replicate column ' ')
    let signs := String.ofList (List.replicate (max 1 (ending - column)) '^')
    return s!"{front}    {shown}\n    {spaces}{signs}\n"

def reportWithin : Nat -> List Nat -> Value -> Machine String
  | 0, _, _ => return ""
  | depth + 1, told, fault => do
    match fault with
    | .object address =>
      let trace := ((<- get).traces[address]?).getD {}
      let isNew (other : Value) : Bool := match other with
        | .object other => !(address :: told).contains other
        | _ => false
      let before <-
        if isNew trace.cause then
          pure ((<- reportWithin depth (address :: told) trace.cause) ++
            "\nThe above exception was the direct cause of the following exception:\n\n")
        else if isNew trace.context && !trace.isSuppressed then
          pure ((<- reportWithin depth (address :: told) trace.context) ++
            "\nDuring handling of the above exception, another exception occurred:\n\n")
        else pure ""
      let places := allPlaces (<- get).lines trace.entries
      let front := if trace.entries.isEmpty then ""
        else s!"Traceback (most recent call last):\n{places}"
      if (<- isFault fault "SyntaxError") then
        let lines <- syntaxLines engine fault
        let facts <- typeAt (<- typeOf fault)
        let message <- match <- attribute? engine fault "msg" with
          | some (.text text) => pure text
          | _ => strOf engine fault
        return s!"{before}{front}{lines}{facts.name}: {message}\n"
      else
        let words <- faultWords engine fault
        return s!"{before}{front}{words}"
    | _ => return ""

def reportOf (fault : Value) : Machine String := reportWithin engine 100 [] fault

end

end Objects

/-!
## Programs of objects

A program stands in an argument, in a file, or in what is read; it may also be the program of a
package.  Its end tells why it ended, if that was a fault.
-/

namespace Objects

/-! ## The beginning -/

def firstThings : Array Thing :=
  let count := nativeTypes.length
  let types := nativeTypes.zipIdx.foldl
    (fun (things : Array TypeFacts) ((name, package, base), index) =>
      let baseNumber := nativeType base
      let line := if base.isEmpty then [index] else index :: (things.getD baseNumber default).line
      let wholeName := if name = "HASH" then "HASH" else name
      things.push
        { name := wholeName, qualified := wholeName, package, isNative := true, line
          bases := if base.isEmpty then [] else [baseNumber]
          names := count + 3 + index, layout := name }) #[]
  let stream (number : Nat) (name mode : String) (errors : String) : Thing :=
    .stream
      { name := .text name, mode, stream := some number, reads := mode = "r", writes := mode = "w"
        errors, isEager := number = standardError }
  let things : Array Thing := types.map .type
  let things := things ++ #[stream standardInput "<stdin>" "r" "surrogateescape",
    stream standardOutput "<stdout>" "w" "surrogateescape",
    stream standardError "<stderr>" "w" "backslashreplace"]
  types.foldl (fun things _ => things.push (.dict {})) things

def alwaysNames : List (String × Value) :=
  (plainFunctions ++ ["locals", "globals", "eval", "exec", "compile", "__import__"]).map
      (fun name => (name, .builtIn name)) ++
    namedTypes.map (fun name => (name, .object (nativeType name))) ++
    [("None", .nothing), ("True", .truth true), ("False", .truth false), ("Ellipsis", .ellipsis),
      ("NotImplemented", .notImplemented), ("__debug__", .truth true),
      ("EnvironmentError", .object (nativeType "OSError")),
      ("IOError", .object (nativeType "OSError")), ("__name__", .text "builtins")]

def versionNumber : String := "3.11.2"

def systemNames (arguments folders : List String) (modules : Nat) : Machine (List (String × Value)) := do
  let texts (values : List String) : Machine Value :=
    newList (values.map fun value => .text (textOfOctets value))
  return [("argv", <- texts arguments), ("path", <- texts folders),
    ("modules", .object modules), ("stdin", .object inputAddress),
    ("stdout", .object outputAddress), ("stderr", .object complaintAddress),
    ("__stdin__", .object inputAddress), ("__stdout__", .object outputAddress),
    ("__stderr__", .object complaintAddress),
    ("version", .text (versionNumber ++ " (main, Apr 28 2025, 14:11:48) [GCC 12.2.0]")),
    ("hexversion", .whole 51053296), ("platform", .text "linux"), ("byteorder", .text "little"),
    ("maxsize", .whole 9223372036854775807), ("maxunicode", .whole 1114111),
    ("executable", .text "/usr/bin/python3"), ("prefix", .text "/usr"),
    ("exec_prefix", .text "/usr"), ("base_prefix", .text "/usr"), ("copyright", .text ""),
    ("api_version", .whole 1013), ("dont_write_bytecode", .truth false), ("warnoptions", <- texts []),
    ("ps1", .text ">>> "), ("float_repr_style", .text "short")] ++
    functionsNamed "sys" (wordsIn "exit exc_info exception getrecursionlimit setrecursionlimit
      getsizeof intern getdefaultencoding getfilesystemencoding getrefcount is_finalizing
      _exit_soon")

def usualFolders : List String :=
  ["/usr/lib/python311.zip", "/usr/lib/python3.11", "/usr/lib/python3.11/lib-dynload",
    "/usr/local/lib/python3.11/dist-packages", "/usr/lib/python3/dist-packages"]

variable (engine : Engine)

def prepareProgram (arguments folders : List String) : Machine Nat := do
  let builtIns <- newTable (.ofNames alwaysNames)
  let modules <- newTable {}
  let main <- newTable (.ofNames
    [("__name__", .text "__main__"), ("__doc__", .nothing), ("__package__", .nothing),
      ("__loader__", .nothing), ("__spec__", .nothing)])
  modify ({ · with builtIns, modules, main })
  let (_, system) <- newPackage "sys" (<- systemNames arguments folders modules)
  modify ({ · with system })
  let (always, _) <- newPackage "builtins" alwaysNames
  setNamedIn main "__builtins__" always
  setNamedIn modules "__main__" (<- newObject (.package "__main__" main))
  match libraryProgram? "sys" with
  | some program => runPackage engine "sys" "<library sys>" program system
  | none => pure ()
  return main

/-! ## The end -/

def flushSafely : Machine Bool :=
  tryCatch
    (do
      flushAll
      return true)
    fun interrupt => do
      match interrupt with
      | .raised _ => return false
      | .exit _ => throw interrupt

def endByFault (fault : Value) : Machine Nat := do
  if <- isFault fault "SystemExit" then
    let asked : Machine Value := do return (<- attribute? engine fault "code").getD .nothing
    match <- asked with
    | .nothing => return success
    | .whole code => return (code % 256).toNat
    | .truth holds => return if holds then 1 else 0
    | code =>
      let text <- strOf engine code
      writeTo engine (<- systemValue "stderr") (text ++ "\n")
      return failure
  else
    discard <| flushSafely
    let report <- reportOf engine fault
    let target <- systemValue "stderr"
    match target with
    | .nothing => pure ()
    | target => writeTo engine target report
    return if <- isFault fault "KeyboardInterrupt" then signalledStatus 2 else failure

def untilEnd (work : Machine Unit) : Machine Nat :=
  tryCatch
    (do
      work
      return success)
    fun interrupt => do
      match interrupt with
      | .raised fault => endByFault engine fault
      | .exit _ => throw interrupt

def finish (status : Nat) : Machine Nat := do
  let endings := (<- get).endings
  endings.forM fun (function, arguments) => do
    let options := (arguments.getD 1 .nothing)
    let placed <- match arguments.head? with
      | some given => itemsOf engine given
      | none => pure []
    discard <| untilEnd engine do discard <| engine.call function placed (<- namedArguments options)
  let held := (<- streamAt outputAddress).size ≠ 0
  if <- flushSafely then return status
  else if held then
    let shown := "Exception ignored in: <_io.TextIOWrapper name='<stdout>' mode='w' " ++
      "encoding='utf-8'>\nBrokenPipeError: [Errno 32] Broken pipe\n"
    sayText complaintAddress shown
    return 120
  else return status

/-! ## Calls -/

structure Request where
  command : Option String := none
  package : Option String := none
  operands : List String := []
  tellsVersion : Nat := 0
  isEager : Bool := false
  isAlone : Bool := false
  drops : Bool := false

def usageLines (program : String) : String :=
  s!"usage: {program} [option] ... [-c cmd | -m mod | file | -] [arg] ...\n" ++
    "Try \x60python -h' for more information.\n"

def Request.letters (program : String) (next : Option String) :
    Request -> Chars -> Except String (Request × Bool × Bool)
  | request, [] => .ok (request, false, false)
  | request, letter :: rest =>
    let value : Option (String × Bool) :=
      if rest.isEmpty then next.map (·, true) else some (.ofList rest, false)
    let missing : Except String (Request × Bool × Bool) :=
      .error (s!"Argument expected for the -{String.singleton letter} option\n" ++ usageLines program)
    match letter with
    | 'c' => match value with
      | some (text, taken) => .ok ({ request with command := some text }, taken, true)
      | none => missing
    | 'm' => match value with
      | some (text, taken) => .ok ({ request with package := some text }, taken, true)
      | none => missing
    | 'W' => match value with
      | some (_, taken) => .ok (request, taken, false)
      | none => missing
    | 'X' => match value with
      | some (_, taken) => .ok (request, taken, false)
      | none => missing
    | 'u' => letters program next { request with isEager := true } rest
    | 'V' => letters program next { request with tellsVersion := request.tellsVersion + 1 } rest
    | 'O' => letters program next { request with drops := true } rest
    | 'I' => letters program next { request with isAlone := true } rest
    | letter =>
      if ['b', 'B', 'd', 'E', 'i', 'P', 'q', 's', 'S', 't', 'v', 'x', 'R'].contains letter then
        letters program next request rest
      else .error (s!"Unknown option: -{String.singleton letter}\n" ++ usageLines program)

def Request.read (program : String) : Nat -> Request -> List String -> Except String Request
  | 0, request, arguments => .ok { request with operands := arguments }
  | _, request, [] => .ok request
  | limit + 1, request, argument :: rest => match argument.toList with
    | ['-'] => .ok { request with operands := argument :: rest }
    | ['-', '-'] => .ok { request with operands := rest }
    | '-' :: '-' :: _ =>
      if argument = "--version" then
        Request.read program limit { request with tellsVersion := request.tellsVersion + 1 } rest
      else .error (s!"unknown option {argument}\n" ++ usageLines program)
    | '-' :: letters => do
      let (request, taken, ends) <- request.letters program rest.head? letters
      let rest := if taken then rest.drop 1 else rest
      if ends then return { request with operands := rest }
      else Request.read program limit request rest
    | _ => .ok { request with operands := argument :: rest }

def runText (services : Services) (request : Request) (file : String) (text : String)
    (arguments : List String) (folder : String) : Act Nat := do
  let session <- get
  let isUnset (name : String) : Bool := ((session.environment.lookup name).getD "").isEmpty
  if isUnset "LC_ALL" && isUnset "LC_CTYPE" && isUnset "LANG" then
    modify fun session => { session with
      environment := withEntry "LC_CTYPE" "C.UTF-8" session.environment }
  let extra := (((session.environment.lookup "PYTHONPATH").map
    (·.splitOn ":")).getD []).filter (!·.isEmpty)
  let folders := (if request.isAlone then [] else [folder]) ++ extra ++ usualFolders
  let engine := engineWithin services 1000
  let isEager := request.isEager || !isUnset "PYTHONUNBUFFERED"
  let program : Machine Nat := do
    if isEager then changeStream outputAddress ({ · with isEager := true })
    let main <- prepareProgram engine arguments folders
    let status <- untilEnd engine do
      match request.package with
      | some package => runNamed engine package main
      | none =>
        if file ≠ "<string>" && file ≠ "<stdin>" then
          setNamedIn main "__file__" (.text file)
          modify fun state => { state with lines := state.lines.insert file (linesOfText text) }
        discard <| runCode engine (<- codeOfText file false text) main main
    finish engine status
  let (outcome, _) <- (program.run).run
    { things := firstThings, seed := session.time, mostDepth := 1000, scopes := #[{}] }
  match outcome with
  | .ok status => return status
  | .error (.exit status) => return status
  | .error (.raised _) => return failure
where
  runNamed (engine : Engine) (package : String) (main : Nat) : Machine Unit := do
    let parts := package.splitOn "."
    let missing : Machine Unit := do
      let shown := s!"/usr/bin/python3: No module named {package}\n"
      sayText complaintAddress shown
      throw (.raised (<- newFault (nativeType "SystemExit") [.whole 1]))
    match <- nativeNames package, libraryProgram? (package ++ ".__main__") with
    | _, some program =>
      let number <- codeOfText s!"<library {package}>" false program
      discard <| runCode engine number main main
    | some _, none => discard <| engine.use package
    | none, none =>
      let folders <- packageFolders engine
      let inner := "/".intercalate parts
      match <- packageFile? inner folders with
      | some (file, isFolder) =>
        let file := if isFolder then .ofList (file.toList.take (file.length - 11)) ++ "__main__.py"
          else file
        match <- readNamed file with
        | .ok bytes =>
          let session <- sessionNow
          let shown := textOfOctets (if file.startsWith "/" then file
            else nameWithin (pathTo session.files.current) file)
          let text := decodedText bytes
          setNamedIn main "__file__" (.text shown)
          match <- namedIn? (<- get).system "argv" with
          | some arguments => setItem engine arguments (.whole 0) (.text shown)
          | none => pure ()
          modify fun state => { state with lines := state.lines.insert shown (linesOfText text) }
          discard <| runCode engine (<- codeOfText shown false text) main main
        | .error _ =>
          sayText complaintAddress
            (s!"/usr/bin/python3: No module named {package}.__main__; '{package}' is a " ++
              "package and cannot be directly executed\n")
          throw (.raised (<- newFault (nativeType "SystemExit") [.whole 1]))
      | none => match libraryProgram? package with
        | some _ => discard <| engine.use package
        | none => missing

end Objects

def objectsProgram : Program := fun services program arguments => do
  let complainText (status : Nat) (text : String) : Act Nat := do
    discard <| putText standardError text
    return status
  match Objects.Request.read program (arguments.length + 1) {} arguments with
  | .error message => complainText misuse message
  | .ok request =>
    if request.tellsVersion ≠ 0 then
      let text := if request.tellsVersion = 1 then s!"Python {Objects.versionNumber}\n"
        else s!"Python {Objects.versionNumber} (main, Apr 28 2025, 14:11:48) [GCC 12.2.0]\n"
      discard <| putText standardOutput text
      return success
    else match request.command, request.package, request.operands with
      | some command, _, operands =>
        Objects.runText services request "<string>" (Objects.textOfOctets command ++ "\n")
          ("-c" :: operands) ""
      | none, some _, operands =>
        let folder := pathTo (<- get).files.current
        Objects.runText services request "<string>" "" ("-m" :: operands) folder
      | none, none, [] => fromInput services request [""]
      | none, none, "-" :: operands => fromInput services request ("-" :: operands)
      | none, none, file :: operands =>
        let session <- get
        let whole := if file.startsWith "/" then file
          else nameWithin (pathTo session.files.current) file
        if session.hasFolder file then
          complainText failure s!"/usr/bin/{program}: can't find '__main__' module in '{whole}'\n"
        else match <- readNamed file with
          | .error fault =>
            let number := numberText (Objects.systemNumber fault)
            complainText misuse
              s!"{program}: can't open file '{whole}': [Errno {number}] {wording fault}\n"
          | .ok bytes =>
            let folder := (file.splitOn "/").dropLast
            let folder := if folder.isEmpty then pathTo session.files.current
              else "/".intercalate folder
            let folder := if folder.startsWith "/" then folder
              else nameWithin (pathTo session.files.current) folder
            let shown := if file.startsWith "/" then file else whole
            Objects.runText services request (Objects.textOfOctets shown)
              (Objects.decodedText bytes) (file :: operands) folder
where
  fromInput (services : Services) (request : Objects.Request) (arguments : List String) :
      Act Nat := do
    let bytes := (<- takeAll standardInput).getD .empty
    Objects.runText services request "<stdin>" (Objects.decodedText bytes) arguments ""

end Shell
end BaseLanguage
