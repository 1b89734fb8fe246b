import BaseLanguage.Shell.Utility.Objects.CollectionPackages
import BaseLanguage.Shell.Utility.Objects.Mathematics
import BaseLanguage.Shell.Utility.Objects.Notation
import BaseLanguage.Shell.Utility.Objects.SystemPackages

namespace BaseLanguage.Shell.Objects

/-!
# Loading

A package is a table of names.  It is always there, or it is a program in a file that is run when the
package is used for the first time.
-/

/-!
## Packages in the language itself

Some packages are programs in the language itself; a package is known here by its name.
-/

def barredProgram? : String -> Option String
  | "os" => some osProgram
  | "posixpath" => some posixpathProgram
  | "stat" => some statProgram
  | "errno" => some errnoProgram
  | "signal" => some signalProgram
  | "subprocess" => some subprocessProgram
  | "collections" => some collectionsProgram
  | "collections.abc" => some collectionsAbcProgram
  | "itertools" => some itertoolsProgram
  | "functools" => some functoolsProgram
  | "operator" => some operatorProgram
  | "heapq" => some heapqProgram
  | "bisect" => some bisectProgram
  | "enum" => some enumProgram
  | "abc" => some abcProgram
  | "typing" => some typingProgram
  | "dataclasses" => some dataclassesProgram
  | "types" => some typesProgram
  | "copy" => some copyProgram
  | "contextlib" => some contextlibProgram
  | "keyword" => some keywordProgram
  | "sys" => some systemProgram
  | "re" => some reProgram
  | _ => none

def libraryProgram? (name : String) : Option String :=
  (barredProgram? name).map (·.replace "\n|" "\n" ++ "\n")

/-! ## Programs -/

def programFault (file : String) (lines : Array String) (fault : Fault) : Machine Value := do
  let value <- newFault (nativeType fault.type) [.text fault.message]
  match value with
  | .object address => match <- thingAt address with
    | .member _ names _ =>
      let span := fault.span
      let line := lines.getD (span.line - 1) ""
      let text := match fault.shown with
        | some "" => if tellsPlaces file && file ≠ "<string>" && file ≠ "<stdin>" then line else ""
        | some text => text
        | none => line
      let column : Nat := span.column + 1
      let entries : List (String × Value) :=
        [("msg", .text fault.message), ("filename", .text file), ("lineno", .whole span.line),
          ("offset", .whole column), ("text", if text.isEmpty then .nothing else .text (text ++ "\n")),
          ("end_lineno", .whole span.lastLine),
          ("end_offset", .whole (if fault.isWide then span.lastColumn + 1 else span.column + 2)),
          ("print_file_and_line", .nothing)]
      for (name, found) in entries do setNamedIn names name found
    | _ => pure ()
  | _ => pure ()
  return value

def linesOfText (text : String) : Array String := (text.splitOn "\n").toArray

def addCodes (codes : Array Code) : Machine Nat :=
  modifyGet fun state =>
    let all := state.codes ++ codes
    (all.size - 1, { state with codes := all })

def codeOfText (file : String) (isExpression : Bool) (text : String) : Machine Nat := do
  let text := .ofList (withPlainEnds text.toList)
  let lines := linesOfText text
  let first := (<- get).codes.size
  let chars := text.toList.toArray
  let made : Except Fault (Array Code) :=
    if isExpression then do expressionCodes file first (<- expressionOf chars)
    else do codesOf file first (<- statementsOf chars)
  match made with
  | .ok codes => addCodes codes
  | .error fault => throw (.raised (<- programFault file lines fault))

section

variable (engine : Engine)

def runCode (number names globals : Nat) : Machine Value := do
  let code := (<- get).codes.getD number default
  engine.run { code, names, globals }

/-! ## Packages -/

def functionsNamed (package : String) (names : List String) : List (String × Value) :=
  names.map fun name => (name, .builtIn s!"{package}.{name}")

def nativeNames (name : String) : Machine (Option (List (String × Value))) := do
  match name with
  | "os" =>
    let environment := (<- sessionNow).environment.map fun (name, value) =>
      (textOfOctets name, .text (textOfOctets value))
    return some (("_environment", .object (<- newTable (.ofNames environment))) ::
      functionsNamed "os" (Text.wordsIn "getcwd chdir listdir mkdir rmdir remove rename _stat symlink
        link readlink chmod utime access umask getpid getppid getpgrp _nobody getlogin urandom _exit
        abort kill isatty cpu_count strerror _system write read open close dup2 pipe fspath truncate
        mkfifo"))
  | "time" =>
    return some (functionsNamed "time" (Text.wordsIn "time time_ns perf_counter perf_counter_ns
      process_time sleep _parts _seconds _text"))
  | "math" =>
    return some (functionsNamed "math" numberFunctions ++
      [("pi", .real 3.141592653589793), ("e", .real 2.718281828459045),
        ("tau", .real 6.283185307179586), ("inf", .real (1.0 / 0.0)), ("nan", .real (0.0 / 0.0))])
  | "json" =>
    return some (functionsNamed "json" ["loads", "load", "dumps", "dump"] ++
      [("JSONDecodeError", .object (nativeType "JSONDecodeError"))])
  | "_coding" =>
    return some (functionsNamed "_coding" (Text.wordsIn "encode decode hexlify unhexlify crc32
      adler32 digest bits unbits") ++ [("Error", .object (nativeType "Error"))])
  | "_children" => return some (functionsNamed "_children" ["start", "wait", "poll", "send", "pid"])
  | "_patterns" =>
    return some (functionsNamed "_patterns" ["compile"] ++
      [("Pattern", .object (nativeType "Pattern")), ("Match", .object (nativeType "Match")),
        ("error", .object (nativeType "error"))])
  | "builtins" => return some ((<- tableAt (<- get).builtIns).pairs.filterMap fun (name, value) =>
    match name with
    | .text name => some (name, value)
    | _ => none)
  | "_types" =>
    return some ((Text.wordsIn "NoneType function builtin_function_or_method method generator module
      TextIOWrapper BufferedReader BufferedWriter StringIO BytesIO UnsupportedOperation ellipsis
      NotImplementedType code traceback dict_keys dict_values
      dict_items").map fun name => (name, .object (nativeType name)))
  | _ => return none

def newPackage (name : String) (entries : List (String × Value)) : Machine (Value × Nat) := do
  let parts := name.splitOn "."
  let own : List (String × Value) :=
    [("__name__", .text name), ("__doc__", .nothing),
      ("__package__", .text (".".intercalate (parts.take (parts.length - 1))))]
  let names <- newTable (.ofNames (own ++ entries))
  let value <- newObject (.package name names)
  setNamedIn (<- get).modules name value
  return (value, names)

def runPackage (name file text : String) (names : Nat) : Machine Unit := do
  let work : Machine Unit := do
    discard <| runCode engine (<- codeOfText file false text) names names
  tryCatch work fun interrupt => do
    changeTable (<- get).modules (·.erase (.text name))
    throw interrupt

def packageFolders : Machine (List String) := do
  let some folders <- namedIn? (<- get).system "path" | return []
  return (<- itemsOf engine folders).filterMap fun
    | .text text => some (octetsOfText text)
    | _ => none

def packageFile? (last : String) (folders : List String) : Machine (Option (String × Bool)) := do
  let session <- sessionNow
  return folders.findSome? fun folder =>
    let base := if folder.isEmpty then octetsOfText last else nameWithin folder (octetsOfText last)
    let isFile (name : String) : Bool := (session.entry name).toOption.any (·.isFile)
    if isFile (base ++ "/__init__.py") then some (base ++ "/__init__.py", true)
    else if isFile (base ++ ".py") then some (base ++ ".py", false)
    else none

def loadPackage (name : String) (folders : List String) : Machine (Option Value) := do
  let native <- nativeNames name
  match native, libraryProgram? name with
  | none, none =>
    let last := lastPart name
    match <- packageFile? last folders with
    | none => return none
    | some (file, isFolder) => match <- readNamed file with
      | .error _ => return none
      | .ok bytes =>
        let session <- sessionNow
        let shown := textOfOctets (if file.startsWith "/" then file
          else nameWithin (pathTo session.files.current) file)
        let text := decodedText bytes
        let (value, names) <- newPackage name [("__file__", .text shown)]
        if isFolder then
          let folder := .ofList (file.toList.take (file.length - 12))
          setNamedIn names "__path__" (<- newList [.text (textOfOctets folder)])
          setNamedIn names "__package__" (.text name)
        modify fun state => { state with lines := state.lines.insert shown (linesOfText text) }
        runPackage engine name shown text names
        return some value
  | native, program =>
    let (value, names) <- newPackage name (native.getD [])
    setNamedIn names "__file__" (.text (libraryFolder ++ name ++ ".py"))
    match program with
    | some program => runPackage engine name s!"<library {name}>" program names
    | none => pure ()
    return some value

def usePart (parent : Option Value) (name : String) : Machine Value := do
  match <- namedIn? (<- get).modules name with
  | some .nothing => fail "ModuleNotFoundError" s!"import of {name} halted; None in sys.modules"
  | some found => return found
  | none =>
    let folders <- match parent with
      | none => do pure (some (<- packageFolders engine))
      | some value => match <- attribute? engine value "__path__" with
        | some folders =>
          pure (some ((<- itemsOf engine folders).filterMap fun
            | .text text => some (octetsOfText text)
            | _ => none))
        | none => pure none
    match <- loadPackage engine name (folders.getD []) with
    | some found =>
      match parent with
      | some (.object address) => match <- thingAt address with
        | .package _ names => setNamedIn names (lastPart name) found
        | _ => pure ()
      | _ => pure ()
      return (<- namedIn? (<- get).modules name).getD found
    | none => match parent, folders with
      | some _, none =>
        let parts := name.splitOn "."
        let outer := ".".intercalate (parts.take (parts.length - 1))
        fail "ModuleNotFoundError" s!"No module named '{name}'; '{outer}' is not a package"
      | _, _ => fail "ModuleNotFoundError" s!"No module named '{name}'"

def usePackage (name : String) : Machine Value := do
  let parts := name.splitOn "."
  let (found, _) <- parts.foldlM (fun (state : Option Value × String) part => do
    let whole := if state.2.isEmpty then part else s!"{state.2}.{part}"
    return (some (<- usePart engine state.1 whole), whole)) (none, "")
  return found.getD .nothing

/-! ## Programs in texts -/

def tableGiven (value : Option Value) (usual : Nat) : Machine Nat := do
  match value with
  | some (.object address) => match <- heldBy (.object address) with
    | .object held => match <- thingAt held with
      | .dict _ => return held
      | _ => failType "globals must be a dict"
    | _ => failType "globals must be a dict"
  | _ => return usual

def evaluateText (isExpression : Bool) (here : Activation) (given : Arguments) : Machine Value := do
  let found <- given.take ["", "", ""] 1
  let source := (givenAt found 0).getD .nothing
  let isGiven := match givenAt found 1 with
    | some .nothing => false
    | some _ => true
    | none => false
  let globals <- tableGiven (givenAt found 1) here.globals
  let usual <- if isGiven then pure globals else ownNames here
  let names <- tableGiven (givenAt found 2) usual
  let run (number : Nat) (codeIsExpression : Bool) : Machine Value := do
    let value <- runCode engine number names globals
    return if isExpression || codeIsExpression then value else .nothing
  match source with
  | .object address => match <- thingAt address with
    | .code number codeIsExpression => run number codeIsExpression
    | _ => failType s!"{given.function}() arg 1 must be a string, bytes or code object"
  | source =>
    let text <- match source with
      | .text text => pure text
      | .octets bytes => pure (decodedText bytes)
      | _ => failType s!"{given.function}() arg 1 must be a string, bytes or code object"
    let text := if isExpression then .ofList (text.toList.dropWhile (fun c => c = ' ' || c = '\t'))
      else text
    run (<- codeOfText "<string>" isExpression text) isExpression

def compileText (given : Arguments) : Machine Value := do
  let found <- given.take ["source", "filename", "mode", "flags", "dont_inherit", "optimize"] 3
  match givenAt found 0, givenAt found 1, givenAt found 2 with
  | some (.text text), some (.text file), some (.text mode) =>
    newObject (.code (<- codeOfText file (mode = "eval") text) (mode = "eval"))
  | some (.object address), _, _ => return .object address
  | _, _, _ => failType "compile() arg 1 must be a string, bytes or AST object"

def builtInFunction (here : Activation) (full : String) (placed : List Value)
    (named : List (String × Value)) : Machine Value := do
  let name := lastPart full
  let given : Arguments := { function := name, placed, named }
  if name = full then
    match name, placed with
    | "locals", _ => return .object (<- ownNames here)
    | "globals", _ => return .object here.globals
    | "vars", [] => return .object (<- ownNames here)
    | "dir", [] =>
      let names := (<- tableAt (<- ownNames here)).pairs.filterMap fun (name, _) => match name with
        | .text text => some text
        | _ => none
      newList ((names.mergeSort (fun a b => decide (a <= b))).map .text)
    | "eval", _ => evaluateText engine true here given
    | "exec", _ => evaluateText engine false here given
    | "compile", _ => compileText given
    | "__import__", _ =>
      let found <- given.take ["name", "globals", "locals", "fromlist", "level"] 1
      match givenAt found 0 with
      | some (.text name) =>
        let last <- engine.use name
        let wantsLast <- match givenAt found 3 with
          | some names => isTrue engine names
          | none => pure false
        if wantsLast then return last else engine.use (firstPart name)
      | _ => failType "__import__() argument 1 must be str"
    | _, _ => plainFunction engine name given
  else match firstPart full with
    | "sys" => programFunction engine name given
    | "os" => fileFunction engine name given
    | "time" => timeFunction engine name given
    | "math" => numberFunction engine name given
    | "json" => notationFunction engine name given
    | "_coding" => codingFunction engine name given
    | "_children" => childFunction engine name given
    | "_patterns" =>
      compilePattern (argumentAt given 0) (<- indexOr engine 0 (argumentFor given 1 "flags")).toNat
    | _ => fail "NameError" s!"name '{full}' is not defined"

end

/-! ## The engine -/

def engineWithin (services : Services) : Nat -> Engine
  | 0 =>
    { services
      call := fun _ _ _ => tooDeep
      run := fun _ => tooDeep
      resume := fun _ _ _ => tooDeep
      use := fun _ => tooDeep
      builtIn := fun _ _ _ _ => tooDeep }
  | depth + 1 =>
    { services
      call := fun function placed named => callValue (engineWithin services depth) function placed named
      run := (runActivation (engineWithin services depth) ·)
      resume := fun address sent fault =>
        resumeGenerator (engineWithin services depth) address sent fault
      use := (usePackage (engineWithin services depth) ·)
      builtIn := fun here name placed named =>
        builtInFunction (engineWithin services depth) here name placed named }
where
  tooDeep {α : Type} : Machine α := fail "RecursionError" "maximum recursion depth exceeded"

end BaseLanguage.Shell.Objects
