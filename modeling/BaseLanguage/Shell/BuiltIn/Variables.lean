import BaseLanguage.Shell.BuiltIn.Flow
import BaseLanguage.Shell.Expansion
import BaseLanguage.Shell.Utility.Output

namespace BaseLanguage.Shell

open Text

/-!
# Commands of the shell for variables

These declare variables, export them, keep them from changes and remove them, and read them from the
standard input.
-/

/-- The letters of the options in front of arguments, and the other arguments.  An option that is
not known stops the shell.  -/
def leadingOptions (known : Chars) : List String -> Work (Chars × List String)
  | [] => return ([], [])
  | argument :: rest => do
    match argument.toList with
    | ['-', '-'] => return ([], rest)
    | '-' :: letter :: letters =>
      match (letter :: letters).find? (!known.contains ·) with
      | some unknown => match (<- settings).kind with
        | .plain => shellFault s!"Illegal option -{String.singleton unknown}"
        | .extended =>
          complainInShell s!"-{String.singleton unknown}: invalid option"
          throw (.fault misuse)
      | none => do
        let (others, rest) <- leadingOptions known rest
        return (letter :: letters ++ others, rest)
    | _ => return ([], argument :: rest)

def declared (argument : String) : String × Option String :=
  let name := argument.toList.takeWhile (· != '=')
  match argument.toList.drop name.length with
  | _ :: value => (.ofList name, some (.ofList value))
  | [] => (argument, none)

def badName (argument : String) : Work Nat := do
  match (<- settings).kind with
  | .plain => shellFault s!"{(declared argument).1}: bad variable name"
  | .extended => refuse failure s!"\x60{argument}': not a valid identifier"

def modifyVariable (name : String) (change : Variable -> Variable) : Act Unit := do
  let old <- variableOf name
  modifyVariables (fun bindings => bindings.set (bindings.target name) (change old))

def referTo (name : String) (target : Option String) : Act Unit :=
  modifyVariables fun bindings =>
    let old := (bindings.find? name).getD {}
    let value := (target.map .text).orElse (fun _ => old.value)
    bindings.set name { old with reference := true, value }

def sayDeclared (command : String) (choose : Variable -> Bool) : Work Nat := do
  let settings <- settings
  let chosen := (settings.bindings.filter (choose ·.2)).mergeSort
    (fun left right => left.1 <= right.1)
  answerLines command (chosen.map fun (name, held) =>
    match settings.kind, settings.bindings.text? name with
    | .plain, some octets => s!"{command} {name}={singleQuoted octets}"
    | .plain, none => s!"{command} {name}"
    | .extended, _ => held.declaration name)

def declareAll (mark : Variable -> Variable) (arguments : List String) : Work Nat := do
  arguments.foldlM
    (fun worst argument => do
      let (name, value) := declared argument
      let (append, name) :=
        if (<- inExtended) && name.endsWith "+" then (true, .ofList name.toList.dropLast)
        else (false, name)
      if !isName name.toList then return max worst (<- badName argument)
      else match value with
        | some octets =>
          if (<- inExtended) && (<- variableOf name).fixed then
            complainInShell s!"{name}: readonly variable"
            return max worst failure
          else
            let old <- textOf? name
            assignText name ((if append then old.getD "" else "") ++ octets)
            modifyVariable name mark
            return worst
        | none =>
          modifyVariable name mark
          return worst)
    success

def exportVariables : BuiltIn := fun _ _ arguments => do
  let known := if <- inExtended then ['p', 'n', 'f'] else ['p']
  let (letters, names) <- leadingOptions known arguments
  if names.isEmpty then sayDeclared "export" Variable.exported
  else if letters.contains 'p' then sayDeclared "export" Variable.exported
  else declareAll ({ · with exported := !letters.contains 'n' }) names

def fixVariables : BuiltIn := fun _ _ arguments => do
  let known := if <- inExtended then ['p', 'a', 'A', 'f'] else ['p']
  let (_, names) <- leadingOptions known arguments
  if names.isEmpty then sayDeclared "readonly" Variable.fixed
  else declareAll ({ · with fixed := true }) names

def unsetNames : BuiltIn := fun _ _ arguments => do
  let (letters, names) <- leadingOptions ['v', 'f', 'n'] arguments
  let functions := letters.contains 'f'
  names.foldlM
    (fun worst name => do
      let settings <- settings
      let name := if letters.contains 'n' then name else settings.bindings.target name
      let bare := name.toList.takeWhile (· != '[')
      if functions then
        modifySettings fun settings => { settings with
          functions := settings.functions.filter (·.1 != name) }
        return worst
      else if settings.kind = .extended && bare.length < name.length then
        let index := (name.toList.drop (bare.length + 1)).takeWhile (· != ']')
        let array := .ofList bare
        let old <- variableOf array
        match old.value with
        | some (.table entries) => storeValue array (.table (entries.filter (·.1 != .ofList index)))
        | some value =>
          let place := Sum.elementIndex (some value) (<- sumOf index)
          storeValue array (.row (value.elements.filter (·.1 != place)))
        | none => pure ()
        return worst
      else if !isName name.toList then
        match settings.kind with
        | .plain => shellFault s!"{name}: bad variable name"
        | .extended => return worst
      else if (<- variableOf name).fixed then
        match settings.kind with
        | .plain => shellFault s!"{name}: is read only"
        | .extended =>
          return max worst (<- refuse failure s!"{name}: cannot unset: readonly variable")
      else
        if settings.kind = .extended && (settings.bindings.find? name).isNone then
          modifySettings fun settings => { settings with
            functions := settings.functions.filter (·.1 != name) }
        modifyVariables (·.erase name)
        return worst)
    success

def hideVariable (name : String) : Act Unit :=
  modifySettings fun settings => match settings.hidden with
    | [] => settings
    | frame :: outer =>
      if (frame.find? name).isSome then settings
      else
        let old := (settings.bindings.find? name).getD {}
        { settings with hidden := ((name, old) :: frame) :: outer }

def recasingOf (letters : Chars) (held : Variable) : Option Recasing :=
  if letters.contains 'u' then some .upper
  else if letters.contains 'l' then some .lower
  else held.recasing

def localVariables : BuiltIn := fun _ _ arguments => do
  let settings <- settings
  if settings.callers.isEmpty then
    match settings.kind with
    | .plain => shellFault "not in a function"
    | .extended => refuse failure "can only be used in a function"
  else
    let (letters, names) <-
      if settings.kind = .extended then
        leadingOptions ['a', 'A', 'i', 'r', 'x', 'n', 'l', 'u'] arguments
      else pure ([], arguments)
    names.foldlM
      (fun worst argument => do
        let (name, value) := declared argument
        if name = "-" then return worst
        else if !isName name.toList then return max worst (<- badName argument)
        else
          if (<- variableOf name).fixed then fixedFault name
          hideVariable name
          if letters.contains 'n' then
            modifyVariables (·.erase name)
            referTo name value
            return worst
          modifyVariables fun bindings =>
            if (bindings.find? name).any Variable.reference then bindings.erase name else bindings
          match value with
          | some octets => storeValue name (.text octets)
          | none =>
            if settings.kind = .extended then
              modifyVariables fun bindings =>
                bindings.set name
                  { value :=
                      if letters.contains 'A' then some (.table [])
                      else if letters.contains 'a' then some (.row [])
                      else none }
          modifyVariable name fun held => { held with
            integer := held.integer || letters.contains 'i'
            recasing := recasingOf letters held
            exported := held.exported || letters.contains 'x'
            fixed := held.fixed || letters.contains 'r' }
          return worst)
      success

def sayDeclaration (name : String) : Work Nat := do
  match (<- settings).bindings.find? name with
  | none => refuse failure s!"{name}: not found"
  | some held => answerLines "declare" [held.declaration name]

def declareVariables : BuiltIn := fun services tested arguments => do
  let settings <- settings
  let (letters, names) <-
    leadingOptions ['a', 'A', 'f', 'F', 'g', 'i', 'l', 'n', 'p', 'r', 'u', 'x'] arguments
  let has (letter : Char) : Bool := letters.contains letter
  if has 'p' then
    if names.isEmpty then
      sayDeclared "declare" fun held =>
        (!has 'x' || held.exported) && (!has 'r' || held.fixed) && (!has 'i' || held.integer)
    else
      allOf (names.map fun name => do
        match <- (sayDeclaration name).run with
        | .ok status => return status
        | .error _ => return failure)
  else if names.isEmpty && (has 'x' || has 'r' || has 'i') then
    sayDeclared "declare" fun held =>
      (!has 'x' || held.exported) && (!has 'r' || held.fixed) && (!has 'i' || held.integer)
  else if (has 'f' || has 'F') && names.isEmpty then
    let known := (settings.functions.map Prod.fst).mergeSort (fun left right => left <= right)
    answerLines "declare" (known.map (fun name => s!"declare -f {name}"))
  else if has 'f' || has 'F' then
    let known := names.filter (fun name => (settings.functions.lookup name).isSome)
    discard <| answerLines "declare" known
    return statusOf (known.length = names.length)
  else if !settings.callers.isEmpty && !has 'g' then localVariables services tested arguments
  else
    names.foldlM
      (fun worst argument => do
        let (name, value) := declared argument
        let name := .ofList (name.toList.filter (· != '+'))
        if !isName name.toList then return max worst (<- badName argument)
        else if has 'n' then
          referTo name value
          return worst
        else
          let old <- variableOf name
          let empty : Option Value :=
            if old.value.isSome then old.value
            else if has 'A' then some (.table [])
            else if has 'a' then some (.row [])
            else none
          modifyVariable name fun held => { held with
            value := empty
            integer := held.integer || has 'i'
            recasing := recasingOf letters held
            exported := held.exported || has 'x' }
          match value with
          | some octets => assignText name (<- textFor (<- variableOf name) octets)
          | none => pure ()
          if has 'r' then modifyVariable name ({ · with fixed := true })
          return worst)
      success

/-! ## Reading -/

/-- A character that was read, and whether a backslash stood in front of it. -/
abbrev ReadChar := Char × Bool

def lineOf (exact : Bool) (ending : Char) : Chars -> List ReadChar × Nat × Bool
  | [] => ([], 0, false)
  | '\\' :: c :: rest =>
    if exact then
      if ending = '\\' then ([], 1, true)
      else
        let (line, count, ended) := lineOf exact ending (c :: rest)
        (('\\', false) :: line, count + 1, ended)
    else
      let (line, count, ended) := lineOf exact ending rest
      (if c = '\n' then line else (c, true) :: line, count + 2, ended)
  | ['\\'] => (if exact then [('\\', false)] else [], 1, false)
  | c :: rest =>
    if c = ending then ([], 1, true)
    else
      let (line, count, ended) := lineOf exact ending rest
      ((c, false) :: line, count + 1, ended)

def readText (text : List ReadChar) : String := .ofList (text.map Prod.fst)

section

variable (separators : Chars)

def separates (c : ReadChar) : Bool := !c.2 && separators.contains c.1

def separatesAsBlank (c : ReadChar) : Bool := separates separators c && isSpace c.1

/-- What follows the separators behind a field: blanks, and one that is none with blanks around. -/
def behindSeparators (text : List ReadChar) : List ReadChar :=
  match text.dropWhile (separatesAsBlank separators) with
  | c :: rest =>
    if separates separators c then rest.dropWhile (separatesAsBlank separators) else c :: rest
  | [] => []

/-- The last field: all that is left, without the blanks at its end.  What only ends it does not
belong to it. -/
def lastField (text : List ReadChar) : String :=
  let field := text.takeWhile (!separates separators ·)
  let behind := text.drop field.length
  let marks := behind.filter (!separatesAsBlank separators ·)
  if behind.all (separates separators) && marks.length <= 1 then readText field
  else readText (dropTrailing (separatesAsBlank separators) text)

/-- The fields of a line, so many at most; the last one takes the rest. -/
def readFields : Nat -> List ReadChar -> List String
  | 0, _ => []
  | 1, text => [lastField separators text]
  | count + 1, text =>
    let field := text.takeWhile (!separates separators ·)
    readText field :: readFields count (behindSeparators separators (text.drop field.length))

def allReadFields : Nat -> List ReadChar -> List String
  | 0, _ => []
  | _, [] => []
  | limit + 1, text =>
    let field := text.takeWhile (!separates separators ·)
    readText field :: allReadFields limit (behindSeparators separators (text.drop field.length))

end

structure ReadRequest where
  exact : Bool := false
  row : Option String := none
  ending : Char := '\n'
  count : Option Nat := none
  whole : Bool := false
  stream : Nat := standardInput
  names : List String := []

def readLetters : ShellKind -> Chars × Chars
  | .plain => (['p'], ['r'])
  | .extended => (['a', 'd', 'i', 'n', 'N', 'p', 't', 'u'], ['r', 's', 'e'])

def ReadRequest.with (request : ReadRequest) (letter : Char) (argument : String) : ReadRequest :=
  match letter with
  | 'r' => { request with exact := true }
  | 'a' => { request with row := some argument }
  | 'd' => { request with ending := argument.toList.headD (Char.ofNat 0) }
  | 'n' => { request with count := digitsValue? argument }
  | 'N' => { request with count := digitsValue? argument, whole := true }
  | 'u' => { request with stream := (digitsValue? argument).getD 0 }
  | _ => request

def ReadRequest.withLetters (kind : ShellKind) (rest : List String) :
    ReadRequest -> Chars -> Except Char (ReadRequest × List String)
  | request, [] => .ok (request, rest)
  | request, letter :: letters =>
    if (readLetters kind).1.contains letter then
      match letters, rest with
      | [], argument :: rest => .ok (request.with letter argument, rest)
      | [], [] => .ok (request.with letter "", [])
      | letters, rest => .ok (request.with letter (.ofList letters), rest)
    else if (readLetters kind).2.contains letter then
      withLetters kind rest (request.with letter "") letters
    else .error letter

def readRequest : Nat -> ReadRequest -> List String -> Work ReadRequest
  | 0, request, _ => return request
  | _, request, [] => return request
  | limit + 1, request, argument :: rest => do
    let kind := (<- settings).kind
    match argument.toList with
    | ['-', '-'] => return { request with names := rest }
    | '-' :: letter :: letters => match request.withLetters kind rest (letter :: letters) with
      | .ok (request, rest) => readRequest limit request rest
      | .error unknown => match kind with
        | .plain => shellFault s!"Illegal option -{String.singleton unknown}"
        | .extended =>
          complainInShell s!"-{String.singleton unknown}: invalid option"
          throw (.fault misuse)
    | _ => return { request with names := argument :: rest }

def takeCounted (request : ReadRequest) (count : Nat) : Act (List ReadChar × Bool) := do
  let ending := UInt8.ofNat request.ending.toNat
  let isEnough (window : Window) : Bool :=
    count <= window.size || (!request.whole && (window.lengthWithEnding? ending).isSome)
  let window := (<- waitFor isEnough request.stream).getD {}
  let left := octetsOf (window.front (count + 1))
  let part := left.take count
  let part := if request.whole then part else part.takeWhile (· != request.ending)
  drop (min count (part.length + 1)) request.stream
  return (part.map (fun c => (c, false)), part.length = count || part.length < left.length)

/-- Takes a line from a stream; one that ends in a backslash goes on with the next. -/
def takeLogical (request : ReadRequest) : Nat -> Chars -> Act (List ReadChar × Bool)
  | 0, _ => return ([], false)
  | limit + 1, before => do
    let more := (<- takeLine request.ending request.stream).getD .empty
    let text := before ++ octetsOf more
    let (line, _, ended) := lineOf request.exact request.ending text
    if ended || more.isEmpty then return (line, ended) else takeLogical request limit text

def readLineInto : BuiltIn := fun _ _ arguments => do
  let request <- readRequest (arguments.length + 1) {} arguments
  let kind := (<- settings).kind
  if request.names.isEmpty && kind = .plain then shellFault "arg count"
  match request.names.find? (!isName ·.toList) with
  | some name => match kind with
    | .plain => shellFault s!"{name}: bad variable name"
    | .extended => refuse failure s!"\x60{name}': not a valid identifier"
  | none =>
    let (line, ended) <-
      match request.count with
      | some count => takeCounted request count
      | none => takeLogical request (mostWaits) []
    let separators := (<- settings).separators
    let line := line.filter (·.1 != Char.ofNat 0)
    let inside := line.dropWhile (separatesAsBlank separators)
    match request.row, request.names with
    | some name, _ =>
      let trimmed := dropTrailing (separatesAsBlank separators) inside
      let fields := allReadFields separators (trimmed.length + 1) trimmed
      storeValue name (.row (fields.zipIdx.map fun (octets, index) => (index, octets)))
    | none, [] => assignText "REPLY" (readText line)
    | none, names =>
      let fields := readFields separators names.length inside
      (names.zip (fields ++ List.replicate names.length "")).forM fun (name, octets) =>
        assignText name octets
    return statusOf ended

structure RowReading where
  ending : Char := '\n'
  count : Nat := 0
  origin : Option Nat := none
  skipped : Nat := 0
  trims : Bool := false
  stream : Nat := standardInput
  action : Option String := none
  quantum : Nat := 5000
  name : String := "MAPFILE"

def RowReading.read (reading : RowReading) : List String -> RowReading
  | [] => reading
  | [argument] =>
    if argument = "-t" then { reading with trims := true }
    else if argument = "--" then reading
    else { reading with name := argument }
  | argument :: value :: rest =>
    let number := (digitsValue? value).getD 0
    match argument with
    | "-t" => RowReading.read { reading with trims := true } (value :: rest)
    | "-d" => RowReading.read { reading with ending := value.toList.headD (Char.ofNat 0) } rest
    | "-n" => RowReading.read { reading with count := number } rest
    | "-O" => RowReading.read { reading with origin := some number } rest
    | "-s" => RowReading.read { reading with skipped := number } rest
    | "-u" => RowReading.read { reading with stream := number } rest
    | "-C" => RowReading.read { reading with action := some value } rest
    | "-c" => RowReading.read { reading with quantum := max 1 number } rest
    | "--" => { reading with name := value }
    | _ => { reading with name := argument }

def separateLetters (argument : String) : List String := match argument.toList with
  | '-' :: letter :: letters =>
    let flags := (letter :: letters).takeWhile (· == 't')
    let shown := flags.map (.ofList ['-', ·])
    match (letter :: letters).drop flags.length with
    | [] => shown
    | taker :: [] => shown ++ [.ofList ['-', taker]]
    | taker :: value => shown ++ [.ofList ['-', taker], .ofList value]
  | _ => [argument]

def readLines : BuiltIn := fun services _ arguments => do
  let reading := RowReading.read {} (arguments.flatMap separateLetters)
  let content := octetsOf ((<- takeAll reading.stream).getD ByteArray.empty)
  let pieces := pieces reading.ending content
  let lines :=
    pieces.dropLast.map (fun line => if reading.trims then line else line ++ [reading.ending]) ++
      (pieces.getLast?.toList.filter (!·.isEmpty))
  let lines := lines.drop reading.skipped
  let lines := if reading.count = 0 then lines else lines.take reading.count
  let start := reading.origin.getD 0
  let placed := lines.zipIdx.map fun (line, index) => (start + index, .ofList line)
  let old := ((<- variableOf reading.name).value.map Value.elements).getD []
  let before := if reading.origin.isSome then old else []
  storeValue reading.name (.row (placed.foldl
    (fun elements (place, line) => Value.insertElement place line elements) before))
  let some action := reading.action | return success
  placed.zipIdx.forM fun ((place, line), index) => do
    if (index + 1) % reading.quantum = 0 then
      discard <| runSource services true none s!"{action} {numberText place} {quotePlainly line}"
  return success

/-! ## Options of scripts -/

def optionTakes? (letter : Char) : Chars -> Option Bool
  | [] => none
  | c :: rest =>
    if c = letter && letter ≠ ':' then some (rest.head? == some ':') else optionTakes? letter rest

def setOwn (name : String) (value : Option String) : Act Unit := do
  match value with
  | some octets => storeValue name (.text octets)
  | none => modifyVariables (·.erase name)

def nextOption : BuiltIn := fun _ _ arguments => do
  match arguments with
  | known :: name :: given =>
    let settings <- settings
    let words := if given.isEmpty then settings.arguments else given
    let position := max 1 (((<- textOf? "OPTIND").bind digitsValue?).getD 1)
    let silent := known.startsWith ":"
    let finish (position letters : Nat) (found : String) (status : Nat) : Work Nat := do
      storeValue "OPTIND" (.text (numberText position))
      modifySettings ({ · with letters })
      assignText name found
      return status
    let current := (words.getD (position - 1) "").toList
    match if settings.letters = 0 then current.drop 1 else current.drop settings.letters with
    | [] => finish position 0 "?" failure
    | letter :: behind =>
      if settings.letters = 0 && (current.head? ≠ some '-') then finish position 0 "?" failure
      else if settings.letters = 0 && current = ['-', '-'] then finish (position + 1) 0 "?" failure
      else
        let offset := (if settings.letters = 0 then 1 else settings.letters) + 1
        let (nextPosition, nextLetters) :=
          if behind.isEmpty then (position + 1, 0) else (position, offset)
        let shown := .singleton letter
        let complain (plain extended : String) : Work Unit := do
          match settings.kind with
          | .plain => discard <| putText standardError s!"{plain}\n"
          | .extended => discard <| putText standardError s!"{settings.name}: {extended}\n"
        match optionTakes? letter known.toList with
        | none =>
          if silent then setOwn "OPTARG" (some shown)
          else
            complain s!"Illegal option -{shown}" s!"illegal option -- {shown}"
            setOwn "OPTARG" none
          finish nextPosition nextLetters "?" success
        | some false =>
          setOwn "OPTARG" (if settings.kind = .plain then some "" else none)
          finish nextPosition nextLetters shown success
        | some true =>
          if !behind.isEmpty then
            setOwn "OPTARG" (some (.ofList behind))
            finish (position + 1) 0 shown success
          else match words[position]? with
            | some argument =>
              setOwn "OPTARG" (some argument)
              finish (position + 2) 0 shown success
            | none =>
              if silent then
                setOwn "OPTARG" (some shown)
                finish (position + 1) 0 ":" success
              else
                complain s!"No arg for -{shown} option" s!"option requires an argument -- {shown}"
                setOwn "OPTARG" none
                finish (position + 1) 0 "?" success
  | _ => match (<- settings).kind with
    | .plain => shellFault "Usage: getopts optstring var [arg...]"
    | .extended => complainWith misuse "getopts" "usage: getopts optstring name [arg ...]"

def computeSums : BuiltIn := fun _ _ arguments => do
  if arguments.isEmpty then refuse failure "expression expected"
  else
    let values <- arguments.mapM (sumOf ·.toList)
    return statusOf (values.getLastD 0 ≠ 0)

def formatInShell : BuiltIn := fun _ _ arguments => do
  let kind := (<- settings).kind
  let program <- builtInName "printf"
  match kind, arguments with
  | .extended, "-v" :: name :: text :: values =>
    let result := format .extendedShell (<- get).files.clock text values
    assignText name (.ofList result.said.reverse)
    formatStatus .extendedShell program result success
  | .extended, arguments => printf .extendedShell program arguments
  | .plain, arguments => printf .plainShell program arguments

end BaseLanguage.Shell
