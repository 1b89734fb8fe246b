import BaseLanguage.Shell.Utility.Running
import BaseLanguage.Shell.Utility.Transfer
import Std.Data.HashMap

namespace BaseLanguage.Shell.Rebuilding

open Text

/-!
# Variables in rules

A text may refer to variables and functions.  A facts holds a text that refers to others, which is
looked at each time, or one that does not.  Of two definitions the one from the stronger source counts.
-/

/-! ## What is known -/

inductive Origin where
  | usual
  | environment
  | file
  | strongEnvironment
  | call
  | override
  | automatic
  deriving DecidableEq

namespace Origin

def strength : Origin -> Nat
  | .usual => 0
  | .environment => 1
  | .file => 2
  | .strongEnvironment => 3
  | .call => 4
  | .override => 5
  | .automatic => 6

def told : Origin -> String
  | .usual => "default"
  | .environment => "environment"
  | .file => "file"
  | .strongEnvironment => "environment override"
  | .call => "command line"
  | .override => "override"
  | .automatic => "automatic"

end Origin

structure Place where
  file : String
  line : Nat

structure Variable where
  value : String
  isSimple : Bool := false
  origin : Origin := .file
  exported : Option Bool := none
  place : Option Place := none

abbrev Scope := Std.HashMap String Variable

structure Prerequisite where
  name : String
  isOrderOnly : Bool := false
  deriving DecidableEq

structure Recipe where
  text : String
  place : Option Place

inductive Assigning where
  | later
  | now
  | ifUnset
  | adding
  | byShell
  deriving DecidableEq

structure Setting where
  name : String
  how : Assigning
  value : String
  origin : Origin
  exported : Option Bool := none
  isPrivate : Bool := false

structure Entry where
  prerequisites : List Prerequisite := []
  recipe : Option Recipe := none
  stem : Option String := none
  isTarget : Bool := false
  doubles : List (List Prerequisite × Option Recipe) := []
  group : List String := []
  settings : List Setting := []

structure PatternRule where
  targets : List String
  prerequisites : List Prerequisite
  recipe : Option Recipe
  isTerminal : Bool := false

inductive Age where
  | missing
  | old
  | at (time : Timestamp)
  | newest
  deriving DecidableEq

def Age.isAfter (first second : Age) : Bool :=
  let number : Age -> Nat
    | .missing => 0
    | .old => 1
    | .at _ => 2
    | .newest => 3
  match first, second with
  | .at first, .at second =>
    second.seconds < first.seconds || (second.seconds = first.seconds && second.nanos < first.nanos)
  | first, second => number second < number first

inductive Stage where
  | waiting
  | running
  | done (isFailed : Bool)
  deriving DecidableEq

structure Progress where
  stage : Stage := .waiting
  age : Option Age := none
  ageBefore : Option Age := none
  entry : Option Entry := none
  isIntermediate : Bool := false

structure Manner where
  files : List String := []
  goals : List String := []
  settings : List String := []
  folders : List String := []
  searched : List String := []
  evaluated : List String := []
  oldFiles : List String := []
  newFiles : List String := []
  isSilent : Bool := false
  isDry : Bool := false
  isQuestion : Bool := false
  isTouching : Bool := false
  isAlways : Bool := false
  goesOn : Bool := false
  ignoresErrors : Bool := false
  hasStrongEnvironment : Bool := false
  tellsFolder : Option Bool := none
  hasNoRules : Bool := false
  hasNoVariables : Bool := false
  warnsUndefined : Bool := false
  tracesRules : Bool := false
  jobs : Option String := none
  tellsVersion : Bool := false
  tellsHelp : Bool := false
  tellsData : Bool := false

structure State where
  services : Services
  program : String
  manner : Manner := {}
  level : Nat := 0
  globals : Scope := {}
  scopes : List Scope := []
  busy : List String := []
  entries : Std.HashMap String Entry := {}
  order : List String := []
  patterns : List PatternRule := []
  patternSettings : List (String × Setting) := []
  searchFolders : List (String × List String) := []
  exportsAll : Bool := false
  place : Option Place := none
  definedAt : Option Place := none
  recipeMark : Char := '\t'
  readFiles : List String := []
  missingFiles : List (String × Option Place × Bool) := []
  progress : Std.HashMap String Progress := {}
  started : Nat := 0
  intermediates : List String := []
  restarts : Nat := 0
  environment : List (String × String) := []

abbrev Work := StateT State (ExceptT Nat Act)

def act (work : Act α) : Work α := liftM (m := ExceptT Nat Act) (liftM (m := Act) work)

def ownName : Work String := do
  let state <- get
  return if state.level = 0 then state.program else s!"{state.program}[{numberText state.level}]"

def messageFront : Option Place -> Work String
  | some place => return s!"{place.file}:{numberText place.line}: "
  | none => return (<- ownName) ++ ": "

def sayLine (text : String) : Work Unit := discard <| act (putText standardOutput (text ++ "\n"))

def sayMessage (text : String) : Work Unit := do sayLine ((<- ownName) ++ ": " ++ text)

def complainAt (place : Option Place) (message : String) : Work Unit := do
  discard <| act (putText standardError ((<- messageFront place) ++ message ++ "\n"))

def failAt (place : Option Place) (message : String) : Work α := do
  complainAt place s!"*** {message}.  Stop."
  throw misuse

/-- Complains of something where the present variable was defined, or at the place that is being
read. -/
def fail (message : String) : Work α := do
  let state <- get
  failAt (state.definedAt.orElse fun _ => state.place) message

/-! ## Words -/

def isBlank (c : Char) : Bool := isSpace c

def wordsOf (text : String) : List String :=
  let (current, words) := text.toList.foldl
    (fun ((current, words) : Chars × List String) c =>
      if isBlank c then ([], if current.isEmpty then words else .ofList current.reverse :: words)
      else (c :: current, words))
    ([], [])
  (if current.isEmpty then words else .ofList current.reverse :: words).reverse

def trimmed (text : String) : String :=
  .ofList ((text.toList.dropWhile isBlank).reverse.dropWhile isBlank).reverse

def patternParts? (pattern : String) : Option (Chars × Chars) := go pattern.toList []
where
  go : Chars -> Chars -> Option (Chars × Chars)
    | [], _ => none
    | '\\' :: '%' :: rest, done => go rest ('%' :: done)
    | '\\' :: '\\' :: '%' :: rest, done => some (done.reverse ++ ['\\'], rest)
    | '%' :: rest, done => some (done.reverse, rest)
    | c :: rest, done => go rest (c :: done)

def stemOf? (pattern word : String) : Option String := match patternParts? pattern with
  | none => none
  | some (front, behind) =>
    let text := word.toList
    if front.length + behind.length <= text.length && front.isPrefixOf text &&
        behind.isSuffixOf text then
      some (.ofList ((text.drop front.length).take (text.length - front.length - behind.length)))
    else none

def fits (pattern word : String) : Bool := match patternParts? pattern with
  | none => pattern = word
  | some _ => (stemOf? pattern word).isSome

def withStem (pattern stem : String) : String := match patternParts? pattern with
  | none => pattern
  | some (front, behind) => .ofList (front ++ stem.toList ++ behind)

def substituteWord (pattern replacement word : String) : String := match patternParts? pattern with
  | none => if pattern = word then replacement else word
  | some _ => match stemOf? pattern word with
    | some stem => withStem replacement stem
    | none => word

def replaceText (old new : Chars) : Nat -> Chars -> Chars
  | 0, text => text
  | _, [] => []
  | limit + 1, c :: rest =>
    if !old.isEmpty && old.isPrefixOf (c :: rest) then
      new ++ replaceText old new limit ((c :: rest).drop old.length)
    else c :: replaceText old new limit rest

def folderPart (name : String) : String :=
  let front := name.toList.reverse.dropWhile (· != '/')
  if front.isEmpty then "./" else .ofList front.reverse

def filePart (name : String) : String := .ofList (name.toList.reverse.takeWhile (· != '/')).reverse

def endingPart (name : String) : String :=
  let last := filePart name
  let behind := last.toList.reverse.takeWhile (· != '.')
  if behind.length = last.length then "" else "." ++ .ofList behind.reverse

def namePart (name : String) : String :=
  .ofList (name.toList.take (name.length - (endingPart name).length))

def isOpenChar (c : Char) : Bool := c = '*' || c = '?' || c = '['

def filesFitting (name : String) : Work (List String) := do
  let tree := (<- act get).files
  if name.toList.any isOpenChar then
    let field := name.toList.map fun c => (⟨c, false⟩ : PatternChar)
    return (filesMatching? tree {} field).getD []
  else if tree.exists? (pathOf name) then return [name]
  else return []

def withoutSteps : Nat -> Chars -> Chars
  | 0, name => name
  | limit + 1, '.' :: '/' :: rest =>
    let rest := rest.dropWhile (· = '/')
    if rest.isEmpty then ['.', '/'] else withoutSteps limit rest
  | _, name => name

def namesIn (text : String) : Work (List String) := do
  let found <- (wordsOf text).mapM fun word => do
    let name := .ofList (withoutSteps word.length word.toList)
    if name.toList.any isOpenChar then
      let files <- filesFitting name
      return if files.isEmpty then [name] else files
    else return [name]
  return found.flatten

/-! ## Variables -/

def lookUp? (name : String) : Work (Option Variable) := do
  let state <- get
  match state.scopes.findSome? (fun (scope : Scope) => scope[name]?) with
  | some found => return some found
  | none => return state.globals[name]?

def defineGlobal (name : String) (facts : Variable) : Work Unit :=
  modify fun state => match state.globals[name]? with
    | some before =>
      if before.origin.strength <= facts.origin.strength then
        let exported := facts.exported.orElse fun _ => before.exported
        { state with globals := state.globals.insert name { facts with exported } }
      else state
    | none => { state with globals := state.globals.insert name facts }

def withScope (scope : Scope) (work : Work α) : Work α := do
  let before := (<- get).scopes
  modify ({ · with scopes := scope :: before })
  let result <- work
  modify ({ · with scopes := before })
  return result

structure Engine where
  expand : String -> Work String
  read : String -> Work Unit
  readFile : String -> String -> Work Unit

def outputOfCommand (start : String -> Act Nat) (line : String) : Work String := do
  let environment := (<- get).environment
  let work : Act Nat := do
    modify ({ · with environment })
    start line
  let (said, status) <- act (collect work)
  let code := if 256 <= status then status - 256 else status
  defineGlobal ".SHELLSTATUS" { value := numberText code, isSimple := true, origin := .override }
  let text := (octetsOf said).reverse
  let text := (text.dropWhile (· = '\n')).reverse
  return .ofList (text.map fun c => if c = '\n' then ' ' else c)

/-! ## Commands -/

def shellSigns : Chars := "#;\"*?[]&|<>(){}$\x60^~!".toList

def shellCommands : List String :=
  wordsIn ". : alias bg break case cd command continue eval exec exit export fc fg for getopts hash
  if jobs login logout read readonly return set shift test times trap type ulimit umask unalias
  unset wait while"

def plainWords? (line : String) : Option (List String) :=
  go (line.length + 1) (line.toList.dropWhile isBlank) none [] [] false
where
  finish (word : Option Chars) (done : List String) : List String := match word with
    | some word => .ofList word.reverse :: done
    | none => done
  settled (word : Option Chars) (done : List String) : Option (List String) :=
    let words := (finish word done).reverse
    match words with
    | first :: _ =>
      if shellCommands.contains first || first.toList.contains '=' then none else some words
    | [] => some []
  go : Nat -> Chars -> Option Chars -> Chars -> List String -> Bool ->
      Option (List String)
    | 0, _, _, _, _, _ => none
    | _, [], word, quote, done, _ => if quote.isEmpty then settled word done else none
    | limit + 1, c :: rest, word, quote, done, seen =>
      let add (c : Char) : Option Chars := some (c :: word.getD [])
      if quote = ['\''] then
        if c = '\'' then go limit rest word [] done seen else go limit rest (add c) quote done seen
      else if c = '\'' then go limit rest (some (word.getD [])) ['\''] done seen
      else if shellSigns.contains c then none
      else if c = '=' && done.isEmpty then none
      else if c = '\\' then
        match rest with
        | '\n' :: rest =>
          let rest := if word.isNone then rest.dropWhile (fun c => c = ' ' || c = '\t') else rest
          go limit rest word quote done seen
        | c :: rest => go limit rest (add c) quote done seen
        | [] => settled word done
      else if c = ' ' || c = '\t' then
        let words := finish word done
        match words with
        | [first] => if shellCommands.contains first then none
            else go limit rest none quote words seen
        | words => go limit rest none quote words seen
      else go limit rest (add c) quote done seen

def startLine (services : Services) (program shell : String) (flags : List String)
    (line : String) : Act Nat := do
  let isUsual := shell = "/bin/sh" || shell = "sh"
  match if isUsual && flags = ["-c"] then plainWords? line else none with
  | some (name :: arguments) => match (<- get).lookUp (<- environmentFolders) name with
    | .ok path => services.start path name arguments
    | .error fault =>
      let (_, reason) := programFault fault
      discard <| putText standardError s!"{program}: {name}: {reason}\n"
      return 127
  | some [] => return success
  | none => match (<- get).lookUp (<- environmentFolders) shell with
    | .ok path => services.start path shell (flags ++ [line])
    | .error fault =>
      let (_, reason) := programFault fault
      discard <| putText standardError s!"{program}: {shell}: {reason}\n"
      return 127

/-! ## References -/

def closedBy (opening closing : Char) : Nat -> Chars -> Chars -> Option (Chars × Chars)
  | _, _, [] => none
  | depth, done, c :: rest =>
    if c = opening then closedBy opening closing (depth + 1) (c :: done) rest
    else if c = closing then
      match depth with
      | 0 => some (done.reverse, rest)
      | depth + 1 => closedBy opening closing depth (c :: done) rest
    else closedBy opening closing depth (c :: done) rest

/-- The functions with the least and the greatest number of arguments; without bound if that is
zero. -/
def functionBounds : List (String × Nat × Nat) :=
  [("abspath", 0, 1), ("addprefix", 2, 2), ("addsuffix", 2, 2), ("and", 1, 0), ("basename", 0, 1),
    ("call", 1, 0), ("dir", 0, 1), ("error", 0, 1), ("eval", 0, 1), ("file", 1, 2),
    ("filter", 2, 2), ("filter-out", 2, 2), ("findstring", 2, 2), ("firstword", 0, 1),
    ("flavor", 0, 1), ("foreach", 3, 3), ("if", 2, 3), ("info", 0, 1), ("join", 2, 2),
    ("lastword", 0, 1), ("notdir", 0, 1), ("or", 1, 0), ("origin", 0, 1), ("patsubst", 3, 3),
    ("realpath", 0, 1), ("shell", 0, 1), ("sort", 0, 1), ("strip", 0, 1), ("subst", 3, 3),
    ("suffix", 0, 1), ("value", 0, 1), ("warning", 0, 1), ("wildcard", 0, 1), ("word", 2, 2),
    ("wordlist", 3, 3), ("words", 0, 1)]

def lateFunctions : List String := ["foreach", "if", "or", "and"]

def splitArguments (opening closing : Char) (most : Nat) :
    Chars -> Nat -> Chars -> List String -> List String
  | [], _, current, done => (.ofList current.reverse :: done).reverse
  | c :: rest, depth, current, done =>
    if c = ',' && depth = 0 && (most = 0 || done.length + 1 < most) then
      splitArguments opening closing most rest 0 [] (.ofList current.reverse :: done)
    else
      let depth := if c = opening then depth + 1 else if c = closing then depth - 1 else depth
      splitArguments opening closing most rest depth (c :: current) done

def numberArgument (what text : String) : Work Nat := do
  match digitsValue? (trimmed text) with
  | some value => return value
  | none => fail s!"non-numeric {what}: '{text}'"

section

variable (engine : Engine)

def valueOf (name : String) (facts : Variable) : Work String := do
  if facts.isSimple then return facts.value
  else
    let before := (<- get).definedAt
    modify ({ · with definedAt := facts.place.orElse fun _ => before })
    if (<- get).busy.contains name then
      fail s!"Recursive variable '{name}' references itself (eventually)"
    modify fun state => { state with busy := name :: state.busy }
    let value <- engine.expand facts.value
    modify fun state => { state with busy := state.busy.drop 1, definedAt := before }
    return value

def referTo (name : String) : Work String := do
  match <- lookUp? name with
  | some facts => valueOf engine name facts
  | none =>
    if (<- get).manner.warnsUndefined then
      complainAt (<- get).place s!"warning: undefined variable '{name}'"
    return ""

def shellOfRules : Work (String × List String) := do
  let shell := trimmed (<- referTo engine "SHELL")
  let flags := wordsOf (<- referTo engine ".SHELLFLAGS")
  return (if shell.isEmpty then "/bin/sh" else shell, flags)

def fullPathOf (name : String) : Work String := do
  let current := (<- act get).files.current
  let whole := if name.startsWith "/" then name else nameWithin (pathTo current) name
  let parts := (whole.splitOn "/").foldl
    (fun (done : List String) part =>
      if part.isEmpty || part = "." then done
      else if part = ".." then done.drop 1
      else part :: done) []
  return "/" ++ "/".intercalate parts.reverse

def callLate (name : String) (arguments : List String) : Work String := do
  let argument (index : Nat) : String := arguments.getD index ""
  match name with
  | "if" =>
    let holds := !(<- engine.expand (trimmed (argument 0))).isEmpty
    engine.expand (argument (if holds then 1 else 2))
  | "or" => firstOf arguments
  | "and" => lastOf arguments ""
  | _ =>
    let facts := trimmed (<- engine.expand (argument 0))
    let values := wordsOf (<- engine.expand (argument 1))
    let results <- values.mapM fun value =>
      withScope (Std.HashMap.ofList [(facts, { value, isSimple := true, origin := .automatic })])
        (engine.expand (argument 2))
    return " ".intercalate results
where
  firstOf : List String -> Work String
    | [] => return ""
    | text :: rest => do
      let value <- engine.expand (trimmed text)
      if value.isEmpty then firstOf rest else return value
  lastOf : List String -> String -> Work String
    | [], value => return value
    | text :: rest, _ => do
      let value <- engine.expand (trimmed text)
      if value.isEmpty then return "" else lastOf rest value

def fileFunction (operation : String) (text : Option String) : Work String := do
  let place := (<- get).place
  let name (count : Nat) : String := trimmed (.ofList (operation.toList.drop count))
  let write (mode : OpeningMode) (file : String) : Work String := do
    let content := match text with
      | some text => if text.endsWith "\n" then text else text ++ "\n"
      | none => ""
    match <- act (writeNamed mode file (bytesOf content.toList)) with
    | .ok () => return ""
    | .error fault => failAt place s!"open: {file}: {wording fault}"
  if operation.startsWith ">>" then write .appending (name 2)
  else if operation.startsWith ">" then write .writing (name 1)
  else if operation.startsWith "<" then
    match <- act (readNamed (name 1)) with
    | .ok bytes =>
      let octets := octetsOf bytes
      return .ofList (if octets.getLast? = some '\n' then octets.dropLast else octets)
    | .error .missing => return ""
    | .error fault => failAt place s!"open: {name 1}: {wording fault}"
  else failAt place s!"file: invalid file operation: {operation}"

def callFunction (name : String) (arguments : List String) : Work String := do
  let argument (index : Nat) : String := arguments.getD index ""
  let first := argument 0
  let joined (words : List String) : String := " ".intercalate words
  match name with
  | "subst" =>
    let text := argument 2
    return .ofList
      (if first.isEmpty then text.toList ++ (argument 1).toList
      else replaceText first.toList (argument 1).toList (text.length + 1) text.toList)
  | "patsubst" =>
    return joined ((wordsOf (argument 2)).map (substituteWord (trimmed first) (argument 1)))
  | "strip" => return joined (wordsOf first)
  | "findstring" =>
    return if ((argument 1).splitOn first).length ≠ 1 || first.isEmpty then first else ""
  | "filter" =>
    let patterns := wordsOf first
    return joined ((wordsOf (argument 1)).filter fun word => patterns.any (fits · word))
  | "filter-out" =>
    let patterns := wordsOf first
    return joined ((wordsOf (argument 1)).filter fun word => !patterns.any (fits · word))
  | "sort" => return joined ((wordsOf first).mergeSort (fun left right => left <= right)).eraseDups
  | "word" =>
    let index <- numberArgument "first argument to 'word' function" first
    if index = 0 then fail "first argument to 'word' function must be greater than 0"
    return (wordsOf (argument 1)).getD (index - 1) ""
  | "wordlist" =>
    let start <- numberArgument "first argument to 'wordlist' function" first
    let last <- numberArgument "second argument to 'wordlist' function" (argument 1)
    if start = 0 then fail s!"invalid first argument to 'wordlist' function: '{numberText start}'"
    return joined (((wordsOf (argument 2)).drop (start - 1)).take (last + 1 - start))
  | "words" => return numberText (wordsOf first).length
  | "firstword" => return (wordsOf first).headD ""
  | "lastword" => return ((wordsOf first).getLast?).getD ""
  | "dir" => return joined ((wordsOf first).map folderPart)
  | "notdir" => return joined ((wordsOf first).map filePart)
  | "suffix" => return joined (((wordsOf first).map endingPart).filter (!·.isEmpty))
  | "basename" => return joined ((wordsOf first).map namePart)
  | "addsuffix" => return joined ((wordsOf (argument 1)).map (· ++ first))
  | "addprefix" => return joined ((wordsOf (argument 1)).map (first ++ ·))
  | "join" =>
    let left := wordsOf first
    let right := wordsOf (argument 1)
    return joined ((List.range (max left.length right.length)).map fun index =>
      left.getD index "" ++ right.getD index "")
  | "wildcard" => return joined (<- (wordsOf first).mapM filesFitting).flatten
  | "abspath" => return joined (<- (wordsOf first).mapM fullPathOf)
  | "realpath" =>
    let session <- act get
    return joined ((wordsOf first).filterMap fun name =>
      if session.files.exists? (pathOf name) then (session.place? name).map pathTo else none)
  | "call" =>
    let called := trimmed first
    if called.isEmpty then return ""
    else if (functionBounds.lookup called).isSome && !lateFunctions.contains called then
      -- A function that is called by its name gets the arguments as they are.
      engine.expand ("$(" ++ called ++ " " ++
        ",".intercalate ((arguments.drop 1).map fun text =>
          .ofList (text.toList.flatMap fun c => if c = '$' then ['$', '$'] else [c])) ++ ")")
    else match <- lookUp? called with
      | none => return ""
      | some facts =>
        let numbered := (arguments.zipIdx).map fun (value, index) =>
          (numberText index, { value, isSimple := true, origin := .automatic : Variable })
        let cleared := (List.range 10).map fun index =>
          (numberText (arguments.length + index),
            ({ value := "", isSimple := true, origin := .automatic } : Variable))
        let scope : Scope := Std.HashMap.ofList (cleared ++ numbered)
        -- A variable that is called may be called again inside.
        let busy := (<- get).busy
        modify fun state => { state with busy := state.busy.filter (· ≠ called) }
        let value <- withScope scope
          (if facts.isSimple then pure facts.value else engine.expand facts.value)
        modify ({ · with busy })
        return value
  | "value" => return ((<- lookUp? first).map (·.value)).getD ""
  | "eval" =>
    engine.read first
    return ""
  | "origin" => return ((<- lookUp? (trimmed first)).map (·.origin.told)).getD "undefined"
  | "flavor" =>
    return ((<- lookUp? (trimmed first)).map (fun facts =>
      if facts.isSimple then "simple" else "recursive")).getD "undefined"
  | "shell" =>
    let (shell, flags) <- shellOfRules engine
    let services := (<- get).services
    outputOfCommand (startLine services (<- ownName) shell flags) first
  | "info" =>
    sayLine first
    return ""
  | "warning" =>
    complainAt (<- get).place first
    return ""
  | "error" => failAt (<- get).place first
  | "file" => fileFunction first arguments[1]?
  | _ => return ""

def reference (opening closing : Char) (body : Chars) : Work String := do
  let name := body.takeWhile (fun c => c.isAlpha || c = '-')
  let rest := body.drop name.length
  let name := .ofList name
  let bounds := match rest with
    | c :: _ => if isBlank c then functionBounds.lookup name else none
    | [] => none
  match bounds with
  | some (least, most) =>
    let arguments := splitArguments opening closing most (rest.dropWhile isBlank) 0 [] []
    if arguments.length < least then
      let count := numberText arguments.length
      fail s!"insufficient number of arguments ({count}) to function '{name}'"
    if lateFunctions.contains name then callLate engine name arguments
    else callFunction engine name (<- arguments.mapM engine.expand)
  | none =>
    let whole <- if body.contains '$' then engine.expand (.ofList body) else pure (.ofList body)
    let front := whole.toList.takeWhile (· != ':')
    let behind := whole.toList.drop (front.length + 1)
    let pattern := behind.takeWhile (· != '=')
    if front.length < whole.length && pattern.length < behind.length then
      let value <- referTo engine (.ofList front)
      let replacement := .ofList (behind.drop (pattern.length + 1))
      let pattern := .ofList pattern
      let change (word : String) : String :=
        if (patternParts? pattern).isSome then substituteWord pattern replacement word
        else substituteWord ("%" ++ pattern) ("%" ++ replacement) word
      return " ".intercalate ((wordsOf value).map change)
    else referTo engine whole

def expandText : Nat -> Chars -> List String -> Work String
  | 0, _, done => return .join done.reverse
  | _, [], done => return .join done.reverse
  | limit + 1, '$' :: rest, done => do
    match rest with
    | [] => return .join ("$" :: done).reverse
    | '$' :: rest => expandText limit rest ("$" :: done)
    | c :: rest =>
      if c = '(' || c = '\x7b' then
        let closing := if c = '(' then ')' else '\x7d'
        let plain := rest.takeWhile (· != closing)
        let isNested := plain.contains '$' || isCall plain
        let found :=
          if isNested then
            match closedBy c closing 0 [] rest with
            | some found => some found
            | none => if isCall plain then none else cut closing plain rest
          else cut closing plain rest
        match found with
        | some (body, rest) => expandText limit rest ((<- reference engine c closing body) :: done)
        | none =>
          if isCall plain then
            let name := String.ofList (plain.takeWhile (fun c => c.isAlpha || c = '-'))
            let missing := String.singleton closing
            fail s!"unterminated call to function '{name}': missing '{missing}'"
          else fail "unterminated variable reference"
      else expandText limit rest ((<- referTo engine (.singleton c)) :: done)
  | limit + 1, text, done => do
    let plain := text.takeWhile (· != '$')
    expandText limit (text.drop plain.length) (.ofList plain :: done)
where
  isCall (body : Chars) : Bool :=
    let name := body.takeWhile (fun c => c.isAlpha || c = '-')
    ((body.drop name.length).head?).any isBlank && (functionBounds.lookup (.ofList name)).isSome
  cut (closing : Char) (plain rest : Chars) : Option (Chars × Chars) :=
    match rest.drop plain.length with
    | c :: rest => if c = closing then some (plain, rest) else none
    | [] => none

end

end BaseLanguage.Shell.Rebuilding
