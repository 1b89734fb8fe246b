import BaseLanguage.Shell.BuiltIn.Table
import BaseLanguage.Text.Regex.Reader

namespace BaseLanguage.Shell

open Text

/-!
# Execution

Commands run one after the other; the stages of a pipeline run beside one another.  Starting programs and running commands that are not part of the present one,
such as the body of a function, is left to the services; so the recursion here is on the command.

What fails may end the shell if that is asked for.  This holds of the last command of a condition
only if nothing depends on its status.
-/

inductive Callee where
  | function (function : ShellFunction)
  | builtIn (special : Bool) (work : BuiltIn)
  | program

def calleeOf (skipsFunctions : Bool) (name : String) : Act Callee := do
  let settings <- settings
  let plain := settings.kind = .plain
  let special := plain && isSpecial .plain name
  let function := if skipsFunctions || special then none else settings.functions.lookup name
  match function, builtIn? settings name with
  | some function, _ => return .function function
  | none, some work => return .builtIn (special && !skipsFunctions) work
  | none, none => return .program

structure Invocation where
  arguments : List String
  skipsFunctions : Bool := false
  onlyBuiltIns : Bool := false
  usual : Bool := false

/-- The arguments behind the options with which `command` runs another command; there are none if it
says something itself. -/
def behindCommand (usual : Bool) : List String -> Option (Bool × List String)
  | [] => none
  | argument :: rest => match argument.toList with
    | ['-', '-'] => if rest.isEmpty then none else some (usual, rest)
    | '-' :: letter :: letters =>
      if (letter :: letters).all (· == 'p') then behindCommand true rest else none
    | _ => some (usual, argument :: rest)

def invocation (settings : Settings) : Nat -> Invocation -> Invocation
  | 0, invocation => invocation
  | limit + 1, present => match present.arguments with
    | "command" :: rest =>
      if !present.skipsFunctions && (settings.functions.lookup "command").isSome then present
      else match behindCommand present.usual rest with
        | some (usual, arguments) =>
          invocation settings limit { present with arguments, usual, skipsFunctions := true }
        | none => present
    | "builtin" :: name :: rest =>
      if settings.kind = .extended then
        invocation settings limit
          { present with arguments := name :: rest, skipsFunctions := true, onlyBuiltIns := true }
      else present
    | _ => present

def notFound : Nat := 127

def notStarted : Nat := 126

/-- Complains of a file that cannot be started.  An extended shell says no line if its script is an
argument. -/
def complainOfFile (message : String) : Act Unit := do
  let settings <- settings
  if settings.kind = .extended && settings.options.contains "command" then
    discard <| complain settings.name message
  else complainInShell message

def startFault (name : String) (fault : StartFault) : Act Nat := do
  let isPath := name.toList.contains '/'
  let unknown := complainInShell s!"{name}: command not found"
  match (<- settings).kind, fault with
  | .plain, .missing => complainInShell s!"{name}: not found"
  | .plain, .notFolder => complainInShell s!"{name}: not found"
  | .plain, .noInterpreter _ => complainInShell s!"{name}: not found"
  | .plain, .tooManyLinks => complainInShell s!"{name}: {wording .tooManyLinks}"
  | .plain, _ => complainInShell s!"{name}: Permission denied"
  | .extended, .missing =>
    if isPath then complainOfFile s!"{name}: No such file or directory" else unknown
  | .extended, .notFolder => complainOfFile s!"{name}: Not a directory"
  | .extended, .isFolder => if isPath then complainOfFile s!"{name}: Is a directory" else unknown
  | .extended, .noInterpreter _ =>
    complainOfFile s!"{name}: cannot execute: required file not found"
  | .extended, .tooManyLinks => complainOfFile s!"{name}: {wording .tooManyLinks}"
  | .extended, .forbidden =>
    if name.isEmpty then unknown else complainOfFile s!"{name}: Permission denied"
  match (<- settings).kind, fault with
  | _, .missing => return notFound
  | _, .noInterpreter _ => return notFound
  | .plain, .notFolder => return notFound
  | .plain, _ => return if isPath then notStarted else notFound
  | .extended, .forbidden => return if name.isEmpty then notFound else notStarted
  | .extended, .isFolder => return if isPath then notStarted else notFound
  | .extended, _ => return notStarted

/-- Does something in a process of its own, which knows what is exported, or in the place of the
shell, if that is all that the shell is there for. -/
def separately (work : Act Nat) : Act Nat := do
  let whole : Act Nat := do
    modify fun session => { session with environment := session.settings.bindings.environment }
    work
  if (<- settings).gives then return <- asideFully whole
  let number <- startProcess whole
  await (.ended [number])
  let status := ((<- get).statuses.lookup number).getD success
  saySignalled status
  return knownStatus status

variable (services : Services)

def callProgram (usual : Bool) (name : String) (arguments : List String) : Act Nat := do
  let folders <- if usual then pure usualFolders else shellFolders
  match (<- get).lookUp folders name with
  | .ok path => separately (services.start path name arguments)
  | .error fault => startFault name fault

def runTrap (name : String) (status : Nat) : Work Unit := do
  let settings <- settings
  match settings.traps.lookup name, settings.trapping with
  | some action, false =>
    modifySettings ({ · with trapping := true, status })
    andFinally (do discard <| runSource services true none action)
      (modifySettings ({ · with trapping := false, line := settings.line, status }))
  | _, _ => return ()

/-- Whether a function does not know what is to run at some point. -/
def isLocalTrap (settings : Settings) : String -> Bool
  | "ERR" => !settings.options.contains "errtrace"
  | "DEBUG" | "RETURN" => !settings.options.contains "functrace"
  | _ => false

/-- Runs a function.  Its arguments are its own, and so are the variables that it hides. -/
def callFunction (tested : Bool) (name : String) (function : ShellFunction)
    (arguments : List String) : Work Nat := do
  let before <- settings
  modifySettings fun settings => { settings with
    gives := false
    arguments
    callers := ⟨name, before.line, function.source⟩ :: settings.callers
    traps := settings.traps.filter (!isLocalTrap settings ·.1)
    hidden := [] :: settings.hidden
    linesBefore := if settings.kind = .plain then function.line - 1 else 0
    loops := 0 }
  let restore : Act Unit := modifySettings fun settings =>
    let frame := settings.hidden.headD []
    { settings with
      arguments := before.arguments
      callers := before.callers
      traps := settings.traps ++
        before.traps.filter (fun trap => (settings.traps.lookup trap.1).isNone &&
          isLocalTrap before trap.1)
      hidden := before.hidden
      linesBefore := before.linesBefore
      loops := before.loops
      bindings := frame.foldl
        (fun bindings (name, held) =>
          if held = {} then bindings.erase name else bindings.set name held)
        settings.bindings }
  let body := tryCatch (services.perform tested [function.body]) fun escape => do
    match escape with
    | .finish status => return status
    | escape => throw escape
  let whole : Work Nat := do
    let status <- body
    runTrap services "RETURN" status
    return status
  andFinally whole restore

/-- Runs a command of the shell.  A fault in one that is not special does not end the shell. -/
def callBuiltIn (tested special : Bool) (name : String) (work : BuiltIn)
    (arguments : List String) : Work Nat := do
  let before := (<- settings).running
  let silent := (<- inExtended) && (name = "eval" || name = "command" || name = "builtin")
  modifySettings ({ · with
    gives := false
    running := if silent then before else some name })
  let work := tryCatch (work services tested arguments) fun escape => do
    match escape with
    | .fault status => if special then throw (.fault status) else return status
    | escape => throw escape
  andFinally work (modifySettings ({ · with running := before }))

def replaceShell (arguments : List String) : Work Nat := do
  let arguments := match arguments with
    | "--" :: rest => rest
    | arguments => arguments
  match arguments with
  | [] => return success
  | name :: rest =>
    modifySettings ({ · with running := some "exec" })
    let folders <- shellFolders
    match (<- get).lookUp folders name with
    | .ok path =>
      modifySettings ({ · with gives := true })
      let status <- separately (services.start path name rest)
      modifySettings ({ · with traps := [] })
      throw (.exit status)
    | .error fault =>
      let isPath := name.toList.contains '/'
      let plain := (<- settings).kind = .plain
      let status <-
        if !plain && !isPath && fault = .missing then do
          complainInShell s!"{name}: not found"
          pure notFound
        else startFault name fault
      throw (.exit status)

def assignAll (assignments : List Assignment) : Work (List String) := do
  let kind := (<- settings).kind
  assignments.mapM fun assignment => do
    let (front, octets) <- assign services assignment
    if let .row _ _ text _ := assignment then return .ofList text
    return front ++ (if kind = .extended && octets.isEmpty then "" else shownWord kind octets)

def showSimple (streams : List (Nat × Stream)) (assigned words : List String) : Work Unit := do
  if <- hasOption "xtrace" then
    match (<- settings).kind with
    | .plain => showCommand streams (" ".intercalate (assigned ++ words))
    | .extended =>
      assigned.forM (showCommand streams ·)
      if !words.isEmpty then showCommand streams (" ".intercalate (words.map (shownWord .extended)))

def runAssignments (assignments : List Assignment)
    (redirections : List Redirection) : Work Nat := do
  let streams := (<- get).streams
  let turned := withStreams services redirections (return success)
    (return turnStatus (<- settings).kind)
  let status <- turned
  if status ≠ success then return status
  else
    showSimple streams (<- assignAll services assignments) []
    return (<- settings).outputStatus

def withAssignments (names : List String) (work : Work Nat) : Work Nat := do
  let before := (<- settings).bindings
  andFinally work <| modifySettings fun settings => { settings with
    bindings := .restore before names settings.bindings }

def runSimple (tested : Bool) (line : Nat) (assignments : List Assignment)
    (words : List Word) (redirections : List Redirection) : Work Nat := do
  modifySettings fun settings => { settings with
    line := line - settings.linesBefore
    outputStatus := success }
  let words <- Word.allFields services words
  let settings <- settings
  let present := invocation settings (words.length + 1) { arguments := words }
  let streams := (<- get).streams
  if settings.kind = .extended && (!words.isEmpty || !assignments.isEmpty) then
    modifyVariables fun bindings => bindings.set "_" { value := some (.text (words.getLastD "")) }
  match present.arguments with
  | [] => runAssignments services assignments redirections
  | name :: arguments =>
    let callee <- calleeOf present.skipsFunctions name
    let names := assignments.map Assignment.name
    let ends := match callee with
      | .builtIn special _ => special
      | _ => false
    let otherwise : Work Nat := do
      let status := turnStatus settings.kind
      if ends then throw (.fault status) else return status
    let assignHere : Work Unit := do showSimple streams (<- assignAll services assignments) words
    if name = "exec" && (present.skipsFunctions || !settings.functions.any (·.1 == "exec")) then
      if arguments.isEmpty || arguments = ["--"] then
        assignHere
        if <- redirectAll services redirections then return success
        else if present.skipsFunctions then return turnStatus settings.kind
        else throw (.fault (turnStatus settings.kind))
      else
        withStreams services redirections
          (do
            assignHere
            names.forM fun name => modifyVariable name ({ · with exported := true })
            replaceShell services arguments)
          otherwise
    else
      withStreams services redirections
        (match callee with
        | .builtIn true work => do
          assignHere
          callBuiltIn services tested true name work arguments
        | .builtIn false work =>
          withAssignments names do
            assignHere
            if settings.kind = .extended then
              names.forM fun name => modifyVariable name ({ · with exported := true })
            callBuiltIn services tested false name work arguments
        | .function function =>
          withAssignments names do
            assignHere
            names.forM fun name => modifyVariable name ({ · with exported := true })
            callFunction services tested name function arguments
        | .program =>
          withAssignments names do
            assignHere
            names.forM fun name => modifyVariable name ({ · with exported := true })
            if present.onlyBuiltIns then refuse failure s!"builtin: {name}: not a shell builtin"
            else callProgram services present.usual name arguments)
        otherwise

def withBorrowed (work : Work α) : Work α := do
  let before := (<- settings).borrowed
  modifySettings ({ · with borrowed := [] })
  andFinally work do
    let borrowed := (<- settings).borrowed
    modify fun session => { session with
      streams := session.streams.filter (!borrowed.contains ·.1) }
    modifySettings ({ · with borrowed := before })

def record (status : Nat) : Work Nat := do
  modifySettings ({ · with status })
  return status

def runAtFailure (status : Nat) : Work Unit := do runTrap services "ERR" status

/-- Records the status of a command.  Unless the status is tested, a failure may end the shell. -/
def conclude (tested : Bool) (status : Nat) : Work Nat := do
  discard <| record status
  if !tested && status != success then
    runAtFailure services status
    if <- hasOption "errexit" then throw (.exit status)
  return status

def atLine (line : Nat) : Work Unit :=
  modifySettings (fun settings => { settings with line := line - settings.linesBefore })

def atCommand (line : Nat) (text : String) : Work Unit := do
  let settings <- settings
  if settings.kind = .extended && !settings.trapping then
    modifySettings fun settings => { settings with
      line := line - settings.linesBefore
      commandText := text }
    runTrap services "DEBUG" settings.status

def showLine (line : String) : Work Unit := do
  if (<- inExtended) && (<- hasOption "xtrace") then showCommand (<- get).streams line

/-! ## Loops -/

inductive RoundEnd where
  | done
  | left
  | next (status : Nat)

def roundOf (work : Work RoundEnd) : Work RoundEnd :=
  tryCatch work fun escape => do
    match escape with
    | .leave (loops + 2) => throw (.leave (loops + 1))
    | .leave _ => return .left
    | .nextRound (loops + 2) => throw (.nextRound (loops + 1))
    | .nextRound _ => return .next success
    | escape => throw escape

def mostRounds : Nat := 1000000

def turnRounds : Nat := 128

def repeatRounds (work : Work RoundEnd) : Nat -> Nat -> Work Nat
  | 0, status => return status
  | limit + 1, status => do
    if limit % turnRounds = 0 then takeTurn
    match <- roundOf work with
    | .done => return status
    | .left => return success
    | .next status => repeatRounds work limit status

def insideLoop (work : Work Nat) : Work Nat := do
  let loops := (<- settings).loops
  modifySettings ({ · with loops := loops + 1 })
  andFinally work (modifySettings ({ · with loops }))

def forWords (name : String) (body : Work Nat) : Nat -> List String -> Work Nat
  | status, [] => return status
  | _, word :: rest => do
    let round : Work RoundEnd := do
      assignText name word
      return .next (<- body)
    match <- roundOf round with
    | .next status => forWords name body status rest
    | _ => return success

/-! ## Conditions -/

/-- The regular expression that the characters of a word spell; those that were quoted stand for
themselves. -/
def regexText (chars : List PatternChar) : Chars :=
  chars.flatMap fun (c, exact) =>
    if exact && ".[]()*+?\x7b\x7d|^$\\".toList.contains c then ['\\', c] else [c]

/-- Whether a text has a part that a regular expression matches; what the groups match is kept. -/
def matchRegex (octets : String) (chars : List PatternChar) : Work (Option Bool) := do
  match Regex.parse { extended := true } (regexText chars) with
  | .error _ => return none
  | .ok (regex, count) =>
    let subject : Subject := { text := octets.toList.toArray }
    match regex.search? subject 0 with
    | none =>
      storeValue "BASH_REMATCH" (.row [])
      return some false
    | some found =>
      let groups := (List.range (count + 1)).map fun number =>
        (number, .ofList ((found.group? subject number).getD []))
      storeValue "BASH_REMATCH" (.row groups)
      return some true

def matchesText (pattern : Pattern) (subject : Chars) : Work Bool := do
  if <- hasOption "nocasematch" then
    return Pattern.holds (pattern.map PatternItem.lowered) (subject.map Char.toLower)
  else return pattern.holds subject

def operandNumber (octets : String) : Work Int := sumOf octets.toList

def holdsBetween (operator : String) (left : String) (right : Word) : Work Bool := do
  let compare (holds : Int -> Int -> Bool) : Work Bool := do
    return holds (<- operandNumber left) (<- operandNumber (<- right.text services))
  let isMatched : Work Bool := do
    let chars := Glyph.patternChars (<- right.glyphs services)
    matchesText (.parse { groups := true } chars) left.toList
  match operator with
  | "=" | "==" => isMatched
  | "!=" => return !(<- isMatched)
  | "<" => return left < (<- right.text services)
  | ">" => return (<- right.text services) < left
  | "-eq" => compare (fun a b => a == b)
  | "-ne" => compare (fun a b => a != b)
  | "-lt" => compare (fun a b => decide (a < b))
  | "-le" => compare (fun a b => decide (a <= b))
  | "-gt" => compare (fun a b => decide (b < a))
  | "-ge" => compare (fun a b => decide (b <= a))
  | "=~" =>
    let chars := Glyph.patternChars (<- right.glyphs services)
    match <- matchRegex left chars with
    | some holds => return holds
    | none => throw (.fault misuse)
  | operator => match binaryTest (<- get) .extendedShell left operator (<- right.text services) with
    | .ok holds => return holds
    | .error _ => return false

def showCondition (turned : Bool) (words : List String) : Work Unit :=
  let sign := if turned then "! " else ""
  let shown := " ".intercalate (words.map (fun word => if word.isEmpty then "''" else word))
  showLine s!"[[ {sign}{shown} ]]"

/-- A pattern as it is shown: what stands for itself has a backslash in front. -/
def shownPattern (chars : List PatternChar) : String :=
  .ofList (chars.flatMap fun (c, exact) => if exact then ['\\', c] else [c])

def checkCondition (services : Services) (turned : Bool) : Condition -> Work Bool
  | .holds word => do
    let octets <- Word.text services word
    showCondition turned ["-n", octets]
    return !octets.isEmpty
  | .unary operator operand => do
    let octets <- Word.text services operand
    showCondition turned [operator, octets]
    return unaryTest (<- get) operator octets
  | .binary operator left right => do
    let first <- Word.text services left
    if (<- inExtended) && (<- hasOption "xtrace") then
      let chars := Glyph.patternChars (<- Word.glyphs services right)
      let matching := ["=", "==", "!=", "=~"].contains operator
      let second := if matching then shownPattern chars else .ofList (chars.map Prod.fst)
      showCondition turned [first, operator, second]
    holdsBetween services operator first right
  | .opposite condition => do return !(<- checkCondition services (!turned) condition)
  | .both first second => do
    if <- checkCondition services turned first then checkCondition services turned second
    else return false
  | .either first second => do
    if <- checkCondition services turned first then return true
    else checkCondition services turned second

def anyMatches (services : Services) (subject : Chars) : List Word -> Work Bool
  | [] => return false
  | first :: rest => do
    if <- matchesText (<- Word.pattern services first) subject then return true
    else anyMatches services subject rest

/-! ## Commands -/

/-- Starts acts beside this one, each of which reads what the one in front of it says.  The numbers
of their processes are the result. -/
def startStages : List (Act Nat) -> Act (List Nat)
  | [] => return []
  | [last] => return [<- startProcess last]
  | first :: rest => do
    let before := (<- get).streams
    let (session, channel) := (<- get).addChannel { bounded := true }
    set (session.turn standardOutput (some (.writing channel)))
    let number <- startProcess first
    modify fun session =>
      { session with streams := before }.turn standardInput (some (.reading channel))
    let others <- startStages rest
    modify ({ · with streams := before })
    return number :: others

def pipelineStatus (statuses : List Nat) : Work Nat := do
  modifySettings ({ · with stageStatuses := statuses })
  let last := statuses.getLastD success
  if <- hasOption "pipefail" then return (statuses.reverse.find? (· != success)).getD success
  else return last

/-- Runs a command that is all that a shell is there for: a program takes the place of the shell. -/
def runGiving (command : Command) (work : Work Nat) : Work Nat := do
  match command with
  | .simple _ _ _ _ _ =>
    modifySettings ({ · with gives := true })
    work
  | _ => work

def runBackground (work : Work Nat) : Work Nat := do
  let before := (<- get).streams
  modify (·.turn standardInput (some (.device .nothing)))
  let number <- liftM (startProcess (encloseWith services work))
  modify ({ · with streams := before })
  modifySettings fun settings =>
    { settings with background := some number, jobs := number :: settings.jobs }
  return success

def runPartner (name : String) (work : Work Nat) : Work Nat := do
  let before := (<- get).streams
  let taken := before.map Prod.fst
  let free := (List.range 64).reverse.filter (!taken.contains ·)
  let (session, inward) := (<- get).addChannel { bounded := true }
  let (session, outward) := session.addChannel { bounded := true }
  set ((session.turn standardInput (some (.reading inward))).turn standardOutput
    (some (.writing outward)))
  let number <- liftM (startProcess (encloseWith services work))
  let reads := free.getD 0 63
  let writes := free.getD 3 60
  modify fun session =>
    ({ session with streams := before }.turn reads (some (.reading outward))).turn writes
      (some (.writing inward))
  modifySettings fun settings => { settings with
    background := some number
    jobs := number :: settings.jobs
    lent := reads :: writes :: settings.lent }
  storeValue name (.row [(0, numberText reads), (1, numberText writes)])
  storeValue (name ++ "_PID") (.text (numberText (numberOfProcess number)))
  return success

/-! ## Menus -/

def gapTo : Nat -> Nat -> Nat -> Chars
  | 0, _, _ => []
  | limit + 1, column, target =>
    if target <= column then []
    else if column / 8 < target / 8 then '\t' :: gapTo limit (column + 8 - column % 8) target
    else ' ' :: gapTo limit (column + 1) target

def menuLines (width : Nat) (words : List String) : List String :=
  let count := words.length
  let digits (number : Nat) : Nat := (decimal number).length
  let widest := words.foldl (fun widest word => max widest word.length) 0 + digits count + 4
  let most := max 1 (width / widest)
  let rows := count / most + (if count % most = 0 then 0 else 1)
  let rows := if rows = 1 then count else rows
  let entry (row column : Nat) : Chars :=
    let index := row + column * rows
    let number := decimal (index + 1)
    let size := if column = 0 then digits rows else digits count
    List.replicate (size - number.length) ' ' ++ number ++ ')' :: ' ' ::
      (words.getD index "").toList
  (List.range rows).map fun row =>
    let columns := (count - row + rows - 1) / rows
    .ofList <| (List.range columns).flatMap fun column =>
      let shown := entry row column
      let behind := column * widest + shown.length
      shown ++ (if column + 1 = columns then [] else gapTo widest behind ((column + 1) * widest))

def pickWords (services : Services) (name : String) (words : List String) (work : Work Nat) :
    Nat -> Bool -> Nat -> Work Nat
  | 0, _, status => return status
  | limit + 1, showsMenu, status => do
    if showsMenu then
      let width := ((<- textOf? "COLUMNS").bind digitsValue?).getD 80
      (menuLines width words).forM fun line => do discard <| putText standardError (line ++ "\n")
    discard <| putText standardError ((<- textOf? "PS3").getD "#? ")
    if (<- readLineInto services true []) ≠ success then
      discard <| putText standardOutput "\n"
      return failure
    let reply := (<- textOf? "REPLY").getD ""
    if reply.isEmpty then pickWords services name words work limit true status
    else
      let picked := match digitsValue? reply with
        | some (place + 1) => words.getD place ""
        | _ => ""
      let round : Work RoundEnd := do
        assignText name picked
        return .next (<- work)
      match <- roundOf round with
      | .next status =>
        let isEmpty := ((<- textOf? "REPLY").getD "").isEmpty
        pickWords services name words work limit isEmpty status
      | _ => return success

def sumIn (expression : Word) (otherwise : Int) : Work Int := do
  let text := Glyph.text (<- expandParts services false expression)
  if !text.isEmpty then showLine s!"(( {text} ))"
  if text.toList.all isSpace then return otherwise else sumOf text.toList

mutual

/-- Runs a command.  If its status is tested, no failure in it ends the shell. -/
def run (services : Services) (tested : Bool) : Command -> Work Nat
  | .simple line text assignments words redirections => do
    atCommand services line (.ofList text)
    let simple := runSimple services tested line assignments words redirections
    let status <- if (<- inExtended) then withBorrowed simple else simple
    if !(<- get).signals.isEmpty then
      discard <| record status
      runAtSignals services
    conclude services tested status
  | .group body => runAll services tested success body
  | .redirected line body redirections => do
    atLine line
    let status <- withStreams services redirections (run services tested body)
      (return turnStatus (<- settings).kind)
    record status
  | .enclosed line body redirections => do
    atLine line
    let work : Work Nat := do
      return knownStatus (<- encloseWith services (runAll services tested success body))
    conclude services tested (<- withStreams services redirections work
      (return turnStatus (<- settings).kind))
  | .pipeline stages => do
    let numbers <- liftM (startStages (stageActs services tested stages))
    conclude services tested (<- pipelineStatus (<- liftM (awaitAll numbers)))
  | .negated command => do
    record (if (<- run services true command) = success then failure else success)
  | .timed command => do
    let status <- run services tested command
    discard <| putText standardError "\nreal\t0m0.001s\nuser\t0m0.000s\nsys\t0m0.001s\n"
    return status
  | .both first second => do
    let status <- run services true first
    if status = success then run services tested second else return status
  | .either first second => do
    let status <- run services true first
    if status = success then return status else run services tested second
  | .background command => do
    record (<- runBackground services (runGiving command (run services tested command)))
  | .partner line name command => do
    atLine line
    record (<- runPartner services (.ofList name) (runGiving command (run services tested command)))
  | .conditional test whenTrue whenFalse => do
    if (<- runAll services true success test) = success then
      record (<- runAll services tested success whenTrue)
    else record (<- runAll services tested success whenFalse)
  | .loop outcome test body => do
    let round : Work RoundEnd := do
      let holds := (<- runAll services true success test) = success
      if holds = outcome then return .next (<- runAll services tested success body)
      else return .done
    record (<- insideLoop (repeatRounds round mostRounds success))
  | .forEach line text name words body => do
    atLine line
    let shown := s!"for {String.ofList text}"
    let values <-
      match words with
      | some words => Word.allFields services words
      | none => pure (<- settings).arguments
    if !isName name then
      return <- record (<- refuse failure s!"\x60{String.ofList name}': not a valid identifier")
    let work : Work Nat := do
      atCommand services line shown
      showLine shown
      runAll services tested success body
    record (<- insideLoop (forWords (.ofList name) work success values))
  | .menu line text name words body => do
    atCommand services line s!"select {String.ofList text}"
    atLine line
    showLine s!"select {String.ofList text}"
    let values <-
      match words with
      | some words => Word.allFields services words
      | none => pure (<- settings).arguments
    if !isName name then
      return <- record (<- refuse failure s!"\x60{String.ofList name}': not a valid identifier")
    if values.isEmpty then record success
    else
      let work := runAll services tested success body
      record (<- insideLoop (pickWords services (.ofList name) values work mostRounds true success))
  | .choice line text subject arms => do
    atCommand services line s!"case {String.ofList text} in "
    atLine line
    showLine s!"case {String.ofList text} in"
    let text <- Word.text services subject
    record (<- runArms services tested text.toList success false arms)
  | .define line name body => do
    modifySettings fun settings =>
      let name := .ofList name
      { settings with
        functions := (name, ⟨line, body, settings.source⟩) ::
          settings.functions.filter (·.1 != name) }
    record success
  | .compute line expression => do
    atLine line
    let before := (<- settings).running
    modifySettings ({ · with running := some "((" })
    let work : Work Nat :=
      tryCatch (do return statusOf ((<- sumIn services expression 0) ≠ 0)) fun escape => do
        match escape with
        | .fault status => return status
        | escape => throw escape
    conclude services tested (<- andFinally work (modifySettings ({ · with running := before })))
  | .forSum line start test next body => do
    atLine line
    discard <| sumIn services start 0
    let round : Work RoundEnd := do
      if (<- sumIn services test 1) = 0 then return .done
      else match <- roundOf (do return .next (<- runAll services tested success body)) with
        | .next status =>
          discard <| sumIn services next 0
          return .next status
        | ended => return ended
    record (<- insideLoop (repeatRounds round mostRounds success))
  | .check line condition => do
    atLine line
    conclude services tested (statusOf (<- checkCondition services false condition))

def runAll (services : Services) (tested : Bool) (status : Nat) : List Command -> Work Nat
  | [] => return status
  | first :: rest => do runAll services tested (<- run services tested first) rest

def stageActs (services : Services) (tested : Bool) : List Command -> List (Act Nat)
  | [] => []
  | first :: rest =>
    encloseWith services (runGiving first (run services tested first)) ::
      stageActs services tested rest

/-- Runs the commands of the arms of which a pattern matches a text.  The commands of an arm may
have been reached from the one in front of it.  -/
def runArms (services : Services) (tested : Bool) (subject : Chars) (status : Nat)
    (reached : Bool) : List Arm -> Work Nat
  | [] => return status
  | .arm patterns body ending :: rest => do
    let holds <- if reached then pure true else anyMatches services subject patterns
    if holds then
      let status <- runAll services tested success body
      match ending with
      | .done => return status
      | .fallThrough => runArms services tested subject status true rest
      | .tryNext => runArms services tested subject status false rest
    else runArms services tested subject status false rest

end

end BaseLanguage.Shell
