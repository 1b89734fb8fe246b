import BaseLanguage.Shell.Parameter
import BaseLanguage.Shell.Script

namespace BaseLanguage.Shell

/-!
# Commands of the shell that say what comes next

These end the shell, a loop or a function, run scripts inside the shell, or change its settings.
-/

/-- A command of the shell: whether its status is tested, and its arguments. -/
abbrev BuiltIn := Services -> Bool -> List String -> Work Nat

def numberArgument (argument : String) : Work Nat := do
  match digitsValue? argument with
  | some value => return value
  | none => shellFault s!"Illegal number: {argument}"

def statusArgument (arguments : List String) : Work Nat := do
  match arguments with
  | [] => return (<- settings).status
  | argument :: _ => match (<- settings).kind, digitsValue? argument with
    | _, some value => return value
    | .plain, none => shellFault s!"Illegal number: {argument}"
    | .extended, none => match argument.toList with
      | '-' :: digits =>
        if !digits.isEmpty && digits.all Text.isDigit then return (256 - Text.valueOf digits % 256)
        else refuse misuse s!"{argument}: numeric argument required"
      | _ => refuse misuse s!"{argument}: numeric argument required"

def exitShell : BuiltIn := fun _ _ arguments => do
  throw (.exit ((<- statusArgument arguments) % 256))

def finishFunction : BuiltIn := fun _ _ arguments => do
  let settings <- settings
  if settings.kind = .extended && settings.callers.isEmpty then
    refuse misuse "can only \x60return' from a function or sourced script"
  else
    let status <- statusArgument arguments
    throw (.finish (if settings.kind = .extended then status % 256 else status))

def leaveLoops (next : Bool) : BuiltIn := fun _ _ arguments => do
  let settings <- settings
  if settings.kind = .extended && settings.loops = 0 then
    complainInShell "only meaningful in a \x60for', \x60while', or \x60until' loop"
    return success
  let count <-
    match arguments with
    | [] => pure 1
    | argument :: _ => match digitsValue? argument with
      | some (count + 1) => pure (count + 1)
      | _ => match settings.kind with
        | .plain => shellFault s!"Illegal number: {argument}"
        | .extended => shellFault s!"{argument}: loop count out of range"
  if settings.loops = 0 then return success
  else
    let count := min count settings.loops
    throw (if next then .nextRound count else .leave count)

def evaluateArguments : BuiltIn := fun services tested arguments =>
  runSource services tested (some "eval") (" ".intercalate arguments)

def shiftArguments : BuiltIn := fun _ _ arguments => do
  let count <-
    match arguments with
    | [] => pure 1
    | argument :: _ => numberArgument argument
  let settings <- settings
  if settings.arguments.length < count then
    match settings.kind with
    | .plain => shellFault "can't shift that many"
    | .extended => return failure
  else
    modifySettings fun settings => { settings with arguments := settings.arguments.drop count }
    return success

def extendedLetters : List (Char × String) :=
  [('a', "allexport"), ('B', "braceexpand"), ('C', "noclobber"), ('E', "errtrace"),
    ('H', "histexpand"), ('P', "physical"), ('T', "functrace"), ('b', "notify"),
    ('e', "errexit"), ('f', "noglob"), ('h', "hashall"), ('k', "keyword"), ('m', "monitor"),
    ('n', "noexec"), ('p', "privileged"), ('t', "onecmd"), ('u', "nounset"), ('v', "verbose"),
    ('x', "xtrace")]

def optionOfLetter? (kind : ShellKind) (letter : Char) : Option String := match kind with
  | .plain => (optionLetters.find? (·.2 == letter)).map Prod.fst
  | .extended => extendedLetters.lookup letter

def namedOptions : ShellKind -> List String
  | .plain => optionLetters.map Prod.fst ++ ["privileged", "nolog", "debug"]
  | .extended => settingNames

def setOption (name : String) (on : Bool) : Act Unit :=
  modifySettings fun settings =>
    let others := settings.options.filter (· != name)
    { settings with options := if on then name :: others else others }

def sayOptions (asCommands : Bool) : Work Nat := do
  let settings <- settings
  let line (name : String) : String :=
    let on := settings.options.contains name
    if asCommands then (if on then "set -o " else "set +o ") ++ name
    else
      let gap := .ofList (List.replicate (16 - name.length) ' ')
      name ++ gap ++ (if on then "on" else "off")
  let lines := (namedOptions settings.kind).map line
  if settings.kind = .extended then
    return <- answerLines "set" (settingNames.map fun name =>
      let known := if name = "interactive-comments" then "interactive_comments" else name
      let on := settings.options.contains known
      if asCommands then (if on then "set -o " else "set +o ") ++ name
      else
        let gap := .ofList (List.replicate (15 - name.length) ' ')
        name ++ gap ++ "\t" ++ (if on then "on" else "off"))
  answerLines "set" (if asCommands then lines else "Current option settings" :: lines)

def sayVariables : Work Nat := do
  let settings <- settings
  let shown (octets : String) : String :=
    if settings.kind = .plain then singleQuoted octets
    else if octets.toList.any isHidden then quoteWithEscapes octets
    else if hasShellSigns octets then quotePlainly octets
    else octets
  answerLines "set" (settings.bindings.names.filterMap fun name =>
    match (settings.bindings.find? name).bind Variable.value with
    | some (.text octets) => some s!"{name}={shown octets}"
    | some value => some s!"{name}={writtenValue value}"
    | none => none)

def setArguments (arguments : List String) : Act Nat := do
  modifySettings ({ · with arguments, letters := 0 })
  return success

/-- Changes the options that arguments name, and then the arguments of the script. -/
def setOptions : List String -> Work Nat
  | [] => return success
  | argument :: rest => do
    let kind := (<- settings).kind
    match argument.toList with
    | ['-', '-'] => setArguments rest
    | ['-'] => do
      setOption "xtrace" false
      setOption "verbose" false
      if rest.isEmpty then return success else setArguments rest
    | [sign, 'o'] =>
      if sign = '-' || sign = '+' then
        match rest with
        | [] => sayOptions (sign = '+')
        | name :: rest =>
          if (namedOptions kind).contains name then
            setOption name (sign = '-')
            setOptions rest
          else match kind with
            | .plain => shellFault s!"Illegal option {String.singleton sign}o {name}"
            | .extended => refuse misuse s!"{name}: invalid option name"
      else setArguments (argument :: rest)
    | sign :: letter :: letters =>
      if sign = '-' || sign = '+' then
        let unknown :=
          (letter :: letters).find? (fun letter =>
            letter ≠ 'o' && (optionOfLetter? kind letter).isNone)
        match unknown with
        | some unknown =>
          let shown := String.ofList [sign, unknown]
          match kind with
          | .plain => shellFault s!"Illegal option {shown}"
          | .extended => refuse misuse s!"{shown}: invalid option"
        | none =>
          (letter :: letters).forM fun letter =>
            ((optionOfLetter? kind letter).forM (setOption · (sign = '-')))
          if (letter :: letters).contains 'o' then
            match rest with
            | name :: rest =>
              setOption name (sign = '-')
              setOptions rest
            | [] => sayOptions (sign = '+')
          else setOptions rest
      else setArguments (argument :: rest)
    | _ => setArguments (argument :: rest)
termination_by arguments => arguments.length

def setSettings : BuiltIn := fun _ _ arguments => match arguments with
  | [] => sayVariables
  | arguments => setOptions arguments

def signal? (kind : ShellKind) (argument : String) : Option String :=
  match digitsValue? argument with
  | some number => signalNames[number]?
  | none =>
    let name :=
      if kind = .extended && argument.startsWith "SIG" then .ofList (argument.toList.drop 3)
      else argument
    if signalNames.contains name then some name
    else if kind = .extended && (name = "ERR" || name = "DEBUG" || name = "RETURN") then some name
    else none

def setTraps (action : Option String) : List String -> Work Nat
  | [] => return success
  | argument :: rest => do
    let kind := (<- settings).kind
    match signal? kind argument with
    | none => match kind with
      | .plain => complain "trap" s!"{argument}: bad trap"
      | .extended => refuse failure s!"{argument}: invalid signal specification"
    | some signal => do
      modifySettings fun settings =>
        let others := settings.traps.filter (·.1 != signal)
        { settings with
          traps := match action with
            | some action => (signal, action) :: others
            | none => others }
      setTraps action rest

def signalTable : String :=
  let spread := (List.range 31).map fun offset =>
    let upwards := numberText offset
    let downwards := numberText (30 - offset)
    if offset = 0 then (34, "RTMIN")
    else if offset <= 15 then (34 + offset, "RTMIN+" ++ upwards)
    else if offset < 30 then (34 + offset, "RTMAX-" ++ downwards)
    else (64, "RTMAX")
  let plain := (signalNames.drop 1).zipIdx.map fun (name, index) => (index + 1, name)
  let entries := (plain ++ spread).zipIdx.map fun ((number, name), index) =>
    let digits := Text.decimal number
    let gap := List.replicate (2 - digits.length) ' '
    let ending := if index % 5 = 4 then "\n" else "\t"
    .ofList (gap ++ digits) ++ ") SIG" ++ name ++ ending
  .join entries ++ "\n"

def trapSignals : BuiltIn := fun _ _ arguments => do
  let arguments := match arguments with
    | "--" :: rest => rest
    | arguments => arguments
  let settings <- settings
  let list (names : List String) : Work Nat :=
    answerLines "trap" (names.filterMap fun name =>
      (settings.traps.lookup name).map fun action =>
        let isSignal := name ≠ "EXIT" && signalNames.contains name
        let shown := if settings.kind = .extended && isSignal then s!"SIG{name}" else name
        s!"trap -- {requoted settings.kind action} {shown}")
  let all := signalNames ++ ["DEBUG", "ERR", "RETURN"]
  match arguments with
  | [] => list all
  | "-p" :: names => list (if names.isEmpty then all else names.filterMap (signal? settings.kind))
  | ["-l"] => answerText "trap" signalTable.toList
  | [signal] => setTraps none [signal]
  | action :: signals => setTraps (if action = "-" then none else some action) signals

/-- The process that an argument of `wait` or `kill` means: its number, or that of a job. -/
def processOf? (settings : Settings) (argument : String) : Option Nat := match argument.toList with
  | '%' :: rest =>
    if rest.isEmpty || rest = ['%'] || rest = ['+'] then settings.jobs.head?
    else if rest = ['-'] then settings.jobs[1]?
    else match digitsValue? (.ofList rest) with
      | some (place + 1) => settings.jobs.reverse[place]?
      | _ => none
  | _ => (digitsValue? argument).bind processWithNumber?

/-- What a plain shell says of a signal that ended a program; of some it says nothing. -/
def signalWording? (number : Nat) : Option String := match signalNames[number]? with
  | some "HUP" => some "Hangup"
  | some "QUIT" => some "Quit"
  | some "ILL" => some "Illegal instruction"
  | some "TRAP" => some "Trace/breakpoint trap"
  | some "ABRT" => some "Aborted"
  | some "BUS" => some "Bus error"
  | some "FPE" => some "Floating point exception"
  | some "KILL" => some "Killed"
  | some "USR1" => some "User defined signal 1"
  | some "SEGV" => some "Segmentation fault"
  | some "USR2" => some "User defined signal 2"
  | some "ALRM" => some "Alarm clock"
  | some "TERM" => some "Terminated"
  | _ => none

def saySignalled (status : Nat) : Act Unit := do
  if 256 <= status && (<- settings).kind = .plain then
    if let some wording := signalWording? (status - 256) then
      discard <| putText standardError s!"{wording}\n"

def awaitProcesses (services : Services) (numbers : List Nat) : Work (Option Nat) := do
  numbers.foldlM
    (fun (outcome : Option Nat) number => do
      let some _ := outcome | return none
      await (.oneEnded [number] none)
      match (<- get).statuses.lookup number, (<- get).signals with
      | some status, _ =>
        saySignalled status
        return some (knownStatus status)
      | none, name :: _ =>
        runAtSignals services
        modifySettings ({ · with status := knownStatus (signalStatus name) })
        return none
      | none, [] => return some success)
    (some success)

def waitForJobs : BuiltIn := fun services _ arguments => do
  let settings <- settings
  let forgotten (numbers : List Nat) : Work Unit :=
    modifySettings fun settings =>
      { settings with jobs := settings.jobs.filter (!numbers.contains ·) }
  match arguments with
  | [] =>
    let outcome <- awaitProcesses services settings.jobs.reverse
    forgotten settings.jobs
    let settings <- Shell.settings
    return if outcome.isSome then success else settings.status
  | "-n" :: _ =>
    if settings.jobs.isEmpty then return 127
    else
      await (.oneEnded settings.jobs none)
      let statuses := (<- get).statuses
      match settings.jobs.reverse.find? (fun number => (statuses.lookup number).isSome) with
      | some number =>
        forgotten [number]
        return knownStatus ((statuses.lookup number).getD success)
      | none => return success
  | arguments =>
    arguments.foldlM
      (fun _ argument => do
        match processOf? settings argument with
        | some number =>
          if settings.jobs.contains number then
            return (<- awaitProcesses services [number]).getD (<- Shell.settings).status
          else
            if settings.kind = .extended then
              complainInShell s!"pid {argument} is not a child of this shell"
            return 127
        | none =>
          if argument.startsWith "%" then
            match settings.kind with
            | .plain => refuse misuse s!"No such job: {argument}"
            | .extended => refuse 127 s!"{argument}: no such job"
          else if digitsValue? argument |>.isSome then return 127
          else match settings.kind with
            | .plain => shellFault s!"Illegal number: {argument}"
            | .extended => refuse failure s!"\x60{argument}': not a pid or valid job spec")
      success

def sayCaller : BuiltIn := fun _ _ arguments => do
  let settings <- settings
  let frames := settings.frames
  match arguments with
  | [] => match settings.callers with
    | [] => return failure
    | frame :: _ =>
      let source := (frames[1]?.map FunctionCall.source).getD "NULL"
      answerLines "caller" [s!"{numberText frame.line} {source}"]
  | argument :: _ => match digitsValue? argument with
    | none => refuse misuse s!"{argument}: invalid number"
    | some place => match frames[place]?, frames[place + 1]? with
      | some frame, some outer =>
        answerLines "caller" [s!"{numberText frame.line} {outer.name} {outer.source}"]
      | _, _ => return failure

def disownJobs : BuiltIn := fun _ _ arguments => do
  let settings <- settings
  let names := arguments.filter (!·.startsWith "-")
  if names.isEmpty then
    match settings.jobs with
    | [] => refuse failure "current: no such job"
    | _ :: rest =>
      modifySettings ({ · with jobs := rest })
      return success
  else
    names.foldlM
      (fun worst name => do
        match processOf? settings name with
        | some number =>
          if settings.jobs.contains number then
            modifySettings fun settings =>
              { settings with jobs := settings.jobs.filter (· != number) }
            return worst
          else return max worst (<- refuse failure s!"{name}: no such job")
        | none => return max worst (<- refuse failure s!"{name}: no such job"))
      success

def sayTimes : BuiltIn := fun _ _ _ =>
  answerLines "times" ["0m0.000000s 0m0.000000s", "0m0.000000s 0m0.000000s"]

end BaseLanguage.Shell
