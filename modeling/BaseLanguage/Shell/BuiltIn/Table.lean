import BaseLanguage.Shell.BuiltIn.Places
import BaseLanguage.Shell.Test

namespace BaseLanguage.Shell

/-!
# Commands of the shell for names

A name of a command is looked up in a fixed order: aliases, words of the grammar, commands of the
shell that come first, functions, the other commands of the shell, programs.  These commands say
what a name means, and give names other meanings.
-/

def specialNames : List String :=
  Text.wordsIn ". : break continue eval exec exit export readonly return set shift times trap unset"

/-- Whether a command of the shell is special: its errors end a plain shell, in which it also comes
before functions. -/
def isSpecial (kind : ShellKind) (name : String) : Bool :=
  specialNames.contains name || (kind = .plain && name = "local")

def plainNames : List String :=
  Text.wordsIn "[ alias bg cd chdir command echo false fg getopts hash jobs kill local printf pwd
  read test true type ulimit umask unalias wait"

def extendedNames : List String :=
  Text.wordsIn "bind builtin caller compgen complete compopt declare dirs disown enable fc help
  history let logout mapfile popd pushd readarray shopt source suspend typeset"

def isBuiltIn (kind : ShellKind) (name : String) : Bool :=
  specialNames.contains name ||
    match kind with
    | .plain => plainNames.contains name
    | .extended => (name != "chdir" && plainNames.contains name) || extendedNames.contains name

def isKnown (settings : Settings) (name : String) : Bool :=
  isBuiltIn settings.kind name && !settings.disabled.contains name

inductive NameMeaning where
  | replaced (text : String)
  | keyword
  | special
  | builtIn
  | function
  | program (path : String)

def shellFolders : Act String := do
  return ((<- textOf? "PATH").getD (if (<- settings).kind = .plain then "" else usualFolders))

def meaningOf (folders name : String) : Act (Option NameMeaning) := do
  let settings <- settings
  let isKeyword := keywords.contains name || (settings.kind = .extended &&
      (extendedKeywords ++ ["]]", "time", "select", "coproc"]).contains name)
  match settings.aliases.lookup name, settings.functions.lookup name with
  | some text, _ => return some (.replaced text)
  | none, function =>
    if isKeyword then return some .keyword
    else match function with
      | some _ =>
        if settings.kind = .plain && isSpecial .plain name then return some .special
        else return some .function
      | none =>
        if isKnown settings name then
          return some (if isSpecial settings.kind name then .special else .builtIn)
        else match (<- get).lookUp folders name with
          | .ok path => return some (.program path)
          | .error _ => return none

def sayBriefly (folders name : String) : Work Nat := do
  match <- meaningOf folders name with
  | none => return 127
  | some (.replaced text) => answerLines "command" [s!"alias {name}={requoted (← settings).kind text}"]
  | some (.program path) => answerLines "command" [path]
  | some _ => answerLines "command" [name]

def sayMeaning (program folders name : String) : Work Nat := do
  let settings <- settings
  let extended := settings.kind = .extended
  let tells (what : String) : Work Nat := answerLines program [s!"{name} is {what}"]
  match <- meaningOf folders name with
  | none => match settings.kind with
    | .plain =>
      discard <| putText standardOutput s!"{name}: not found\n"
      return 127
    | .extended => refuse failure s!"{name}: not found"
  | some (.replaced text) =>
    tells (if extended then s!"aliased to \x60{text}'" else s!"an alias for {text}")
  | some .keyword => tells "a shell keyword"
  | some .special => tells (if extended then "a shell builtin" else "a special shell builtin")
  | some .builtIn => tells "a shell builtin"
  | some .function => tells (if extended then "a function" else "a shell function")
  | some (.program path) => tells path

def sayKind (name : String) : Work Nat := do
  let tells (word : String) : Work Nat := answerLines "type" [word]
  match <- meaningOf (<- shellFolders) name with
  | none => return failure
  | some (.replaced _) => tells "alias"
  | some .keyword => tells "keyword"
  | some .special => tells "builtin"
  | some .builtIn => tells "builtin"
  | some .function => tells "function"
  | some (.program _) => tells "file"

def allMeanings (name : String) : Act (List NameMeaning) := do
  let settings <- settings
  let session <- get
  let replaced := (settings.aliases.lookup name).map .replaced
  let isKeyword := (keywords ++ extendedKeywords ++ ["]]"]).contains name
  let paths := (Session.candidates (<- shellFolders) name).filter fun path =>
    (session.lookUp usualFolders path).isOk
  let has (holds : Bool) (meaning : NameMeaning) : List NameMeaning :=
    if holds then [meaning] else []
  return replaced.toList ++ has isKeyword .keyword ++
    has (settings.functions.lookup name).isSome .function ++
    has (isKnown settings name) .builtIn ++ paths.map NameMeaning.program

def sayAllMeanings (briefly : Bool) (name : String) : Work Nat := do
  let meanings <- allMeanings name
  if meanings.isEmpty then
    if briefly then return failure else refuse failure s!"{name}: not found"
  else
    answerLines "type" (meanings.map fun meaning => match meaning, briefly with
      | .replaced _, true => "alias"
      | .keyword, true => "keyword"
      | .function, true => "function"
      | .program _, true => "file"
      | _, true => "builtin"
      | .replaced text, false => s!"{name} is aliased to \x60{text}'"
      | .keyword, false => s!"{name} is a shell keyword"
      | .function, false => s!"{name} is a function"
      | .program path, false => s!"{name} is {path}"
      | _, false => s!"{name} is a shell builtin")

def sayTypes : BuiltIn := fun _ _ arguments => do
  let folders <- shellFolders
  let kind := (<- settings).kind
  let (letters, names) <-
    if kind = .extended then leadingOptions ['t', 'p', 'P', 'a', 'f'] arguments
    else pure ([], arguments)
  let say (name : String) : Work Nat := do
    if letters.contains 'a' then sayAllMeanings (letters.contains 't') name
    else if letters.contains 't' then sayKind name
    else if letters.contains 'p' || letters.contains 'P' then
      match (<- get).lookUp folders name with
      | .ok path => answerLines "type" [path]
      | .error _ => return failure
    else sayMeaning "type" folders name
  names.foldlM
    (fun worst name => do
      let status <- say name
      return if kind = .plain then worst ||| status else max worst status)
    success

def sayCommand : BuiltIn := fun _ _ arguments => do
  let (letters, names) <- leadingOptions ['p', 'v', 'V'] arguments
  let folders <- if letters.contains 'p' then pure usualFolders else liftM shellFolders
  let kind := (<- settings).kind
  let say (name : String) : Work Nat := do
    let status <-
      if letters.contains 'V' then sayMeaning "command" folders name
      else if letters.contains 'v' then sayBriefly folders name
      else pure success
    return if kind = .extended && status = 127 then failure else status
  match kind, names with
  | _, [] => return success
  | .plain, name :: _ => say name
  | .extended, names => do return if (<- names.mapM say).contains success then success else failure

/-- Looks programs up, so that they are known; that needs nothing. -/
def hashNames : BuiltIn := fun _ _ arguments => do
  let names := arguments.filter (!·.startsWith "-")
  let folders <- shellFolders
  names.foldlM
    (fun worst name => do
      if isBuiltIn (<- settings).kind name || ((<- settings).functions.lookup name).isSome then
        return worst
      else match (<- get).lookUp folders name with
        | .ok _ => return worst
        | .error _ => return max worst (<- refuse failure s!"{name}: not found"))
    success

def setAliases : BuiltIn := fun _ _ arguments => do
  let kind := (<- settings).kind
  let shown (name text : String) : String :=
    let entry := s!"{name}={requoted kind text}"
    if kind = .extended then s!"alias {entry}" else entry
  let names := behindLetters ['p'] arguments
  if names.isEmpty then
    let aliases := ((<- settings).aliases).mergeSort (fun left right => left.1 <= right.1)
    answerLines "alias" (aliases.map (fun entry => shown entry.1 entry.2))
  else
    names.foldlM
      (fun worst argument => do
        match declared argument with
        | (name, some text) =>
          modifySettings fun settings => { settings with
            aliases := (name, text) :: settings.aliases.filter (·.1 != name) }
          return worst
        | (name, none) => match (<- settings).aliases.lookup name with
          | some text =>
            discard <| answerLines "alias" [shown name text]
            return worst
          | none => match kind with
            | .plain =>
              discard <| putText standardError s!"alias: {name} not found\n"
              return failure
            | .extended => return max worst (<- refuse failure s!"{name}: not found"))
      success

def removeAliases : BuiltIn := fun _ _ arguments => do
  let (letters, names) <- leadingOptions ['a'] arguments
  if letters.contains 'a' then
    modifySettings ({ · with aliases := [] })
    return success
  else
    names.foldlM
      (fun worst name => do
        if ((<- settings).aliases.lookup name).isSome then
          modifySettings fun settings => { settings with
            aliases := settings.aliases.filter (·.1 != name) }
          return worst
        else match (<- settings).kind with
          | .plain =>
            discard <| putText standardError s!"unalias: {name} not found\n"
            return failure
          | .extended => return max worst (<- refuse failure s!"{name}: not found"))
      success

def killUsage : String :=
  "Usage: kill [-s sigspec | -signum | -sigspec] [pid | job]... or\nkill -l [exitstatus]"

def saySignals (targets : List String) : Work Nat := do
  let kind := (<- settings).kind
  match targets with
  | [] =>
    let names := signalNames.drop 1
    if kind = .plain then answerLines "kill" ("0" :: names)
    else answerText "kill" signalTable.toList
  | target :: _ => match digitsValue? target, kind with
    | some number, _ => answerLines "kill" [signalNames.getD (number % 128) ""]
    | none, .plain => shellFault s!"Illegal number: {target}"
    | none, .extended => match signal? kind target with
      | some name => answerLines "kill" [numberText (signalNames.idxOf name)]
      | none => refuse failure s!"{target}: invalid signal specification"

def signalSelf (services : Services) (name : String) : Work Nat := do
  match (<- settings).traps.lookup name with
  | some action =>
    if !action.isEmpty then discard <| runSource services true none action
    return success
  | none => if harmlessSignals.contains name then return success else endProcess (signalStatus name)

def signalProcess (services : Services) (name target : String) : Work Nat := do
  let settings <- settings
  let session <- get
  match processOf? settings target with
  | some number =>
    let isThere := number <= session.processes && (<- endStatus? number).isNone
    if number = session.process then signalSelf services name
    else if isThere || settings.jobs.contains number then
      if name ≠ "EXIT" then send { target := number, name }
      return success
    else match settings.kind with
      | .plain =>
        complainInShell "No such process\n"
        return failure
      | .extended => refuse failure s!"({target}) - No such process"
  | none => match settings.kind with
    | .plain =>
      if target.startsWith "%" then refuse misuse s!"No such job: {target}"
      else if (digitsValue? target).isSome then
        complainInShell "No such process\n"
        return failure
      else shellFault s!"Illegal number: {target}"
    | .extended =>
      if target.startsWith "%" then refuse failure s!"{target}: no such job"
      else if (digitsValue? target).isSome then refuse failure s!"({target}) - No such process"
      else refuse failure s!"{target}: arguments must be process or job IDs"

def sendSignal : BuiltIn := fun services _ arguments => do
  let kind := (<- settings).kind
  let (signal, targets) : String × List String := match arguments with
    | "-s" :: name :: rest => (name, rest)
    | "-n" :: name :: rest => (name, rest)
    | "--" :: rest => ("TERM", rest)
    | first :: rest => match first.toList with
      | '-' :: name => (.ofList name, rest)
      | _ => ("TERM", first :: rest)
    | [] => ("TERM", [])
  if signal = "l" || signal = "L" then saySignals targets
  else match signal? .extended signal with
    | none => match kind with
      | .plain => shellFault s!"invalid signal number or name: {signal}"
      | .extended => refuse failure s!"{signal}: invalid signal specification"
    | some name =>
      if targets.isEmpty then
        match kind with
        | .plain => shellFault killUsage
        | .extended =>
          refuse misuse "usage: kill [-s sigspec | -n signum | -sigspec] pid | jobspec ..."
      else
        targets.foldlM
          (fun worst target => do return max worst (<- signalProcess services name target))
          success

/-- The commands in the background are done, so there is none to say. -/
def sayJobs : BuiltIn := fun _ _ _ => return success

def bringForward (program : String) : BuiltIn := fun _ _ _ => do
  match (<- settings).kind with
  | .plain => shellFault s!"No current job"
  | .extended => refuse failure (if program.isEmpty then "" else "no job control")

def runFile : BuiltIn := fun services tested arguments => do
  let settings <- settings
  match arguments with
  | [] => match settings.kind with
    | .plain => return success
    | .extended => refuse misuse "filename argument required"
  | name :: rest =>
    let session <- get
    let readable (path : String) : Bool := (session.files.read (pathOf path)).isOk
    let inFolders := (Session.candidates (<- shellFolders) name).find? readable
    let path? : Option String :=
      if name.toList.contains '/' then some name
      else match inFolders, settings.kind with
        | some path, _ => some path
        | none, .extended => some name
        | none, .plain => none
    match path? with
    | none => shellFault s!"{name}: not found"
    | some path => match <- readNamed path with
      | .error fault => match settings.kind with
        | .plain =>
          let reason := if fault = .missing then "No such file" else wording fault
          shellFault s!"cannot open {path}: {reason}"
        | .extended =>
          modifySettings ({ · with running := none })
          refuse failure s!"{path}: {wording fault}"
      | .ok bytes =>
        let keepsArguments := rest.isEmpty || settings.kind = .plain
        if !keepsArguments then modifySettings ({ · with arguments := rest })
        modifySettings fun settings => match settings.kind with
          | .plain => { settings with running := some path }
          | .extended => { settings with running := none, sourced := some path }
        let text := .ofList (Text.octetsOf bytes)
        let work := runSource services tested (some path) text
        let work : Work Nat := tryCatch work fun escape => do
          match escape with
          | .finish status => return status
          | escape => throw escape
        andFinally work (modifySettings fun now => { now with
          arguments := if keepsArguments then now.arguments else settings.arguments
          line := settings.line
          sourced := settings.sourced })

def enableNames : BuiltIn := fun _ _ arguments => do
  let (letters, names) <- leadingOptions ['a', 'n', 'p', 's'] arguments
  let settings <- settings
  let off := letters.contains 'n'
  if names.isEmpty then
    let all := (specialNames ++ plainNames ++ extendedNames).eraseDups.filter
      (isBuiltIn .extended ·)
    let all := if letters.contains 's' then specialNames ++ ["source"] else all
    let sorted := all.mergeSort (fun left right => left <= right)
    let isOff (name : String) : Bool := settings.disabled.contains name
    answerLines "enable" (sorted.filterMap fun name =>
      if letters.contains 'a' then
        some (if isOff name then s!"enable -n {name}" else s!"enable {name}")
      else if off then (if isOff name then some s!"enable -n {name}" else none)
      else if isOff name then none
      else some s!"enable {name}")
  else
    names.foldlM
      (fun worst name => do
        if !isBuiltIn .extended name then
          return max worst (<- refuse failure s!"{name}: not a shell builtin")
        else
          modifySettings fun settings =>
            let others := settings.disabled.filter (· != name)
            { settings with disabled := if off then name :: others else others }
          return worst)
      success

def toldKeywords : List String :=
  ["if", "then", "else", "elif", "fi", "case", "esac", "for", "select", "while", "until", "do",
    "done", "in", "function", "time", "\x7b", "\x7d", "!", "[[", "]]", "coproc"]

def namesOfKind (kind : String) : Act (List String) := do
  let settings <- settings
  let sorted (names : List String) : List String :=
    names.eraseDups.mergeSort (fun left right => left <= right)
  match kind with
  | "function" => return sorted (settings.functions.map Prod.fst)
  | "alias" => return sorted (settings.aliases.map Prod.fst)
  | "variable" => return sorted (settings.bindings.names ++ ownNames)
  | "builtin" =>
    return sorted ((specialNames ++ plainNames ++ extendedNames).filter (isBuiltIn .extended ·))
  | "keyword" => return toldKeywords
  | "export" => return sorted ((settings.bindings.filter (·.2.exported)).map Prod.fst)
  | "shopt" => return behaviourNames
  | "setopt" => return settingNames
  | "signal" => return signalNames.map (fun name => if name = "EXIT" then name else "SIG" ++ name)
  | _ => return []

def kindOfLetter? : Char -> Option String
  | 'a' => some "alias"
  | 'b' => some "builtin"
  | 'e' => some "export"
  | 'k' => some "keyword"
  | 'v' => some "variable"
  | _ => none

def completionsOf : Nat -> List String -> Act (List String × String)
  | 0, _ => return ([], "")
  | _, [] => return ([], "")
  | limit + 1, argument :: rest => do
    let separators := (<- settings).separators
    let files (folders : Bool) (rest : List String) : Act (List String × String) := do
      let tree := (<- get).files
      let front := rest.headD ""
      let found := (namesIn tree "").filter fun name => !folders || tree.hasFolder (pathOf name)
      let (others, _) <- completionsOf limit rest
      return (found ++ others, front)
    match argument.toList, rest with
    | ['-', 'W'], words :: rest =>
      let cut := words.toList.map (fun c => if separators.contains c then '\n' else c)
      let found := (Text.pieces '\n' cut).map .ofList
      let (others, front) <- completionsOf limit rest
      return (found.filter (!·.isEmpty) ++ others, front)
    | ['-', 'A'], kind :: rest =>
      let found <- namesOfKind kind
      let (others, front) <- completionsOf limit rest
      return (found ++ others, front)
    | ['-', 'f'], rest => files false rest
    | ['-', 'd'], rest => files true rest
    | ['-', '-'], rest => return ([], rest.headD "")
    | ['-', letter], rest =>
      let found <-
        match kindOfLetter? letter with
        | some kind => namesOfKind kind
        | none => pure []
      let (others, front) <- completionsOf limit rest
      return (found ++ others, front)
    | _, _ => return ([], argument)

def sayCompletions : BuiltIn := fun _ _ arguments => do
  let (names, front) <- completionsOf (arguments.length + 1) arguments
  let found := names.filter (·.startsWith front)
  if found.isEmpty then return failure else answerLines "compgen" found

def setBehaviours : BuiltIn := fun _ _ arguments => do
  let (flags, names) := (arguments.takeWhile (·.startsWith "-"),
    arguments.dropWhile (·.startsWith "-"))
  let has (flag : String) : Bool := flags.any (· == flag)
  let isSilent := flags.any (·.toList.contains 'q')
  let options := (<- settings).options
  let line (name : String) : String :=
    let isOn := options.contains name
    let gap := String.ofList (List.replicate (15 - name.length) ' ')
    let shown := if isOn then "on" else "off"
    if has "-p" then "shopt " ++ (if isOn then "-s " else "-u ") ++ name
    else s!"{name}{gap}\t{shown}"
  let step (worst : Nat) (name : String) : Work Nat := do
    if !behaviourNames.contains name then
      return max worst (<- refuse failure s!"{name}: invalid shell option name")
    else if has "-s" || has "-u" then
      setOption name (has "-s")
      return worst
    else
      let isOn <- hasOption name
      if !isSilent then discard <| answerLines "shopt" [line name]
      return max worst (statusOf isOn)
  if names.isEmpty then
    answerLines "shopt" ((behaviourNames.filter fun name =>
      if has "-s" then options.contains name
      else if has "-u" then !options.contains name
      else true).map line)
  else if has "-o" || has "-so" || has "-uo" then
    let on := flags.any (·.toList.contains 's')
    names.forM (fun name => liftM (setOption name on))
    return success
  else names.foldlM step success

/-!
## The commands of the shell

Each name of a command of the shell leads to what it does.  Commands that programs do as well are
taken from these, with complaints that begin with the name of the shell.
-/

def asBuiltIn (name : String) (utility : Utility) : BuiltIn := fun _ _ arguments => do
  utility (<- builtInName name) arguments

def justStatus (status : Nat) : BuiltIn := fun _ _ _ => return status

def sayArguments : BuiltIn := fun services tested arguments => do
  match (<- settings).kind with
  | .plain => asBuiltIn "echo" echoWithEscapes services tested arguments
  | .extended => asBuiltIn "echo" (echoPlain .extendedShell) services tested arguments

def testCondition (name : String) (inBrackets : Bool) : BuiltIn :=
  fun services tested arguments => do
  let tester : Tester := if <- inExtended then .extendedShell else .plainShell
  asBuiltIn name (test tester inBrackets) services tested arguments

def builtInWork? : String -> Option BuiltIn
  | ":" => some (justStatus success)
  | "true" => some (justStatus success)
  | "false" => some (justStatus failure)
  | "." => some runFile
  | "source" => some runFile
  | "break" => some (leaveLoops false)
  | "continue" => some (leaveLoops true)
  | "eval" => some evaluateArguments
  | "exit" => some exitShell
  | "logout" => some exitShell
  | "export" => some exportVariables
  | "readonly" => some fixVariables
  | "return" => some finishFunction
  | "set" => some setSettings
  | "shift" => some shiftArguments
  | "times" => some sayTimes
  | "trap" => some trapSignals
  | "unset" => some unsetNames
  | "cd" => some changeFolder
  | "chdir" => some changeFolder
  | "pwd" => some sayFolder
  | "dirs" => some sayVisited
  | "pushd" => some pushFolder
  | "popd" => some popFolder
  | "umask" => some setMask
  | "ulimit" => some sayLimits
  | "command" => some sayCommand
  | "type" => some sayTypes
  | "hash" => some hashNames
  | "alias" => some setAliases
  | "unalias" => some removeAliases
  | "kill" => some sendSignal
  | "jobs" => some sayJobs
  | "bg" => some (bringForward "bg")
  | "fg" => some (bringForward "fg")
  | "wait" => some waitForJobs
  | "getopts" => some nextOption
  | "read" => some readLineInto
  | "local" => some localVariables
  | "echo" => some sayArguments
  | "printf" => some formatInShell
  | "test" => some (testCondition "test" false)
  | "[" => some (testCondition "[" true)
  | "let" => some computeSums
  | "declare" => some declareVariables
  | "typeset" => some declareVariables
  | "mapfile" => some readLines
  | "readarray" => some readLines
  | "shopt" => some setBehaviours
  | "caller" => some sayCaller
  | "disown" => some disownJobs
  | "enable" => some enableNames
  | "compgen" => some sayCompletions
  | "exec" => some (justStatus success)
  | "builtin" => some (justStatus success)
  | _ => none

def builtIn? (settings : Settings) (name : String) : Option BuiltIn :=
  if isKnown settings name then builtInWork? name else none

end BaseLanguage.Shell
