import BaseLanguage.Shell.Installed
import BaseLanguage.Shell.Utility.Options

namespace BaseLanguage.Shell

open Text

/-!
# Programs that run programs

`env` runs a program with other variables, `xargs` with arguments that it reads; some change other
things of a program that do not matter here.
-/

abbrev Program := Services -> Utility

def alone (utility : Utility) : Program := fun _ => utility

def environmentFolders : Act String := do
  return ((<- get).environment.lookup "PATH").getD "/bin:/usr/bin"

def programFault : StartFault -> Nat × String
  | .missing => (127, wording .missing)
  | .noInterpreter _ => (127, wording .missing)
  | .notFolder => (126, wording .notFolder)
  | .tooManyLinks => (126, wording .tooManyLinks)
  | _ => (126, "Permission denied")

def startNamedSaying (services : Services) (program could name : String)
    (arguments : List String) : Act Nat := do
  match (<- get).lookUp (<- environmentFolders) name with
  | .ok path => asideFully (services.start path name arguments)
  | .error fault =>
    let (status, reason) := programFault fault
    complainWith status program s!"{could}{quoted name}: {reason}"

def startNamed (services : Services) (program name : String) (arguments : List String) : Act Nat :=
  startNamedSaying services program "" name arguments

def outputOf (services : Services) (path name : String) (arguments : List String) :
    Act ByteArray := do
  return (<- collect (services.start path name arguments)).1

/-- Starts something beside this process, which reads what it says, or writes what it reads.  The
results are the stream that this process has for that, and the number of the process. -/
def startBeside (reads : Bool) (act : Act Nat) : Act (Nat × Nat) := do
  let before <- get
  let stream <- freeStream 3
  let (session, channel) := before.addChannel { bounded := true }
  let own : Stream := if reads then .reading channel else .writing channel
  let other : Stream := if reads then .writing channel else .reading channel
  let place := if reads then standardOutput else standardInput
  let session := { session with held := own :: session.held }
  set (session.turn place (some other))
  let number <- startProcess do
    modify (fun session => { session with held := session.held.filter (· != own) })
    act
  modify fun session =>
    { session with streams := before.streams, held := before.held }.turn stream (some own)
  return (stream, number)

def awaitStatus (number : Nat) : Act Nat := do
  await (.ended [number])
  return ((<- get).statuses.lookup number).getD 0

def awaitWork (act : Act Nat) : Act Nat := do awaitStatus (<- startProcess act)

/-! ## Variables -/

def settingOf? (text : String) : Option (String × String) :=
  let name := text.toList.takeWhile (· != '=')
  match text.toList.drop name.length with
  | _ :: value => some (.ofList name, .ofList value)
  | [] => none

def withEntry (name value : String) : List (String × String) -> List (String × String)
  | [] => [(name, value)]
  | entry :: rest =>
    if entry.1 == name then (name, value) :: rest else entry :: withEntry name value rest

def envOptions : OptionTable where
  letters := "i0u:C:S:v"
  words := [("ignore-environment", 'i'), ("null", '0'), ("unset", 'u'), ("chdir", 'C'),
    ("split-string", 'S'), ("debug", 'v')]
  mixes := false
  status := 125

def env : Program := fun services =>
  withOptions envOptions fun program call => do
    let removed := call.allArguments 'u'
    let before := (<- get).environment
    let kept := if call.has 'i' || call.operands.head? == some "-" then []
      else before.filter (!removed.contains ·.1)
    let operands := if call.operands.head? == some "-" then call.operands.drop 1 else call.operands
    let split := (call.argument? 'S').map fun text =>
      ((pieces ' ' text.toList).filter (!·.isEmpty)).map .ofList
    let operands := split.getD [] ++ operands
    let entries := operands.takeWhile (fun word => (settingOf? word).isSome)
    let environment := (entries.filterMap settingOf?).foldl
      (fun environment entry => withEntry entry.1 entry.2 environment) kept
    modify ({ · with environment })
    match operands.drop entries.length, call.argument? 'C' with
    | [], none =>
      let ending := if call.has '0' then Char.ofNat 0 else '\n'
      answerText program (environment.flatMap fun entry =>
        (entry.1 ++ "=" ++ entry.2).toList ++ [ending])
    | [], some _ => complainOfCall program "must specify command with --chdir (-C)" 125
    | name :: arguments, folder? => match folder? with
      | none => startNamed services program name arguments
      | some folder =>
        let files := (<- get).files
        match files.hasFolder (pathOf folder), files.locate (pathOf folder) with
        | true, .ok place =>
          modify fun session => { session with files := { session.files with current := place } }
          startNamed services program name arguments
        | _, _ =>
          complainWith 125 program
            s!"cannot change directory to {quoted folder}: No such file or directory"

def printenv : Utility :=
  withOptions { letters := "0", words := [("null", '0')], mixes := false, status := 2 }
    fun program call => do
      let environment := (<- get).environment
      let ending := if call.has '0' then Char.ofNat 0 else '\n'
      match call.operands with
      | [] =>
        answerText program (environment.flatMap fun entry =>
          (entry.1 ++ "=" ++ entry.2).toList ++ [ending])
      | names => do
        let values := names.filterMap (List.lookup · environment)
        discard <| answerText program (values.flatMap (·.toList ++ [ending]))
        return statusOf (values.length = names.length)

/-! ## Arguments from the input -/

/-- The words of a text, in which quotes and backslashes count, and the quote that lacks its end on
its line, if there is one. -/
def quotedWords (text : Chars) : List String × Option Char := go (text.length + 1) text [] none
where
  finish (found : List Chars) (current : Option Chars) : List Chars :=
    match current with
    | some word => word.reverse :: found
    | none => found
  told (found : List Chars) : List String := found.reverse.map .ofList
  go : Nat -> Chars -> List Chars -> Option Chars -> List String × Option Char
    | 0, _, found, current => (told (finish found current), none)
    | _, [], found, current => (told (finish found current), none)
    | limit + 1, c :: rest, found, current =>
      if isSpace c then go limit rest (finish found current) none
      else if c = '\'' || c = '"' then
        let inside := rest.takeWhile (fun d => d != c && d != '\n')
        match rest.drop inside.length with
        | d :: behind =>
          if d = c then go limit behind found (some (inside.reverse ++ current.getD []))
          else (told found, some c)
        | [] => (told found, some c)
      else if c = '\\' then
        match rest with
        | d :: behind => go limit behind found (some (d :: current.getD []))
        | [] => go limit [] found current
      else go limit rest found (some (c :: current.getD []))

def xargsOptions : OptionTable where
  letters := "0a:d:E:I:i::L:l::n:P:prs:tx"
  words := [("null", '0'), ("arg-file", 'a'), ("delimiter", 'd'), ("replace", 'i'),
    ("max-lines", 'l'), ("max-args", 'n'), ("max-procs", 'P'), ("no-run-if-empty", 'r'),
    ("max-chars", 's'), ("verbose", 't'), ("exit", 'x')]
  mixes := false

def groupsOf (count : Nat) : Nat -> List α -> List (List α)
  | 0, _ => []
  | _, [] => []
  | limit + 1, items => items.take count :: groupsOf count limit (items.drop count)

def replaceMark (mark new : Chars) : Nat -> Chars -> Chars
  | 0, text => text
  | _, [] => []
  | limit + 1, c :: rest =>
    if !mark.isEmpty && mark.isPrefixOf (c :: rest) then
      new ++ replaceMark mark new limit ((c :: rest).drop mark.length)
    else c :: replaceMark mark new limit rest

def xargsItems (call : ProgramCall) (text : Chars) : List String × Option Char :=
  let filled (items : List Chars) : List String := (items.filter (!·.isEmpty)).map .ofList
  if call.has '0' then ((linesOf (Char.ofNat 0) text).map .ofList, none)
  else match call.argument? 'd' with
    | some mark =>
      let sign := match mark.toList with
        | ['\\', 'n'] => '\n'
        | ['\\', 't'] => '\t'
        | ['\\', '0'] => Char.ofNat 0
        | c :: _ => c
        | [] => '\n'
      ((linesOf sign text).map .ofList, none)
    | none =>
      if call.has 'I' || call.has 'i' then
        (filled ((linesOf '\n' text).map (·.dropWhile isSpace)), none)
      else if call.has 'L' then (filled (linesOf '\n' text), none)
      else quotedWords text

def xargsStatus (worst status : Nat) : Nat :=
  if status = success then worst
  else if status = 127 || status = 126 then status
  else if status = 255 then 124
  else 123

def xargs : Program := fun services =>
  withOptions xargsOptions fun program call => do
    let content <-
      match call.argument? 'a' with
      | some name => pure ((<- readNamed name).toOption.getD .empty)
      | none => pure ((<- takeAll standardInput).getD .empty)
    let mark? : Option String := match call.argument? 'I' with
      | some mark => some mark
      | none => (call.argument? 'i').map (fun mark => if mark.isEmpty then "\x7b\x7d" else mark)
    let (items, quote?) := xargsItems call (octetsOf content)
    let fault : Act Nat := match quote? with
      | none => return success
      | some quote => do
        let kind := if quote = '"' then "double" else "single"
        complain program
          (s!"unmatched {kind} quote; by default quotes are special to xargs unless you use " ++
            "the -0 option")
    let front := if call.operands.isEmpty then ["echo"] else call.operands
    let count := (((call.argument? 'n').orElse fun _ => call.argument? 'L').bind
      digitsValue?).getD items.length
    let groups : List (List String) := match mark? with
      | some mark =>
        items.map fun item =>
          front.map fun word =>
            .ofList (replaceMark mark.toList item.toList (word.length + 1) word.toList)
      | none =>
        if items.isEmpty then (if call.has 'r' || quote?.isSome then [] else [front])
        else (groupsOf count items.length items).map (front ++ ·)
    modify (·.turn standardInput (some (.device .nothing)))
    let failed <- fault
    let worst <- groups.foldlM
      (fun worst words => do
        if call.has 't' then discard <| putText standardError (" ".intercalate words ++ "\n")
        match words with
        | name :: arguments => match (<- get).lookUp (<- environmentFolders) name with
          | .ok path => return xargsStatus worst (<- aside (services.start path name arguments))
          | .error fault =>
            let (status, reason) := programFault fault
            complainWith status program s!"{name}: {reason}"
        | [] => return worst)
      success
    return max failed worst

/-! ## Other conditions -/

def nice : Program := fun services program arguments => do
  let isOld (text : String) : Bool := match text.toList with
    | '-' :: digits => !digits.isEmpty && digits.all (fun c => isDigit c || c = '-')
    | _ => false
  let arguments := match arguments with
    | first :: rest =>
      if isOld first then "-n" :: .ofList (first.toList.drop 1) :: rest else first :: rest
    | [] => []
  withOptions
    { letters := "n:", words := [("adjustment", 'n')], mixes := false, status := 125 }
    (fun program call => do
      let amount := (call.argument? 'n').getD "10"
      let digits := amount.toList.dropWhile (fun c => c = '-' || c = '+')
      if digits.isEmpty || !digits.all isDigit then
        complainWith 125 program s!"invalid adjustment {plainlyQuoted amount}"
      else match call.operands with
        | name :: arguments => startNamed services program name arguments
        | [] =>
          if call.has 'n' then
            complainOfCall program "a command must be given with an adjustment" 125
          else answerLines program ["0"])
    program arguments

def nohup : Program := fun services =>
  withOptions { letters := "", mixes := false, status := 125 } fun program call => do
    match call.operands with
    | name :: arguments => startNamedSaying services program "failed to run command " name arguments
    | [] => complainOfCall program "missing operand" 125

def which : Utility := fun _ arguments => do
  let names := arguments.filter (!·.startsWith "-")
  let folders <- environmentFolders
  let paths <- names.mapM fun name => do return (<- get).lookUp folders name
  discard <| answerLines "which" (paths.filterMap Except.toOption)
  return statusOf (paths.all Except.isOk)

end BaseLanguage.Shell
