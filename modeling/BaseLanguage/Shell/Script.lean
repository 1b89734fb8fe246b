import BaseLanguage.Shell.Syntax.Command
import BaseLanguage.Shell.Work

namespace BaseLanguage.Shell

/-!
# Running scripts

A script runs line by line: what makes one complete command line is read, and runs before the next
is read.  So what is wrong with a later line is said only when all lines in front of it have run.
-/

def ScriptFault.plainWording : ScriptFault -> String
  | .unexpected found none => s!"Syntax error: {found.name} unexpected"
  | .unexpected found (some expected) =>
    let shown := if expected = "word" then expected else s!"\"{expected}\""
    s!"Syntax error: {found.name} unexpected (expecting {shown})"
  | .unclosed c =>
    if c.toNat = 0x60 then "Syntax error: EOF in backquote substitution"
    else "Syntax error: Unterminated quoted string"
  | .missing closing => s!"Syntax error: Missing '{closing}'"
  | .unclosedOutput => "Syntax error: end of file unexpected (expecting \")\")"
  | .badCondition found => s!"Syntax error: {found.name} unexpected"
  | .badLoopVariable => "Syntax error: Bad for loop variable"
  | .badFunctionName => "Syntax error: Bad function name"
  | .badStream => "Syntax error: Bad fd number"
  | .tooDeep => "Syntax error: too deep"

def ScriptFault.extendedWordings (fault : ScriptFault) (line : String) : List String :=
  match fault with
  | .unclosedOutput => ["unexpected EOF while looking for matching \x60)'"]
  | .badCondition found =>
    ["conditional binary operator expected", s!"syntax error near \x60{found.text}'",
      s!"\x60{line}'"]
  | .unexpected .ending _ => ["syntax error: unexpected end of file"]
  | .unexpected found _ =>
    [s!"syntax error near unexpected token \x60{found.text}'", s!"\x60{line}'"]
  | .unclosed c => [s!"unexpected EOF while looking for matching \x60{String.singleton c}'"]
  | .missing closing =>
    let last := String.ofList (closing.toList.take 1)
    [s!"unexpected EOF while looking for matching \x60{last}'"]
  | .badLoopVariable => ["syntax error near unexpected token \x60newline'", s!"\x60{line}'"]
  | .badFunctionName => [s!"\x60{line}': not a valid identifier"]
  | .badStream => ["Bad file descriptor"]
  | .tooDeep => ["syntax error: too deep"]

def complainOfScript (origin : Option String) (text : Chars) (error : ScriptError) : Work Nat := do
  modifySettings ({ · with line := error.line })
  let settings <- settings
  match settings.kind with
  | .plain => shellFault error.fault.plainWording
  | .extended =>
    let number : Nat := match error.fault with
      | .unexpected .newline _ => error.line - 1
      | _ => error.line
    let lines := Text.pieces '\n' text
    let line := .ofList (lines.getD (number - 1) [])
    let source := (origin.map (fun origin => s!"{origin}: ")).getD ""
    let wordings := error.fault.extendedWordings line
    wordings.forM fun wording => do
      discard <| complain s!"{settings.name}: {source}line {numberText number}" wording
    throw (.fault error.status)

def warnOfEndless (source : Source) : Act Unit := do
  let settings <- settings
  let name := settings.sourced.getD settings.name
  let last := source.line - 1
  let front := s!"{name}: line {numberText last}"
  if settings.kind = .extended then
    source.endless.forM fun (line, mark) => do
      let shown := String.ofList mark
      let message := s!"here-document at line {numberText line} delimited by end-of-file"
      discard <| complain front s!"warning: {message} (wanted \x60{shown}')"

def nextCommands (source : Source) : Except ScriptError (List Command × Source) :=
  readLine.run source

def runLines (services : Services) (tested : Bool) (origin : Option String) (text : Chars) :
    Nat -> Nat -> Source -> Work Nat
  | 0, status, _ => return status
  | limit + 1, status, source => do
    if source.isAtEnd then return status
    else
      let aliases := (<- settings).aliases
      let groups <- hasOption "extglob"
      match nextCommands { source with aliases, groups, endless := [] } with
      | .error error => complainOfScript origin text error
      | .ok (commands, source) =>
        warnOfEndless source
        if commands.isEmpty || (<- hasOption "noexec") then
          runLines services tested origin text limit status source
        else
          let kind := (<- settings).kind
          let status <- tryCatch (services.perform tested commands) fun escape => do
            match kind, escape with
            | .extended, .fault status =>
              modifySettings ({ · with status })
              return status
            | _, escape => throw escape
          runLines services tested origin text limit status source

variable (services : Services)

/-- Runs a script inside the present shell.  The source of an extended one ends with its last
line. -/
def runSource (tested : Bool) (origin : Option String) (text : String) : Work Nat := do
  let kind := (<- settings).kind
  let octets := text.toList
  let octets := if kind = .extended && octets.getLast? ≠ some '\n' then octets ++ ['\n'] else octets
  let aliases := (<- settings).aliases
  runLines services tested origin octets (octets.length + 1) success
    { rest := octets, kind, aliases }

def runAtSignals : Work Unit := do
  let signals := (<- get).signals.reverse
  if !signals.isEmpty then
    modify ({ · with signals := [] })
    signals.forM fun name => do
      let some action := (<- settings).traps.lookup name | return ()
      let status := (<- settings).status
      discard <| runSource services true none action
      modifySettings ({ · with status })

/-- Runs what is to run at the end of the shell, which then ends with the same status unless it is
told otherwise.  -/
def runAtEnd (status : Nat) : Work Nat := do
  let some action := (<- settings).traps.lookup "EXIT" | return status
  modifySettings fun settings => { settings with
    traps := settings.traps.filter (·.1 != "EXIT")
    running := none
    status }
  discard <| tryCatch (runSource services true none action) fun escape => do
    match escape with
    | .exit status => throw (.exit status)
    | _ => return status
  return status

/-- Runs something in a shell inside the present one, with what runs at its end. -/
def encloseWith (work : Work Nat) : Act Nat := enclose (runAtEnd services) work

end BaseLanguage.Shell
