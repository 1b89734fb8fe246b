import BaseLanguage.Shell.Stream

namespace BaseLanguage.Shell

open Text

/-!
# What shells do

A shell works on a session until something stops the row of commands that it runs: the end of the
shell, an error, the end of a loop or of a function.  What was changed before stays.
-/

inductive Escape where
  | exit (status : Nat)
  | fault (status : Nat)
  | leave (loops : Nat)
  | nextRound (loops : Nat)
  | finish (status : Nat)

abbrev Work := ExceptT Escape Act

structure Services where
  /-- Runs commands inside the present shell.  If their status is tested, no failure ends the shell.
  -/
  perform : Bool -> List Command -> Work Nat
  start : String -> String -> List String -> Act Nat

def Settings.complainer (settings : Settings) : String :=
  let line := String.ofList (decimal settings.line)
  match settings.kind with
  | .plain => s!"{settings.name}: {line}"
  | .extended =>
    let name := settings.sourced.getD settings.name
    s!"{name}: line {line}"

def settings : Act Settings := return (<- get).settings

def builtInName (name : String) : Act String := do return s!"{(← settings).complainer}: {name}"

/-- Complains in the name of the shell, or of the built-in command that it runs. -/
def complainInShell (message : String) : Act Unit := do
  let settings <- settings
  let complainer := match settings.running with
    | some name => s!"{settings.complainer}: {name}"
    | none => settings.complainer
  discard <| complain complainer message

def refuse (status : Nat) (message : String) : Work Nat := do
  complainInShell message
  return status

def faultStatus : ShellKind -> Nat
  | .plain => misuse
  | .extended => failure

def shellFault (message : String) : Work α := do
  complainInShell message
  throw (.fault (faultStatus (<- settings).kind))

def hasOption (name : String) : Act Bool := do return (<- settings).options.contains name

def inExtended : Act Bool := do return (<- settings).kind == .extended

def modifyVariables (change : Variables -> Variables) : Act Unit :=
  modifySettings (fun settings => { settings with bindings := change settings.bindings })

def variableOf (name : String) : Act Variable := do
  let bindings := (<- settings).bindings
  return (bindings.find? (bindings.target name)).getD {}

def Settings.begin (settings : Settings) (time : Nat) (name octets : String) : Settings :=
  let number : Int := match octets.toList with
    | '-' :: digits => -(valueOf (digits.takeWhile isDigit) : Int)
    | digits => valueOf (digits.takeWhile isDigit)
  match name with
  | "OPTIND" => { settings with letters := 0 }
  | "RANDOM" => { settings with seed := number.toNat, drawn := 0 }
  | "SECONDS" => { settings with seconds := number - (time / Timestamp.nanosPerSecond : Nat) }
  | _ => settings

def storeValue (name : String) (value : Value) : Act Unit := do
  let exportsAll <- hasOption "allexport"
  let old <- variableOf name
  let time := (<- get).time
  modifySettings fun settings =>
    let bindings := settings.bindings.set (settings.bindings.target name)
      { old with value := some value, exported := old.exported || exportsAll }
    .begin { settings with bindings } time name (value.first?.getD "")

def fixedFault (name : String) : Work α := do
  let word := if <- inExtended then "readonly variable" else "is read only"
  shellFault s!"{name}: {word}"

def withFirst (old : Option Value) (octets : String) : Value := match old with
  | some (.row elements) => .row (Value.insertElement 0 octets elements)
  | some (.table entries) => .table (Value.insertEntry "0" octets entries)
  | _ => .text octets

def assignText (name octets : String) : Work Unit := do
  let old <- variableOf name
  if old.fixed then fixedFault name
  storeValue name (withFirst old.value octets)

def textOf? (name : String) : Act (Option String) := do return (<- settings).bindings.text? name

def andFinally (work : Work α) (restore : Act Unit) : Work α := do
  let result <- tryCatch work fun escape => do
    restore
    throw escape
  restore
  return result

/-- Does something as another process would: its streams, its variables and its current folder are
its own, and its end is not the end of this one.  The status tells whether a signal ended it. -/
def asideFully (work : Act Nat) : Act Nat := do
  let before <- get
  let status <- surviving work
  modify fun session => { session with
    streams := before.streams
    settings := before.settings
    environment := before.environment
    files := { session.files with current := before.files.current, mask := before.files.mask } }
  return status

def aside (work : Act Nat) : Act Nat := do return knownStatus (<- asideFully work)

def endingStatus : Except Escape Nat -> Nat
  | .ok status => status
  | .error (.exit status) => status
  | .error (.fault status) => status
  | .error (.finish status) => status
  | .error _ => success

abbrev AtEnd := Nat -> Work Nat

/-- Runs something in a shell inside the present one, which it cannot end or change.  The status
tells whether a signal ended it. -/
def enclose (atEnd : AtEnd) (work : Work Nat) : Act Nat := do
  let inside : Act Nat := do
    modifySettings fun settings => { settings with
      depth := settings.depth + 1
      traps := settings.traps.filter (·.2.isEmpty) }
    let status := endingStatus (<- work.run)
    return endingStatus (<- (atEnd status).run)
  asideFully inside

/-!
## Values that a shell computes

Some variables of an extended shell have no value that is kept: what they stand for is made from the
state of the shell when it is asked for.
-/

def firstProcess : Nat := 4217

def numberOfProcess (process : Nat) : Nat := firstProcess + process - 1

def processWithNumber? (number : Nat) : Option Nat :=
  if firstProcess <= number then some (number - firstProcess + 1) else none

def usualBehaviours : List String :=
  wordsIn "checkwinsize cmdhist complete_fullquote extquote force_fignore globasciiranges
  globskipdots hostcomplete interactive_comments patsub_replacement progcomp promptvars sourcepath"

def behaviourNames : List String :=
  wordsIn "assoc_expand_once autocd cdable_vars cdspell checkhash checkjobs checkwinsize cmdhist
  compat31 compat32 compat40 compat41 compat42 compat43 compat44 complete_fullquote direxpand
  dirspell dotglob execfail expand_aliases extdebug extglob extquote failglob force_fignore
  globasciiranges globskipdots globstar gnu_errfmt histappend histreedit histverify hostcomplete
  huponexit inherit_errexit interactive_comments lastpipe lithist localvar_inherit localvar_unset
  login_shell mailwarn no_empty_cmd_completion nocaseglob nocasematch noexpand_translation nullglob
  patsub_replacement progcomp progcomp_alias promptvars restricted_shell shift_verbose sourcepath
  varredir_close xpg_echo"

def settingNames : List String :=
  wordsIn "allexport braceexpand emacs errexit errtrace functrace hashall histexpand history
  ignoreeof interactive-comments keyword monitor noclobber noexec noglob nolog notify nounset onecmd
  physical pipefail posix privileged verbose vi xtrace"

def Settings.readsArgument (settings : Settings) : Bool := settings.options.contains "command"

def Settings.source (settings : Settings) : String :=
  settings.sourced.getD (if settings.readsArgument then "environment" else settings.name)

def Settings.frames (settings : Settings) : List FunctionCall :=
  if settings.readsArgument then settings.callers
  else settings.callers ++ [⟨"main", 0, settings.name⟩]

/-- The next number without order, which is made from the seed: a product modulo a prime, of which
the halves are mixed. -/
def Settings.draw (settings : Settings) : Settings :=
  let seed := if settings.seed = 0 then 123459876 else settings.seed % Nat.pow 2 32
  let product : Int := 16807 * (seed % 127773 : Nat) - 2836 * (seed / 127773 : Nat)
  let next := if product < 0 then (product + 2147483647).toNat else product.toNat
  let mixed := Nat.xor (next / 65536) (next % 65536)
  { settings with seed := next, drawn := mixed % 32768 }

def versionParts : List String := ["5", "2", "15", "1", "release", "x86_64-pc-linux-gnu"]

def rowOfTexts (texts : List String) : Value :=
  .row (texts.zipIdx.map fun (octets, index) => (index, octets))

def Settings.computed? (settings : Settings) (name : String) : Option Value :=
  let frames := settings.frames
  match name with
  | "BASH_COMMAND" => some (.text settings.commandText)
  | "BASH_SOURCE" =>
    if frames.isEmpty then none else some (rowOfTexts (frames.map FunctionCall.source))
  | "BASH_LINENO" =>
    if settings.callers.isEmpty then none else some (rowOfTexts (frames.map (numberText ·.line)))
  | "BASH_VERSINFO" => some (rowOfTexts versionParts)
  | "BASHPID" => some (.text (numberText (numberOfProcess settings.process)))
  | "RANDOM" => some (.text (numberText settings.drawn))
  | "SHELLOPTS" =>
    let isOn (name : String) : Bool :=
      settings.options.contains name ||
        (name = "interactive-comments" && settings.options.contains "interactive_comments")
    some (.text (":".intercalate (settingNames.filter isOn)))
  | "BASHOPTS" => some (.text (":".intercalate (behaviourNames.filter settings.options.contains)))
  | "LINENO" => some (.text (numberText settings.line))
  | "PIPESTATUS" =>
    some (.row (settings.stageStatuses.zipIdx.map fun (status, index) =>
      (index, numberText status)))
  | "FUNCNAME" =>
    if settings.callers.isEmpty then none else some (rowOfTexts (frames.map FunctionCall.name))
  | "BASH_SUBSHELL" => some (.text (numberText (settings.depth - 1)))
  | _ => none

def ownNames : List String :=
  wordsIn "BASHOPTS BASHPID BASH_ALIASES BASH_ARGC BASH_ARGV BASH_ARGV0 BASH_CMDS BASH_COMMAND
  BASH_EXECUTION_STRING BASH_LINENO BASH_LOADABLES_PATH BASH_SOURCE BASH_SUBSHELL BASH_VERSINFO
  COMP_WORDBREAKS DIRSTACK EPOCHREALTIME EPOCHSECONDS FUNCNAME GROUPS HOSTNAME LINENO PIPESTATUS
  RANDOM SECONDS SHELLOPTS SRANDOM _"

def Settings.valueOf? (settings : Settings) (name : String) : Option Value :=
  match settings.kind with
  | .plain => (settings.bindings.find? name).bind Variable.value
  | .extended => match settings.computed? name with
    | some value => some value
    | none => (settings.bindings.find? (settings.bindings.target name)).bind Variable.value

def currentValue (name : String) : Act (Option Value) := do
  let session <- get
  let settings := session.settings
  let seconds : Int := session.time / Timestamp.nanosPerSecond
  let ofNumber (value : Int) : Option Value := some (.text (.ofList (signedDecimal value)))
  match settings.kind, name with
  | .extended, "RANDOM" =>
    let next := settings.draw
    let next := if next.drawn = settings.drawn then next.draw else next
    modifySettings (fun _ => next)
    return next.valueOf? name
  | .extended, "SECONDS" => return ofNumber (settings.seconds + seconds)
  | .extended, "EPOCHSECONDS" => return ofNumber session.files.clock.seconds
  | .extended, "EPOCHREALTIME" =>
    let clock := session.files.clock
    let digits := decimal (clock.nanos / 1000)
    let part := List.replicate (6 - digits.length) '0' ++ digits
    let whole := .ofList (signedDecimal clock.seconds)
    return some (.text (whole ++ "." ++ .ofList part))
  | _, _ => return settings.valueOf? name

end BaseLanguage.Shell
