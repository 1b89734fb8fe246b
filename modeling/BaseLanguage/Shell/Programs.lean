import BaseLanguage.Shell.Execution
import BaseLanguage.Shell.Utility.Archiving
import BaseLanguage.Shell.Utility.CallWriting
import BaseLanguage.Shell.Utility.Comparing
import BaseLanguage.Shell.Utility.Copying
import BaseLanguage.Shell.Utility.Editing.Run
import BaseLanguage.Shell.Utility.Expression
import BaseLanguage.Shell.Utility.Extraction.Run
import BaseLanguage.Shell.Utility.Figures
import BaseLanguage.Shell.Utility.Filling
import BaseLanguage.Shell.Utility.Finding.Run
import BaseLanguage.Shell.Utility.Identity
import BaseLanguage.Shell.Utility.Lines
import BaseLanguage.Shell.Utility.Objects.Run
import BaseLanguage.Shell.Utility.Paging
import BaseLanguage.Shell.Utility.Rebuilding.Run
import BaseLanguage.Shell.Utility.Recoding
import BaseLanguage.Shell.Utility.Records.Run
import BaseLanguage.Shell.Utility.Replacing.Run
import BaseLanguage.Shell.Utility.Search
import BaseLanguage.Shell.Utility.Splitting
import BaseLanguage.Shell.Utility.Transliteration
import BaseLanguage.Tool.Program

namespace BaseLanguage.Shell

open Text

/-!
# The shell as a program

A shell is started with options, and with a script that is one of its arguments, in a file, or on
the standard input.  What it is told in its environment become exported variables.
-/

structure ShellCall where
  options : List String := []
  takesText : Bool := false
  takesInput : Bool := false
  arguments : List String := []

namespace ShellCall

def setOption (call : ShellCall) (name : String) (on : Bool) : ShellCall :=
  let others := call.options.filter (· != name)
  { call with options := if on then name :: others else others }

def takeLetters (kind : ShellKind) (sign : Char) : ShellCall -> Chars -> Except String ShellCall
  | call, [] => .ok call
  | call, letter :: rest => match letter, optionOfLetter? kind letter with
    | 'c', _ => takeLetters kind sign { call with takesText := true } rest
    | 's', _ => takeLetters kind sign { call with takesInput := true } rest
    | 'o', _ => takeLetters kind sign call rest
    | 'l', _ => takeLetters kind sign call rest
    | _, some name => takeLetters kind sign (call.setOption name (sign == '-')) rest
    | _, none =>
      let shown := String.ofList [sign, letter]
      match kind with
      | .plain => .error s!"Illegal option {shown}"
      | .extended => .error s!"{shown}: invalid option"

def longOptions : List String :=
  ["--norc", "--noprofile", "--posix", "--login", "--restricted", "--noediting", "--verbose"]

def read (kind : ShellKind) (call : ShellCall) : List String -> Except String ShellCall
  | [] => .ok call
  | argument :: rest =>
    if kind = .extended && longOptions.contains argument then read kind call rest
    else match argument.toList with
      | ['-', '-'] => .ok { call with arguments := rest }
      | ['-'] => .ok { call with arguments := rest }
      | sign :: letter :: letters =>
        if sign = '-' || sign = '+' then do
          let call <- takeLetters kind sign call (letter :: letters)
          if (letter :: letters).contains 'o' then
            match rest with
            | name :: rest =>
              if (namedOptions kind).contains name then
                read kind (call.setOption name (sign == '-')) rest
              else match kind with
                | .plain => .error s!"Illegal option {String.singleton sign}o {name}"
                | .extended => .error s!"{name}: invalid option name"
            | [] => .ok call
          else read kind call rest
        else .ok { call with arguments := argument :: rest }
      | _ => .ok { call with arguments := argument :: rest }

end ShellCall

def ownVariable (name octets : String) : String × Variable :=
  (name, { value := some (.text octets) })

variable (kind : ShellKind)

def ownVariables (program : String) (outer : Nat) : Variables :=
  let common : Variables :=
    [ownVariable "IFS" " \t\n", ownVariable "OPTIND" "1", ownVariable "PS4" "+ ",
      ownVariable "PPID" (numberText (numberOfProcess outer)), ownVariable "PATH" usualFolders]
  match kind with
  | .plain => common ++ [ownVariable "PS1" "# ", ownVariable "PS2" "> "]
  | .extended =>
    common ++
      [ownVariable "BASH" (if program.startsWith "/" then program else "/usr/bin/" ++ program),
        ownVariable "BASH_VERSION" "5.2.15(1)-release", ownVariable "OPTERR" "1",
        ("UID", { value := some (.text "0"), fixed := true, integer := true }),
        ("EUID", { value := some (.text "0"), fixed := true, integer := true }),
        ("SHLVL", { value := some (.text "1"), exported := true }),
        ownVariable "HOSTTYPE" "x86_64", ownVariable "OSTYPE" "linux-gnu",
        ownVariable "MACHTYPE" "x86_64-pc-linux-gnu"]

def firstVariables (program : String) (session : Session) : Variables :=
  let told := session.environment.filter (fun entry => isName entry.1.toList && entry.1 != "IFS")
  let place := pathTo session.files.current
  let bindings := told.foldl
    (fun bindings (name, octets) =>
      bindings.set name { value := some (.text octets), exported := true })
    (ownVariables kind program (session.ancestors.headD 0))
  bindings.set "PWD" { value := some (.text place), exported := true }

def firstOptions (call : ShellCall) : List String := match kind with
  | .plain => if call.takesInput then ["stdin"] else []
  | .extended =>
    ["hashall", "braceexpand"] ++ usualBehaviours ++ (if call.takesText then ["command"] else [])

def firstSettings (program name : String) (arguments : List String)
    (call : ShellCall) (session : Session) : Settings where
  kind
  name
  arguments
  bindings := firstVariables kind program session
  options := call.options ++ firstOptions kind call
  process := session.process

def runScript (services : Services) (settings : Settings) (origin : Option String)
    (text : String) : Act Nat := do
  modify ({ · with settings })
  encloseWith services (runSource services false origin text)

def shell (services : Services) : Utility := fun program arguments => do
  let refuseStart (status : Nat) (message : String) : Act Nat := do
    discard <| complain (if kind = .plain then s!"{program}: 0" else program) message
    return status
  match ShellCall.read kind {} arguments with
  | .error message => refuseStart misuse message
  | .ok call =>
    let session <- get
    let settingsFor (name : String) (arguments : List String) : Settings :=
      firstSettings kind program name arguments call session
    match call.takesText, call.takesInput, call.arguments with
    | true, _, [] =>
      refuseStart misuse
        (if kind = .plain then "-c requires an argument" else "-c: option requires an argument")
    | true, _, script :: rest =>
      runScript services (settingsFor (rest.headD program) rest.tail)
        (if kind = .plain then none else some "-c") script
    | false, false, name :: rest => match <- readNamed name with
      | .error fault => match kind with
        | .plain => refuseStart misuse (turnFault .plain false name fault)
        | .extended =>
          refuseStart (if fault = .missing then notFound else notStarted)
            s!"{name}: {wording fault}"
      | .ok script => runScript services (settingsFor name rest) none (.ofList (octetsOf script))
    | false, _, rest =>
      let script := (<- takeAll standardInput).getD .empty
      runScript services (settingsFor program rest) none (.ofList (octetsOf script))

/-!
## Starting programs

A program is one of those that are there, or a file whose first line names the program that runs it.
Programs may start programs; `servicesWithin` ties the knot, for so many of them inside one another.
-/

def program? : String -> Option Program
  | "sh" => some (shell .plain)
  | "dash" => some (shell .plain)
  | "bash" => some (shell .extended)
  | "true" => some (alone fun _ _ => return success)
  | "false" => some (alone fun _ _ => return failure)
  | "echo" => some (alone (echoPlain .program))
  | "printf" => some (alone (printf .program))
  | "test" => some (alone (test .program false))
  | "[" => some (alone (test .program true))
  | "cat" => some (alone cat)
  | "tee" => some (alone tee)
  | "head" => some (alone head)
  | "tail" => some (alone tail)
  | "wc" => some (alone wc)
  | "tr" => some (alone tr)
  | "cut" => some (alone cut)
  | "paste" => some (alone paste)
  | "uniq" => some (alone uniq)
  | "sort" => some (alone sort)
  | "comm" => some (alone comm)
  | "date" => some (alone date)
  | "tac" => some (alone tac)
  | "rev" => some (alone rev)
  | "nl" => some (alone nl)
  | "fold" => some (alone fold)
  | "expand" => some (alone expand)
  | "basename" => some (alone basename)
  | "dirname" => some (alone dirname)
  | "realpath" => some (alone realpath)
  | "readlink" => some (alone readlink)
  | "pwd" => some (alone pwd)
  | "seq" => some (alone seq)
  | "yes" => some (alone yes)
  | "sleep" => some (alone sleep)
  | "factor" => some (alone factor)
  | "expr" => some (alone expr)
  | "printenv" => some (alone printenv)
  | "which" => some (alone which)
  | "grep" => some (alone grep)
  | "egrep" => some (alone (grepWith (some 'E')))
  | "fgrep" => some (alone (grepWith (some 'F')))
  | "sed" => some sed
  | "ls" => some (alone ls)
  | "dir" => some (alone dir)
  | "vdir" => some (alone vdir)
  | "stat" => some (alone stat)
  | "du" => some (alone du)
  | "find" => some find
  | "md5sum" => some (alone (digestProgram "md5"))
  | "sha1sum" => some (alone (digestProgram "sha1"))
  | "sha224sum" => some (alone (digestProgram "sha224"))
  | "sha256sum" => some (alone (digestProgram "sha256"))
  | "sha384sum" => some (alone (digestProgram "sha384"))
  | "sha512sum" => some (alone (digestProgram "sha512"))
  | "b2sum" => some (alone (digestProgram "blake2b"))
  | "sum" => some (alone sum)
  | "cksum" => some (alone cksum)
  | "base64" => some (alone (encodingProgram "base64"))
  | "base32" => some (alone (encodingProgram "base32"))
  | "basenc" => some (alone basenc)
  | "od" => some (alone od)
  | "diff" => some (alone diff)
  | "cmp" => some (alone cmp)
  | "tsort" => some (alone tsort)
  | "join" => some (alone join)
  | "split" => some split
  | "csplit" => some (alone csplit)
  | "pr" => some (alone pr)
  | "unexpand" => some (alone unexpand)
  | "fmt" => some (alone fmt)
  | "dd" => some (alone dd)
  | "numfmt" => some (alone numfmt)
  | "iconv" => some (alone iconv)
  | "id" => some (alone Shell.identity)
  | "whoami" => some (alone whoami)
  | "groups" => some (alone groups)
  | "logname" => some (alone logname)
  | "users" => some (alone nobodyThere)
  | "who" => some (alone nobodyThere)
  | "pinky" => some (alone nobodyThere)
  | "tty" => some (alone tty)
  | "stty" => some (alone stty)
  | "uname" => some (alone uname)
  | "arch" => some (alone arch)
  | "hostname" => some (alone hostname)
  | "hostid" => some (alone hostid)
  | "nproc" => some (alone nproc)
  | "sync" => some (alone sync)
  | "chown" => some (alone chown)
  | "chgrp" => some (alone chgrp)
  | "shuf" => some (alone shuf)
  | "pathchk" => some (alone pathchk)
  | "getopt" => some (alone getopt)
  | "strings" => some (alone strings)
  | "stdbuf" => some stdbuf
  | "setsid" => some setsid
  | "awk" => some recordsProgram
  | "mawk" => some recordsProgram
  | "nawk" => some recordsProgram
  | "perl" => some extractionProgram
  | "m4" => some definitions
  | "make" => some rebuild
  | "python3" => some objectsProgram
  | "python3.11" => some objectsProgram
  | "gzip" => some (alone (compressing false false))
  | "gunzip" => some (alone (compressing true false))
  | "zcat" => some (alone (compressing true true))
  | "tar" => some (alone archiving)
  | "cp" => some (alone cp)
  | "mv" => some (alone mv)
  | "ln" => some (alone ln)
  | "link" => some (alone link)
  | "install" => some (alone install)
  | "rm" => some (alone rm)
  | "rmdir" => some (alone rmdir)
  | "mkdir" => some (alone mkdir)
  | "touch" => some (alone touch)
  | "chmod" => some (alone chmod)
  | "mkfifo" => some (alone mkfifo)
  | "unlink" => some (alone unlink)
  | "truncate" => some (alone truncate)
  | "mktemp" => some (alone mktemp)
  | "env" => some env
  | "xargs" => some xargs
  | "timeout" => some timeout
  | "nice" => some nice
  | "nohup" => some nohup
  | _ => none

def startAt (services : Services) (path name : String) (arguments : List String) : Act Nat := do
  match (<- get).runnable path with
  | .error fault => startFault name fault
  | .ok (.script interpreter given) =>
    services.start interpreter interpreter (given ++ path :: arguments)
  | .ok .other => services.start "/bin/sh" "/bin/sh" (path :: arguments)
  | .ok (.image image) => match program? image with
    | some program => program services name arguments
    | none => startFault name .missing

/-- What shells need from outside, with so many programs and functions inside one another. -/
def servicesWithin : Nat -> Services
  | 0 =>
    { perform := fun _ _ => shellFault "Maximum function recursion depth (1000) reached"
      start := fun _ name _ => complain name "too many programs inside one another" }
  | depth + 1 =>
    let inner := servicesWithin depth
    { perform := fun tested commands => runAll inner tested success commands
      start := startAt inner }

def deepest : Nat := 1000

def launch (path name : String) (arguments : List String) : Act Nat :=
  (servicesWithin deepest).start path name arguments

/-!
## The shell as a launcher

Tools run on the files of a workshop.  What a program leaves of its input is lost if it fits into
the pipe; more than that cannot be handed over.
-/

def longestArgument : Nat := 131072

def longestArguments : Nat := 2097152

def isArgument (text : String) : Bool :=
  !text.toList.contains (Char.ofNat 0) && text.utf8ByteSize < longestArgument

def areArguments (texts : List String) : Bool :=
  texts.all isArgument &&
    (texts.foldl (fun size text => size + text.utf8ByteSize + 9) 0) < longestArguments

def firstEnvironment : List (String × String) := [("PATH", usualFolders), ("HOME", "/root")]

def Session.start (files : FileTree) (input : ByteArray) : Session where
  files := withSystem files
  channels := #[{ content := input }, {}, {}]
  streams :=
    [(standardInput, .reading 0), (standardOutput, .writing 1), (standardError, .writing 2)]
  environment := firstEnvironment

def Session.result (session : Session) (status : Nat) : ProgramResult where
  status := .exited status
  stdout := (session.channel 1).left
  stderr := (session.channel 2).left
  inputTaken := (session.channel 0).size <= Channel.capacity

def launcher : Launcher σ := fun program arguments input => do
  let workshop <- get
  let session := Session.start workshop.files (input.getD ByteArray.empty)
  let name := toOctets program
  match session.lookUp usualFolders name with
  | .error _ => return none
  | .ok path =>
    let isFormat := (session.runnable path).toOption != some .other
    if !isFormat || !areArguments (program :: arguments) then return none
    else
      let (status, session) := runProcess (launch path name (arguments.map toOctets)) session
      set { workshop with
        files := { session.files with
          current := workshop.files.current, mask := workshop.files.mask } }
      return some (session.result status)

end BaseLanguage.Shell
