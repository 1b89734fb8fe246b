import BaseLanguage.Placeholder
import BaseLanguage.Term.Printer
import BaseLanguage.Tool.Basic

namespace BaseLanguage

/-!
# A toolchain of programs

Each tool is a program.  Terms travel as text: the parsers print theirs, and the pretty printers,
the normaliser and the generator read theirs from their input.  How programs are run is a
parameter, a `Launcher`, so that what is said here holds of whatever the programs do.
-/

/-- How a program ended, and what it left behind. -/
structure ProgramResult where
  status : ExitStatus
  stdout : ByteArray
  stderr : ByteArray
  /-- Whether all of the input could be handed over. -/
  inputTaken : Bool := true

namespace ProgramResult

def succeeded (result : ProgramResult) : Bool :=
  result.status == 0

end ProgramResult

/-- Runs a program with arguments, and with input if there is any.  There is no result if the
program cannot be started. -/
abbrev Launcher (σ : Type) :=
  String -> List String -> Option ByteArray -> StateM (Workshop σ) (Option ProgramResult)

namespace BootstrapReport

/-- What is wrong, by the errors of a program: its lines that are not blank, without blanks around
them. -/
def errorLines (stderr : ByteArray) : List String :=
  let lines := (Text.lines (Text.ofBytesLossy stderr)).map Text.trim
  (lines.filter (fun line => !line.isEmpty)).map String.ofList

/-- The report of a bootstrap program that ran.  One that failed without a word is reported by
its status. -/
def ofResult (program : String) (result : ProgramResult) : BootstrapReport where
  progress :=
    s!"running {program}" ::
      (Text.lines (Text.ofBytesLossy result.stdout)).map String.ofList
  errors :=
    if result.succeeded then []
    else
      match errorLines result.stderr with
      | [] => [s!"{program} exited with {result.status.describe}"]
      | lines => lines

end BootstrapReport

namespace ProgramTools

variable {σ : Type}

def command (commands : ToolCommands) (tool : ToolName) : ToolWork σ ToolCommand :=
  match commands.get? tool with
  | some command => return command
  | none => throw (.notConfigured tool)

/-- Runs a command, with the values of its placeholders.  A program that succeeds must take all of
the input that it is given. -/
def run (launch : Launcher σ) (command : ToolCommand) (bindings : Placeholder.Bindings)
    (input : Option ByteArray) : ToolWork σ ProgramResult := do
  let arguments := command.arguments.map (Placeholder.expand bindings)
  match ← liftM (launch command.program arguments input) with
  | none => throw (.spawn command.program)
  | some result =>
    if input.isSome && result.succeeded && !result.inputTaken then throw .inputRefused
    return result

def outputOf (program : String) (result : ProgramResult) : Except ToolError ByteArray :=
  if result.succeeded then .ok result.stdout
  else
    .error (.failed program result.status
      (String.ofList (Text.trim (Text.ofBytesLossy result.stderr))))

def textOf (program : String) (result : ProgramResult) : Except ToolError String := do
  match Text.ofBytes? (← outputOf program result) with
  | some text => return text
  | none => throw (.notUtf8 program)

def termOf (program : String) (result : ProgramResult) : Except ToolError Term := do
  (Term.parse (← textOf program result)).mapError (.term program)

def runOn (launch : Launcher σ) (command : ToolCommand) (term : Term) :
    ToolWork σ ProgramResult :=
  run launch command [] (some (Text.toBytes term.print))

/-- The letters and digits that fill up the name of a folder for a while. -/
def fillingChars : List Char :=
  "ABCDEFGHIJKLMNOPQRSTUVWXYZabcdefghijklmnopqrstuvwxyz0123456789".toList

/-- So many letters and digits, which differ from seed to seed. -/
def fillingText : Nat -> Nat -> List Char
  | 0, _ => []
  | count + 1, seed =>
    let next := (seed * 1103515245 + 12345) % 2147483648
    fillingChars.getD (next / 65536 % fillingChars.length) 'A' :: fillingText count next

/-- The folder that a bootstrap program may use while it runs.  Its name is a new one each time. -/
def cacheFolder (tree : FileTree) : Path :=
  let letters := String.ofList (fillingText 6 (tree.clock.total.toNat + tree.nextNumber))
  ⟨s!"/tmp/sxbld-cache{letters}"⟩

def bootstrapBindings (request : BootstrapRequest) (cache : Path) : Placeholder.Bindings :=
  [("definition", request.definition.text),
    ("language", request.language),
    ("definition-language", request.definitionLanguage),
    ("output", request.outputDirectory.text),
    ("grammar", request.grammarOutput.text),
    ("rules", request.rulesOutput.text),
    ("cache", cache.text)]

/-- Removes the folder that a bootstrap program may use. -/
def dropCache (cache : Path) : ToolWork σ Unit :=
  tryCatch (Workshop.withFiles (FileTree.remove cache)) (fun _ => return ())

/-- Runs the bootstrap command, with a folder of its own that goes when it ends. -/
def bootstrap (launch : Launcher σ) (commands : ToolCommands) (request : BootstrapRequest) :
    ToolWork σ BootstrapReport := do
  let command ← command commands .bootstrap
  let cache := cacheFolder (← get).files
  Workshop.withFiles (FileTree.createFolder cache)
  let bindings := bootstrapBindings request cache
  let result ← tryCatch (run launch command bindings none) fun error => do
    dropCache cache
    throw error
  dropCache cache
  return .ofResult command.program result

def prettyPrinter : Dialect -> ToolName
  | .grammar => .prettyPrintGrammar
  | .rules => .prettyPrintRules

/-- The toolchain of the configured programs.  Grammars stay as they are if no normaliser is
configured. -/
def toolchain (launch : Launcher σ) (commands : ToolCommands) : Toolchain σ where
  bootstrap := bootstrap launch commands
  parse table input start := do
    let command ← command commands .parse
    let bindings := [("table", table.text), ("input", input.text), ("start", start)]
    let result ← run launch command bindings none
    liftM (termOf command.program result)
  prettyPrint dialect term := do
    let command ← command commands (prettyPrinter dialect)
    let result ← runOn launch command term
    liftM (textOf command.program result)
  normalizeGrammar grammar := do
    match commands.normalizeGrammar with
    | none => return grammar
    | some command =>
      let result ← runOn launch command grammar
      liftM (termOf command.program result)
  generatePpTable grammar := do
    let command ← command commands .ppTable
    let result ← runOn launch command grammar
    liftM (outputOf command.program result)

end ProgramTools
end BaseLanguage
