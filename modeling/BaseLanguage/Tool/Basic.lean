import BaseLanguage.Configuration.Basic
import BaseLanguage.Storage.FileTree
import BaseLanguage.Term.Reader

namespace BaseLanguage

/-!
# External tools

Processing a definition goes through five operations: the bootstrap compiler, the parsers, the
pretty printers, the normaliser of grammars and the generator of pretty-print tables.  A
`Toolchain` gives them, over a tree of files and a state of its own.
-/

/-- How a program ended: with a code, or by a signal, which may have dumped its memory. -/
inductive ExitStatus where
  | exited (code : Nat)
  | killed (signal : Nat) (dumped : Bool)
  deriving DecidableEq

instance (code : Nat) : OfNat ExitStatus code := ⟨.exited code⟩

namespace ExitStatus

def signalNames : List String :=
  ["HUP", "INT", "QUIT", "ILL", "TRAP", "ABRT", "BUS", "FPE", "KILL", "USR1", "SEGV", "USR2",
    "PIPE", "ALRM", "TERM", "STKFLT", "CHLD", "CONT", "STOP", "TSTP", "TTIN", "TTOU", "URG",
    "XCPU", "XFSZ", "VTALRM", "PROF", "WINCH", "IO", "PWR", "SYS"]

def describeSignal (signal : Nat) : String :=
  match ("" :: signalNames).getD signal "" with
  | "" => s!"signal: {signal}"
  | name => s!"signal: {signal} (SIG{name})"

def describe : ExitStatus -> String
  | exited code => s!"exit status: {code}"
  | killed signal dumped => describeSignal signal ++ if dumped then " (core dumped)" else ""

end ExitStatus

/-- Why a tool did not do its work. -/
inductive ToolError where
  | notConfigured (tool : ToolName)
  /-- The program cannot be started. -/
  | spawn (program : String)
  /-- The program ended with a status other than success. -/
  | failed (program : String) (status : ExitStatus) (stderr : String)
  /-- The output of the program is no text. -/
  | notUtf8 (program : String)
  | term (program : String) (error : Term.ReadError)
  /-- A file or a stream cannot be used. -/
  | file (fault : FileFault)
  /-- The program did not take its input. -/
  | inputRefused
  /-- Anything else, in the tool's words. -/
  | other (message : String)
  deriving DecidableEq

namespace ToolError

/-- Whether the failure is the operating system's, whose wording is its own. -/
def isSystem : ToolError -> Bool
  | spawn _ => true
  | file _ => true
  | inputRefused => true
  | _ => false

/-- The wording of each failure that is not the operating system's. -/
def message : ToolError -> String
  | notConfigured tool => s!"no `{tool.key}` tool is configured"
  | spawn program => s!"failed to run `{program}`"
  | failed program status stderr => s!"`{program}` exited with {status.describe}: {stderr}"
  | notUtf8 program => s!"`{program}` produced output that is not UTF-8"
  | term program error => s!"`{program}` produced an unreadable term: {error.message}"
  | file _ => "a file cannot be used"
  | inputRefused => "the input was not taken"
  | other message => message

end ToolError

/-- What the bootstrap compiler needs to know. -/
structure BootstrapRequest where
  language : String
  definitionLanguage : String
  definition : Path
  outputDirectory : Path
  /-- Where the generated grammar goes. -/
  grammarOutput : Path
  /-- Where the generated rule module goes. -/
  rulesOutput : Path
  deriving Repr, DecidableEq

/-- What the bootstrap compiler says: what it did, and what is wrong with the definition. -/
structure BootstrapReport where
  progress : List String := []
  errors : List String := []
  deriving Repr, DecidableEq

namespace BootstrapReport

/-- Whether nothing is wrong with the definition. -/
def isSuccess (report : BootstrapReport) : Bool :=
  report.errors.isEmpty

end BootstrapReport

/-- A tree of files with the state of a toolchain. -/
structure Workshop (σ : Type) where
  files : FileTree
  tools : σ

/-- Work done with tools.  What it changed stays when it fails. -/
abbrev ToolWork (σ : Type) := ExceptT ToolError (StateM (Workshop σ))

/-- The external tools of a run, with a state of type `σ` of their own. -/
structure Toolchain (σ : Type) where
  /-- Compiles a definition into a grammar and a rule module. -/
  bootstrap : BootstrapRequest -> ToolWork σ BootstrapReport
  /-- Parses a file with a parse table from a start symbol. -/
  parse : Path -> Path -> String -> ToolWork σ Term
  prettyPrint : Dialect -> Term -> ToolWork σ String
  normalizeGrammar : Term -> ToolWork σ Term
  /-- Generates the pretty-print table of a grammar. -/
  generatePpTable : Term -> ToolWork σ ByteArray

namespace Workshop

def withFiles (operation : Filing α) : ToolWork σ α := do
  let workshop ← get
  let (outcome, files) := operation.run.run workshop.files
  set { workshop with files }
  match outcome with
  | .ok value => return value
  | .error fault => throw (.file fault)

end Workshop
end BaseLanguage
