import BaseLanguage.CommandLine.Arguments
import BaseLanguage.Configuration.Loading
import BaseLanguage.Processor.Run
import BaseLanguage.Tool.Program

namespace BaseLanguage
namespace ProcessOutcome

/-!
# Reports

What a run gives is shown as lines of labels and values, or as data.
-/

def labelWidth : Nat := 20

/-- A line with a label, filled up to its width, and a value. -/
def line (label value : String) : String :=
  let blanks := List.replicate (labelWidth - label.length) ' '
  label ++ String.ofList blanks ++ " " ++ value ++ "\n"

def orNone (value : Option String) : String := value.getD "<none>"

def indexed (constructor : String) (index : Nat) : String :=
  constructor ++ "#" ++ String.ofList (Text.decimal index)

/-- The import declarations, in the order of their texts. -/
def importTexts (facts : LanguageFacts) : List String :=
  let texts := facts.importDeclarations.toList.map (fun (constructor, index) =>
    indexed constructor index)
  texts.mergeSort (fun left right => left ≤ right)

def render (outcome : ProcessOutcome) : String :=
  let language := outcome.descriptor
  let facts := language.facts
  let namespaceText := facts.namespaceDeclaration.map (fun argument =>
    indexed argument.constructor argument.index)
  line "language" language.name ++ line "status" outcome.status.name ++
    line "toplevel" (orNone facts.toplevelNonterminal) ++
    line "base extension" (orNone facts.baseFileExtension) ++
    line "extended extension" (orNone facts.extendedFileExtension) ++
    line "namespace" (orNone namespaceText) ++
    line "imports" (", ".intercalate (importTexts facts)) ++
    line "body declarations" (", ".intercalate facts.bodyDeclarations.toList) ++
    String.join (language.artifacts.toList.map (fun (kind, path) => line kind.label path.text))

/-- The report for programs: the description of the language, and the status in front of it. -/
def toDatum (outcome : ProcessOutcome) : Datum :=
  .record (("status", .text outcome.status.name) :: outcome.descriptor.datumFields)

end ProcessOutcome
end BaseLanguage

namespace BaseLanguage
namespace CommandLine

/-!
## Running a command line

A run loads the settings, processes the definition with the configured programs, and reports what
came of it.
-/

inductive RunError where
  | configuration (error : ConfigurationError)
  | process (definition : Path) (error : BuildError)
  deriving DecidableEq

namespace RunError

/-- The wording of each failure: what failed, and why. -/
def message : RunError -> String
  | configuration (.unreadable path _) =>
    s!"failed to read {path.text}: the file cannot be read as text"
  | configuration (.malformed path) => s!"failed to parse {path.text}: the file gives no settings"
  | process definition error =>
    s!"failed to process {definition.text}\n\nCaused by:\n    {error.message}"

end RunError

inductive Ending where
  /-- It is wrong. -/
  | misused
  /-- It asked for help. -/
  | helped
  | failed (error : RunError)
  /-- The run succeeded, and reports for readers or for programs. -/
  | reported (text : String)
  | described (datum : Datum)

namespace Ending

def code : Ending -> Nat
  | misused => 2
  | failed _ => 1
  | helped => 0
  | reported _ => 0
  | described _ => 0

def output : Ending -> String
  | helped => helpText
  | reported text => text
  | described datum => datum.toJson ++ "\n"
  | _ => ""

def errorOutput : Ending -> String
  | misused => usageLine
  | failed error => s!"Error: {error.message}\n"
  | _ => ""

end Ending

def settings (tree : FileTree) (invocation : Invocation) :
    Except ConfigurationError Configuration :=
  match invocation.configuration with
  | some file => Configuration.load tree file
  | none => .ok {}

def perform (launch : Launcher Unit) (invocation : Invocation) : StateM FileTree Ending := do
  let tree ← get
  match settings tree invocation with
  | .error error => return .failed (.configuration error)
  | .ok configuration =>
    let processor : Processor Unit := {
      configuration
      toolchain := ProgramTools.toolchain launch configuration.tools
      force := invocation.force }
    let world : World Unit := { files := tree, tools := () }
    let (outcome, world) :=
      (processor.process ⟨invocation.plugin⟩ invocation.definition).run.run world
    set world.files
    match outcome with
    | .error error => return .failed (.process invocation.definition error)
    | .ok outcome =>
      return if invocation.json then .described outcome.toDatum else .reported outcome.render

def run (launch : Launcher Unit) (arguments : List String) : StateM FileTree Ending := do
  match parse arguments with
  | .error .usage => return .misused
  | .error .help => return .helped
  | .ok invocation => perform launch invocation

/-!
## Staging

A command line runs on a tree of files, into which the files that it mentions are loaded first, and
from which those that it changed are stored afterwards.  In the tree, folders without a name stand
for the current folder and those it lies in.

The times of files are not loaded.  The definition is loaded last and so is the youngest file:
artifacts on disk never count as fresh.
-/

/-- The number of folders without a name. -/
def depth : Nat := 16

/-- The tree before anything is loaded. -/
def emptyStage : FileTree := .rooted (List.replicate depth "") ⟨0, 0⟩

/-- The path on disk of a location.  Behind folders without a name it is relative. -/
def diskPath (place : Location) : String :=
  let names := place.dropWhile String.isEmpty
  let nameless := place.length - names.length
  if nameless = 0 then "/" ++ "/".intercalate names
  else "/".intercalate ("." :: List.replicate (depth - nameless) ".." ++ names)

/-- The characters that words of a command are made of. -/
def isWordChar (c : Char) : Bool :=
  c.isAlphanum || c = '.' || c = '/' || c = '_' || c = '-' || c = '+' || 128 ≤ c.toNat

def words (text : String) : List String :=
  let cleared := text.toList.map (fun c => if isWordChar c then c else ' ')
  ((Text.pieces ' ' cleared).filter (!·.isEmpty)).map String.ofList

/-- The words that the commands of tools may mean as names of files. -/
def commandWords (tools : ToolCommands) : List String :=
  let commands := ToolName.all.filterMap tools.get?
  commands.flatMap (·.arguments.flatMap words)

def mentioned (configuration : Configuration) (job : Job) : List Path :=
  let words := (commandWords configuration.tools).map Path.mk
  let artifacts := job.artifacts.toList.map Prod.snd
  let shared := Seeding.sources.map (job.directory.join ·.1)
  words ++ artifacts ++ shared ++ [job.definition]

/-- Puts a file where a path leads, with the folders it lies in. -/
def load (path : Path) (content : ByteArray) : Filing Unit := do
  if let some folder := path.parent? then FileTree.createFolders folder
  FileTree.write path content

inductive Change where
  | removed (place : Location)
  | folder (place : Location)
  | file (place : Location) (content : ByteArray)

def changes (before after : FileTree) : List Change :=
  let gone := before.all.filterMap fun (place, entry) =>
    match entry.node, after.get? place with
    | .file _, none => some (.removed place)
    | _, _ => none
  let differing := after.all.filter fun (place, entry) =>
    (before.get? place).map FileEntry.node != some entry.node
  gone ++ differing.filterMap fun (place, entry) =>
    match entry.node with
    | .file content => some (.file place content)
    | .folder => some (.folder place)
    | _ => none

end CommandLine
end BaseLanguage
