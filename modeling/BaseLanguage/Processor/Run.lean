import BaseLanguage.Fact.Decoder
import BaseLanguage.Processor.Error
import BaseLanguage.Processor.Seeding

namespace BaseLanguage

/-!
# Processing definitions

A run makes the artifacts of a language and finds out its facts.  If the artifacts are fresh, only
the facts are decoded again from the rule module that is there.  Otherwise the bootstrap compiler
generates a rule module and a grammar, which are rewritten in place, and the packaged grammar, the
pretty-print table and the editor services are made from them.  Either way the shared modules are
put in place afterwards.

The steps of a run follow one another in a fixed order, and the first that fails ends it.  What was
written before stays.
-/

/-!
## Plugins and the freshness of their artifacts

A plugin is a folder with one subfolder for definitions and one for generated artifacts.  The
artifacts of a definition are fresh if each of them is there and is strictly newer than the
definition.
-/

/-- A plugin, given by its folder. -/
structure PluginLayout where
  root : Path
  deriving Repr, DecidableEq

namespace PluginLayout

def sourceDirectory (layout : PluginLayout) : Path :=
  layout.root.join ⟨"src"⟩

/-- The folder of generated artifacts. -/
def binaryDirectory (layout : PluginLayout) : Path :=
  layout.root.join ⟨"bin"⟩

def definitionPath (layout : PluginLayout) (definition : Path) : Path :=
  layout.sourceDirectory.join definition

end PluginLayout

namespace Freshness

/-- Whether a path leads to something that changed after a time. -/
def isNewer (tree : FileTree) (time : Timestamp) (path : Path) : Bool :=
  match tree.modified path with
  | .ok changed => time.before changed
  | .error _ => false

/-- Whether the artifacts are fresh.  The time of the definition must be known. -/
def artifactsFresh (tree : FileTree) (definition : Path) (artifacts : ArtifactPaths) :
    Except FileFault Bool := do
  let time ← tree.modified definition
  return artifacts.toList.all (fun (_, path) => isNewer tree time path)

end Freshness

/-! ## Outcomes and steps -/

inductive BuildStatus where
  | upToDate
  | regenerated
  deriving Repr, DecidableEq

namespace BuildStatus

def name : BuildStatus -> String
  | upToDate => "up-to-date"
  | regenerated => "regenerated"

end BuildStatus

/-- What a run that succeeds gives. -/
structure ProcessOutcome where
  descriptor : LanguageDescriptor
  status : BuildStatus

/-- What a run changes: files, the state of the tools, and the warnings so far. -/
structure World (σ : Type) extends Workshop σ where
  warnings : List Warning := []

abbrev Step (σ : Type) := ExceptT BuildError (StateM (World σ))

/-- The paths and names of one run. -/
structure Job where
  language : String
  definition : Path
  directory : Path
  artifacts : ArtifactPaths

namespace Step

def filing (action : Action) (operation : Filing α) : Step σ α := do
  let world ← get
  let (outcome, files) := operation.run.run world.files
  set { world with files }
  match outcome with
  | .ok value => return value
  | .error fault => throw (.outside action (.file fault))

def tool (action : Action) (work : ToolWork σ α) : Step σ α := do
  let world ← get
  let (outcome, workshop) := work.run.run world.toWorkshop
  set { world with toWorkshop := workshop }
  match outcome with
  | .ok value => return value
  | .error error => throw (.outside action (.tool error))

def write (path : Path) (content : ByteArray) : Step σ Unit :=
  filing (.write path) (FileTree.write path content)

def readText (path : Path) : Step σ String := do
  let tree := (← get).files
  filing (.read path) (liftM (tree.readText path))

def warn (warnings : List Warning) : Step σ Unit :=
  modify (fun world => { world with warnings := world.warnings ++ warnings })

end Step

/-- A processor: settings, tools, and whether artifacts are made anew even if they are fresh. -/
structure Processor (σ : Type) where
  configuration : Configuration
  toolchain : Toolchain σ
  force : Bool := false

namespace Processor

def languageName (definition : Path) : Except BuildError String :=
  match definition.fileStem? with
  | some stem =>
    if stem.isEmpty then .error (.outside (.deriveName definition) .noFileName) else .ok stem
  | none => .error (.outside (.deriveName definition) .noFileName)

def job (configuration : Configuration) (layout : PluginLayout) (definition : Path) :
    Except BuildError Job := do
  let definition := layout.definitionPath definition
  let language ← languageName definition
  let directory := layout.binaryDirectory
  return {
    language
    definition
    directory
    artifacts := .inDirectory directory language configuration.extensions }

def request (configuration : Configuration) (job : Job) : BootstrapRequest where
  language := job.language
  definitionLanguage := configuration.definitionLanguage
  definition := job.definition
  outputDirectory := job.directory
  grammarOutput := job.artifacts.grammar
  rulesOutput := job.artifacts.rules

def bootstrap (processor : Processor σ) (job : Job) : Step σ Unit := do
  let report ← Step.tool (.compile job.definition)
    (processor.toolchain.bootstrap (request processor.configuration job))
  if report.isSuccess then return ()
  else throw (.definition job.language report.errors)

def parse (processor : Processor σ) (dialect : Dialect) (input : Path) : Step σ Term :=
  Step.tool (.parse input)
    (processor.toolchain.parse (processor.configuration.parseTable dialect) input
      (processor.configuration.startSymbol dialect))

def prettyPrint (processor : Processor σ) (dialect : Dialect) (term : Term) (target : Path) :
    Step σ String :=
  Step.tool (.prettyPrint target) (processor.toolchain.prettyPrint dialect term)

def decodeFacts (processor : Processor σ) (job : Job) (module : Term) : Step σ LanguageFacts := do
  let (outcome, warnings) := decode (processor.configuration.leadFor job.language) module
  Step.warn warnings
  match outcome with
  | .ok facts => return facts
  | .error error => throw (.decode error)

def rewritten (outcome : Except RewriteError Term) : Step σ Term :=
  match outcome with
  | .ok term => return term
  | .error error => throw (.rewriting error)

/-- Decodes the facts of the generated rule module, then rewrites the module in place. -/
def processRules (processor : Processor σ) (job : Job) : Step σ LanguageFacts := do
  let path := job.artifacts.rules
  let module ← processor.parse .rules path
  let facts ← processor.decodeFacts job module
  let module ← rewritten (Rewriting.replaceRuleImports module)
  let text ← processor.prettyPrint .rules module path
  Step.write path (Text.toBytes text)
  return facts

/-- What is wrong with a definition without toplevel nonterminal. -/
def noToplevel (processor : Processor σ) (job : Job) : BuildError :=
  let strategy := Fact.strategyName (processor.configuration.leadFor job.language)
    .toplevelDeclaration
  .definition job.language
    ["no toplevel declaration nonterminal declared (expected a `" ++ strategy ++ "` definition)"]

/-- Rewrites and normalises the generated grammar in place, and gives it. -/
def processGrammar (processor : Processor σ) (job : Job) (facts : LanguageFacts) :
    Step σ Term := do
  let path := job.artifacts.grammar
  match facts.toplevelNonterminal with
  | none => throw (processor.noToplevel job)
  | some nonterminal =>
    let grammar ← processor.parse .grammar path
    let grammar ← rewritten (Rewriting.rewriteGrammar job.language nonterminal grammar)
    let grammar ← Step.tool (.normalise job.language)
      (processor.toolchain.normalizeGrammar grammar)
    let text ← processor.prettyPrint .grammar grammar path
    Step.write path (Text.toBytes text)
    return grammar

/-- The packaged form of the text of a grammar. -/
def packaged (grammar : String) : String :=
  "definition\n\n" ++ grammar

def editorServices (language : String) : String :=
  "module " ++ language ++ "\n"

/-- Makes all artifacts anew, and gives the facts. -/
def regenerate (processor : Processor σ) (job : Job) : Step σ LanguageFacts := do
  Step.filing (.create job.directory) (FileTree.createFolders job.directory)
  processor.bootstrap job
  let facts ← processor.processRules job
  let grammar ← processor.processGrammar job facts
  let text ← Step.readText job.artifacts.grammar
  Step.write job.artifacts.packagedGrammar (Text.toBytes (packaged text))
  let table ← Step.tool (.generateTable job.language)
    (processor.toolchain.generatePpTable grammar)
  Step.write job.artifacts.ppTable table
  Step.write job.artifacts.editorServices (Text.toBytes (editorServices job.language))
  return facts

/-- Decodes the facts of the rule module that is there. -/
def reloadFacts (processor : Processor σ) (job : Job) : Step σ LanguageFacts := do
  let module ← processor.parse .rules job.artifacts.rules
  processor.decodeFacts job module

def isFresh (job : Job) : Step σ Bool := do
  let tree := (← get).files
  Step.filing (.readTime job.definition)
    (liftM (Freshness.artifactsFresh tree job.definition job.artifacts))

/-- The facts of the language, and whether the artifacts were made anew for them. -/
def refresh (processor : Processor σ) (job : Job) : Step σ (LanguageFacts × BuildStatus) := do
  let fresh ← if processor.force then pure false else isFresh job
  if fresh then
    return (← processor.reloadFacts job, .upToDate)
  else
    return (← processor.regenerate job, .regenerated)

def seed (job : Job) : Step σ Unit := do
  Step.filing (.create job.directory) (FileTree.createFolders job.directory)
  Step.filing (.seed job.directory) (Seeding.ensureShared job.directory)

def runJob (processor : Processor σ) (job : Job) : Step σ ProcessOutcome := do
  let (facts, status) ← processor.refresh job
  seed job
  let descriptor : LanguageDescriptor := {
    name := job.language
    facts
    namespaceKind := processor.configuration.namespaceKind
    artifacts := job.artifacts }
  Step.warn descriptor.warnings
  return ⟨descriptor, status⟩

def process (processor : Processor σ) (layout : PluginLayout) (definition : Path) :
    Step σ ProcessOutcome := do
  let job ← liftM (job processor.configuration layout definition)
  processor.runJob job

end Processor
end BaseLanguage
