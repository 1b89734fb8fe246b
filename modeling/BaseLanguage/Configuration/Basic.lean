import BaseLanguage.Artifact
import BaseLanguage.Namespace

namespace BaseLanguage

/-!
# Settings of a run

Every setting has a usual value.  The external tools have none: a tool that is not configured
cannot be run.
-/

/-- The two languages that artifacts are written in. -/
inductive Dialect where
  | grammar
  | rules
  deriving Repr, DecidableEq

namespace Dialect

def usualStartSymbol : Dialect -> String
  | grammar => "Sdf2Module"
  | rules => "StrategoModule"

def usualTable : Dialect -> Path
  | grammar => ⟨"Sdf2.tbl"⟩
  | rules => ⟨"Stratego.tbl"⟩

end Dialect

/-- How the artifacts of one dialect are parsed. -/
structure DialectSettings where
  table : Option Path := none
  startSymbol : Option String := none
  deriving Repr, DecidableEq

/-- A program with arguments that may hold placeholders. -/
structure ToolCommand where
  program : String
  arguments : List String := []
  deriving Repr, DecidableEq

inductive ToolName where
  | bootstrap
  | parse
  | prettyPrintGrammar
  | prettyPrintRules
  | normalizeGrammar
  | ppTable
  deriving Repr, DecidableEq

namespace ToolName

def key : ToolName -> String
  | bootstrap => "bootstrap"
  | parse => "parse"
  | prettyPrintGrammar => "pretty-print-grammar"
  | prettyPrintRules => "pretty-print-rules"
  | normalizeGrammar => "normalize-grammar"
  | ppTable => "pp-table"

/-- All tools, in the order of their keys in a sequence. -/
def all : List ToolName :=
  [bootstrap, parse, prettyPrintGrammar, prettyPrintRules, normalizeGrammar, ppTable]

end ToolName

structure ToolCommands where
  bootstrap : Option ToolCommand := none
  parse : Option ToolCommand := none
  prettyPrintGrammar : Option ToolCommand := none
  prettyPrintRules : Option ToolCommand := none
  normalizeGrammar : Option ToolCommand := none
  ppTable : Option ToolCommand := none
  deriving Repr, DecidableEq

namespace ToolCommands

def get? (tools : ToolCommands) : ToolName -> Option ToolCommand
  | .bootstrap => tools.bootstrap
  | .parse => tools.parse
  | .prettyPrintGrammar => tools.prettyPrintGrammar
  | .prettyPrintRules => tools.prettyPrintRules
  | .normalizeGrammar => tools.normalizeGrammar
  | .ppTable => tools.ppTable

end ToolCommands

structure Configuration where
  grammar : DialectSettings := {}
  rules : DialectSettings := {}
  extensions : ArtifactExtensions := {}
  /-- What selects the language of definitions in the bootstrap compiler. -/
  definitionLanguage : String := "sxbld"
  /-- The lead of the names of facts; the name of the language if there is none. -/
  factLead : Option String := none
  namespaceKind : NamespaceKind := .flat
  tools : ToolCommands := {}
  deriving DecidableEq

namespace Configuration

def dialect (configuration : Configuration) : Dialect -> DialectSettings
  | .grammar => configuration.grammar
  | .rules => configuration.rules

def parseTable (configuration : Configuration) (dialect : Dialect) : Path :=
  (configuration.dialect dialect).table.getD dialect.usualTable

def startSymbol (configuration : Configuration) (dialect : Dialect) : String :=
  (configuration.dialect dialect).startSymbol.getD dialect.usualStartSymbol

def leadFor (configuration : Configuration) (language : String) : String :=
  configuration.factLead.getD language

def isUsual (configuration : Configuration) : Bool :=
  decide (configuration = {})

end Configuration
end BaseLanguage
