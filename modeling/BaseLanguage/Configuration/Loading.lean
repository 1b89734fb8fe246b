import BaseLanguage.Configuration.Basic
import BaseLanguage.Datum.Language
import BaseLanguage.Storage.FileTree
import BaseLanguage.Toml.Document

namespace BaseLanguage

/-!
# Settings from text

Settings are written in TOML.  Each may be left out, and keys that are not known are passed over.
A setting that is there must be of the right form, or the whole text is refused.
-/

namespace DialectSettings

def ofDatum? (datum : Datum) : Option DialectSettings := do
  let fields ← datum.fieldsNamed? false ["table", "start-symbol"]
  let table ← Datum.optional Datum.text? fields "table"
  let startSymbol ← Datum.optional Datum.text? fields "start-symbol"
  return ⟨table.map Path.mk, startSymbol⟩

end DialectSettings

namespace ToolCommand

def argumentsOfDatum? (datum : Datum) : Option (List String) := do
  (← datum.items?).mapM Datum.text?

def ofDatum? (datum : Datum) : Option ToolCommand := do
  let fields ← datum.fieldsNamed? false ["program", "args"]
  let program ← Datum.required Datum.text? fields "program"
  let arguments ← Datum.optional argumentsOfDatum? fields "args"
  return ⟨program, arguments.getD []⟩

end ToolCommand

namespace ToolCommands

def ofDatum? (datum : Datum) : Option ToolCommands := do
  let fields ← datum.fieldsNamed? false (ToolName.all.map ToolName.key)
  let command (name : ToolName) := Datum.optional ToolCommand.ofDatum? fields name.key
  return {
    bootstrap := ← command .bootstrap
    parse := ← command .parse
    prettyPrintGrammar := ← command .prettyPrintGrammar
    prettyPrintRules := ← command .prettyPrintRules
    normalizeGrammar := ← command .normalizeGrammar
    ppTable := ← command .ppTable }

end ToolCommands

namespace Configuration

/-- The settings that the fields of a document give. -/
def ofFields? (fields : List (String × Datum)) : Option Configuration := do
  let usual : Configuration := {}
  let grammar ← Datum.optional DialectSettings.ofDatum? fields "grammar"
  let rules ← Datum.optional DialectSettings.ofDatum? fields "rules"
  let extensions ← Datum.optional (ArtifactExtensions.ofDatum? false) fields "extensions"
  let definitionLanguage ← Datum.optional Datum.text? fields "definition-language"
  let factLead ← Datum.optional Datum.text? fields "fact-prefix"
  let namespaceKind ← Datum.optional NamespaceKind.ofDatum? fields "namespace"
  let tools ← Datum.optional ToolCommands.ofDatum? fields "tools"
  return {
    grammar := grammar.getD usual.grammar
    rules := rules.getD usual.rules
    extensions := extensions.getD usual.extensions
    definitionLanguage := definitionLanguage.getD usual.definitionLanguage
    factLead
    namespaceKind := namespaceKind.getD usual.namespaceKind
    tools := tools.getD usual.tools }

def ofText? (text : String) : Option Configuration := do
  ofFields? (← Toml.parse text)

end Configuration
end BaseLanguage

namespace BaseLanguage

/-!
## Settings from a file

A parse table with a relative path is looked for in the folder of the file that names it.
-/

/-- Why a configuration file cannot be used. -/
inductive ConfigurationError where
  /-- The file cannot be read. -/
  | unreadable (path : Path) (fault : FileFault)
  /-- The text of the file gives no settings. -/
  | malformed (path : Path)
  deriving DecidableEq

namespace Configuration

/-- Settings as seen from the file they stand in. -/
def seenFrom (file : Path) (configuration : Configuration) : Configuration :=
  match file.parent? with
  | none => configuration
  | some folder =>
    let settings (given : DialectSettings) : DialectSettings :=
      { given with table := given.table.map folder.join }
    { configuration with
      grammar := settings configuration.grammar
      rules := settings configuration.rules }

def load (tree : FileTree) (file : Path) : Except ConfigurationError Configuration := do
  let text ← (tree.readText file).mapError (.unreadable file)
  match ofText? text with
  | none => throw (.malformed file)
  | some configuration => return configuration.seenFrom file

end Configuration
end BaseLanguage
