import BaseLanguage.Path

namespace BaseLanguage

/-!
# Artifacts

Five files are generated for a language.  They lie in one directory, share the language's name
and differ in their extensions, two of which can be chosen.
-/

/-- The generated files. -/
inductive ArtifactKind where
  | grammar
  | rules
  | editorServices
  | packagedGrammar
  | ppTable
  deriving Repr, DecidableEq

namespace ArtifactKind

/-- All kinds, in the order in which they are listed. -/
def all : List ArtifactKind :=
  [grammar, rules, editorServices, packagedGrammar, ppTable]

theorem mem_all (kind : ArtifactKind) : kind ∈ all := by
  cases kind <;> decide

def name : ArtifactKind -> String
  | grammar => "grammar"
  | rules => "rules"
  | editorServices => "editor-services"
  | packagedGrammar => "packaged-grammar"
  | ppTable => "pp-table"

def key : ArtifactKind -> String
  | grammar => "grammar"
  | rules => "rules"
  | editorServices => "editor_services"
  | packagedGrammar => "packaged_grammar"
  | ppTable => "pp_table"

def label : ArtifactKind -> String
  | grammar => "Grammar"
  | rules => "Rules"
  | editorServices => "EditorServices"
  | packagedGrammar => "PackagedGrammar"
  | ppTable => "PpTable"

end ArtifactKind

structure ArtifactExtensions where
  grammar : String := "sdf"
  rules : String := "str"
  deriving Repr, DecidableEq, Inhabited

namespace ArtifactExtensions

def get (extensions : ArtifactExtensions) : ArtifactKind -> String
  | .grammar => extensions.grammar
  | .rules => extensions.rules
  | .editorServices => "serv"
  | .packagedGrammar => "def"
  | .ppTable => "pp"

end ArtifactExtensions

/-- Where the artifacts of one language lie. -/
structure ArtifactPaths where
  grammar : Path
  rules : Path
  editorServices : Path
  packagedGrammar : Path
  ppTable : Path
  deriving Repr, DecidableEq

namespace ArtifactPaths

/-- The artifact of language `name` with an extension, in `directory`. -/
def file (directory : Path) (name extension : String) : Path :=
  directory.join ⟨name ++ "." ++ extension⟩

def inDirectory (directory : Path) (name : String) (extensions : ArtifactExtensions) :
    ArtifactPaths where
  grammar := file directory name (extensions.get .grammar)
  rules := file directory name (extensions.get .rules)
  editorServices := file directory name (extensions.get .editorServices)
  packagedGrammar := file directory name (extensions.get .packagedGrammar)
  ppTable := file directory name (extensions.get .ppTable)

def get (paths : ArtifactPaths) : ArtifactKind -> Path
  | .grammar => paths.grammar
  | .rules => paths.rules
  | .editorServices => paths.editorServices
  | .packagedGrammar => paths.packagedGrammar
  | .ppTable => paths.ppTable

def toList (paths : ArtifactPaths) : List (ArtifactKind × Path) :=
  ArtifactKind.all.map (fun kind => (kind, paths.get kind))

theorem get_inDirectory (directory : Path) (name : String) (extensions : ArtifactExtensions)
    (kind : ArtifactKind) :
    (inDirectory directory name extensions).get kind =
      file directory name (extensions.get kind) := by
  cases kind <;> rfl

end ArtifactPaths
end BaseLanguage
