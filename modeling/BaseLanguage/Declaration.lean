import BaseLanguage.Descriptor
import BaseLanguage.Term.Shape

namespace BaseLanguage

/-!
# Declarations

Every toplevel declaration of a source file is a namespace, an import, a body or an extension
declaration, or none of these.  The descriptor of the language tells which constructors belong to
which class.  A constructor may be listed under several facts; `classify` then takes the first
class in the order given.
-/

inductive DeclarationClass where
  | namespaceName
  | importation
  | body
  | extension
  /-- Not a declaration of the language. -/
  | other
  deriving Repr, DecidableEq

namespace DeclarationClass

def name : DeclarationClass -> String
  | namespaceName => "Namespace"
  | importation => "Import"
  | body => "Body"
  | extension => "Extension"
  | other => "Other"

end DeclarationClass

inductive PrintedPart where
  | namespaceIdentifier
  | importedModule
  | moduleName
  deriving Repr, DecidableEq

namespace PrintedPart

def name : PrintedPart -> String
  | namespaceIdentifier => "namespace identifier"
  | importedModule => "imported module"
  | moduleName => "module name"

end PrintedPart

/-- Why a declaration cannot be used. -/
inductive DeclarationError where
  /-- The definition left the fact open that the query is about. -/
  | missingFact (language : String) (fact : SingleFact)
  | notImport (language constructor : String)
  /-- The declaration has not the shape that its constructor promises. -/
  | shape (error : Term.ShapeError)
  /-- A part of the declaration could not be printed. -/
  | print (part : PrintedPart) (reason : String)
  /-- The declared name is not that of the place of the file. -/
  | mismatch (error : NameMismatch)
  deriving DecidableEq

namespace DeclarationError

def message : DeclarationError -> String
  | missingFact language fact => s!"language `{language}` does not declare {fact.name}"
  | notImport language constructor =>
    s!"`{constructor}` is not an import declaration of `{language}`"
  | shape error => s!"malformed declaration: {error.message}"
  | print part reason => s!"pretty printing the {part.name} failed: {reason}"
  | mismatch error => error.message

end DeclarationError

/-- Shows a term in the syntax of the base language, or gives the reason why it cannot. -/
abbrev TermPrinter := Term -> Except String String

/-- The constructors of extension declarations in every language. -/
def extensionConstructors : List String :=
  ["SXExtensionDecl", "SXExtensionBegin", "SXExtensionEnd"]

namespace LanguageDescriptor

/-- Whether a term is an application of the namespace constructor; its children do not matter. -/
def isNamespaceDeclaration (language : LanguageDescriptor) (declaration : Term) : Bool :=
  match language.facts.namespaceDeclaration with
  | some argument => declaration.isApplicationOf argument.constructor
  | none => false

def isImportDeclaration (language : LanguageDescriptor) (declaration : Term) : Bool :=
  match declaration.constructor? with
  | some name => language.facts.importDeclarations.contains name
  | none => false

def isBodyDeclaration (language : LanguageDescriptor) (declaration : Term) : Bool :=
  match declaration.constructor? with
  | some name => language.facts.bodyDeclarations.contains name
  | none => false

def isExtensionDeclaration (_language : LanguageDescriptor) (declaration : Term) : Bool :=
  extensionConstructors.any (fun name => declaration.isApplicationOf name)

/-- Whether a declaration is passed through to the base language's own compiler. -/
def isBaseDeclaration (language : LanguageDescriptor) (declaration : Term) : Bool :=
  language.isNamespaceDeclaration declaration || language.isBodyDeclaration declaration

def classify (language : LanguageDescriptor) (declaration : Term) : DeclarationClass :=
  if language.isNamespaceDeclaration declaration then .namespaceName
  else if language.isImportDeclaration declaration then .importation
  else if language.isBodyDeclaration declaration then .body
  else if language.isExtensionDeclaration declaration then .extension
  else .other

def printPart (printer : TermPrinter) (part : PrintedPart) (term : Term) :
    Except DeclarationError String :=
  (printer term).mapError (.print part)

def childOf (declaration : Term) (index : Nat) : Except DeclarationError Term :=
  (declaration.child index).mapError .shape

def namespaceIdentifier (language : LanguageDescriptor) (printer : TermPrinter)
    (declaration : Term) : Except DeclarationError String := do
  match language.facts.namespaceDeclaration with
  | none => throw (.missingFact language.name .namespaceDeclaration)
  | some argument =>
    let _ ← (declaration.childrenOf argument.constructor).mapError .shape
    printPart printer .namespaceIdentifier (← childOf declaration argument.index)

def importModulePath (language : LanguageDescriptor) (printer : TermPrinter)
    (declaration : Term) : Except DeclarationError String := do
  let appl ← declaration.application.mapError .shape
  match language.facts.importDeclarations[appl.constructor]? with
  | none => throw (.notImport language.name appl.constructor)
  | some index =>
    let module ← printPart printer .importedModule (← childOf declaration index)
    return language.namespaceKind.modulePath module

/-- The place that the namespace declaration of a file stands for, if the file lies there. -/
def resolveModule (language : LanguageDescriptor) (printer : TermPrinter) (declaration : Term)
    (file : Path) : Except DeclarationError ModuleLocation := do
  let identifier ← language.namespaceIdentifier printer declaration
  (language.namespaceKind.resolve identifier file).mapError .mismatch

/-- The module name that a suffix declaration of a prefixed language gives, which must be that of
the file.  Any other declaration gives none. -/
def suffixModuleName (language : LanguageDescriptor) (printer : TermPrinter) (declaration : Term)
    (file : Path) : Except DeclarationError (Option String) := do
  match declaration.constructor?.bind language.namespaceKind.suffixIndex? with
  | none => return none
  | some index =>
    let declared ← printPart printer .moduleName (← childOf declaration index)
    let expected := (ModuleLocation.ofFile file).moduleName
    (expectModuleName declared expected).mapError .mismatch
    return some expected

end LanguageDescriptor
end BaseLanguage
