import BaseLanguage.Artifact
import BaseLanguage.Namespace
import Std.Data.ExtTreeSet

namespace BaseLanguage

/-!
# Language descriptors

A descriptor holds what a definition declares about its language, how the language names its
modules, and where its artifacts lie.  A definition may leave facts open; creating a descriptor
warns of each one.
-/

/-! ## Warnings

A warning is noteworthy but no failure.  Every operation that can warn hands its warnings on as a
list, in the order in which they arose.
-/

inductive SingleFact where
  | toplevelNonterminal
  | baseFileExtension
  | extendedFileExtension
  | namespaceDeclaration
  deriving Repr, DecidableEq

namespace SingleFact

def name : SingleFact -> String
  | toplevelNonterminal => "toplevel declaration nonterminal"
  | baseFileExtension => "base file extension"
  | extendedFileExtension => "extensible file extension"
  | namespaceDeclaration => "namespace declaration"

end SingleFact

/-- Something noteworthy. -/
inductive Warning where
  /-- A definition leaves a fact of its language open. -/
  | missingFact (language : String) (fact : SingleFact)
  /-- An import constructor is declared again; the later index counts. -/
  | importRedeclared (constructor : String) (previous index : Nat)
  /-- A language is registered under a name that is taken; the later one counts. -/
  | languageReplaced (language : String)
  /-- A language claims an extension that another one owned. -/
  | extensionClaimed (extension language previous : String)
  deriving Repr, DecidableEq

namespace Warning

def message : Warning -> String
  | missingFact _ _ => "base language definition does not declare fact"
  | importRedeclared _ _ _ => "import constructor declared twice, keeping the later index"
  | languageReplaced _ => "replacing registered base language"
  | extensionClaimed _ _ _ => "file extension claimed by another base language"

/-- What each warning is about, by field. -/
def fields : Warning -> List (String × String)
  | missingFact language fact => [("language", language), ("fact", fact.name)]
  | importRedeclared constructor previous index =>
    [("constructor", constructor), ("previous", toString previous), ("index", toString index)]
  | languageReplaced language => [("language", language)]
  | extensionClaimed extension language previous =>
    [("extension", extension), ("language", language), ("previous", previous)]

end Warning

/-! ## What a definition declares -/

/-- A constructor with the position of one of its children. -/
structure ConstructorArgument where
  constructor : String
  index : Nat
  deriving Repr, DecidableEq

/-- What a definition declares about its language.  Each fact may be left open. -/
structure LanguageFacts where
  /-- The sort of toplevel declarations. -/
  toplevelNonterminal : Option String := none
  /-- The extension of files in the plain language. -/
  baseFileExtension : Option String := none
  /-- The extension of files in the extended language. -/
  extendedFileExtension : Option String := none
  /-- The constructors of ordinary declarations. -/
  bodyDeclarations : Std.ExtTreeSet String := ∅
  /-- The constructor of the namespace declaration, with the child that names the namespace. -/
  namespaceDeclaration : Option ConstructorArgument := none
  /-- The constructors of import declarations, with the child that names the module. -/
  importDeclarations : Positions := ∅

instance : DecidableEq LanguageFacts := fun left right =>
  if same : left.toplevelNonterminal = right.toplevelNonterminal ∧
      left.baseFileExtension = right.baseFileExtension ∧
      left.extendedFileExtension = right.extendedFileExtension ∧
      left.bodyDeclarations = right.bodyDeclarations ∧
      left.namespaceDeclaration = right.namespaceDeclaration ∧
      left.importDeclarations = right.importDeclarations then
    isTrue (by cases left; cases right; simp_all)
  else
    isFalse (by rintro rfl; simp at same)

namespace LanguageFacts

def isMissing (facts : LanguageFacts) : SingleFact -> Bool
  | .toplevelNonterminal => facts.toplevelNonterminal.isNone
  | .baseFileExtension => facts.baseFileExtension.isNone
  | .extendedFileExtension => facts.extendedFileExtension.isNone
  | .namespaceDeclaration => facts.namespaceDeclaration.isNone

/-- The facts with one value that are left open, in a fixed order. -/
def missing (facts : LanguageFacts) : List SingleFact :=
  [.toplevelNonterminal, .baseFileExtension, .extendedFileExtension, .namespaceDeclaration].filter
    facts.isMissing

end LanguageFacts

structure LanguageDescriptor where
  /-- The name of the language, which its generated modules bear too. -/
  name : String
  facts : LanguageFacts
  namespaceKind : NamespaceKind
  artifacts : ArtifactPaths

namespace LanguageDescriptor

/-- One warning for each fact that is left open. -/
def warnings (descriptor : LanguageDescriptor) : List Warning :=
  descriptor.facts.missing.map (Warning.missingFact descriptor.name)

/-- The extensions that a language declares: the extended one before the base one. -/
def extensions (descriptor : LanguageDescriptor) : List String :=
  descriptor.facts.extendedFileExtension.toList ++ descriptor.facts.baseFileExtension.toList

end LanguageDescriptor
end BaseLanguage
