import BaseLanguage.Term.Shape

namespace BaseLanguage

/-!
# Rewriting generated modules

The generated grammar and the generated rule module import what the definition imported.  These
imports give way to one import of the module that all languages share.
-/

namespace Rewriting

def sharedModule : String :=
  "org/sugarj/soundx/SoundX"

/-- The sort that the toplevel declarations of every language belong to. -/
def sharedSort : String :=
  "ToplevelDeclaration"

inductive ModuleKind where
  | grammar
  | rules
  deriving Repr, DecidableEq

namespace ModuleKind

def name : ModuleKind -> String
  | grammar => "grammar"
  | rules => "rule module"

end ModuleKind

end Rewriting

/-- A generated module has not the structure that rewriting needs. -/
structure RewriteError where
  module : Rewriting.ModuleKind
  shape : Term.ShapeError
  deriving DecidableEq

namespace RewriteError

def message (error : RewriteError) : String :=
  s!"unexpected {error.module.name} structure: {error.shape.message}"

end RewriteError
end BaseLanguage

namespace BaseLanguage
namespace Rewriting

/-!
## Rewriting rule modules

A rule module is a header and a list of declarations.  Those that are imports go, and the import
of the shared module takes the first place.
-/

def ruleImport : Term :=
  .appl "Imports" [.known [.appl "Import" [.str sharedModule]]]

/-- The declarations that are no imports, behind the import of the shared module. -/
def importShared (declarations : List Term) : List Term :=
  ruleImport :: declarations.filter (fun declaration => !declaration.isApplicationOf "Imports")

/-- The rule module with the shared module as its only import.  The other declarations keep their
order. -/
def replaceRuleImports (module : Term) : Except RewriteError Term :=
  Except.mapError (fun shape => RewriteError.mk .rules shape) do
    let appl ← module.application
    let header ← appl.child 0
    let declarations ← (← appl.child 1).knownElems
    return appl.withChildren [header, .known (importShared declarations)]

/-!
## Rewriting grammars

A grammar is a module of a header, import sections and a body.  Its imports are replaced, and its
body gains a production in front, which connects the toplevel sort of the language to the shared
sort.
-/

/-- The sort that a language's toplevel nonterminal is known by. -/
def toplevelSort (language nonterminal : String) : String :=
  language ++ "Gnd" ++ nonterminal

def grammarImport : Term :=
  .appl "imports" [.appl "module" [.appl "unparameterized" [.str sharedModule]]]

def sortTerm (name : String) : Term :=
  .appl "sort" [.str name]

/-- The production from a language's toplevel sort to the shared sort. -/
def toplevelProduction (language nonterminal : String) : Term :=
  .appl "exports"
    [.appl "context-free-syntax"
      [.known
        [.appl "prod"
          [.known [sortTerm (toplevelSort language nonterminal)],
            sortTerm sharedSort,
            .appl "no-attrs" []]]]]

def inGrammar (part : Except Term.ShapeError α) : Except RewriteError α :=
  part.mapError (fun shape => ⟨.grammar, shape⟩)

/-- The grammar with the shared module as its only import. -/
def replaceGrammarImports (module : Term) : Except RewriteError Term := inGrammar do
  let appl ← module.application
  let header ← appl.child 0
  let body ← appl.child 2
  return appl.withChildren [header, .known [grammarImport], body]

/-- The grammar with the toplevel production in front of its body. -/
def injectToplevelProduction (language nonterminal : String) (module : Term) :
    Except RewriteError Term := inGrammar do
  let appl ← module.application
  let imports ← appl.child 1
  let header ← appl.child 0
  let body ← appl.child 2
  let _ ← body.spine
  return appl.withChildren
    [header, imports, .cons (toplevelProduction language nonterminal) body]

/-- The grammar with its imports replaced and the toplevel production in front of its body. -/
def rewriteGrammar (language nonterminal : String) (module : Term) : Except RewriteError Term := do
  injectToplevelProduction language nonterminal (← replaceGrammarImports module)

end Rewriting
end BaseLanguage
