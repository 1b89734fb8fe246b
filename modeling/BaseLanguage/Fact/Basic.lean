import BaseLanguage.Term.Shape

namespace BaseLanguage

/-!
# Facts in rule modules

A definition is compiled into a rule module.  Each fact that it declares is there as a strategy
without arguments, which is named by a common lead, a hyphen and the name of the fact, and which
builds a constant.
-/

inductive Fact where
  | toplevelDeclaration
  | extensibleFileExtension
  | baseFileExtension
  | bodyDeclarations
  | namespaceDeclaration
  | importDeclarations
  deriving Repr, DecidableEq

namespace Fact

/-- All facts, in the order in which they are listed. -/
def all : List Fact :=
  [toplevelDeclaration, extensibleFileExtension, baseFileExtension, bodyDeclarations,
    namespaceDeclaration, importDeclarations]

theorem mem_all (fact : Fact) : fact ∈ all := by
  cases fact <;> decide

/-- What stands behind the lead and the hyphen in the name of the strategy. -/
def suffix : Fact -> String
  | toplevelDeclaration => "ToplevelDeclaration"
  | extensibleFileExtension => "extensible-file-ext"
  | baseFileExtension => "base-file-ext"
  | bodyDeclarations => "body-decs"
  | namespaceDeclaration => "namespace-dec"
  | importDeclarations => "import-decs"

def strategyName (lead : String) (fact : Fact) : String :=
  lead ++ "-" ++ fact.suffix

/-- The fact that a strategy declares, if its name is that of one. -/
def ofStrategyName? (lead name : String) : Option Fact :=
  all.find? (fun fact => name == fact.strategyName lead)

end Fact

inductive FactFault where
  | shape (error : Term.ShapeError)
  /-- The last cell of a chain holds more than one element. -/
  | oversizedTerminal (count : Nat)
  /-- A cell of a chain is neither of the two there are. -/
  | unexpectedCell (cell : Term)
  /-- A pair has not two components. -/
  | tupleArity (count : Nat)
  /-- The text of an index is no index. -/
  | index (text : String)
  deriving DecidableEq

namespace FactFault

/-- A cell by its constructor, or else by its kind. -/
def describe (cell : Term) : String :=
  match cell.constructor? with
  | some name => s!"`{name}`"
  | none => cell.kind.name

def message : FactFault -> String
  | shape error => error.message
  | oversizedTerminal count => s!"list terminal holds {count} elements, at most one is allowed"
  | unexpectedCell cell => s!"expected `List` or `ListTail`, found {describe cell}"
  | tupleArity count => s!"constructor tuple has {count} components, expected 2"
  | index text => s!"invalid argument index `{text}`"

end FactFault

/-- Why the facts of a rule module cannot be decoded. -/
inductive DecodeError where
  /-- The module has no list of declarations. -/
  | module (error : Term.ShapeError)
  | fact (fact : Fact) (fault : FactFault)
  deriving DecidableEq

namespace DecodeError

def message : DecodeError -> String
  | module error => s!"rule module has no declaration list: {error.message}"
  | fact which fault => s!"malformed `{which.suffix}` fact: {fault.message}"

end DecodeError
end BaseLanguage
