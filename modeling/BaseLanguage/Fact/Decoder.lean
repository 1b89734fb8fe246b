import BaseLanguage.Descriptor
import BaseLanguage.Fact.Basic
import BaseLanguage.Text.CharClass

namespace BaseLanguage

/-!
# Decoding facts

`decode` walks the declarations of a rule module in order and collects every fact it recognises.
A fact that is declared again replaces the earlier value, except that body and import
declarations add to those before.  The first malformed fact stops the walk.

Lists come as chains: nested cells with one element each.  `Chain.ofTerm` takes a chain apart into
the elements that are visited and what, if anything, is wrong behind them, so that the elements in
front of a fault count before it does.
-/

/-- A text without one quote at its start and one at its end, where they are. -/
def unquoteChars (text : List Char) : List Char :=
  let opened :=
    match text with
    | '"' :: rest => rest
    | _ => text
  match opened.reverse with
  | '"' :: front => front.reverse
  | _ => opened

def unquote (text : String) : String :=
  String.ofList (unquoteChars text.toList)

/-- The part of a term that an accessor asks for, inside a fact. -/
def inFact (part : Except Term.ShapeError α) : Except FactFault α :=
  part.mapError .shape

/-- The string that a wrapped string holds, without its quotes. -/
def stringElement (element : Term) : Except FactFault String := do
  let wrapped ← inFact (element.child 0)
  let literal ← inFact (wrapped.child 0)
  return unquote (← inFact literal.string)

/-- The text of an index: the value of a string, or the digits of an integer. -/
def indexText (literal : Term) : Except FactFault String :=
  match literal with
  | .int value => .ok (String.ofList (Text.signedDecimal value))
  | other => inFact other.string

/-- The index that a wrapped numeral holds, with optional blanks around it. -/
def indexElement (element : Term) : Except FactFault Nat := do
  let wrapped ← inFact (element.child 0)
  let literal ← inFact (wrapped.child 0)
  let text ← indexText literal
  match Text.word? (Text.trim text.toList) with
  | some index => return index
  | none => throw (.index text)

/-- The constructor and the index that a wrapped pair holds. -/
def argumentElement (element : Term) : Except FactFault ConstructorArgument := do
  let wrapped ← inFact (element.child 0)
  let components ← inFact (wrapped.child 0)
  match ← inFact components.knownElems with
  | [constructor, index] =>
    let constructor ← stringElement constructor
    let index ← indexElement index
    return ⟨constructor, index⟩
  | other => throw (.tupleArity other.length)

/-- The elements of a chain that are visited, in order, and what is wrong behind the last. -/
structure Chain where
  elements : List Term
  fault : Option FactFault
  deriving DecidableEq

namespace Chain

/-- A chain that ends with nothing more to visit. -/
def empty : Chain :=
  ⟨[], none⟩

def broken (fault : FactFault) : Chain :=
  ⟨[], some fault⟩

def push (element : Term) (chain : Chain) : Chain :=
  ⟨element :: chain.elements, chain.fault⟩

/-- The elements of the last cell, of which there may be one. -/
def ofTerminal (elems : List Term) : Chain :=
  match elems with
  | [] => empty
  | [element] => push element empty
  | more => broken (.oversizedTerminal more.length)

/-- Takes a chain apart.  A `List` cell is the last one.  A `ListTail` cell is visited at its
first element and goes on in its second child. -/
def ofTerm : Term -> Chain
  | .appl _ (.appl cell children :: _) =>
    if cell = "List" then
      match (Term.appl cell children).child 0 >>= Term.knownElems with
      | .ok elems => ofTerminal elems
      | .error error => broken (.shape error)
    else if cell = "ListTail" then
      match (Term.appl cell children).child 0 >>= Term.knownElems with
      | .ok [] => broken (.shape (.emptyList .head))
      | .ok (element :: _) =>
        match children with
        | _ :: next :: _ => push element (ofTerm next)
        | few => push element (broken (.shape (.childOutOfRange cell 1 few.length)))
      | .error error => broken (.shape error)
    else broken (.unexpectedCell (.appl cell children))
  | .appl _ (cell :: _) => broken (.unexpectedCell cell)
  | .appl constructor [] => broken (.shape (.childOutOfRange constructor 0 0))
  | other => broken (.shape (.wrongKind .application other.kind))

end Chain

/-- What decoding has collected: facts, and warnings that stay when it fails later. -/
structure Decoding where
  facts : LanguageFacts := {}
  warnings : List Warning := []

/-- A step of decoding: it may fail, and what it collected stays. -/
abbrev DecodeStep := ExceptT FactFault (StateM Decoding)

namespace Decoding

def addBody (element : Term) : DecodeStep Unit := do
  let constructor ← liftM (stringElement element)
  modify (fun state =>
    { state with
      facts := { state.facts with
        bodyDeclarations := state.facts.bodyDeclarations.insert constructor } })

/-- The facts with an import declaration.  One that is already there is replaced, with a
warning. -/
def addImport (element : Term) : DecodeStep Unit := do
  let argument ← liftM (argumentElement element)
  modify (fun state =>
    { facts := { state.facts with
        importDeclarations :=
          state.facts.importDeclarations.insert argument.constructor argument.index }
      warnings :=
        match state.facts.importDeclarations[argument.constructor]? with
        | some previous =>
          state.warnings ++ [.importRedeclared argument.constructor previous argument.index]
        | none => state.warnings })

/-- Visits the elements of a chain; what is wrong behind them counts after them. -/
def visitAll (visit : Term -> DecodeStep Unit) (chain : Chain) : DecodeStep Unit := do
  chain.elements.forM visit
  match chain.fault with
  | some fault => throw fault
  | none => return ()

def setFacts (change : LanguageFacts -> LanguageFacts) : DecodeStep Unit :=
  modify (fun state => { state with facts := change state.facts })

/-- Takes in one fact from the right-hand side of its strategy. -/
def addFact (fact : Fact) (rhs : Term) : DecodeStep Unit := do
  let built ← liftM (inFact (rhs.child 0))
  match fact with
  | .toplevelDeclaration =>
    let value ← liftM (stringElement built)
    setFacts (fun facts => { facts with toplevelNonterminal := some value })
  | .extensibleFileExtension =>
    let value ← liftM (stringElement built)
    setFacts (fun facts => { facts with extendedFileExtension := some value })
  | .baseFileExtension =>
    let value ← liftM (stringElement built)
    setFacts (fun facts => { facts with baseFileExtension := some value })
  | .namespaceDeclaration =>
    let argument ← liftM (argumentElement built)
    setFacts (fun facts => { facts with namespaceDeclaration := some argument })
  | .bodyDeclarations => visitAll addBody (Chain.ofTerm built)
  | .importDeclarations => visitAll addImport (Chain.ofTerm built)

end Decoding

/-- The fact that a declaration declares, with the right-hand side of its strategy.  Only the
first definition of a strategy section counts. -/
def recognise? (lead : String) : Term -> Option (Fact × Term)
  | .appl "Strategies" (.list (.appl "SDefNoArgs" [.str name, rhs] :: _) _ :: _) =>
    (Fact.ofStrategyName? lead name).map (fun fact => (fact, rhs))
  | _ => none

/-- The declarations of a rule module. -/
def declarationsOf (module : Term) : Except Term.ShapeError (List Term) := do
  (← module.child 1).knownElems

/-- Takes in a declaration of a rule module, if it declares a fact. -/
def addDeclaration (lead : String) (declaration : Term) :
    ExceptT DecodeError (StateM Decoding) Unit :=
  match recognise? lead declaration with
  | none => return ()
  | some (fact, rhs) => ExceptT.adapt (.fact fact) (Decoding.addFact fact rhs)

def addModule (lead : String) (module : Term) : ExceptT DecodeError (StateM Decoding) Unit := do
  let declarations ← liftM ((declarationsOf module).mapError DecodeError.module)
  declarations.forM (addDeclaration lead)

/-- The facts that a rule module declares under a lead, and the warnings of decoding them. -/
def decode (lead : String) (module : Term) : Except DecodeError LanguageFacts × List Warning :=
  match (addModule lead module).run.run {} with
  | (.ok (), state) => (.ok state.facts, state.warnings)
  | (.error error, state) => (.error error, state.warnings)

end BaseLanguage
