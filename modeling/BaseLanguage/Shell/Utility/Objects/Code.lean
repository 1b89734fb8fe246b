import BaseLanguage.Shell.Utility.Objects.Statements

namespace BaseLanguage.Shell.Objects

/-!
# Code

A program is done step by step.  The steps of a function work on a stack of values; names of the
function lead to slots, and all other names are looked up.
-/

inductive Step where
  | constant (value : Value)
  | own (slot : Nat)
  | setOwn (slot : Nat)
  | dropOwn (slot : Nat)
  | outer (depth slot : Nat) (name : String)
  | setOuter (depth slot : Nat)
  | dropOuter (depth slot : Nat) (name : String)
  | shared (name : String)
  | setShared (name : String)
  | dropShared (name : String)
  | named (name : String)
  | setNamed (name : String)
  | dropNamed (name : String)
  | namedOrOuter (name : String) (depth slot : Nat)
  | attribute (name : String)
  | setAttribute (name : String)
  | dropAttribute (name : String)
  | item
  | setItem
  | dropItem
  | signed (sign : Sign)
  | binary (operator : Operator)
  | changed (operator : Operator)
  | related (relation : Relation)
  | jump (place : Nat)
  | jumpIf (place : Nat)
  | jumpUnless (place : Nat)
  | keepIf (place : Nat)
  | keepUnless (place : Nat)
  | iterate
  | next (place : Nat)
  | tuple (count : Nat)
  | list (count : Nat)
  | set (count : Nat)
  | dict (count : Nat)
  | slice
  | joined (count : Nat)
  | formed (letter : Option Char) (hasForm : Bool)
  | append (depth : Nat)
  | add (depth : Nat)
  | put (depth : Nat)
  | appendAll
  | addAll
  | putAll
  | putArguments
  | tupleOfList
  | unpack (count : Nat)
  | unpackAround (before after : Nat)
  | call (placed : Nat) (names : List String)
  | callWith (hasNamed : Bool)
  | function (code placed : Nat) (named notes : List String)
  | type (name : String) (bases : Nat) (names : List String)
  | annotate (name : String)
  | giveBack
  | give
  | giveAll
  | raise (count : Nat)
  | reraise
  | attempt (place : Nat)
  | endAttempt
  | matches (place : Nat)
  | leaveHandler
  | enter (place : Nat)
  | leave
  | leaveAtFault
  | use (package : String) (whole : Bool)
  | useFrom (package : String) (level : Nat)
  | useName (name : String)
  | useAll (package : String)
  | failAssertion (hasMessage : Bool)
  | pop
  | copy
  | copyTwo
  | swap
  | lift
  | tuck
  | fitsRow (count : Nat) (isOpen : Bool)
  | fitsTable
  | fitsKeys (count : Nat)
  | withoutKeys (count : Nat)
  | fitsType (placed : Nat) (names : List String)

inductive CodeKind where
  | program
  | type
  | function
  deriving DecidableEq

structure Code where
  name : String
  qualified : String := ""
  file : String
  firstLine : Nat := 1
  kind : CodeKind := .function
  onlyPlaced : Nat := 0
  placed : Nat := 0
  named : Nat := 0
  hasRest : Bool := false
  hasNamedRest : Bool := false
  slots : Array String := #[]
  steps : Array Step := #[]
  spans : Array Span := #[]
  isGenerator : Bool := false
  keepsScope : Bool := false
  doc : Value := .nothing
  deriving Inhabited

/-! ## Names that are given values -/

def deepestProgram : Nat := 1000

def targetNames : Nat -> Expression -> List String
  | 0, _ => []
  | depth + 1, target => match target.bare with
    | .name name => [name]
    | .tuple items => items.flatMap (targetNames depth)
    | .list items => items.flatMap (targetNames depth)
    | .items inner => targetNames depth inner
    | _ => []

def assignedIn : Nat -> Expression -> List String
  | 0, _ => []
  | depth + 1, expression =>
    let inner : Expression -> List String := assignedIn depth
    match expression with
    | .at _ found => inner found
    | .assigned name value => name :: inner value
    | .joined pieces => pieces.flatMap inner
    | .formed value _ form => inner value ++ (form.map inner).getD []
    | .tuple items => items.flatMap inner
    | .list items => items.flatMap inner
    | .set items => items.flatMap inner
    | .dict entries => entries.flatMap fun (key, value) => (key.map inner).getD [] ++ inner value
    | .items found => inner found
    | .signed _ found => inner found
    | .binary _ left right => inner left ++ inner right
    | .both left right => inner left ++ inner right
    | .either left right => inner left ++ inner right
    | .compared first rest => inner first ++ rest.flatMap (inner ·.2)
    | .choice test yes no => inner test ++ inner yes ++ inner no
    | .attribute found _ => inner found
    | .item found index => inner found ++ inner index
    | .slice first last step => [first, last, step].flatMap (fun part => (part.map inner).getD [])
    | .call function arguments => inner function ++ arguments.flatMap (inner ·.2)
    | .collected _ key element loops =>
      (key.map inner).getD [] ++ inner element ++
        loops.flatMap fun (_, source, tests) => inner source ++ tests.flatMap inner
    | .give value => (value.map inner).getD []
    | .giveAll value => inner value
    | _ => []

def shapeNames : Nat -> Shape -> List String
  | 0, _ => []
  | depth + 1, shape => match shape with
    | .any name => name.toList
    | .row before rest after =>
      before.flatMap (shapeNames depth) ++ (rest.bind id).toList ++ after.flatMap (shapeNames depth)
    | .table entries rest => entries.flatMap (shapeNames depth ·.2) ++ rest.toList
    | .type _ placed named =>
      placed.flatMap (shapeNames depth) ++ named.flatMap (shapeNames depth ·.2)
    | .oneOf shapes => shapes.flatMap (shapeNames depth)
    | .called shape name => name :: shapeNames depth shape
    | _ => []

def firstPart (name : String) : String := (name.splitOn ".").headD name

def boundIn : Nat -> Statement -> List String
  | 0, _ => []
  | depth + 1, statement =>
    let inside : Expression -> List String := assignedIn deepestProgram
    let target : Expression -> List String := targetNames deepestProgram
    let block (body : List Statement) : List String := body.flatMap (boundIn depth)
    let maybe (expression : Option Expression) : List String := (expression.map inside).getD []
    match statement with
    | .at _ inner => boundIn depth inner
    | .expression inner => inside inner
    | .assign targets value => targets.flatMap (fun found => target found ++ inside found) ++ inside value
    | .annotated found _ value => target found ++ maybe value
    | .changed found _ value => target found ++ inside value
    | .delete targets => targets.flatMap target
    | .giveBack value => maybe value
    | .raise value cause => maybe value ++ maybe cause
    | .assert test message => inside test ++ maybe message
    | .use package name => [name.getD (firstPart package)]
    | .useFrom _ _ names => names.map Prod.snd
    | .choice test body otherwise => inside test ++ block body ++ block otherwise
    | .loop test body atEnd => inside test ++ block body ++ block atEnd
    | .each found source body atEnd => target found ++ inside source ++ block body ++ block atEnd
    | .attempt body handlers otherwise atEnd =>
      block body ++ handlers.flatMap (fun (_, _, name, body) => name.toList ++ block body) ++
        block otherwise ++ block atEnd
    | .within items body =>
      items.flatMap (fun (value, found) => inside value ++ (found.map target).getD []) ++ block body
    | .function name _ _ _ _ => [name]
    | .type name _ _ _ => [name]
    | .cases subject cases =>
      inside subject ++ cases.flatMap fun (shape, test, body) =>
        shapeNames deepestProgram shape ++ maybe test ++ block body
    | _ => []

def declaredIn : Nat -> Statement -> List (String × Bool)
  | 0, _ => []
  | depth + 1, statement =>
    let block (body : List Statement) : List (String × Bool) := body.flatMap (declaredIn depth)
    match statement with
    | .at _ inner => declaredIn depth inner
    | .shared names => names.map (·, true)
    | .outer names => names.map (·, false)
    | .choice _ body otherwise => block body ++ block otherwise
    | .loop _ body atEnd => block body ++ block atEnd
    | .each _ _ body atEnd => block body ++ block atEnd
    | .attempt body handlers otherwise atEnd =>
      block body ++ handlers.flatMap (fun (_, _, _, body) => block body) ++ block otherwise ++
        block atEnd
    | .within _ body => block body
    | .cases _ cases => cases.flatMap fun (_, _, body) => block body
    | _ => []

/-! ## What is being put together -/

inductive Surrounding where
  | loop (again leave : Nat) (isEach : Bool)
  | attempt
  | ending (body : List Statement)
  | handler (name : Option String)
  | fault
  | manager

structure Draft where
  code : Code
  shared : List String := []
  outer : List String := []
  isLoop : Bool := false
  surroundings : List Surrounding := []
  labels : Array Nat := #[]
  span : Span := default
  seen : List String := []

structure Assembly where
  draft : Draft
  around : List Draft := []
  codes : Array Code := #[]
  first : Nat := 0

abbrev Assembling := StateT Assembly (Except Fault)

namespace Assembling

def change (change : Draft -> Draft) : Assembling Unit :=
  modify fun assembly => { assembly with draft := change assembly.draft }

def emit (step : Step) : Assembling Unit :=
  change fun draft => { draft with
    code := { draft.code with
      steps := draft.code.steps.push step, spans := draft.code.spans.push draft.span } }

def label : Assembling Nat := do
  let number := (<- get).draft.labels.size
  change fun draft => { draft with labels := draft.labels.push 0 }
  return number

def mark (label : Nat) : Assembling Unit :=
  change fun draft => { draft with labels := draft.labels.set! label draft.code.steps.size }

def refuse (message : String) : Assembling α := do
  throw { message, span := (<- get).draft.span, shown := some "" }

def spanned (span : Span) (work : Assembling Unit) : Assembling Unit := do
  let before := (<- get).draft.span
  change ({ · with span })
  work
  change ({ · with span := before })

def within (surrounding : Surrounding) (work : Assembling Unit) : Assembling Unit := do
  let before := (<- get).draft.surroundings
  change ({ · with surroundings := surrounding :: before })
  work
  change ({ · with surroundings := before })

/-! ## Names -/

inductive Access where
  | own (slot : Nat)
  | outer (depth slot : Nat)
  | shared
  | named
  | namedOrOuter (depth slot : Nat)

def outerSlot? (name : String) : Nat -> List Draft -> Option (Nat × Nat)
  | _, [] => none
  | depth, draft :: rest => match draft.code.kind with
    | .program => none
    | .type => if name = "__class__" then some (depth, 0) else outerSlot? name (depth + 1) rest
    | .function =>
      if draft.shared.contains name then none
      else match draft.code.slots.findIdx? (· = name) with
        | some slot => some (depth, slot)
        | none => outerSlot? name (depth + 1) rest

def access (name : String) : Assembling Access := do
  let assembly <- get
  let draft := assembly.draft
  let found := outerSlot? name 1 assembly.around
  if draft.shared.contains name then return .shared
  else match draft.code.kind with
    | .program => return .named
    | .type => match found with
      | some (depth, slot) =>
        return if draft.outer.contains name then .outer depth slot else .namedOrOuter depth slot
      | none => return .named
    | .function => match draft.code.slots.findIdx? (· = name) with
      | some slot => return .own slot
      | none => match found with
        | some (depth, slot) => return .outer depth slot
        | none => return .shared

def load (name : String) : Assembling Unit := do
  match <- access name with
  | .own slot => emit (.own slot)
  | .outer depth slot => emit (.outer depth slot name)
  | .shared => emit (.shared name)
  | .named => emit (.named name)
  | .namedOrOuter depth slot => emit (.namedOrOuter name depth slot)

def store (name : String) : Assembling Unit := do
  change fun draft => { draft with seen := name :: draft.seen }
  match <- access name with
  | .own slot => emit (.setOwn slot)
  | .outer depth slot => emit (.setOuter depth slot)
  | .shared => emit (.setShared name)
  | _ => emit (.setNamed name)

def drop (name : String) : Assembling Unit := do
  match <- access name with
  | .own slot => emit (.dropOwn slot)
  | .outer depth slot => emit (.dropOuter depth slot name)
  | .shared => emit (.dropShared name)
  | _ => emit (.dropNamed name)

def storeOutside (name : String) : Assembling Unit := do
  let assembly <- get
  if !assembly.draft.isLoop then store name
  else
    let loops := (assembly.around.takeWhile (·.isLoop)).length
    match (assembly.around.drop loops).head? with
    | some draft => match draft.code.kind, draft.code.slots.findIdx? (· = name) with
      | .function, some slot => emit (.setOuter (loops + 1) slot)
      | .function, none => match outerSlot? name (loops + 2) (assembly.around.drop (loops + 1)) with
        | some (depth, slot) => emit (.setOuter depth slot)
        | none => emit (.setShared name)
      | _, _ => emit (.setShared name)
    | none => emit (.setShared name)

/-! ## Rows of steps -/

def placed (labels : Array Nat) (step : Step) : Step :=
  let at' (label : Nat) : Nat := labels.getD label 0
  match step with
  | .jump label => .jump (at' label)
  | .jumpIf label => .jumpIf (at' label)
  | .jumpUnless label => .jumpUnless (at' label)
  | .keepIf label => .keepIf (at' label)
  | .keepUnless label => .keepUnless (at' label)
  | .next label => .next (at' label)
  | .attempt label => .attempt (at' label)
  | .matches label => .matches (at' label)
  | .enter label => .enter (at' label)
  | step => step

def Draft.finish (draft : Draft) : Code :=
  { draft.code with
    steps := draft.code.steps.map (placed draft.labels)
    keepsScope := draft.code.isGenerator || draft.code.steps.any fun
      | .function _ _ _ _ => true
      | _ => false }

def inside (draft : Draft) (work : Assembling Unit) : Assembling Nat := do
  let before <- get
  set { before with draft, around := before.draft :: before.around }
  work
  let after <- get
  let codes := after.codes.push (Draft.finish after.draft)
  set { after with draft := before.draft, around := before.around, codes }
  return before.first + codes.size - 1

def qualifiedName (name : String) : Assembling String := do
  let draft := (<- get).draft
  if draft.shared.contains name then return name
  else match draft.code.kind with
    | .program => return name
    | .type => return s!"{draft.code.qualified}.{name}"
    | .function => return s!"{draft.code.qualified}.<locals>.{name}"

end Assembling

end BaseLanguage.Shell.Objects
