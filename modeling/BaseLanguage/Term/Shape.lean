import BaseLanguage.Term.Printer

namespace BaseLanguage
namespace Term

/-!
# Looking into terms

Code that expects a term of a certain shape asks for it through these accessors.  Each answers
with the part asked for or with the way in which the term differs from what was expected.
-/

inductive ListPart where
  | head
  | tail
  deriving Repr, DecidableEq

/-- How a term differs from the shape that was expected of it. -/
inductive ShapeError where
  | wrongKind (expected found : Kind)
  | wrongConstructor (expected found : String)
  /-- An application with too few children. -/
  | childOutOfRange (constructor : String) (index arity : Nat)
  /-- The head or the tail of an empty list. -/
  | emptyList (part : ListPart)
  /-- A list with an explicit tail, where all elements had to be known. -/
  | openList (tail : Term)
  deriving DecidableEq

namespace ShapeError

def message : ShapeError -> String
  | wrongKind expected found => s!"expected {expected.name}, found {found.name}"
  | wrongConstructor expected found => s!"expected constructor `{expected}`, found `{found}`"
  | childOutOfRange constructor index arity =>
    s!"child {index} out of range for `{constructor}` with {arity} children"
  | emptyList .head => "empty list has no head"
  | emptyList .tail => "empty list has no tail"
  | openList tail => s!"list has an explicit tail `{tail.print}`"

end ShapeError

structure Application where
  constructor : String
  children : List Term

structure Spine where
  elems : List Term
  tail : Option Term

def application : Term -> Except ShapeError Application
  | appl constructor children => .ok ⟨constructor, children⟩
  | other => .error (.wrongKind .application other.kind)

def spine : Term -> Except ShapeError Spine
  | list elems tail => .ok ⟨elems, tail⟩
  | other => .error (.wrongKind .list other.kind)

def string : Term -> Except ShapeError String
  | str value => .ok value
  | other => .error (.wrongKind .string other.kind)

def integer : Term -> Except ShapeError Int
  | int value => .ok value
  | other => .error (.wrongKind .integer other.kind)

namespace Application

def isTuple (appl : Application) : Bool :=
  appl.constructor == ""

/-- The child at a position, counted from zero. -/
def child (appl : Application) (index : Nat) : Except ShapeError Term :=
  match appl.children[index]? with
  | some term => .ok term
  | none => .error (.childOutOfRange appl.constructor index appl.children.length)

def withChildren (appl : Application) (children : List Term) : Term :=
  .appl appl.constructor children

end Application

/-- The child of an application at a position, counted from zero. -/
def child (term : Term) (index : Nat) : Except ShapeError Term := do
  (← term.application).child index

def childrenOf (constructor : String) (term : Term) : Except ShapeError (List Term) := do
  let appl ← term.application
  if appl.constructor = constructor then
    return appl.children
  else
    throw (.wrongConstructor constructor appl.constructor)

namespace Spine

/-- Whether there is neither an element nor a tail. -/
def isEmpty (spine : Spine) : Bool :=
  spine.elems.isEmpty && spine.tail.isNone

def isKnown (spine : Spine) : Bool :=
  spine.tail.isNone

/-- The elements of a list without explicit tail. -/
def knownElems (spine : Spine) : Except ShapeError (List Term) :=
  match spine.tail with
  | none => .ok spine.elems
  | some tail => .error (.openList tail)

def head (spine : Spine) : Except ShapeError Term :=
  match spine.elems with
  | [] => .error (.emptyList .head)
  | elem :: _ => .ok elem

/-- Everything after the first element.  After the only known element that is the explicit tail
itself, which need not be a list. -/
def rest (spine : Spine) : Except ShapeError Term :=
  match spine.elems, spine.tail with
  | [], _ => .error (.emptyList .tail)
  | [_], some tail => .ok tail
  | _ :: more, tail => .ok (.list more tail)

end Spine

def knownElems (term : Term) : Except ShapeError (List Term) := do
  (← term.spine).knownElems

end Term
end BaseLanguage
