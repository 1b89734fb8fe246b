import BaseLanguage.Text.CharClass

namespace BaseLanguage
namespace Text

/-!
# Regular expressions

A regular expression matches parts of a text.  From one start there may be several ends; the
leftmost start counts, and of its ends the last.  Of the ways that lead there, the one counts whose
front parts are the longest, and the groups are what it says.

The ends of each part of an expression are found in descending order, each once, with the groups on
the best way to it.  So their number is bounded by the length of the text, whatever the expression
is.
-/

inductive Anchor where
  | start
  | ending
  | wordStart
  | wordEnd
  | wordEdge
  | noWordEdge
  | textStart
  | textEnd
  deriving Repr, DecidableEq

inductive Regex where
  | empty
  | oneOf (set : CharSet)
  | anyOne
  | atPlace (anchor : Anchor)
  | row (first second : Regex)
  | either (first second : Regex)
  /-- At least so many times, and at most so many times if there is a limit. -/
  | repeated (least : Nat) (most : Option Nat) (part : Regex)
  | group (number : Nat) (inside : Regex)
  | back (number : Nat)
  deriving Repr, DecidableEq

/-- What groups have matched: their numbers with their starts and ends. -/
abbrev Groups := List (Nat × Nat × Nat)

/-- An end, with what the groups have matched on the way. -/
structure Reached where
  place : Nat
  groups : Groups := []
  deriving Repr, DecidableEq

/-- The text in which is looked for matches, and how. -/
structure Subject where
  text : Array Char
  ignoresCase : Bool := false
  lines : Bool := false
  /-- Whether ways with different groups are told apart. -/
  keepsWays : Bool := false

namespace Subject

def holds (subject : Subject) (set : CharSet) (c : Char) : Bool :=
  if subject.ignoresCase then
    if set.opposite then
      !({ set with opposite := false }.holds c.toLower ||
        { set with opposite := false }.holds c.toUpper)
    else set.holds c.toLower || set.holds c.toUpper
  else set.holds c

variable (subject : Subject)

def isWordAt (place : Nat) : Bool :=
  (subject.text[place]?).any (fun c => isAlphanumeric c || c = '_')

def isWordBefore (place : Nat) : Bool := place ≠ 0 && subject.isWordAt (place - 1)

def isAt (anchor : Anchor) (place : Nat) : Bool :=
  let before := subject.isWordBefore place
  let behind := subject.isWordAt place
  match anchor with
  | .start => place = 0 || (subject.lines && subject.text[place - 1]? == some '\n')
  | .ending => place = subject.text.size || (subject.lines && subject.text[place]? == some '\n')
  | .wordStart => !before && behind
  | .wordEnd => before && !behind
  | .wordEdge => before != behind
  | .noWordEdge => before == behind
  | .textStart => place = 0
  | .textEnd => place = subject.text.size

def between (first last : Nat) : List Char := (subject.text.extract first last).toList

/-- Whether two texts are the same, but for the case where that does not count. -/
def same (left right : List Char) : Bool :=
  if subject.ignoresCase then left.map Char.toLower == right.map Char.toLower else left == right

/-- The end of the characters of a kind from a place on, at most so many. -/
def runEnd (subject : Subject) (holds : Char -> Bool) : Nat -> Nat -> Nat
  | 0, place => place
  | limit + 1, place => match subject.text[place]? with
    | some c => if holds c then subject.runEnd holds limit (place + 1) else place
    | none => place

/-- Ends in descending order, each once; of two ways to an end the left one counts. -/
def merge (subject : Subject) : List Reached -> List Reached -> List Reached
  | [], right => right
  | left, [] => left
  | first :: left, second :: right =>
    if second.place < first.place then first :: subject.merge left (second :: right)
    else if first.place < second.place then second :: subject.merge (first :: left) right
    else if subject.keepsWays && first.groups != second.groups then
      first :: subject.merge left (second :: right)
    else subject.merge (first :: left) right
termination_by left right => left.length + right.length

def through (step : Reached -> List Reached) (starts : List Reached) : List Reached :=
  starts.foldr (fun start others => subject.merge (step start) others) []

/-- The ends behind repetitions.  So many must still come; the limit is on those that may.  Ends
that were reached before lead to nothing new.  -/
def repeatFrom (subject : Subject) (step : Reached -> List Reached) :
    Nat -> Nat -> List Reached -> List Reached -> List Reached
  | 0, _, current, found => subject.merge found current
  | limit + 1, least, current, found => match least with
    | least + 1 => subject.repeatFrom step limit least (subject.through step current) found
    | 0 =>
      let found := subject.merge found current
      let next := (subject.through step current).filter fun reached =>
        if subject.keepsWays then !found.contains reached else !found.any (·.place == reached.place)
      if next.isEmpty then found else subject.repeatFrom step limit 0 next found

end Subject

namespace Regex

/-- The characters of which an expression matches exactly one, if it is of that kind. -/
def single? (subject : Subject) : Regex -> Option (Char -> Bool)
  | .oneOf set => some (subject.holds set)
  | .anyOne => some (fun _ => true)
  | _ => none

/-- The ends of an expression from a place on, in descending order. -/
def ends (subject : Subject) : Regex -> Reached -> List Reached
  | .empty, reached => [reached]
  | .oneOf set, reached => match subject.text[reached.place]? with
    | some c => if subject.holds set c then [{ reached with place := reached.place + 1 }] else []
    | none => []
  | .anyOne, reached =>
    if reached.place < subject.text.size then [{ reached with place := reached.place + 1 }] else []
  | .atPlace anchor, reached => if subject.isAt anchor reached.place then [reached] else []
  | .row first second, reached => subject.through (ends subject second) (ends subject first reached)
  | .either first second, reached =>
    subject.merge (ends subject first reached) (ends subject second reached)
  | .repeated least most part, reached => match single? subject part with
    | some holds =>
      let room := subject.text.size - reached.place
      let last := subject.runEnd holds (min room (most.getD room)) reached.place
      let count := last - reached.place
      if count < least then []
      else (List.range (count - least + 1)).map fun index => { reached with place := last - index }
    | none =>
      let bound := subject.text.size + 2
      let limit := most.getD (least + bound)
      subject.repeatFrom (ends subject part) limit least [reached] []
  | .group number inside, reached =>
    (ends subject inside reached).map fun found =>
      { found with
        groups := (number, reached.place, found.place) :: found.groups.filter (·.1 != number) }
  | .back number, reached => match reached.groups.lookup number with
    | none => []
    | some (first, last) =>
      let size := last - first
      if subject.text.size < reached.place + size then []
      else if subject.same (subject.between first last)
          (subject.between reached.place (reached.place + size)) then
        [{ reached with place := reached.place + size }]
      else []

def hasBack : Regex -> Bool
  | .row first second => first.hasBack || second.hasBack
  | .either first second => first.hasBack || second.hasBack
  | .repeated _ _ part => part.hasBack
  | .group _ inside => inside.hasBack
  | .back _ => true
  | _ => false

end Regex

structure Found where
  start : Nat
  ending : Nat
  groups : Groups
  deriving Repr, DecidableEq

namespace Regex

def matchAt? (regex : Regex) (subject : Subject) (start : Nat) : Option Found :=
  let subject := { subject with keepsWays := regex.hasBack }
  (ends subject regex ⟨start, []⟩).head?.map fun reached => ⟨start, reached.place, reached.groups⟩

def searchFrom (regex : Regex) (subject : Subject) : Nat -> Nat -> Option Found
  | 0, _ => none
  | count + 1, start => match regex.matchAt? subject start with
    | some found => some found
    | none => regex.searchFrom subject count (start + 1)

def search? (regex : Regex) (subject : Subject) (start : Nat) : Option Found :=
  regex.searchFrom subject (subject.text.size + 1 - start) start

end Regex

/-- What a group of a match has matched; the group with the number zero is the whole match. -/
def Found.group? (found : Found) (subject : Subject) (number : Nat) : Option (List Char) :=
  if number = 0 then some (subject.between found.start found.ending)
  else (found.groups.lookup number).map fun (first, last) => subject.between first last

end Text
end BaseLanguage
