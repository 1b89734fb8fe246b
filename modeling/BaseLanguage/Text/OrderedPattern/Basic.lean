import BaseLanguage.Text.CharClass

namespace BaseLanguage
namespace Text

/-!
# Ordered patterns

An ordered pattern says in which order ways to match a text are tried: the first way that leads on
to the end of the pattern counts, whether it is the longest or not.  So a pattern may take as much
as it can or as little, may look ahead and behind, and may give up what it has tried.

A pattern is run with what follows it: a function from where the pattern has come to, to the end of
the whole.  The first argument bounds the depth, so that every search comes to an end.
-/

inductive CharKind where
  | range (first last : Char)
  | digit
  | word
  | space
  /-- Blanks inside a line. -/
  | blank
  /-- The ends of lines. -/
  | lineEnd
  | named (name : String)
  | opposite (kind : CharKind)
  deriving Repr, DecidableEq

inductive Spot where
  | textStart
  | textEnd
  /-- The end of the text, or the end of its last line. -/
  | lastLineEnd
  | lineStart
  | lineEnd
  | wordEdge
  | noWordEdge
  | searchStart
  deriving Repr, DecidableEq

/-- How much a repeated part takes: as much as it can, as little as it can, or as much as it can
without giving anything back. -/
inductive Greed where
  | most
  | least
  | all
  deriving Repr, DecidableEq

inductive OrderedPattern where
  | empty
  | never
  | exactly (c : Char) (ignoresCase : Bool)
  | oneOf (isOpposite : Bool) (kinds : List CharKind) (ignoresCase : Bool)
  /-- Any character, the ends of lines only if so said. -/
  | anyOne (withLineEnds : Bool)
  | at (spot : Spot)
  | row (first second : OrderedPattern)
  | either (first second : OrderedPattern)
  | repeated (least : Nat) (most : Option Nat) (greed : Greed) (part : OrderedPattern)
  | group (number : Nat) (inside : OrderedPattern)
  | back (number : Nat) (ignoresCase : Bool)
  | ahead (isOpposite : Bool) (inside : OrderedPattern)
  | behind (isOpposite : Bool) (inside : OrderedPattern)
  /-- The first way to match counts, and no other. -/
  | atomic (inside : OrderedPattern)
  /-- What was matched so far does not count. -/
  | keep
  /-- The inside of a group again. -/
  | again (number : Nat)
  | ifGroup (number : Nat) (whenMatched otherwise : OrderedPattern)
  deriving Repr, DecidableEq

structure Searched where
  text : Array Char
  isWide : Bool := false
  start : Nat := 0

/-- Whether a character is a letter or a digit of some script; those of the first page are known,
of others the signs. -/
def isWideAlphanumeric (c : Char) : Bool :=
  let code := c.toNat
  if code < 0x80 then isAlphanumeric c
  else if code < 0x100 then
    [0xaa, 0xb2, 0xb3, 0xb5, 0xb9, 0xba, 0xbc, 0xbd, 0xbe].contains code ||
      (0xc0 ≤ code && code ≠ 0xd7 && code ≠ 0xf7)
  else
    !((0x2000 ≤ code && code < 0x2070) || (0x20a0 ≤ code && code < 0x2100) ||
      (0x2190 ≤ code && code < 0x2460) || (0x2500 ≤ code && code < 0x2c00) ||
      (0x3000 ≤ code && code < 0x3005) || (0x3008 ≤ code && code < 0x3021) ||
      (0xe000 ≤ code && code < 0xf900) || (0xff00 ≤ code && code < 0xff10) ||
      (0x1f000 ≤ code && code < 0x20000))

/-- The blanks of some script. -/
def isWideSpace (c : Char) : Bool :=
  let code := c.toNat
  isSpace c || code = 0x85 || code = 0xa0 || code = 0x1680 || (0x2000 ≤ code && code ≤ 0x200a) ||
    code = 0x2028 || code = 0x2029 || code = 0x202f || code = 0x205f || code = 0x3000 ||
    (0x1c ≤ code && code ≤ 0x1f)

namespace CharKind

def holds (isWide : Bool) : CharKind -> Char -> Bool
  | .range first last, c => first ≤ c && c ≤ last
  | .digit, c => isDigit c
  | .word, c => c = '_' || (if isWide then isWideAlphanumeric c else isAlphanumeric c)
  | .space, c => if isWide then isWideSpace c else isSpace c
  | .blank, c => c = ' ' || c = '\t'
  | .lineEnd, c => '\n' ≤ c && c ≤ '\r'
  | .named name, c => (namedClass? name).any (fun isMember => isMember c)
  | .opposite kind, c => !holds isWide kind c

end CharKind

structure Standing where
  place : Nat
  /-- Where what counts begins. -/
  start : Nat
  /-- The starts and ends of groups, the last one first. -/
  groups : List (Nat × Nat × Nat) := []
  deriving Repr, DecidableEq

namespace Searched

variable (searched : Searched)

def isWordAt (place : Nat) : Bool :=
  (searched.text[place]?).any (CharKind.word.holds searched.isWide)

def isAt (spot : Spot) (place : Nat) : Bool :=
  let size := searched.text.size
  let atEdge := (place ≠ 0 && searched.isWordAt (place - 1)) != searched.isWordAt place
  match spot with
  | .textStart => place = 0
  | .textEnd => place = size
  | .lastLineEnd => place = size || (place + 1 = size && searched.text[place]? == some '\n')
  | .lineStart => place = 0 || searched.text[place - 1]? == some '\n'
  | .lineEnd => place = size || searched.text[place]? == some '\n'
  | .wordEdge => atEdge
  | .noWordEdge => !atEdge
  | .searchStart => place = searched.start

def isOneOf (isOpposite : Bool) (kinds : List CharKind) (ignoresCase : Bool) (c : Char) : Bool :=
  let among (c : Char) : Bool := kinds.any (·.holds searched.isWide c)
  (among c || (ignoresCase && (among c.toLower || among c.toUpper))) != isOpposite

def between (first last : Nat) : List Char := (searched.text.extract first last).toList

/-- Whether characters are the same, but for the case where that does not count. -/
def same (ignoresCase : Bool) (left right : Char) : Bool :=
  left = right || (ignoresCase && left.toLower = right.toLower)

/-- The end of the characters of a kind from a place on, at most so many. -/
def runEnd (searched : Searched) (holds : Char -> Bool) : Nat -> Nat -> Nat
  | 0, place => place
  | limit + 1, place => match searched.text[place]? with
    | some c => if holds c then searched.runEnd holds limit (place + 1) else place
    | none => place

end Searched

namespace OrderedPattern

/-- The characters of which a pattern matches exactly one, if it is of that kind. -/
def single? (searched : Searched) : OrderedPattern -> Option (Char -> Bool)
  | .exactly c ignoresCase => some (Searched.same ignoresCase c)
  | .oneOf isOpposite kinds ignoresCase => some (searched.isOneOf isOpposite kinds ignoresCase)
  | .anyOne withLineEnds => some (withLineEnds || · ≠ '\n')
  | _ => none

def inside? (number : Nat) : OrderedPattern -> Option OrderedPattern
  | .row first second => (inside? number first).orElse fun _ => inside? number second
  | .either first second => (inside? number first).orElse fun _ => inside? number second
  | .repeated _ _ _ part => inside? number part
  | .group other inside => if other = number then some inside else inside? number inside
  | .ahead _ inside => inside? number inside
  | .behind _ inside => inside? number inside
  | .atomic inside => inside? number inside
  | .ifGroup _ first second => (inside? number first).orElse fun _ => inside? number second
  | _ => none

def tryDown (next : Standing -> Option Standing) (standing : Standing) (least : Nat) :
    Nat -> Option Standing
  | 0 => next { standing with place := least }
  | more + 1 => match next { standing with place := least + (more + 1) } with
    | some found => some found
    | none => tryDown next standing least more

def tryUp (next : Standing -> Option Standing) (standing : Standing) : Nat -> Nat -> Option Standing
  | place, 0 => next { standing with place }
  | place, more + 1 => match next { standing with place } with
    | some found => some found
    | none => tryUp next standing (place + 1) more

/-- Whether some of so many starts in front of a place lead to it. -/
def endsAt (run : Standing -> Option Standing) (standing : Standing) : Nat -> Option Standing
  | 0 => run { standing with place := 0 }
  | start + 1 => match run { standing with place := start + 1 } with
    | some found => some found
    | none => endsAt run standing start

/-- Runs a pattern, and what follows it.  The whole pattern is what a part may call for again. -/
def run (searched : Searched) (whole : OrderedPattern) :
    Nat -> OrderedPattern -> (Standing -> Option Standing) -> Standing -> Option Standing
  | 0, _, _, _ => none
  | limit + 1, pattern, next, standing =>
    let place := standing.place
    match pattern with
    | .empty => next standing
    | .never => none
    | .exactly c ignoresCase => match searched.text[place]? with
      | some found =>
        if Searched.same ignoresCase c found then next { standing with place := place + 1 }
        else none
      | none => none
    | .oneOf isOpposite kinds ignoresCase => match searched.text[place]? with
      | some found =>
        if searched.isOneOf isOpposite kinds ignoresCase found then
          next { standing with place := place + 1 }
        else none
      | none => none
    | .anyOne withLineEnds => match searched.text[place]? with
      | some found =>
        if withLineEnds || found ≠ '\n' then next { standing with place := place + 1 } else none
      | none => none
    | .at spot => if searched.isAt spot place then next standing else none
    | .row first second =>
      run searched whole limit first (run searched whole limit second next) standing
    | .either first second => match run searched whole limit first next standing with
      | some found => some found
      | none => run searched whole limit second next standing
    | .repeated least most greed part => match single? searched part with
      | some holds =>
        let room := searched.text.size - place
        let last := searched.runEnd holds (min room (most.getD room)) place
        let count := last - place
        if count < least then none
        else match greed with
          | .most => tryDown next standing (place + least) (count - least)
          | .least => tryUp next standing (place + least) (count - least)
          | .all => next { standing with place := last }
      | none => match greed with
        | .all =>
          let whole? := repeatPart limit part least most true some standing
          whole?.bind next
        | greed => repeatPart limit part least most (greed = .most) next standing
    | .group number inside =>
      run searched whole limit inside
        (fun found =>
          let others := found.groups.filter (·.1 != number)
          next { found with groups := (number, place, found.place) :: others })
        standing
    | .back number ignoresCase => match standing.groups.lookup number with
      | none => none
      | some (first, last) =>
        let size := last - first
        let there := searched.between place (place + size)
        let matched := searched.between first last
        if there.length = size &&
            (there.zip matched).all (fun pair => Searched.same ignoresCase pair.1 pair.2) then
          next { standing with place := place + size }
        else none
    | .ahead isOpposite inside =>
      match run searched whole limit inside some standing, isOpposite with
      | some found, false => next { found with place, start := standing.start }
      | none, true => next standing
      | _, _ => none
    | .behind isOpposite inside =>
      let isHere (found : Standing) : Option Standing :=
        if found.place = place then some found else none
      match endsAt (run searched whole limit inside isHere) standing place, isOpposite with
      | some found, false => next { found with place, start := standing.start }
      | none, true => next standing
      | _, _ => none
    | .atomic inside => (run searched whole limit inside some standing).bind next
    | .keep => next { standing with start := place }
    | .again number =>
      let inside := if number = 0 then some whole else inside? number whole
      match inside with
      | some inside =>
        run searched whole limit inside
          (fun found => next { found with groups := standing.groups }) standing
      | none => none
    | .ifGroup number whenMatched otherwise =>
      if (standing.groups.lookup number).isSome then
        run searched whole limit whenMatched next standing
      else run searched whole limit otherwise next standing
where
  /-- Runs a part so many times at least and at most, and what follows it.  Behind a part that
  took nothing, what follows is next. -/
  repeatPart (limit : Nat) (part : OrderedPattern) (least : Nat) (most : Option Nat)
      (isGreedy : Bool) (next : Standing -> Option Standing) (standing : Standing) :
      Option Standing :=
    match limit with
    | 0 => none
    | limit + 1 =>
      let again (_ : Unit) : Option Standing :=
        if most == some 0 then none
        else
          run searched whole limit part
            (fun found =>
              if found.place = standing.place && least = 0 then next found
              else repeatPart limit part (least - 1) (most.map (· - 1)) isGreedy next found)
            standing
      if 0 < least then again ()
      else if isGreedy then
        match again () with
        | some found => some found
        | none => next standing
      else match next standing with
        | some found => some found
        | none => again ()

def deepestSearch : Nat := 10000000

end OrderedPattern

/-- A part of a text that an ordered pattern matches, with its groups. -/
structure OrderedFound where
  start : Nat
  ending : Nat
  groups : List (Nat × Nat × Nat)
  deriving Repr, DecidableEq

namespace OrderedPattern

def matchAt? (pattern : OrderedPattern) (searched : Searched) (start : Nat) : Option OrderedFound :=
  (run searched pattern deepestSearch pattern some ⟨start, start, []⟩).map fun found =>
    ⟨found.start, found.place, found.groups⟩

def searchFrom (pattern : OrderedPattern) (searched : Searched) : Nat -> Nat -> Option OrderedFound
  | 0, _ => none
  | count + 1, start => match pattern.matchAt? searched start with
    | some found => some found
    | none => pattern.searchFrom searched count (start + 1)

def search? (pattern : OrderedPattern) (searched : Searched) (start : Nat) : Option OrderedFound :=
  pattern.searchFrom { searched with start } (searched.text.size + 1 - start) start

end OrderedPattern

/-- What a group of a match has matched; the group with the number zero is the whole match. -/
def OrderedFound.group? (found : OrderedFound) (searched : Searched) (number : Nat) :
    Option (List Char) :=
  if number = 0 then some (searched.between found.start found.ending)
  else (found.groups.lookup number).map fun (first, last) => searched.between first last

end Text
end BaseLanguage
