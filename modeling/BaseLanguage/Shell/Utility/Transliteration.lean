import BaseLanguage.Shell.Utility.Options

namespace BaseLanguage.Shell

open Text

/-!
# Transliteration

`tr` replaces the characters of a set by those of another one, in the same places.  It may drop
characters instead, and leave only one of those that follow each other.
-/

inductive SetPart where
  | one (c : Char)
  | range (first last : Char)
  | named (name : String)
  | repeated (c : Char) (count : Nat)
  deriving DecidableEq

namespace SetPart

def chars (filling : Nat) : SetPart -> Chars
  | .one c => [c]
  | .range first last =>
    (List.range (last.toNat + 1 - first.toNat)).map (fun step => Char.ofNat (first.toNat + step))
  | .named name =>
    ((List.range 256).map Char.ofNat).filter fun c =>
      (namedClass? name).any (fun isMember => isMember c)
  | .repeated c count => List.replicate (if count = 0 then filling else count) c

end SetPart

def setChar : Chars -> Option (Char × Bool × Chars)
  | [] => none
  | ['\\'] => some ('\\', false, [])
  | '\\' :: c :: rest =>
    if isOctalDigit c then
      let digits := (c :: rest).take 3 |>.takeWhile isOctalDigit
      let digits := if valueInBase 8 digits < 256 then digits else digits.take 2
      some (Char.ofNat (valueInBase 8 digits), true, (c :: rest).drop digits.length)
    else if c = 'e' then some ('e', true, rest)
    else some ((controlOctet? c).getD c, true, rest)
  | c :: rest => some (c, false, rest)

def bracketedPart (sign : Char) : Chars -> Option (Chars × Chars)
  | '[' :: c :: inside =>
    if c != sign then none
    else
      let found := inside.takeWhile (· != sign)
      match inside.drop found.length with
      | d :: ']' :: rest => if d = sign then some (found, rest) else none
      | _ => none
  | _ => none

def repeatedPart : Chars -> Option (SetPart × Chars)
  | '[' :: inside => match setChar inside with
    | some (c, _, '*' :: rest) =>
      let digits := rest.takeWhile isDigit
      match rest.drop digits.length with
      | ']' :: behind =>
        let count := if digits.head? == some '0' then valueInBase 8 digits else valueOf digits
        some (.repeated c count, behind)
      | _ => none
    | _ => none
  | _ => none

def shownSetChar (c : Char) : String :=
  if isVisible c then .singleton c else .ofList ('\\' :: octalTriple c.toNat)

def setParts : Nat -> Chars -> Except String (List SetPart)
  | 0, _ => .ok []
  | _, [] => .ok []
  | limit + 1, text => match bracketedPart ':' text, bracketedPart '=' text, repeatedPart text with
    | some (name, rest), _, _ => do
      let name := .ofList name
      if (namedClass? name).isNone then throw s!"invalid character class '{name}'"
      return .named name :: (<- setParts limit rest)
    | _, some ([c], rest), _ => do return .one c :: (<- setParts limit rest)
    | _, _, some (part, rest) => do return part :: (<- setParts limit rest)
    | _, _, _ => match setChar text with
      | none => .ok []
      | some (first, _, '-' :: behind) => match setChar behind with
        | none => do return .one first :: (<- setParts limit ('-' :: behind))
        | some (last, _, rest) => do
          if last < first then
            let shown := s!"{shownSetChar first}-{shownSetChar last}"
            throw s!"range-endpoints of '{shown}' are in reverse collating sequence order"
          return .range first last :: (<- setParts limit rest)
      | some (c, _, rest) => do return .one c :: (<- setParts limit rest)

def readSet (text : String) : Except String (List SetPart) := setParts (text.length + 1) text.toList

def setChars (length : Nat) (parts : List SetPart) : Chars :=
  let fixed := (parts.flatMap (SetPart.chars 0)).length
  parts.flatMap (SetPart.chars (length - fixed))

def complementOf (set : Chars) : Chars := ((List.range 256).map Char.ofNat).filter (!set.contains ·)

def replacementTable (first second : Chars) : Array Char :=
  (first.zip second).foldl (fun table (old, new) => table.setIfInBounds old.toNat new)
    ((Array.range 256).map Char.ofNat)

def memberTable (set : Chars) : Array Bool :=
  set.foldl (fun table c => table.setIfInBounds c.toNat true) (Array.replicate 256 false)

def squeeze (members : Array Bool) (text : Chars) : Chars :=
  (text.foldl
    (fun (found : Chars) c =>
      if found.head? == some c && members.getD c.toNat false then found else c :: found)
    []).reverse

structure Transliteration where
  drops : Bool
  squeezes : Bool
  first : Chars
  second : Option Chars

namespace Transliteration

def filledSecond (change : Transliteration) : Chars :=
  let second := change.second.getD []
  match second.getLast? with
  | none => []
  | some last => second ++ List.replicate (change.first.length - second.length) last

def looksBack (change : Transliteration) : Bool := change.squeezes

def apply (change : Transliteration) (text : Chars) : Chars :=
  let members := memberTable change.first
  let table := replacementTable change.first change.filledSecond
  let changed :=
    if change.drops then text.filter (!members.getD ·.toNat false)
    else if change.second.isSome then text.map (fun c => table.getD c.toNat c)
    else text
  if change.squeezes then squeeze (memberTable (change.second.getD change.first)) changed
  else changed

end Transliteration

def trOptions : OptionTable where
  letters := "cCdst"
  words := [("complement", 'c'), ("delete", 'd'), ("squeeze-repeats", 's'), ("truncate-set1", 't')]
  mixes := false

def setCountFault? (drops squeezes : Bool) (operands : List String) : Option String :=
  let needed := if drops == squeezes then 2 else 1
  let most := if drops && !squeezes then 1 else 2
  match operands with
  | [] => some "missing operand"
  | [only] =>
    if needed = 2 then
      let reason :=
        if drops then "Two strings must be given when both deleting and squeezing repeats."
        else "Two strings must be given when translating."
      some s!"missing operand after {plainlyQuoted only}\n{reason}"
    else none
  | operands => match operands[most]? with
    | none => none
    | some extra =>
      let reason :=
        if most = 1 then "\nOnly one string may be given when deleting without squeezing repeats."
        else ""
      some s!"extra operand {plainlyQuoted extra}{reason}"

def SetPart.isCase (part : SetPart) : Bool := part = .named "upper" || part = .named "lower"

/-- The items of a set behind so many characters.  What is left of an item that is cut stands for
its characters only. -/
def dropChars : Nat -> List SetPart -> List SetPart
  | 0, parts => parts
  | _, [] => []
  | count, part :: rest =>
    let chars := part.chars 0
    if count < chars.length then (chars.drop count).map .one ++ rest
    else dropChars (count - chars.length) rest

def isMisaligned : List SetPart -> List SetPart -> Bool
  | _, [] => false
  | first, part :: rest =>
    if part.isCase then
      match first with
      | found :: behind => !found.isCase || isMisaligned behind rest
      | [] => true
    else
      let size := (part.chars 0).length
      if (setChars 0 first).length < size then false else isMisaligned (dropChars size first) rest

def secondSetFault? (first : Chars) (firstParts parts : List SetPart)
    (truncates complements : Bool) : Option String :=
  let second := setChars first.length parts
  let endsInClass := parts.getLast?.any SetPart.isCase
  let other (part : SetPart) : Bool := match part with
    | .named name => name != "upper" && name != "lower"
    | _ => false
  if parts.any other then
    some ("when translating, the only character classes that may appear in\n" ++
      "string2 are 'upper' and 'lower'")
  else if !complements && isMisaligned firstParts parts then
    some "misaligned [:upper:] and/or [:lower:] construct"
  else if second.isEmpty && !truncates && !first.isEmpty then
    some "when not truncating set1, string2 must be non-empty"
  else if second.length < first.length && !truncates && endsInClass then
    some ("when translating with string1 longer than string2,\n" ++
      "the latter string must not end with a character class")
  else if complements && second.eraseDups.length > 1 && second.length < first.length then
    some ("when translating with complemented character classes,\n" ++
      "string2 must map all characters in the domain to one")
  else none

def tr : Utility :=
  withOptions trOptions fun program call => do
    let drops := call.has 'd'
    let squeezes := call.has 's'
    let complements := call.has 'c' || call.has 'C'
    match setCountFault? drops squeezes call.operands with
    | some fault => complainOfCall program fault
    | none => match call.operands.mapM readSet with
      | .error fault => complain program fault
      | .ok sets =>
        let given := setChars 0 (sets.headD [])
        let first := if complements then complementOf given else given
        let second? := sets[1]?
        let translates := !drops && second?.isSome
        let fault? :=
          if translates then
            secondSetFault? first (sets.headD []) (second?.getD []) (call.has 't') complements
          else none
        match fault? with
        | some fault => complain program fault
        | none =>
          let second := second?.map (setChars first.length)
          let size := (second.getD []).length
          let first := if call.has 't' && translates then first.take size else first
          let change : Transliteration := ⟨drops, squeezes, first, second⟩
          if !(<- canRead standardInput) then complain program "read error: Bad file descriptor"
          else if change.looksBack then
            let bytes := (<- takeAll standardInput).getD .empty
            answerText program (change.apply (octetsOf bytes))
          else passOn fun bytes => answerText program (change.apply (octetsOf bytes))

end BaseLanguage.Shell
