import BaseLanguage.Shell.Utility.Options
import BaseLanguage.Text.OrderedPattern.Reader
import BaseLanguage.Text.Regex.Reader

namespace BaseLanguage.Shell

open Text

/-!
# Search

`grep` says the lines of files in which one of its patterns matches, or counts them, or says what
was matched only.
-/

inductive Needle where
  | regex (regex : Regex)
  | fixed (text : Chars)
  | ordered (pattern : OrderedPattern)

structure SearchRequest where
  needles : List Needle
  ignoresCase : Bool := false
  opposite : Bool := false
  words : Bool := false
  lines : Bool := false

namespace SearchRequest

def endsAt (subject : Subject) (needle : Needle) (place : Nat) : List Nat :=
  match needle with
  | .regex regex =>
    let subject := { subject with keepsWays := regex.hasBack }
    (Regex.ends subject regex ⟨place, []⟩).map Reached.place
  | .fixed text =>
    let last := place + text.length
    if subject.text.size < last then []
    else if subject.same text (subject.between place last) then [last]
    else []
  | .ordered pattern => ((pattern.matchAt? { text := subject.text } place).map (·.ending)).toList

variable (request : SearchRequest)

def admits (subject : Subject) (first last : Nat) : Bool :=
  if request.lines then first = 0 && last = subject.text.size
  else if request.words then !subject.isWordBefore first && !subject.isWordAt last
  else true

def longestAt (subject : Subject) (place : Nat) : Option Nat :=
  let ends := request.needles.flatMap fun needle =>
    (endsAt subject needle place).filter (request.admits subject place)
  ends.foldl (fun best last => some (max last (best.getD 0))) none

def firstFrom (request : SearchRequest) (subject : Subject) : Nat -> Nat -> Option (Nat × Nat)
  | 0, _ => none
  | limit + 1, place => match request.longestAt subject place with
    | some last => some (place, last)
    | none => request.firstFrom subject limit (place + 1)

def first? (subject : Subject) (tries place : Nat) : Option (Nat × Nat) :=
  match request.needles with
  | [.ordered pattern] =>
    (pattern.search? { text := subject.text } place).map fun found => (found.start, found.ending)
  | _ => request.firstFrom subject tries place

def allFrom (request : SearchRequest) (subject : Subject) : Nat -> Nat -> List Chars
  | 0, _ => []
  | limit + 1, place => match request.first? subject (subject.text.size + 1 - place) place with
    | none => []
    | some (first, last) =>
      if first < last then subject.between first last :: request.allFrom subject limit last
      else request.allFrom subject limit (last + 1)

def subject (line : Chars) : Subject where
  text := line.toArray
  ignoresCase := request.ignoresCase

def selects (line : Chars) : Bool :=
  let subject := request.subject line
  let tries := if request.lines then 1 else line.length + 1
  (request.first? subject tries 0).isSome != request.opposite

def parts (line : Chars) : List Chars := request.allFrom (request.subject line) (line.length + 2) 0

end SearchRequest

def grepOptions : OptionTable where
  letters := "A:B:C:EFGHILPRSTUVabce:f:hilm:noqrsuvwxyzd:D:!:?::"
  words := [("after-context", 'A'), ("before-context", 'B'), ("context", 'C'),
    ("extended-regexp", 'E'), ("fixed-strings", 'F'), ("basic-regexp", 'G'),
    ("with-filename", 'H'), ("files-without-match", 'L'), ("text", 'a'), ("byte-offset", 'b'),
    ("count", 'c'), ("regexp", 'e'), ("file", 'f'), ("no-filename", 'h'), ("ignore-case", 'i'),
    ("files-with-matches", 'l'), ("max-count", 'm'), ("line-number", 'n'),
    ("only-matching", 'o'), ("quiet", 'q'), ("silent", 'q'), ("recursive", 'r'),
    ("no-messages", 's'), ("invert-match", 'v'), ("word-regexp", 'w'), ("line-regexp", 'x'),
    ("null-data", 'z'), ("color", '?'), ("colour", '?'), ("include", '!'), ("exclude", '!')]
  status := 2

def needlesOf (style : RegexStyle) (fixed : Bool) (patterns : List Chars) :
    Except RegexFault (List Needle) :=
  patterns.mapM fun pattern => do
    if fixed then return .fixed pattern
    else
      let (regex, _) <- Regex.parse style pattern
      return .regex regex

def surroundedPattern (words lines : Bool) (pattern : OrderedPattern) : OrderedPattern :=
  let isWord : OrderedPattern := .oneOf false [.word] false
  if lines then .row (.at .textStart) (.row pattern (.at .textEnd))
  else if words then .row (.behind true isWord) (.row pattern (.ahead true isWord))
  else pattern

def orderedNeedles (ignoresCase words lines : Bool) (patterns : List Chars) :
    Except String (List Needle) :=
  match patterns with
  | [pattern] => match OrderedPattern.parse {} { ignoresCase, lines := true } pattern with
    | .ok found => .ok [.ordered (surroundedPattern words lines found.pattern)]
    | .error fault => .error fault.kind.message
  | [] => .ok []
  | _ => .error "the -P option only supports a single pattern"

structure SearchShowing where
  counts : Bool := false
  names : Bool := false
  onlyNames : Option Bool := none
  numbers : Bool := false
  offsets : Bool := false
  parts : Bool := false
  quiet : Bool := false
  most : Option Nat := none
  before : Nat := 0
  after : Nat := 0
  ending : Char := '\n'

def lineFront (showing : SearchShowing) (name : String) (sign : Char) (number offset : Nat) :
    Chars :=
  (if showing.names then name.toList ++ [sign] else []) ++
    (if showing.numbers then decimal number ++ [sign] else []) ++
    (if showing.offsets then decimal offset ++ [sign] else [])

/-- The lines of a file with their numbers, offsets, and whether they are selected; those behind the
last that counts are not. -/
def selectedLines (request : SearchRequest) (most : Option Nat) (lines : List Chars) :
    List (Chars × Nat × Nat × Bool) :=
  (lines.foldl
    (fun ((found, number, offset, left) :
        List (Chars × Nat × Nat × Bool) × Nat × Nat × Option Nat) line =>
      let selected := left != some 0 && request.selects line
      let left := if selected then left.map (· - 1) else left
      ((line, number, offset, selected) :: found, number + 1, offset + line.length + 1, left))
    ([], 1, 0, most)).1.reverse

def isNear (showing : SearchShowing) (chosen : List Nat) (number : Nat) : Bool :=
  chosen.any fun line => line <= number + showing.before && number <= line + showing.after

def foundText (request : SearchRequest) (showing : SearchShowing) (name : String)
    (lines : List (Chars × Nat × Nat × Bool)) : Chars :=
  let chosen := lines.filter (·.2.2.2)
  let whole (sign : Char) (line : Chars × Nat × Nat × Bool) : Chars :=
    lineFront showing name sign line.2.1 line.2.2.1 ++ line.1 ++ [showing.ending]
  if showing.parts then
    if request.opposite then []
    else
      chosen.flatMap fun line =>
        (request.parts line.1).flatMap fun part =>
          lineFront showing name ':' line.2.1 line.2.2.1 ++ part ++ [showing.ending]
  else if showing.before = 0 && showing.after = 0 then chosen.flatMap (whole ':')
  else
    let numbers := chosen.map (·.2.1)
    let near := lines.filter (isNear showing numbers ·.2.1)
    (near.foldl
      (fun ((said, last) : List Chars × Option Nat) line =>
        let gap := last.any (· + 1 < line.2.1)
        let text := whole (if line.2.2.2 then ':' else '-') line
        ((if gap then ['-', '-', '\n'] ++ text else text) :: said, some line.2.1))
      ([], none)).1.reverse.flatten

def searchFile (program : String) (request : SearchRequest) (showing : SearchShowing)
    (name : String) (text : Chars) : Act Bool := do
  let lines := selectedLines request showing.most (linesOf showing.ending text)
  let count := (lines.filter (·.2.2.2)).length
  let shown := if name = "-" then "(standard input)" else name
  let isBinary := text.contains (Char.ofNat 0) && showing.ending = '\n'
  if showing.quiet then return 0 < count
  else match showing.onlyNames with
    | some wanted =>
      if (0 < count) = wanted then discard <| answerLines program [shown]
      return 0 < count
    | none =>
      if showing.counts then
        let front := if showing.names then shown ++ ":" else ""
        discard <| answerLines program [front ++ numberText count]
      else if isBinary && 0 < count then
        discard <| complain program s!"{shown}: binary file matches"
      else discard <| answerText program (foundText request showing shown lines)
      return 0 < count

def filesBelow (tree : FileTree) (name : String) : List String :=
  match tree.locate (pathOf name) with
  | .error _ => []
  | .ok place =>
    let front := if name.endsWith "/" then name else name ++ "/"
    (tree.below place).filterMap fun (names, entry) => match entry.node with
      | .file _ => some (front ++ "/".intercalate (names.map toOctets))
      | _ => none

def grepWith (usual : Option Char) : Utility := fun program arguments => do
  match grepOptions.read arguments with
  | .error message =>
    complainWith misuse program
      s!"{message}\nUsage: {program} [OPTION]... PATTERNS [FILE]...\n{helpHint program}"
  | .ok call =>
    let written := call.allArguments 'e'
    let files <- (call.allArguments 'f').mapM readOperand
    let faults := ((call.allArguments 'f').zip files).filterMap fun (name, content) =>
      match content with
      | .error fault => some s!"{name}: {fault}"
      | .ok _ => none
    if let fault :: _ := faults then return <- complainWith misuse program fault
    let fromFiles := (files.filterMap Except.toOption).map (fun bytes =>
      linesOf '\n' (octetsOf bytes))
    let (texts, names) : List Chars × List String :=
      if written.isEmpty && files.isEmpty then
        ((call.operands.take 1).flatMap (pieces '\n' ·.toList), call.operands.drop 1)
      else (written.flatMap (pieces '\n' ·.toList) ++ fromFiles.flatten, call.operands)
    if written.isEmpty && files.isEmpty && call.operands.isEmpty then
      discard <| putText standardError
        s!"Usage: {program} [OPTION]... PATTERNS [FILE]...\n{helpHint program}\n"
      return misuse
    else
      let kind := (call.lastOf ['E', 'F', 'G', 'P']).orElse (fun _ => usual)
      let style : RegexStyle := { extended := kind = some 'E', lenient := true }
      let ignoresCase := call.has 'i' || call.has 'y'
      let needles : Except String (List Needle) :=
        if kind = some 'P' then orderedNeedles ignoresCase (call.has 'w') (call.has 'x') texts
        else (needlesOf style (kind = some 'F') texts).mapError RegexFault.message
      match needles with
      | .error fault => complainWith misuse program fault
      | .ok needles =>
        let number (letter : Char) : Option Nat := (call.argument? letter).bind digitsValue?
        let request : SearchRequest := {
          needles
          ignoresCase
          opposite := call.has 'v'
          words := call.has 'w'
          lines := call.has 'x' }
        let recursive := call.has 'r' || call.has 'R'
        let showing : SearchShowing := {
          counts := call.has 'c'
          names := !call.has 'h' && (call.has 'H' || recursive || 1 < names.length)
          onlyNames := (call.lastOf ['l', 'L']).map (· == 'l')
          numbers := call.has 'n'
          offsets := call.has 'b'
          parts := call.has 'o'
          quiet := call.has 'q'
          most := number 'm'
          before := ((number 'B').orElse fun _ => number 'C').getD 0
          after := ((number 'A').orElse fun _ => number 'C').getD 0
          ending := if call.has 'z' then Char.ofNat 0 else '\n' }
        let tree := (<- get).files
        let names := if names.isEmpty then [if recursive then "." else "-"] else names
        let names := names.flatMap fun name =>
          if recursive && tree.hasFolder (pathOf name) then filesBelow tree name else [name]
        let step (state : Bool × Bool) (name : String) : Act (Bool × Bool) := do
          let (found, failed) := state
          match <- readOperand name with
          | .ok bytes =>
            let selected <- searchFile program request showing name (octetsOf bytes)
            return (found || selected, failed)
          | .error fault =>
            if !call.has 's' then discard <| complain program s!"{name}: {fault}"
            return (found, true)
        let (found, failed) <- names.foldlM step (false, false)
        if failed && !(call.has 'q' && found) then return misuse else return statusOf found

def grep : Utility := grepWith none

end BaseLanguage.Shell
