import BaseLanguage.Text.Numeral
import BaseLanguage.Text.Pieces

namespace BaseLanguage.Shell

/-!
# Shell scripts

A script is a row of commands.  Words are written in pieces; what takes the place of a piece when a
command runs depends on the variables, and may be what other commands say.  So words and commands
are defined together.

There are two kinds of shells.  What the plain one understands, the extended one does too, with a
few differences; rows of values, conditions in double brackets and sums as commands are known to the
extended one only.
-/

inductive ShellKind where
  | plain
  | extended
  deriving DecidableEq

inductive Fallback where
  | use
  | assign
  | demand
  | replace

inductive Occurrence where
  | first
  | all
  | front
  | back

inductive Recasing where
  | upper
  | lower
  | toggle
  deriving DecidableEq

inductive ArmEnding where
  | done
  | fallThrough
  | tryNext

inductive StreamName where
  | number (value : Nat)
  | held (name : Chars)

mutual

/-- A piece of a word.  What takes the place of a piece is cut at blanks unless it is quoted. -/
inductive WordPart where
  | text (quoted : Bool) (octets : Chars)
  | parameter (quoted : Bool) (name : Chars) (index : Index) (form : Form)
  | output (quoted : Bool) (body : List Command)
  | sum (quoted : Bool) (expression : List WordPart)
  | said (reads : Bool) (body : List Command)

inductive Index where
  | only
  | each
  | joined
  | at (expression : List WordPart)

inductive Form where
  | value
  | length
  | wrong (octets : Chars)
  | fallback (empty : Bool) (kind : Fallback) (word : List WordPart)
  | trim (front longest : Bool) (pattern : List WordPart)
  | slice (offset : List WordPart) (count : Option (List WordPart))
  | substitute (occurrence : Occurrence) (pattern replacement : List WordPart)
  | recase (recasing : Recasing) (all : Bool) (pattern : List WordPart)
  | indices
  | indirect
  | names
  | transform (letter : Char)

inductive Target where
  | readFrom (file : List WordPart)
  | writeTo (forced : Bool) (file : List WordPart)
  | appendTo (file : List WordPart)
  | readAndWrite (file : List WordPart)
  | sameAs (stream : List WordPart)
  | bothTo (append : Bool) (file : List WordPart)
  | here (body : List WordPart)

inductive Redirection where
  | turn (stream : StreamName) (target : Target)

inductive Assignment where
  | value (name : Chars) (index : Index) (append : Bool) (word : List WordPart)
  | row (name : Chars) (append : Bool) (text : Chars) (elements : List Assignment)
  | element (word : List WordPart)

inductive Command where
  | simple (line : Nat) (text : Chars) (assignments : List Assignment)
      (words : List (List WordPart)) (redirections : List Redirection)
  | group (body : List Command)
  | redirected (line : Nat) (body : Command) (redirections : List Redirection)
  | enclosed (line : Nat) (body : List Command) (redirections : List Redirection)
  | pipeline (stages : List Command)
  | negated (command : Command)
  | timed (command : Command)
  | both (first second : Command)
  | either (first second : Command)
  | background (command : Command)
  | partner (line : Nat) (name : Chars) (command : Command)
  | conditional (test success failure : List Command)
  | loop (outcome : Bool) (test body : List Command)
  /-- The body runs for each word, or for each argument of the script.  The text is that of the
  command in front of the body. -/
  | forEach (line : Nat) (text name : Chars) (words : Option (List (List WordPart)))
      (body : List Command)
  | menu (line : Nat) (text name : Chars) (words : Option (List (List WordPart)))
      (body : List Command)
  | choice (line : Nat) (text : Chars) (subject : List WordPart) (arms : List Arm)
  | define (line : Nat) (name : Chars) (body : Command)
  | compute (line : Nat) (expression : List WordPart)
  | forSum (line : Nat) (start test next : List WordPart) (body : List Command)
  | check (line : Nat) (condition : Condition)

/-- Patterns, commands that run for what they match, and what comes next. -/
inductive Arm where
  | arm (patterns : List (List WordPart)) (body : List Command) (ending : ArmEnding)

inductive Condition where
  | holds (word : List WordPart)
  | unary (operator : String) (operand : List WordPart)
  | binary (operator : String) (left right : List WordPart)
  | opposite (condition : Condition)
  | both (first second : Condition)
  | either (first second : Condition)

end

abbrev Word := List WordPart

namespace Word

def bare? : Word -> Option Chars
  | [.text false octets] => some octets
  | _ => none

def literal? (word : Word) : Option Chars :=
  let texts : List (Option Chars) := word.map fun
    | .text _ octets => some octets
    | _ => none
  (texts.mapM id).map List.flatten

def hasQuotes (word : Word) : Bool :=
  word.any fun
    | .text quoted _ => quoted
    | _ => false

end Word

/-!
## Sources

A script is read from a source, character by character, and the source counts the lines.  A
backslash at the end of a line joins it with the next one.

The text of a here-document stands behind the line that asks for it.  It is taken out of the source
when it is asked for, and its lines are counted when the line ends.
-/

inductive Token where
  | word (word : Word)
  | keyword (text : String)
  | operator (text : String)
  | redirection (stream : Option StreamName) (operator : String)
  | newline
  | ending

inductive ScriptFault where
  | unexpected (found : Token) (expected : Option String)
  | unclosed (closing : Char)
  | missing (closing : String)
  | unclosedOutput
  | badCondition (found : Token)
  | badLoopVariable
  | badFunctionName
  | badStream
  | tooDeep

structure ScriptError where
  line : Nat
  fault : ScriptFault
  settled : Bool := false
  status : Nat := 2

structure Source where
  rest : Chars
  line : Nat := 1
  skipped : Nat := 0
  kind : ShellKind := .plain
  start : Chars := []
  pending : Option Token := none
  aliases : List (String × String) := []
  groups : Bool := false
  endless : List (Nat × Chars) := []
  expanding : List (String × Nat) := []

abbrev Reading := StateT Source (Except ScriptError)

namespace Source

def joined : Chars -> Chars × Nat
  | '\\' :: '\n' :: rest =>
    let (text, count) := joined rest
    (text, count + 1)
  | text => (text, 0)

def endLine (source : Source) : Source :=
  { source with line := source.line + 1 + source.skipped, skipped := 0 }

structure Document where
  text : Chars := []
  lines : Nat := 0
  ended : Bool := false
  behind : List Chars := []

/-- Splits off the text of a here-document, up to the line that is the mark.  Lines may be joined.
-/
def splitDocument (mark : Chars) (tabs joins continued : Bool) : List Chars -> Document
  | [] => {}
  | line :: rest =>
    let line := if tabs && !continued then line.dropWhile (· == '\t') else line
    if line == mark && !continued then { lines := 1, ended := true, behind := rest }
    else if rest.isEmpty then { text := line }
    else
      let slashes := (line.reverse.takeWhile (· == '\\')).length
      let others := splitDocument mark tabs joins (joins && slashes % 2 == 1) rest
      { others with text := line ++ '\n' :: others.text, lines := others.lines + 1 }

end Source

def isExtended : Reading Bool := return (<- get).kind == .extended

def faulty (fault : ScriptFault) : Reading α := do throw { line := (<- get).line, fault }

/-- Reads something that must have an end.  In an extended shell, what is wrong with one that has
none is said of the line on which it begins. -/
def beginning (reading : Reading α) : Reading α := do
  let source <- get
  tryCatch reading fun error => do
    let lacksEnd := match error.fault with
      | .unclosed _ => true
      | .missing _ => true
      | _ => false
    if source.kind = .extended && lacksEnd && !error.settled then
      throw { error with line := source.line, settled := true }
    else throw error

def peek : Reading (Option Char) := do
  let source <- get
  let (text, count) := Source.joined source.rest
  if count = 0 then return text.head?
  else
    set { source with rest := text, line := source.line + count + source.skipped, skipped := 0 }
    return text.head?

def nextRaw : Reading (Option Char) := do
  let source <- get
  match source.rest with
  | [] => return none
  | c :: rest =>
    let source := { source with rest }
    set (if c = '\n' then source.endLine else source)
    return some c

def next : Reading (Option Char) := do
  discard <| peek
  nextRaw

def accept (c : Char) : Reading Bool := do
  if (<- peek) == some c then
    discard nextRaw
    return true
  else return false

def acceptExtended (c : Char) : Reading Bool := do
  if (<- get).kind = .extended then accept c else return false

def acceptText (text : Chars) : Reading Bool := do
  discard <| peek
  let source <- get
  if text.isPrefixOf source.rest then
    set { source with rest := source.rest.drop text.length }
    return true
  else return false

def bound : Reading Nat := return (<- get).rest.length + 1

def nextWhile (holds : Char -> Bool) : Reading Chars := do go (<- bound) []
where
  go : Nat -> Chars -> Reading Chars
    | 0, found => return found.reverse
    | limit + 1, found => do
      let some c <- peek | return found.reverse
      if holds c then
        discard nextRaw
        go limit (c :: found)
      else return found.reverse

def putBack (c : Char) : Reading Unit :=
  modify (fun source => { source with rest := c :: source.rest })

def within (text : Chars) (line : Nat) (reading : Reading α) : Reading α := do
  let outer <- get
  set { outer with rest := text, line, skipped := 0, pending := none }
  let result <- reading
  set outer
  return result

/-- Takes the text of a here-document out of the source; the number is that of its first line. -/
def cutDocument (mark : Chars) (tabs joins : Bool) : Reading (Chars × Nat) := do
  let source <- get
  let front := source.rest.takeWhile (· != '\n')
  let line := source.line + source.skipped
  match source.rest.dropWhile (· != '\n') with
  | [] =>
    set { source with endless := source.endless ++ [(line, mark)] }
    return ([], source.line)
  | _ :: behind =>
    let document := Source.splitDocument mark tabs joins false (Text.pieces '\n' behind)
    let endless := if document.ended then [] else [(line, mark)]
    set { source with
      rest := front ++ '\n' :: Text.join '\n' document.behind
      skipped := source.skipped + document.lines
      endless := source.endless ++ endless }
    return (document.text, line + 1)

end BaseLanguage.Shell
