import BaseLanguage.Shell.Stream
import BaseLanguage.Shell.Syntax.Word
import BaseLanguage.Text.Regex.Reader

namespace BaseLanguage.Shell.Editing

open Text

/-!
# Scripts of the line editor

A script is a row of steps.  Each is taken for the lines that its addresses choose, one after the
other; a step may jump to another one.  The editor works on the present line, and keeps another text
aside.
-/

inductive Target where
  | regex (regex : Regex) (ignoresCase lines : Bool)
  | last
  deriving DecidableEq

inductive Address where
  | line (number : Nat)
  | lastLine
  | matching (target : Target)
  | every (first step : Nat)
  deriving DecidableEq

inductive RangeEnd where
  | address (address : Address)
  | after (count : Nat)
  | multiple (count : Nat)

inductive LetterCase where
  | upper
  | lower
  | same

inductive ReplacementPart where
  | text (chars : Chars)
  | group (number : Nat)
  | letters (letterCase : LetterCase)
  | nextLetter (letterCase : LetterCase)

structure Substitution where
  target : Target
  replacement : List ReplacementPart
  occurrence : Nat := 1
  all : Bool := false
  tells : Bool := false
  runs : Bool := false
  file : Option String := none

inductive Action where
  | nothing
  | block (ending : Nat)
  | label (name : String)
  | jump (label : String)
  | jumpIfChanged (label : String)
  | jumpUnlessChanged (label : String)
  | append (text : Chars)
  | insert (text : Chars)
  | change (text : Chars)
  | delete
  | deleteFirst
  | say
  | sayFirst
  | sayNumber
  | sayVisibly (width : Option Nat)
  | sayName
  | next
  | appendNext
  | keep
  | appendKept
  | fetch
  | appendFetched
  | exchange
  | clear
  | quit (status : Nat) (silently : Bool)
  | readFile (name : String)
  | readRow (name : String)
  /-- A command is run and says something; without one, the line is run, and what it says takes its
  place. -/
  | run (command : Option Chars)
  | writeFile (name : String) (onlyFirst : Bool)
  | substitute (substitution : Substitution)
  | transliterate (first second : Chars)

structure Step where
  start : Option Address := none
  ending : Option RangeEnd := none
  fromZero : Bool := false
  opposite : Bool := false
  action : Action

structure Fault where
  source : String
  message : String

/-!
## Reading scripts of the line editor

A script comes in several parts, each an argument or a file.  Complaints say how many characters of
a part were read.
-/

structure Source where
  rest : Chars
  position : Nat := 0
  line : Nat := 1
  name : String
  isFile : Bool := false
  extended : Bool := false
  strict : Bool := false
  confined : Bool := false
  steps : List Step := []
  blocks : List Nat := []

abbrev Reading := StateT Source (Except Fault)

def faulty (message : String) : Reading α := do
  let source <- get
  let place :=
    if source.isFile then s!"{source.name} line {numberText source.line}:"
    else s!"{source.name}, char {numberText source.position}:"
  throw ⟨place, message⟩

def take : Reading (Option Char) := do
  let source <- get
  match source.rest with
  | [] => return none
  | c :: rest =>
    set { source with
      rest
      position := source.position + 1
      line := if c = '\n' then source.line + 1 else source.line }
    return some c

def peek : Reading (Option Char) := return (<- get).rest.head?

def takeWhile (holds : Char -> Bool) : Reading Chars := do
  let found := (<- get).rest.takeWhile holds
  found.forM (fun _ => discard take)
  return found

def skipSpace (lines : Bool := false) : Reading Unit :=
  discard <| takeWhile (fun c => isSpace c && (lines || c != '\n'))

/-! ## Texts between separators -/

/-- A text up to a separator, in which the separator may stand behind a backslash.  In a regular
expression it may also stand in brackets. -/
def readTo (separator : Char) (isRegex : Bool) : Reading (Option Chars) := do
  go ((<- get).rest.length + 1) false []
where
  go : Nat -> Bool -> Chars -> Reading (Option Chars)
    | 0, _, _ => return none
    | limit + 1, inBrackets, found => do
      let some c <- take | return none
      if c = separator && !inBrackets then return some found.reverse
      else if c = '\n' && isRegex then return none
      else if c = '\\' && !inBrackets then
        match <- take with
        | none => return none
        | some d =>
          if d = separator then go limit false (d :: found)
          else if d = 'n' && isRegex then go limit false ('\n' :: found)
          else go limit false (d :: c :: found)
      else if c = '[' && isRegex && !inBrackets then
        go limit true ((<- bracketFront).reverse ++ c :: found)
      else if inBrackets && c = '[' then go limit true ((<- classInside).reverse ++ c :: found)
      else go limit (inBrackets && c != ']') (c :: found)
  bracketFront : Reading Chars := do
    return (<- takeWhileOnce '^') ++ (<- takeWhileOnce ']')
  takeWhileOnce (c : Char) : Reading Chars := do
    if (<- peek) == some c then
      discard take
      return [c]
    else return []
  classInside : Reading Chars := do
    let some sign <- peek | return []
    if sign = ':' || sign = '.' || sign = '=' then
      let rest := ((<- get).rest.drop 1)
      let name := rest.takeWhile (· != sign)
      if (rest.drop name.length).take 2 == [sign, ']'] then
        let inside := sign :: name ++ [sign, ']']
        inside.forM (fun _ => discard take)
        return inside
      else return []
    else return []

def numbered? (text : Chars) : Option (Char × Chars) :=
  let code (base count : Nat) (holds : Char -> Bool) (rest : Chars) :
      Option (Char × Chars) :=
    let digits := (rest.take count).takeWhile holds
    if digits.isEmpty then none
    else some (Char.ofNat (valueInBase base digits % 256), rest.drop digits.length)
  match text with
  | 'd' :: rest => code 10 3 isDigit rest
  | 'o' :: rest => code 8 3 isOctalDigit rest
  | 'x' :: rest => code 16 2 isHexDigit rest
  | 'c' :: c :: rest => some (Char.ofNat (c.toUpper.toNat ^^^ 64), rest)
  | _ => none

def control? : Char -> Option Char
  | 'a' => some '\x07'
  | 'f' => some '\x0c'
  | 'n' => some '\n'
  | 'r' => some '\r'
  | 't' => some '\t'
  | 'v' => some '\x0b'
  | _ => none

def unescapeRegex : Nat -> Chars -> Chars
  | 0, text => text
  | _, [] => []
  | limit + 1, '\\' :: c :: rest => match control? c, numbered? (c :: rest) with
    | some octet, _ => octet :: unescapeRegex limit rest
    | none, some (octet, rest) =>
      let special := "*.[]^$\\+?(){}|/".toList.contains octet
      (if special then ['\\', octet] else [octet]) ++ unescapeRegex limit rest
    | none, none => '\\' :: c :: unescapeRegex limit rest
  | limit + 1, c :: rest => c :: unescapeRegex limit rest

def readTarget (text : Chars) (ignoresCase lines : Bool) : Reading (Target × Nat) := do
  if text.isEmpty then return (.last, 9)
  else
    let extended := (<- get).extended
    let style : RegexStyle := { extended, repeatsOnce := !extended }
    match Regex.parse style (unescapeRegex (text.length + 1) text) with
    | .ok (regex, groups) => return (.regex regex ignoresCase lines, groups)
    | .error fault => faulty fault.message

/-! ## Addresses -/

def readNumber? : Reading (Option Nat) := do
  let digits <- takeWhile isDigit
  return if digits.isEmpty then none else some (valueOf digits)

def readAddress? : Reading (Option Address) := do
  let some c <- peek | return none
  if isDigit c then
    let first := (<- readNumber?).getD 0
    skipSpace
    if (<- peek) == some '~' then
      discard take
      skipSpace
      return some (.every first ((<- readNumber?).getD 0))
    else return some (.line first)
  else if c = '$' then
    discard take
    return some .lastLine
  else if c = '/' || c = '\\' then
    discard take
    let separator <- if c = '/' then pure (some c) else take
    match separator with
    | none => faulty "unexpected \x60,'"
    | some separator => match <- readTo separator true with
      | none => faulty "unterminated address regex"
      | some text =>
        let flags <- takeWhile (fun c => c = 'I' || c = 'M')
        let (target, _) <- readTarget text (flags.contains 'I') (flags.contains 'M')
        return some (.matching target)
  else return none

def readRangeEnd : Reading RangeEnd := do
  skipSpace
  match <- peek with
  | some '+' =>
    discard take
    match <- readNumber? with
    | some count => return .after count
    | none => faulty "expected number"
  | some '~' =>
    discard take
    match <- readNumber? with
    | some count => return .multiple count
    | none => faulty "expected number"
  | _ => match <- readAddress? with
    | some address => return .address address
    | none => faulty "unexpected \x60,'"

/-! ## Arguments of steps -/

def readStepEnd : Reading Unit := do
  skipSpace
  let some c <- peek | return ()
  if c = '\x7d' || c = '#' then return ()
  else
    discard take
    if c = '\n' || c = ';' then return () else faulty "extra characters after command"

def readLabel : Reading String := do
  skipSpace
  return .ofList (<- takeWhile (fun c => !isSpace c && c != ';'))

def stayConfined : Reading Unit := do
  if (<- get).confined then faulty "e/r/w commands disabled in sandbox mode"

def readFileName : Reading String := do
  stayConfined
  skipSpace
  let name <- takeWhile (· != '\n')
  discard take
  if name.isEmpty then faulty "missing filename in r/R/w/W commands" else return .ofList name

def readText : Reading Chars := do
  let unexpected : Reading Chars := faulty "expected \\ after \x60a', \x60c' or \x60i'"
  let strict := (<- get).strict
  skipSpace
  match <- peek with
  | none => unexpected
  | some '\\' =>
    discard take
    skipSpace
    match <- peek with
    | none => if strict then faulty "incomplete command" else return []
    | some c =>
      if c = '\n' then discard take
      go ((<- get).rest.length + 1) []
  | some _ =>
    if strict then
      discard take
      unexpected
    else go ((<- get).rest.length + 1) []
where
  go : Nat -> Chars -> Reading Chars
    | 0, found => return found.reverse
    | limit + 1, found => do
      match <- take with
      | none => return if found.isEmpty then [] else ('\n' :: found).reverse
      | some '\n' => return ('\n' :: found).reverse
      | some '\\' => match <- take with
        | none => return ('\n' :: found).reverse
        | some c => go limit ((control? c).getD c :: found)
      | some c => go limit (c :: found)

/-! ## Substitutions -/

def replacementParts : Nat -> Chars -> List ReplacementPart
  | 0, _ => []
  | _, [] => []
  | limit + 1, '&' :: rest => .group 0 :: replacementParts limit rest
  | limit + 1, '\\' :: c :: rest =>
    if isDigit c then .group (c.toNat - '0'.toNat) :: replacementParts limit rest
    else match c with
      | 'U' => .letters .upper :: replacementParts limit rest
      | 'L' => .letters .lower :: replacementParts limit rest
      | 'E' => .letters .same :: replacementParts limit rest
      | 'u' => .nextLetter .upper :: replacementParts limit rest
      | 'l' => .nextLetter .lower :: replacementParts limit rest
      | c => match control? c, numbered? (c :: rest) with
        | some octet, _ => .text [octet] :: replacementParts limit rest
        | none, some (octet, rest) => .text [octet] :: replacementParts limit rest
        | none, none => .text [c] :: replacementParts limit rest
  | limit + 1, c :: rest => .text [c] :: replacementParts limit rest

structure Flags where
  occurrence : Option Nat := none
  all : Bool := false
  tells : Bool := false
  ignoresCase : Bool := false
  lines : Bool := false
  runs : Bool := false
  file : Option String := none

def readFlags : Nat -> Flags -> Reading Flags
  | 0, flags => return flags
  | limit + 1, flags => do
    let some c <- take | return flags
    if c = 'g' then
      if flags.all then faulty "multiple \x60g' options to \x60s' command"
      else readFlags limit { flags with all := true }
    else if c = 'p' then
      if flags.tells then faulty "multiple \x60p' options to \x60s' command"
      else readFlags limit { flags with tells := true }
    else if c = 'i' || c = 'I' then readFlags limit { flags with ignoresCase := true }
    else if c = 'm' || c = 'M' then readFlags limit { flags with lines := true }
    else if c = 'w' then return { flags with file := some (<- readFileName) }
    else if c = 'e' then
      stayConfined
      readFlags limit { flags with runs := true }
    else if isDigit c then
      let digits := c :: (<- takeWhile isDigit)
      if flags.occurrence.isSome then faulty "multiple number options to \x60s' command"
      else if valueOf digits = 0 then faulty "number option to \x60s' command may not be zero"
      else readFlags limit { flags with occurrence := some (valueOf digits) }
    else if c = '\x7d' || c = '#' then
      modify fun source => { source with rest := c :: source.rest, position := source.position - 1 }
      return flags
    else if c = '\n' || c = ';' then return flags
    else if isSpace c then readFlags limit flags
    else faulty "unknown option to \x60s'"

def readSubstitution : Reading Substitution := do
  let unfinished : Reading Substitution := faulty "unterminated \x60s' command"
  let some separator <- take | unfinished
  let some pattern <- readTo separator true | unfinished
  let some text <- readTo separator false | unfinished
  let replacement := replacementParts (text.length + 1) text
  let flags <- readFlags ((<- get).rest.length + 2) {}
  let (target, groups) <- readTarget pattern flags.ignoresCase flags.lines
  let wrong := replacement.find? fun
    | .group number => groups < number
    | _ => false
  match wrong with
  | some (.group number) =>
    faulty s!"invalid reference \\{numberText number} on \x60s' command's RHS"
  | _ =>
    return {
      target, replacement
      occurrence := flags.occurrence.getD 1
      all := flags.all
      tells := flags.tells
      runs := flags.runs
      file := flags.file }

def transliterated : Chars -> Chars
  | '\\' :: '\\' :: rest => '\\' :: transliterated rest
  | '\\' :: 'n' :: rest => '\n' :: transliterated rest
  | '\\' :: 't' :: rest => '\t' :: transliterated rest
  | c :: rest => c :: transliterated rest
  | [] => []

def readTransliteration : Reading Action := do
  let unfinished : Reading Action := faulty "unterminated \x60y' command"
  let some separator <- take | unfinished
  let some first <- readTo separator false | unfinished
  let some second <- readTo separator false | unfinished
  let first := transliterated first
  let second := transliterated second
  if first.length ≠ second.length then faulty "strings for \x60y' command are different lengths"
  else
    readStepEnd
    return .transliterate first second

/-! ## Steps -/

def plainAction? : Char -> Option Action
  | '=' => some .sayNumber
  | 'd' => some .delete
  | 'D' => some .deleteFirst
  | 'F' => some .sayName
  | 'g' => some .fetch
  | 'G' => some .appendFetched
  | 'h' => some .keep
  | 'H' => some .appendKept
  | 'n' => some .next
  | 'N' => some .appendNext
  | 'p' => some .say
  | 'P' => some .sayFirst
  | 'x' => some .exchange
  | 'z' => some .clear
  | _ => none

def Step.addressCount (step : Step) : Nat :=
  (if step.start.isSome then 1 else 0) + (if step.ending.isSome then 1 else 0)

def readAction (step : Step) (c : Char) : Reading Action := do
  match plainAction? c with
  | some action =>
    readStepEnd
    return action
  | none => match c with
    | ':' =>
      if 0 < step.addressCount then faulty ": doesn't want any addresses"
      let label <- readLabel
      if label.isEmpty then faulty "\":\" lacks a label"
      return .label label
    | 'b' => return .jump (<- readLabel <* readStepEnd)
    | 't' => return .jumpIfChanged (<- readLabel <* readStepEnd)
    | 'T' => return .jumpUnlessChanged (<- readLabel <* readStepEnd)
    | 'a' => return .append (<- readText)
    | 'i' => return .insert (<- readText)
    | 'c' => return .change (<- readText)
    | 'r' => return .readFile (<- readFileName)
    | 'R' => return .readRow (<- readFileName)
    | 'e' =>
      stayConfined
      skipSpace
      let command <- takeWhile (· != '\n')
      return .run (if command.isEmpty then none else some command)
    | 'v' =>
      let version <- readLabel
      if "4.9" < version then faulty "expected newer version of sed"
      return .nothing
    | 'w' => return .writeFile (<- readFileName) false
    | 'W' => return .writeFile (<- readFileName) true
    | 's' => return .substitute (<- readSubstitution)
    | 'y' => readTransliteration
    | 'l' =>
      skipSpace
      let width <- readNumber?
      readStepEnd
      return .sayVisibly width
    | 'q' =>
      if 1 < step.addressCount then faulty "command only uses one address"
      skipSpace
      let status := (<- readNumber?).getD 0
      readStepEnd
      return .quit status false
    | 'Q' =>
      if 1 < step.addressCount then faulty "command only uses one address"
      skipSpace
      let status := (<- readNumber?).getD 0
      readStepEnd
      return .quit status true
    | c => faulty s!"unknown command: \x60{String.singleton c}'"

def addStep (step : Step) : Reading Unit :=
  modify (fun source => { source with steps := step :: source.steps })

def readAddresses : Reading Step := do
  let some start <- readAddress? | return { action := .nothing }
  skipSpace
  let ending <-
    if (<- peek) == some ',' then
      discard take
      pure (some (<- readRangeEnd))
    else pure none
  let byRegex : Bool := match ending with
    | some (.address (.matching _)) => true
    | _ => false
  if start = .line 0 && !byRegex then
    discard take
    faulty "invalid usage of line address 0"
  return { start := some start, ending, fromZero := start = .line 0, action := .nothing }

def readSteps : Nat -> Reading Unit
  | 0 => return ()
  | limit + 1 => do
    discard <| takeWhile (fun c => isSpace c || c = ';')
    if (<- peek).isNone then return ()
    else
      let step <- readAddresses
      skipSpace
      let opposite := (<- peek) == some '!'
      if opposite then
        discard take
        skipSpace
        if (<- peek) == some '!' then
          discard take
          faulty "multiple \x60!'s"
      let step := { step with opposite }
      match <- take with
      | none => faulty "missing command"
      | some '#' =>
        if 0 < step.addressCount then faulty "comments don't accept any addresses"
        discard <| takeWhile (· != '\n')
        readSteps limit
      | some '\x7b' =>
        let place := (<- get).steps.length
        modify (fun source => { source with blocks := place :: source.blocks })
        addStep { step with action := .block 0 }
        readSteps limit
      | some '\x7d' =>
        let source <- get
        match source.blocks with
        | [] => faulty "unexpected \x60\x7d'"
        | place :: blocks =>
          if 0 < step.addressCount then faulty "\x7d doesn't want any addresses"
          let index := source.steps.length - 1 - place
          set { source with
            blocks
            steps := source.steps.modify index fun opened =>
              { opened with action := .block source.steps.length } }
          readStepEnd
          readSteps limit
      | some c =>
        let action <- readAction step c
        addStep { step with action }
        readSteps limit

def Action.target? : Action -> Option String
  | .jump goal => some goal
  | .jumpIfChanged goal => some goal
  | .jumpUnlessChanged goal => some goal
  | _ => none

abbrev Part := Option String × Chars

/-- Texts that follow each other on the command line are one where the first ends in a backslash. -/
def joinParts : List Part -> List Part
  | (none, first) :: (none, second) :: rest =>
    if first.getLast? == some '\\' then joinParts ((none, first ++ '\n' :: second) :: rest)
    else (none, first) :: joinParts ((none, second) :: rest)
  | part :: rest => part :: joinParts rest
  | [] => []
termination_by parts => parts.length

def parse (extended strict confined : Bool) (parts : List Part) : Except Fault (List Step) := do
  let start : Source := { rest := [], name := "-e expression #1", extended, strict, confined }
  let (source, _) <- (if strict then parts else joinParts parts).foldlM
    (fun ((source, number) : Source × Nat) (name, text) => do
      let next : Source :=
        { source with
          rest := text, position := 0, line := 1
          name := name.elim s!"-e expression #{numberText number}" (fun name => s!"file {name}")
          isFile := name.isSome }
      let (_, source) <- (readSteps (text.length + 1)).run next
      return (source, if name.isSome then number else number + 1))
    (start, 1)
  match source.blocks with
  | _ :: _ => throw ⟨"-e expression #1, char 0:", "unmatched \x60\x7b'"⟩
  | [] =>
    let steps := source.steps.reverse
    let labels := steps.filterMap fun step => match step.action with
      | .label name => some name
      | _ => none
    let missing := (steps.filterMap (·.action.target?)).find? fun label =>
      !label.isEmpty && !labels.contains label
    match missing with
    | some label => throw ⟨"", s!"can't find label for jump to \x60{label}'"⟩
    | none => return steps

end BaseLanguage.Shell.Editing
