import BaseLanguage.Shell.Utility.Extraction.Syntax

namespace BaseLanguage.Shell.Extraction

open Text

/-!
# The text of a program

A program is read from its first character on.  A text that is announced in a line stands behind that
line, so the end of the line leads on to where that text ends.
-/

structure Source where
  text : Array Char
  place : Nat := 0
  last : Nat := 0
  earlier : Nat := 0
  file : String := "-e"
  quoted : Option String := none
  firstLine : Nat := 1
  jumps : List (Nat × Nat) := []
  naming : Naming := []
  coming : Naming := []
  names : Nat := 0
  package : String := "main"
  known : List String := []
  taken : List (String × String) := []
  constants : List String := []
  procedures : List (String × List Statement) := []
  early : List (List Statement) := []
  isStrict : Bool := false
  features : List String := []
  faults : List String := []
  ranges : Nat := 0
  data : Option Chars := none
  failure : Nat := 0
  endings : List (List Statement) := []

structure Refusal where
  message : String
  status : Nat := 255

abbrev Reading := StateT Source (Except Refusal)

namespace Reading

def between (first last : Nat) : Reading Chars := do
  return ((<- get).text.extract first last).toList

def lineOf (place : Nat) : Reading Nat := do
  let source <- get
  return source.firstLine +
    (source.text.foldl (fun count c => if c = '\n' then count + 1 else count) 0 0 place)

def line : Reading Nat := do lineOf (<- get).place

def whereNow : Reading String := do
  let line <- line
  let file := (<- get).file
  return s!"at {file} line {numberText line}"

def faultHere (message : String) : Reading α := do
  let told <- whereNow
  throw { message := s!"{message} {told}.\n" }

def stopped : Reading Refusal := do
  let source <- get
  let told := s!"Execution of {source.file} aborted due to compilation errors.\n"
  return { message := .join source.faults.reverse ++ told }

def note (message : String) : Reading Unit := do
  let told <- whereNow
  modify fun source => { source with faults := s!"{message} {told}.\n" :: source.faults }

def peek : Reading (Option Char) := do
  let source <- get
  return source.text[source.place]?

def peekAt (count : Nat) : Reading (Option Char) := do
  let source <- get
  return source.text[source.place + count]?

def skip (count : Nat) : Reading Unit :=
  modify fun source => { source with place := min (source.place + count) source.text.size }

def sees (expected : String) : Reading Bool := do
  let source <- get
  let found := (source.text.extract source.place (source.place + expected.length)).toList
  return found == expected.toList

def takeRun (holds : Char -> Bool) : Reading Chars := do
  let source <- get
  let rec ending (limit place : Nat) : Nat := match limit with
    | 0 => place
    | limit + 1 => if (source.text[place]?).any holds then ending limit (place + 1) else place
  let last := ending (source.text.size - source.place) source.place
  set { source with place := last }
  return (source.text.extract source.place last).toList

def atLineStart : Reading Bool := do
  let source <- get
  return source.place = 0 || source.text[source.place - 1]? == some '\n'

def skipNotes : Nat -> Reading Unit
  | 0 => return ()
  | limit + 1 => do
    let line <- takeRun (· != '\n')
    skip 1
    if (<- peek).isSome && line.take 4 ≠ ['=', 'c', 'u', 't'] then skipNotes limit

def blanks : Nat -> Reading Unit
  | 0 => return ()
  | limit + 1 => do
    match <- peek with
    | some '\n' =>
      let source <- get
      match source.jumps.lookup source.place with
      | some place => set { source with place }
      | none => skip 1
      blanks limit
    | some '#' =>
      discard <| takeRun (· != '\n')
      blanks limit
    | some '=' =>
      if (<- atLineStart) && (<- peekAt 1).any Char.isAlpha then
        skipNotes limit
        blanks limit
    | some c =>
      if isSpace c then
        skip 1
        blanks limit
    | none => return ()

def toNext : Reading Unit := do blanks ((<- get).text.size + 1)

def begin : Reading Unit :=
  modify fun source =>
    if source.place = source.last then source
    else { source with earlier := source.last, last := source.place }

def isNameStart (c : Char) : Bool := c.isAlpha || c = '_' || 128 <= c.toNat

def isNameInside (c : Char) : Bool := isNameStart c || isDigit c

def seesName : Reading Bool := do return (<- peek).any isNameStart

def takeName : Nat -> Reading String
  | 0 => return ""
  | limit + 1 => do
    if <- seesName then
      let name := .ofList (<- takeRun isNameInside)
      if (<- sees "::") then
        skip 2
        let rest <- takeName limit
        return s!"{name}::{rest}"
      else return name
    else if (<- sees "::") && ((<- peekAt 2).any isNameStart) then
      skip 2
      takeName limit
    else return ""

def mostParts : Nat := 100

def nameAhead : Reading String := do
  let before <- get
  let name <- takeName mostParts
  set before
  return name

def joinedSigns : List String :=
  wordsIn "<=> **= ||= &&= //= ... <<= >>= -> ++ -- ** =~ !~ == != <= >= && || // .. :: += -= *= /=
  .= %= x= &= |= ^= << >> =>"

def signAhead : Reading String := do
  for sign in joinedSigns do
    if <- sees sign then return sign
  return ((<- peek).map .singleton).getD ""

def accept (sign : String) : Reading Bool := do
  toNext
  if (<- signAhead) = sign then
    begin
    skip sign.length
    return true
  else return false

def acceptWord (word : String) : Reading Bool := do
  toNext
  if (<- nameAhead) = word then
    begin
    skip word.length
    return true
  else return false

def wordAhead : Reading Chars := do
  let before <- get
  match <- peek with
  | none => return []
  | some c =>
    if isNameStart c then discard <| takeName mostParts
    else if isDigit c then discard <| takeRun (fun c => isDigit c || c = '.')
    else if c = '"' || c = '\'' then
      skip 1
      discard <| takeRun (· != c)
      skip 1
    else if (c = '$' || c = '@' || c = '%') && (<- peekAt 1).any isNameStart then
      skip 1
      discard <| takeName mostParts
    else
      let sign <- signAhead
      skip sign.length
      if sign = "\x7b" then discard <| takeRun (· = ' ')
  let after <- get
  set before
  return (after.text.extract before.place after.place).toList

def foundInstead? : Reading (Option String) := do
  match <- peek with
  | some '"' => return some "String"
  | some '\'' => return some "String"
  | some '$' => return some "Scalar"
  | some '@' => return some "Array"
  | some c =>
    return if isDigit c then some "Number" else if isNameStart c then some "Bareword" else none
  | none => return none

def isUnclosed : Reading Bool := do
  let text := (<- get).text.toList
  return text.countP (fun c => c = ']' || c = '\x7d') < text.countP (fun c => c = '[' || c = '\x7b')

def unclosedText : Reading String := do
  let told <- whereNow
  let extent := ((<- get).quoted.map ("within " ++ ·)).getD "at end of line"
  return s!"Missing right curly or square bracket {told}, {extent}"

def syntaxFault (isBehindTerm : Bool) : Reading α := do
  toNext
  let source <- get
  let told <- whereNow
  let complaint <-
    if source.text.size <= source.place then
      let isOpen <- isUnclosed
      let message <- unclosedText
      let unclosed := if isOpen then message ++ "\n" else ""
      pure s!"{unclosed}syntax error {told}, at EOF\n"
    else do
      let word <- wordAhead
      let first := if source.last = source.place then source.earlier else min source.last source.place
      let near := String.ofList (<- between first (source.place + word.length))
      let hint <-
        match isBehindTerm, <- foundInstead? with
        | true, some kind =>
          let shown := String.ofList word
          let before <- do
            set { source with place := first }
            let name <- nameAhead
            set source
            pure name
          let advice :=
            if before.isEmpty then s!"\t(Missing operator before  {shown}?)\n"
            else s!"\t(Do you need to predeclare {before}?)\n"
          pure s!"{kind} found where operator expected {told}, near \"{near}\"\n{advice}"
        | _, _ => pure ""
      pure s!"{hint}syntax error {told}, near \"{near}\"\n"
  modify fun source => { source with faults := complaint :: source.faults }
  throw (<- stopped)

def expect (sign : String) : Reading Unit := do
  if !(<- accept sign) then
    if (sign = "\x7d" || sign = "]") && (<- peek).isNone then
      let told <- whereNow
      let unclosed <- unclosedText
      let complaint := s!"{unclosed}\nsyntax error {told}, at EOF\n"
      modify fun source => { source with faults := complaint :: source.faults }
      throw (<- stopped)
    else syntaxFault false

/-! ## Texts between signs -/

def closingOf : Char -> Char
  | '(' => ')'
  | '[' => ']'
  | '{' => '}'
  | '<' => '>'
  | c => c

/-- The text up to its end, which a backslash in front of does not count.  Signs that open and close
may stand inside each other.  The backslash in front of the sign at the end is left out, unless it is
kept. -/
def upToClosing (opening closing : Char) (keeps : Bool) :
    Nat -> Nat -> Chars -> Reading (Option Chars)
  | 0, _, _ => return none
  | limit + 1, depth, done => do
    let some c <- peek | return none
    skip 1
    if c = '\\' then
      match <- peek with
      | none => return none
      | some d =>
        skip 1
        let drops := (d = opening || d = closing) && !keeps
        let done := if drops then d :: done else d :: '\\' :: done
        upToClosing opening closing keeps limit depth done
    else if opening ≠ closing && c = opening then
      upToClosing opening closing keeps limit (depth + 1) (c :: done)
    else if c = closing then
      if depth = 0 then return some done.reverse
      else upToClosing opening closing keeps limit (depth - 1) (c :: done)
    else upToClosing opening closing keeps limit depth (c :: done)

def takeInside (opening : Char) (keeps : Bool) (message : Char -> String) : Reading Chars := do
  let before <- get
  let closing := closingOf opening
  match <- upToClosing opening closing keeps (before.text.size + 1) 0 [] with
  | some text => return text
  | none =>
    set before
    faultHere (message closing)

def unendedText (closing : Char) : String :=
  let quote := if closing = '"' then '\'' else '"'
  let shown := String.ofList [quote, closing, quote]
  s!"Can't find string terminator {shown} anywhere before EOF"

def takeOpening : Reading Char := do
  if (<- peek).any isSpace then toNext
  let some c <- peek | syntaxFault false
  skip 1
  return c

def within (text : Chars) (line : Nat) (quoted : Option String) (reading : Reading α) :
    Reading α := do
  let before <- get
  set { before with
    text := text.toArray, place := 0, last := 0, earlier := 0, jumps := [], firstLine := line, quoted }
  let found <- reading
  modify ({ · with
    text := before.text
    place := before.place
    last := before.last
    earlier := before.earlier
    jumps := before.jumps
    firstLine := before.firstLine
    quoted := before.quoted })
  return found

/-! ## Announced texts -/

def linesUpTo (mark : Chars) (isIndented : Bool) :
    Nat -> Nat -> List Chars -> Reading (Option (List Chars × Nat))
  | 0, _, _ => return none
  | limit + 1, place, done => do
    let source <- get
    if source.text.size <= place then return none
    else
      set { source with place }
      let line <- takeRun (· != '\n')
      let behind := (<- get).place + 1
      set source
      let bare := if isIndented then line.dropWhile isSpace else line
      if bare = mark then return some (done.reverse, min behind source.text.size)
      else linesUpTo mark isIndented limit behind (line :: done)

def withoutIndent (lines : List Chars) : List Chars :=
  let filled := lines.filter (!·.all isSpace)
  let widths := filled.map (fun line => (line.takeWhile isSpace).length)
  let width := (widths.min?).getD 0
  lines.map (·.drop width)

/-- The text that a mark announces, which stands behind the present line, and its first line. -/
def takeAnnounced (mark : Chars) (isIndented : Bool) : Reading (Chars × Nat) := do
  let source <- get
  discard <| takeRun (· != '\n')
  let lineEnd := (<- get).place
  set source
  let start := (source.jumps.lookup lineEnd).getD (lineEnd + 1)
  match <- linesUpTo mark isIndented (source.text.size + 1) start [] with
  | none =>
    let shown := String.ofList mark
    faultHere s!"Can't find string terminator \"{shown}\" anywhere before EOF"
  | some (lines, behind) =>
    let line <- lineOf start
    modify fun source => { source with
      jumps := (lineEnd, behind) :: source.jumps.filter (·.1 ≠ lineEnd) }
    let lines := if isIndented then withoutIndent lines else lines
    return ((lines.map (· ++ ['\n'])).flatten, line)

/-! ## Numbers -/

def takeDigits (holds : Char -> Bool) : Reading Chars := do
  return (<- takeRun (fun c => holds c || c = '_')).filter (· != '_')

def valueOfDigits (base : Nat) (digits : Chars) : Nat :=
  digits.foldl (fun value c => base * value + hexadecimalValue [c]) 0

def takeNumber : Reading Value := do
  let whole (base : Nat) (digits : Chars) : Value :=
    (Number.ofInt (valueOfDigits base digits)).asValue
  if (<- sees "0x") || (<- sees "0X") then
    skip 2
    return whole 16 (<- takeDigits isHexDigit)
  else if (<- sees "0o") || (<- sees "0O") then
    skip 2
    return whole 8 (<- takeDigits isDigit)
  else if (<- sees "0b") || (<- sees "0B") then
    skip 2
    return whole 2 (<- takeDigits (fun c => c = '0' || c = '1'))
  else
    let front <- takeDigits isDigit
    let places <-
      if (<- peek) == some '.' && (<- peekAt 1) != some '.' &&
          !((<- peekAt 1).any isNameStart && (<- peekAt 1) != some 'e') then
        skip 1
        pure (some (<- takeDigits isDigit))
      else pure none
    let exponent <- do
      let next <- peek
      let isPower := next == some 'e' || next == some 'E'
      let second <- peekAt 1
      let third <- peekAt 2
      let isSigned := (second == some '-' || second == some '+') && third.any isDigit
      if isPower && (second.any isDigit || isSigned) then
        skip 1
        pure (some ((<- takeRun (fun c => c = '-' || c = '+')) ++ (<- takeDigits isDigit)))
      else pure none
    match places, exponent with
    | none, none => match front with
      | '0' :: rest => if rest.isEmpty then return .whole 0 else return whole 8 rest
      | front => return whole 10 front
    | places, exponent =>
      let written := front ++ ['.'] ++ places.getD [] ++ ((exponent.map ('e' :: ·)).getD [])
      match Records.decimalAt? ('0' :: written) with
      | some (value, _) => return .real value
      | none => return .whole 0

/-! ## Names -/

def settle : Reading Unit :=
  modify fun source => { source with naming := source.coming ++ source.naming, coming := [] }

def newName (kind : Kind) (name : String) : Reading Nat :=
  modifyGet fun source =>
    (source.names, { source with
      names := source.names + 1
      coming := (.singleton kind.sign ++ name, .own source.names) :: source.coming })

def inBlock (reading : Reading α) : Reading α := do
  let before <- get
  settle
  let found <- reading
  modify ({ · with
    naming := before.naming
    coming := before.coming
    package := before.package
    isStrict := before.isStrict
    features := before.features })
  return found

def commonNames : List String := wordsIn "_ ENV ARGV INC STDIN STDOUT STDERR ARGVOUT 0"

def wholeName (package name : String) : String :=
  if name.contains ':' then (if name.startsWith "::" then s!"main{name}" else name)
  else if commonNames.contains name || !(name.toList.head?).any isNameStart then s!"main::{name}"
  else s!"{package}::{name}"

def holderOf (kind : Kind) (name : String) : Reading Holder := do
  let source <- get
  match source.naming.lookup (.singleton kind.sign ++ name) with
  | some holder => return holder
  | none =>
    let isKnown := name.contains ':' || commonNames.contains name ||
      !(name.toList.head?).any isNameStart || (kind == .cell && (name = "a" || name = "b")) ||
      kind == .code || kind == .stream
    if source.isStrict && !isKnown then
      let sign := String.singleton kind.sign
      note (s!"Global symbol \"{sign}{name}\" requires explicit package name (did you forget " ++
        s!"to declare \"my {sign}{name}\"?)")
    return .shared (wholeName source.package name)

end Reading
end BaseLanguage.Shell.Extraction
