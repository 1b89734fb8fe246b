import BaseLanguage.Shell.Syntax.Word

namespace BaseLanguage.Shell

/-!
# Reading tokens and commands

A script is a row of words and operators.  Whether a word is part of the grammar depends on where it
stands, so the reader of commands says what it asks for.
-/

structure Asking where
  newlines : Bool := false
  keywords : Bool := false
  aliases : Bool := false

namespace Asking

def command : Asking where
  keywords := true
  aliases := true

def laterCommand : Asking where
  newlines := true
  keywords := true
  aliases := true

end Asking

def keywords : List String :=
  ["!", "case", "do", "done", "elif", "else", "esac", "fi", "for", "if", "in", "then", "until",
    "while", "\x7b", "\x7d"]

def extendedKeywords : List String := ["[[", "coproc", "function", "select", "time"]

def endingKeywords : List String := ["do", "done", "elif", "else", "esac", "fi", "then", "\x7d"]

namespace Token

def endsCommands : Token -> Bool
  | .ending => true
  | .operator sign => [")", ";;", ";&", ";;&"].contains sign
  | .keyword name => endingKeywords.contains name
  | _ => false

def word? : Token -> Option Word
  | .word parts => some parts
  | .keyword name => some [.text false name.toList]
  | _ => none

def name : Token -> String
  | .ending => "end of file"
  | .newline => "newline"
  | .word _ => "word"
  | .redirection _ _ => "redirection"
  | .operator sign => s!"\"{sign}\""
  | .keyword name => s!"\"{name}\""

def text : Token -> String
  | .ending => "end of file"
  | .newline => "newline"
  | .word parts => .ofList ((Word.literal? parts).getD [])
  | .redirection _ sign => sign
  | .operator sign => sign
  | .keyword name => name

end Token

def unexpected (found : Token) (expected : Option String := none) : Reading α :=
  faulty (.unexpected found expected)

def again (token : Token) : Reading Unit := modify ({ · with pending := some token })

def skipBlanks : Reading Unit := do
  discard <| nextWhile isBlank
  if (<- peek) == some '#' then
    modify (fun source => { source with rest := source.rest.dropWhile (· != '\n') })

def readTurning (first : Char) : Reading String := do
  if first = '<' then
    if <- accept '<' then
      if <- acceptExtended '<' then return "<<<"
      else if <- accept '-' then return "<<-"
      else return "<<"
    else if <- accept '&' then return "<&"
    else if <- accept '>' then return "<>"
    else return "<"
  else if <- accept '>' then return ">>"
  else if <- accept '|' then return ">|"
  else if <- accept '&' then return ">&"
  else return ">"

def isElementName (text : Chars) : Bool :=
  let name := text.takeWhile isNameChar
  let index := text.drop name.length
  isName name && (index.isEmpty || (index.head? == some '[' && index.getLast? == some ']'))

def streamName? (kind : ShellKind) (word : Word) : Option StreamName := match word.bare? with
  | some text =>
    if text.all Text.isDigit && (text.length = 1 || kind = .extended) then
      some (.number (Text.valueOf text))
    else match kind, text with
      | .extended, '\x7b' :: rest =>
        let name := rest.dropLast
        if rest.getLast? == some '\x7d' && isElementName name then some (.held name) else none
      | _, _ => none
  | none => none

def readFreshToken (nesting : Nesting) (surrounding : Surrounding) : Reading Token := do
  skipBlanks
  modify (fun source => { source with start := source.rest })
  let take (operator : String) : Reading Token := do
    discard nextRaw
    return .operator operator
  match <- peek with
  | none => return .ending
  | some '\n' =>
    discard nextRaw
    return .newline
  | some '(' => take "("
  | some ')' => take ")"
  | some '&' =>
    discard nextRaw
    if <- accept '&' then return .operator "&&"
    else if <- acceptExtended '>' then
      return .redirection none (if <- accept '>' then "&>>" else "&>")
    else return .operator "&"
  | some '|' =>
    discard nextRaw
    if <- accept '|' then return .operator "||"
    else if <- acceptExtended '&' then return .operator "|&"
    else return .operator "|"
  | some ';' =>
    discard nextRaw
    if <- accept ';' then
      if <- acceptExtended '&' then return .operator ";;&" else return .operator ";;"
    else if <- acceptExtended '&' then return .operator ";&"
    else return .operator ";"
  | some c =>
    if (c = '<' || c = '>') && !(<- opensSaid surrounding) then
      discard nextRaw
      return .redirection none (<- readTurning c)
    else
      let word <- readWordIn nesting surrounding
      match <- peek, streamName? (<- get).kind word with
      | some c, some stream =>
        if (c = '<' || c = '>') && !(<- opensSaid surrounding) then
          discard nextRaw
          return .redirection (some stream) (<- readTurning c)
        else return .word word
      | _, _ => return .word word

def keyword? (kind : ShellKind) (word : Word) : Option String := do
  let text := .ofList (<- word.bare?)
  if keywords.contains text || (kind = .extended && extendedKeywords.contains text) then some text
  else none

/-- The text of the alias that a word is.  One in whose text the word stands does not count. -/
def aliasFor? (source : Source) (word : Word) : Option (String × String) := do
  let name := .ofList (<- word.bare?)
  let text <- source.aliases.lookup name
  if source.expanding.any (fun open_ => open_.1 == name && open_.2 <= source.rest.length) then none
  else some (name, text)

def nextToken (nesting : Nesting) (asking : Asking := {}) (surrounding : Surrounding := .blanks) :
    Reading Token := do
  go (2 * (<- bound) + 64)
where
  go : Nat -> Reading Token
    | 0 => faulty .tooDeep
    | limit + 1 => do
      let source <- get
      let fresh := source.pending.isNone
      let token <-
        match source.pending with
        | some token =>
          set { source with pending := none }
          pure token
        | none => readFreshToken nesting surrounding
      match token with
      | .newline => if asking.newlines then go limit else return token
      | .word word =>
        let keyword := if asking.keywords then keyword? source.kind word else none
        let present <- get
        let substitute := if asking.aliases && fresh then aliasFor? present word else none
        match keyword, substitute with
        | some text, _ => return .keyword text
        | none, some (name, text) =>
          modify fun source => { source with
            rest := text.toList ++ source.rest
            expanding := (name, source.rest.length) :: source.expanding }
          go limit
        | none, none => return token
      | token => return token

/-!
## Commands

A row of commands is read up to the end of a line, or up to a word that ends the command around it.
Commands stand inside commands; the reader of one level is given the reader of the next, and
`readerOf` ties the levels together.  Each level takes at least one character, so that there are
never more levels than characters.
-/

inductive RowEnd where
  | line
  | block
  | any
  deriving DecidableEq

structure Inside where
  row : RowEnd -> Reading (List Command)
  command : Asking -> Reading Command

namespace Inside

def nesting (inside : Inside) : Nesting where
  enclosed := do
    let outer := (<- get).pending
    modify ({ · with pending := none })
    let body <- tryCatch (inside.row .any) fun error => do
      match error.fault with
      | .unexpected .ending _ => throw error
      | .unexpected _ _ => throw { error with status := 127 }
      | _ => throw error
    match (<- get).pending with
    | some (.operator ")") =>
      modify ({ · with pending := outer })
      return body
    | some .ending => faulty .unclosedOutput
    | none => faulty .unclosedOutput
    | some token => unexpected token ")"
  all := inside.row .any

end Inside

section

variable (inside : Inside)

def token (asking : Asking := {}) : Reading Token := nextToken inside.nesting asking

def expect (text : String) (asking : Asking := {}) : Reading Unit := do
  match <- token inside asking with
  | .keyword found => if found ≠ text then unexpected (.keyword found) text
  | .operator found => if found ≠ text then unexpected (.operator found) text
  | found => unexpected found text

def readRedirection (stream : Option StreamName) (operator : String) : Reading Redirection := do
  let isHere := operator = "<<" || operator = "<<-"
  let found <- nextToken inside.nesting {} (if isHere then .mark else .blanks)
  let some word := found.word? | unexpected found
  let input := Redirection.turn (stream.getD (.number 0))
  let output := Redirection.turn (stream.getD (.number 1))
  match operator with
  | "<" => return input (.readFrom word)
  | "<>" => return input (.readAndWrite word)
  | "<&" => return input (.sameAs word)
  | ">" => return output (.writeTo false word)
  | ">|" => return output (.writeTo true word)
  | ">>" => return output (.appendTo word)
  | ">&" => return output (.sameAs word)
  | "&>" => return output (.bothTo false word)
  | "&>>" => return output (.bothTo true word)
  | "<<<" => return input (.here (word ++ [.text true ['\n']]))
  | _ =>
    let exact := word.hasQuotes
    let (text, line) <- cutDocument (word.literal?.getD []) (operator = "<<-") (!exact)
    if exact then return input (.here [.text true text])
    else return input (.here (<- within text line (readWordIn inside.nesting .document)))

def readRedirections : Reading (List Redirection) := do go (<- bound) []
where
  go : Nat -> List Redirection -> Reading (List Redirection)
    | 0, found => return found.reverse
    | limit + 1, found => do
      match <- token inside .command with
      | .redirection stream operator =>
        go limit ((<- readRedirection inside stream operator) :: found)
      | other =>
        again other
        return found.reverse

def readElements : Reading (List Assignment) := do
  discard nextRaw
  tryCatch (beginning (go (<- bound) [])) fun error => throw { error with status := 1 }
where
  go : Nat -> List Assignment -> Reading (List Assignment)
    | 0, _ => faulty .tooDeep
    | limit + 1, found => do
      match <- token inside ⟨true, false, false⟩ with
      | .operator ")" => return found.reverse
      | .word word => go limit (word.element :: found)
      | .ending => faulty (.missing ")")
      | other => unexpected other ")"

structure SimpleParts where
  assignments : List Assignment := []
  words : List Word := []
  redirections : List Redirection := []
  rows : List Assignment := []
  texts : List Chars := []

namespace SimpleParts

def command (parts : SimpleParts) (line : Nat) : Command :=
  let text := List.intercalate [' '] parts.texts.reverse
  let simple := Command.simple line text parts.assignments.reverse parts.words.reverse
    parts.redirections.reverse
  if parts.rows.isEmpty then simple else .group [simple, .simple line text parts.rows.reverse [] []]

end SimpleParts

def declaringCommands : List String := ["declare", "typeset", "local", "export", "readonly"]

def readRow? (word : Word) : Reading (Option (Chars × Bool × List Assignment)) := do
  if (<- isExtended) && (<- get).pending.isNone && (<- get).rest.head? == some '(' then
    match word.assignment? .extended with
    | some (name, .only, append, []) => return some (name, append, <- readElements inside)
    | _ => return none
  else return none

def isFunctionName (kind : ShellKind) (name : Chars) : Bool := match kind with
  | .extended => true
  | .plain =>
    isName name && !((Text.wordsIn "break continue eval exec exit export local readonly return set
      shift times trap unset").contains (.ofList name))

def readFunction (word : Word) : Reading Command := do
  expect inside ")"
  let source <- get
  let name := word.bare?.getD []
  if !isFunctionName source.kind name then faulty .badFunctionName
  return .define source.line name (<- inside.command .laterCommand)

def textFrom (start : Chars) : Reading Chars := do
  return start.take (start.length - (<- get).rest.length)

namespace SimpleParts

def addRedirection (parts : SimpleParts) (redirection : Redirection) (operator target : Chars) :
    SimpleParts :=
  let gap := if operator.getLast? == some '&' then [] else [' ']
  { parts with
    redirections := redirection :: parts.redirections
    texts := (operator ++ gap ++ target) :: parts.texts }

def addWord (parts : SimpleParts) (word : Word) (text : Chars) : SimpleParts :=
  { parts with words := word :: parts.words, texts := text :: parts.texts }

def addAssignment (parts : SimpleParts) (assignment : Assignment) (text : Chars) : SimpleParts :=
  { parts with assignments := assignment :: parts.assignments, texts := text :: parts.texts }

end SimpleParts

def withWord (parts : SimpleParts) (start : Chars) (word : Word) : Reading SimpleParts := do
  let kind := (<- get).kind
  let first := parts.words.isEmpty
  let declares := (parts.words.getLast?.bind Word.bare?).any fun name =>
    declaringCommands.contains (.ofList name)
  if first || declares then
    match <- readRow? inside word with
    | some (name, append, elements) =>
      let text <- textFrom start
      let row := Assignment.row name append text elements
      if first then return parts.addAssignment row text
      else return { parts.addWord [.text false name] text with rows := row :: parts.rows }
    | none =>
      let text <- textFrom start
      match first, word.assignment? kind with
      | true, some (name, index, append, value) =>
        return parts.addAssignment (.value name index append value) text
      | _, _ => return parts.addWord word text
  else return parts.addWord word (<- textFrom start)

def readSimple (line : Nat) : Reading Command := do go (<- bound) {}
where
  go : Nat -> SimpleParts -> Reading Command
    | 0, parts => return parts.command line
    | limit + 1, parts => do
      let found <- token inside ⟨false, false, parts.words.isEmpty⟩
      let start := (<- get).start
      match found with
      | .redirection stream operator =>
        let shown <- textFrom start
        let redirection <- readRedirection inside stream operator
        go limit (parts.addRedirection redirection shown (<- textFrom (<- get).start))
      | .operator "(" => match parts.words, parts.assignments, parts.redirections with
        | [word], [], [] => readFunction inside word
        | _, _, _ =>
          again (.operator "(")
          return parts.command line
      | other => match other.word? with
        | none =>
          again other
          return parts.command line
        | some word => go limit (<- withWord inside parts start word)

def readBranches : Nat -> Reading Command
  | 0 => faulty .tooDeep
  | limit + 1 => do
    let test <- inside.row .block
    expect inside "then"
    let success <- inside.row .block
    match <- token inside with
    | .keyword "elif" => return .conditional test success [<- readBranches limit]
    | .keyword "else" =>
      let failure <- inside.row .block
      expect inside "fi"
      return .conditional test success failure
    | .keyword "fi" => return .conditional test success []
    | other => unexpected other "fi"

def readBody (asking : Asking := {}) : Reading (List Command) := do
  let mayBrace := (<- isExtended) && asking.newlines
  match <- token inside asking with
  | .keyword "do" =>
    let body <- inside.row .block
    expect inside "done"
    return body
  | .keyword "\x7b" =>
    if mayBrace then
      let body <- inside.row .block
      expect inside "\x7d"
      return body
    else unexpected (.keyword "\x7b") "do"
  | found => unexpected found "do"

def readWords : Reading (List (Word × Chars)) := do go (<- bound) []
where
  go : Nat -> List (Word × Chars) -> Reading (List (Word × Chars))
    | 0, found => return found.reverse
    | limit + 1, found => do
      match <- token inside with
      | .word word => go limit ((word, <- textFrom (<- get).start) :: found)
      | .newline => return found.reverse
      | .operator ";" => return found.reverse
      | other => unexpected other

def readSums : Reading (Word × Word × Word) := do
  let whole <- readWordIn inside.nesting .sum
  match split whole with
  | [start, test, next] => return (start, test, next)
  | _ => unexpected (.operator "((")
where
  split (word : Word) : List Word :=
    word.foldr
      (fun part groups => match part with
        | .text quoted octets =>
          let pieces := (Text.pieces ';' octets).map (WordPart.text quoted ·)
          match pieces, groups with
          | [], groups => groups
          | pieces, group :: rest =>
            pieces.dropLast.map ([·]) ++ ((pieces.getLast?.toList ++ group) :: rest)
          | pieces, [] => pieces.map ([·])
        | part => match groups with
          | group :: rest => (part :: group) :: rest
          | [] => [[part]])
      [[]]

def readFor (line : Nat) : Reading Command := do
  let found <- token inside
  let extended <- isExtended
  match found with
  | .operator "(" =>
    if <- acceptExtended '(' then
      let (start, test, next) <- readSums inside
      match <- token inside .laterCommand with
      | .operator ";" => pure ()
      | other => again other
      return .forSum line start test next (<- readBody inside .laterCommand)
    else faulty .badLoopVariable
  | .newline => if extended then unexpected found else faulty .badLoopVariable
  | _ => match found.word?.bind Word.bare? with
    | none => faulty .badLoopVariable
    | some name =>
      if !extended && !isName name then faulty .badLoopVariable
      let words <-
        match <- token inside .laterCommand with
        | .keyword "in" => pure (some (<- readWords inside))
        | .operator ";" => pure none
        | other =>
          again other
          pure none
      let texts : List Chars := (words.map (·.map Prod.snd)).getD []
      let shown := if words.isSome then texts else ["\"$@\"".toList]
      let text := List.intercalate [' '] (name :: ['i', 'n'] :: shown)
      let words := words.map (·.map Prod.fst)
      return .forEach line text name words (<- readBody inside .laterCommand)

def readMenu (line : Nat) : Reading Command := do
  match <- readFor inside line with
  | .forEach line text name words body => return .menu line text name words body
  | _ => unexpected (.operator "((")

def readPatterns : Nat -> List Word -> Token -> Reading (List Word)
  | 0, _, _ => faulty .tooDeep
  | limit + 1, found, first => do
    let found := first.word?.getD [] :: found
    match <- token inside with
    | .operator "|" => readPatterns limit found (<- token inside)
    | .operator ")" => return found.reverse
    | other => unexpected other ")"

def readArms : Nat -> List Arm -> Reading (List Arm)
  | 0, _ => faulty .tooDeep
  | limit + 1, found => do
    let asking : Asking := ⟨true, true, false⟩
    match <- token inside asking with
    | .keyword "esac" => return found.reverse
    | first =>
      let first <-
        match first with
        | .operator "(" => token inside
        | other => pure other
      let patterns <- readPatterns inside (<- bound) [] first
      let body <- inside.row .any
      match <- token inside asking with
      | .keyword "esac" => return (Arm.arm patterns body .done :: found).reverse
      | .operator ";;" => readArms limit (.arm patterns body .done :: found)
      | .operator ";&" => readArms limit (.arm patterns body .fallThrough :: found)
      | .operator ";;&" => readArms limit (.arm patterns body .tryNext :: found)
      | other => unexpected other ";;"

def readCase (line : Nat) : Reading Command := do
  let found <- token inside
  let some subject := found.word? | unexpected found "word"
  let text <- textFrom (<- get).start
  expect inside "in" .laterCommand
  return .choice line text subject (<- readArms inside (<- bound) [])

def unaryConditions : List String :=
  Text.wordsIn "-a -b -c -d -e -f -g -h -k -n -o -p -r -s -t -u -v -w -x -z -G -L -N -O -R -S"

def binaryConditions : List String := Text.wordsIn "= == != =~ -eq -ne -lt -le -gt -ge -nt -ot -ef"

def binaryCondition? : Token -> Option String
  | .redirection none operator => if operator = "<" || operator = ">" then some operator else none
  | .word word => match word.bare? with
    | some text =>
      let text := .ofList text
      if binaryConditions.contains text then some text else none
    | none => none
  | _ => none

mutual

def readAnyOf : Nat -> Reading Condition
  | 0 => faulty .tooDeep
  | limit + 1 => do
    let first <- readAllOf limit
    match <- token inside ⟨true, false, false⟩ with
    | .operator "||" => return .either first (<- readAnyOf limit)
    | other =>
      again other
      return first

def readAllOf : Nat -> Reading Condition
  | 0 => faulty .tooDeep
  | limit + 1 => do
    let first <- readCondition limit
    match <- token inside ⟨true, false, false⟩ with
    | .operator "&&" => return .both first (<- readAllOf limit)
    | other =>
      again other
      return first

def readCondition : Nat -> Reading Condition
  | 0 => faulty .tooDeep
  | limit + 1 => do
    match <- token inside ⟨true, false, false⟩ with
    | .operator "(" =>
      let condition <- readAnyOf limit
      expect inside ")" ⟨true, false, false⟩
      return condition
    | first => match first.word? with
      | none => unexpected first
      | some word =>
        let text := (word.bare?.map .ofList).getD ""
        if text = "!" then return .opposite (<- readCondition limit)
        else
          let second <- token inside
          match binaryCondition? second with
          | some operator =>
            let surrounding := if operator = "=~" then .condition else .blanks
            let groups := (<- get).groups
            let matching := ["=", "==", "!="].contains operator
            modify ({ · with groups := matching })
            let operand <- nextToken inside.nesting {} surrounding
            modify ({ · with groups })
            match operand.word? with
            | some right => return .binary operator word right
            | none => unexpected operand
          | none => match unaryConditions.contains text, second.word? with
            | true, some operand =>
              if operand.bare? == some [']', ']'] then
                again second
                return .holds word
              else return .unary text operand
            | _, some other =>
              if other.bare? == some [']', ']'] then
                again second
                return .holds word
              else faulty (.badCondition second)
            | _, none =>
              again second
              return .holds word

end

def readConditions : Reading Condition := do
  let condition <- readAnyOf inside (4 * (<- bound))
  match <- token inside with
  | .word word =>
    if word.bare? == some [']', ']'] then return condition else unexpected (.word word) "]]"
  | other => unexpected other "]]"

/-- A command inside parentheses, behind the first of them.  Two of them may hold a sum. -/
def readEnclosed (line : Nat) : Reading Command := do
  let commands : Reading Command := do
    let body <- inside.row .block
    expect inside ")"
    return .enclosed line body []
  if (<- isExtended) && (<- get).rest.head? == some '(' then
    let before <- get
    let sum : Reading Command := do
      discard nextRaw
      return .compute line (<- readWordIn inside.nesting .sum)
    let others : Reading Command := do
      set before
      commands
    tryCatch sum (fun _ => others)
  else commands

def readCompound? (found : Token) (line : Nat) : Reading (Option Command) := do
  match found with
  | .keyword "if" => return some (<- readBranches inside (<- bound))
  | .keyword "while" => return some (.loop true (<- inside.row .block) (<- readBody inside))
  | .keyword "until" => return some (.loop false (<- inside.row .block) (<- readBody inside))
  | .keyword "for" => return some (<- readFor inside line)
  | .keyword "select" => return some (<- readMenu inside line)
  | .keyword "case" => return some (<- readCase inside line)
  | .keyword "\x7b" =>
    let body <- inside.row .block
    expect inside "\x7d"
    return some (.group body)
  | .keyword "[[" => return some (.check line (<- readConditions inside))
  | .operator "(" => return some (<- readEnclosed inside line)
  | _ => return none

def readNamedFunction (line : Nat) : Reading Command := do
  let found <- token inside
  let some name := found.word?.bind Word.bare? | unexpected found
  match <- token inside .laterCommand with
  | .operator "(" => expect inside ")"
  | other => again other
  return .define line name (<- inside.command .laterCommand)

def beginsCompound : Token -> Bool
  | .keyword name => ["if", "while", "until", "for", "select", "case", "\x7b", "[["].contains name
  | .operator sign => sign = "("
  | _ => false

/-- The name of the partner that a command behind `coproc` is to be; a command that holds others may
have one in front. -/
def readPartnerName : Reading Chars := do
  let usual := "COPROC".toList
  let before <- get
  match (<- token inside .command).word?.bind Word.bare? with
  | none =>
    set before
    return usual
  | some name =>
    let isCompound := beginsCompound (<- token inside .command)
    let behind <- get
    set before
    if isCompound && isName name && !keywords.contains (.ofList name) then
      discard <| token inside
      return name
    else
      set { before with endless := behind.endless }
      return usual

def readCommand (asking : Asking) : Reading Command := do
  let found <- token inside asking
  let line := (<- get).line
  match <- readCompound? inside found line with
  | some command => match command, <- readRedirections inside with
    | command, [] => return command
    | .enclosed line body _, redirections => return .enclosed line body redirections
    | command, redirections => return .redirected line command redirections
  | none => match found with
    | .keyword "function" => readNamedFunction inside line
    | .keyword "coproc" =>
      return .partner line (<- readPartnerName inside) (<- inside.command .command)
    | .word _ | .redirection _ _ =>
      again found
      readSimple inside line
    | other => unexpected other

def readStages : Nat -> List Command -> Reading Command
  | 0, _ => faulty .tooDeep
  | limit + 1, stages => do
    match <- token inside with
    | .operator "|" => readStages limit ((<- readCommand inside .laterCommand) :: stages)
    | .operator "|&" =>
      let line := (<- get).line
      let withComplaints (stage : Command) : Command :=
        .redirected line stage [.turn (.number 2) (.sameAs [.text false ['1']])]
      let stages := match stages with
        | last :: before => withComplaints last :: before
        | [] => []
      readStages limit ((<- readCommand inside .laterCommand) :: stages)
    | other =>
      again other
      match stages with
      | [only] => return only
      | stages => return .pipeline stages.reverse

def readPipeline : Nat -> Asking -> Reading Command
  | 0, _ => faulty .tooDeep
  | limit + 1, asking => do
    match <- token inside asking with
    | .keyword "time" => match <- token inside .command with
      | .newline =>
        again .newline
        return .timed (.group [])
      | .ending =>
        again .ending
        return .timed (.group [])
      | other => match other.word?.bind Word.bare? with
        | some ['-', 'p'] => return .timed (<- readPipeline limit .command)
        | _ =>
          again other
          return .timed (<- readPipeline limit .command)
    | .keyword "!" =>
      if <- isExtended then return .negated (<- readPipeline limit .command)
      else
        let first <- readCommand inside .command
        return .negated (<- readStages inside limit [first])
    | other =>
      again other
      readStages inside limit [(<- readCommand inside asking)]

def readChain : Nat -> Command -> Reading Command
  | 0, first => return first
  | limit + 1, first => do
    match <- token inside with
    | .operator "&&" => readChain limit (.both first (<- readPipeline inside limit .laterCommand))
    | .operator "||" => readChain limit (.either first (<- readPipeline inside limit .laterCommand))
    | other =>
      again other
      return first

def readRowFrom (rowEnd : RowEnd) : Nat -> Bool -> List Command -> Reading (List Command)
  | 0, _, _ => faulty .tooDeep
  | limit + 1, mayEnd, found => do
    let onLine := rowEnd = .line
    match <- token inside ⟨!onLine, true, true⟩ with
    | .newline => return found.reverse
    | .ending =>
      again .ending
      return found.reverse
    | first =>
      again first
      if mayEnd && !onLine && first.endsCommands then return found.reverse
      else
        let asking : Asking := ⟨!onLine, true, true⟩
        let command <- readChain inside limit (<- readPipeline inside limit asking)
        match <- token inside with
        | .operator "&" => readRowFrom rowEnd limit true (.background command :: found)
        | .operator ";" => readRowFrom rowEnd limit true (command :: found)
        | .newline =>
          again .newline
          readRowFrom rowEnd limit true (command :: found)
        | .ending =>
          again .ending
          return (command :: found).reverse
        | other =>
          if onLine then unexpected other
          else
            again other
            return (command :: found).reverse

def readRow (rowEnd : RowEnd) : Reading (List Command) := do
  readRowFrom inside rowEnd (2 * (<- bound)) (rowEnd = .any) []

end

def readerOf : Nat -> Inside
  | 0 => ⟨fun _ => faulty .tooDeep, fun _ => faulty .tooDeep⟩
  | levels + 1 => ⟨(readRow (readerOf levels) ·), (readCommand (readerOf levels) ·)⟩

def Source.isAtEnd (source : Source) : Bool := match source.pending with
  | some .ending => true
  | some _ => false
  | none => source.rest.isEmpty

def readLine : Reading (List Command) := do
  modify ({ · with pending := none, expanding := [] })
  (readerOf (2 * (<- bound))).row .line

end BaseLanguage.Shell
