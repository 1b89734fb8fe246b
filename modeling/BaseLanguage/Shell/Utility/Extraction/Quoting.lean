import BaseLanguage.Shell.Utility.Extraction.Source
import BaseLanguage.Shell.Utility.Records.State

namespace BaseLanguage.Shell.Extraction

open Text

/-!
# Quoted texts of a program

A quoted text may hold names, whose values stand in their places, and signs behind backslashes.
Patterns keep their backslashes, since they have a meaning of their own there.
-/

structure Grammar where
  expression : Reading Expression
  assigned : Reading Expression
  assignedList : Reading Expression
  block : Reading (List Statement)
  statements : Reading (List Statement)

namespace Reading

section

variable (grammar : Grammar)

/-! ## Names with subscripts -/

def takeKey : Reading Expression := do
  toNext
  let before <- get
  let minus <-
    if (<- peek) == some '-' && (<- peekAt 1).any isNameStart then
      skip 1
      pure "-"
    else pure ""
  let word := .ofList (<- takeRun isNameInside)
  toNext
  if !word.isEmpty && (<- peek) == some '}' then
    skip 1
    return .ofText (minus ++ word)
  else
    set before
    let key <- grammar.expression
    expect "\x7d"
    match key with
    | .list parts => return .function "join" (.named .cell (.shared "main::;") :: parts)
    | key => return key

def takeIndex : Reading Expression := do
  let index <- grammar.expression
  expect "]"
  return index

inductive Base where
  | called (name : String)
  | reference (value : Expression)

def Base.at (kind : Kind) : Base -> Reading Expression
  | .called name => return .named kind (<- holderOf kind name)
  | .reference value => return .followed kind value

def signNames : Chars :=
  ['&', '\x60', '\'', '+', '!', '@', '/', '\\', ',', ';', '.', '0', '<', '>', '(', ')', '[', ']', '^',
    '|', '~', '=', '%', '-', '"', ':', '?', '$', '*']

def takeBase : Nat -> Reading Base
  | 0 => syntaxFault false
  | limit + 1 => do
    match <- peek with
    | some '{' =>
      let before <- get
      skip 1
      toNext
      let caret <-
        if (<- peek) == some '^' then
          skip 1
          pure "^"
        else pure ""
      let name <-
        if (<- peek).any isDigit then pure (.ofList (<- takeRun isDigit)) else takeName mostParts
      toNext
      if !name.isEmpty && (<- peek) == some '}' then
        skip 1
        return .called (caret ++ name)
      else
        set before
        skip 1
        toNext
        let isSign := (<- peek).any signNames.contains && (<- peekAt 1) == some '}'
        if isSign && (<- peek) != some '$' then
          let sign := ((<- peek).map .singleton).getD ""
          skip 2
          return .called sign
        else
          set before
          match <- grammar.block with
          | [.evaluate _ value] => return .reference value
          | body => return .reference (.perform body)
    | some '$' =>
      let next <- peekAt 1
      if next.any isNameStart || next == some '{' || next == some '$' then
        skip 1
        match <- takeBase limit with
        | .called name => return .reference (.named .cell (<- holderOf .cell name))
        | .reference value => return .reference (.followed .cell value)
      else
        skip 1
        return .called "$"
    | some '^' =>
      if (<- peekAt 1).any Char.isUpper then
        let letter := (<- peekAt 1).getD ' '
        skip 2
        return .called (.ofList ['^', letter])
      else
        skip 1
        return .called "^"
    | some c =>
      if isDigit c then return .called (.ofList (<- takeRun isDigit))
      else if isNameStart c || (<- sees "::") then return .called (<- takeName mostParts)
      else if signNames.contains c then
        skip 1
        return .called (.singleton c)
      else syntaxFault false
    | none => syntaxFault false

def mostSigns : Nat := 50

def seesPlainIndex : Reading Bool := do
  let before <- get
  skip 1
  let text <- takeRun (fun c => c != ']' && c != '\n')
  set before
  let digits := match text with
    | '-' :: rest => rest
    | text => text
  let isName := match text with
    | '$' :: rest => !rest.isEmpty && rest.all isNameInside
    | _ => false
  return (!digits.isEmpty && digits.all isDigit) || isName

def seesPlainKey : Reading Bool := do
  let before <- get
  skip 1
  let text <- takeRun (· != '}')
  set before
  return !(text.all (fun c => isDigit c || c = ',')) && !text.isEmpty

def textSubscripts (inPattern : Bool) : Nat -> Expression -> Reading Expression
  | 0, value => return value
  | limit + 1, value => do
    let isArrow := (<- sees "->[") || (<- sees "->\x7b")
    if isArrow then skip 2
    match <- peek with
    | some '[' =>
      let holds <- if inPattern then seesPlainIndex else pure true
      if holds then
        skip 1
        textSubscripts inPattern limit (.item (.followed .row value) (<- takeIndex grammar))
      else return value
    | some '{' =>
      let holds <- if inPattern then seesPlainKey else pure true
      if holds then
        skip 1
        textSubscripts inPattern limit (.entry (.followed .table value) (<- takeKey grammar))
      else return value
    | _ => return value

def takeElement (inPattern inText : Bool) (base : Base) : Reading Expression := do
  match <- peek with
  | some '[' =>
    let holds <- if inPattern then seesPlainIndex else pure true
    if holds then
      skip 1
      let value := .item (<- base.at .row) (<- takeIndex grammar)
      if inText then textSubscripts grammar inPattern mostSigns value else return value
    else base.at .cell
  | some '{' =>
    let holds <- if inPattern then seesPlainKey else pure true
    if holds then
      skip 1
      let value := .entry (<- base.at .table) (<- takeKey grammar)
      if inText then textSubscripts grammar inPattern mostSigns value else return value
    else base.at .cell
  | _ =>
    let value <- base.at .cell
    if inText && ((<- sees "->[") || (<- sees "->\x7b")) then
      textSubscripts grammar inPattern 1 value >>= textSubscripts grammar inPattern mostSigns
    else return value

def takeCell (inPattern inText : Bool) : Reading Expression := do
  if (<- peek) == some '#' then
    match <- peekAt 1 with
    | some c =>
      if c = '{' || c = '$' || isNameStart c then
        skip 1
        let base <- takeBase grammar mostSigns
        return .lastPlace (<- base.at .row)
      else syntaxFault false
    | none => syntaxFault false
  else takeElement grammar inPattern inText (<- takeBase grammar mostSigns)

def takeRow : Reading Expression := do
  let base <- takeBase grammar mostSigns
  match <- peek with
  | some '[' =>
    skip 1
    return .items (<- base.at .row) (<- takeIndex grammar)
  | some '{' =>
    skip 1
    let table <- base.at .table
    toNext
    let keys <- grammar.expression
    expect "\x7d"
    return .entries table keys
  | _ => base.at .row

/-! ## Texts with values in them -/

inductive Piece where
  | text (octets : Chars)
  | value (value : Expression)
  | change (letter : Char)

def takeEscape : Reading Piece := do
  let some c <- peek | return .text ['\\']
  skip 1
  if ['U', 'L', 'Q', 'E', 'F', 'u', 'l'].contains c then return .change c
  else match c with
    | 'n' => return .text ['\n']
    | 't' => return .text ['\t']
    | 'r' => return .text ['\r']
    | 'a' => return .text ['\x07']
    | 'e' => return .text ['\x1b']
    | 'f' => return .text ['\x0c']
    | 'b' => return .text ['\x08']
    | 'x' =>
      if (<- peek) == some '{' then
        skip 1
        let digits <- takeRun (· != '}')
        skip 1
        return .text [Char.ofNat (valueOfDigits 16 (digits.filter isHexDigit))]
      else
        let digits <- takeRun isHexDigit
        let extra := digits.length - 2
        modify fun source => { source with place := source.place - extra }
        return .text [Char.ofNat (valueOfDigits 16 (digits.take 2))]
    | 'c' =>
      let letter := (<- peek).getD ' '
      skip 1
      return .text [Char.ofNat (Nat.xor letter.toUpper.toNat 64)]
    | 'N' =>
      if <- sees "\x7bU+" then
        skip 3
        let digits <- takeRun (· != '}')
        skip 1
        return .text [Char.ofNat (valueOfDigits 16 digits)]
      else return .text ['N']
    | c =>
      if '0' <= c && c <= '7' then
        let digits <- takeRun (fun c => '0' <= c && c <= '7')
        let extra := digits.length - 2
        modify fun source => { source with place := source.place - extra }
        return .text [Char.ofNat (valueOfDigits 8 (c :: digits.take 2))]
      else return .text [c]

def seesCellName (inPattern : Bool) : Reading Bool := do
  let some c <- peekAt 1 | return false
  if isNameStart c || c = '{' || isDigit c || c = '&' then return true
  else if c = '$' || c = '#' then
    let next <- peekAt 2
    let isNext := next.any isNameStart || next == some '{' || next == some '$'
    return isNext || (c = '$' && !inPattern)
  else if c = ':' then return (<- peekAt 2) == some ':' && (<- peekAt 3).any isNameStart
  else if inPattern then return c = '+' && (<- peekAt 2) == some '{' || c = ',' || c = ';'
  else return signNames.contains c

def seesRowName (inPattern : Bool) : Reading Bool := do
  let some c <- peekAt 1 | return false
  if c = ':' then return (<- peekAt 2) == some ':'
  else if c = '-' || c = '+' then return !inPattern
  else return isNameInside c || c = '{' || (c = '$' && (<- peekAt 2).any
    (fun c => isNameStart c || c = '{'))

def takePieces (inPattern : Bool) : Nat -> List Piece -> Reading (List Piece)
  | 0, done => return done.reverse
  | limit + 1, done => do
    match <- peek with
    | none => return done.reverse
    | some '\\' =>
      skip 1
      if inPattern then
        match <- peek with
        | some c =>
          skip 1
          if ['U', 'L', 'Q', 'E', 'F', 'u', 'l'].contains c then
            takePieces inPattern limit (.change c :: done)
          else takePieces inPattern limit (.text ['\\', c] :: done)
        | none => takePieces inPattern limit (.text ['\\'] :: done)
      else takePieces inPattern limit ((<- takeEscape) :: done)
    | some '$' =>
      if <- seesCellName inPattern then
        skip 1
        let value <- takeCell grammar inPattern true
        takePieces inPattern limit (.value value :: done)
      else
        skip 1
        takePieces inPattern limit (.text ['$'] :: done)
    | some '@' =>
      if <- seesRowName inPattern then
        skip 1
        takePieces inPattern limit (.value (.listed (<- takeRow grammar)) :: done)
      else
        skip 1
        takePieces inPattern limit (.text ['@'] :: done)
    | some c =>
      skip 1
      takePieces inPattern limit (.text [c] :: done)

def changeName : Char -> String
  | 'U' => "uc"
  | 'L' => "lc"
  | 'F' => "fc"
  | 'Q' => "quotemeta"
  | 'u' => "ucfirst"
  | _ => "lcfirst"

def partsOf : Nat -> List Piece -> Chars -> List Expression -> List Expression × List Piece
  | 0, pieces, _, done => (done.reverse, pieces)
  | limit + 1, pieces, text, done =>
    let close : List Expression :=
      if text.isEmpty then done else .ofText (.ofList text.reverse) :: done
    match pieces with
    | [] => (close.reverse, [])
    | .text octets :: rest => partsOf limit rest (octets.reverse ++ text) done
    | .value value :: rest => partsOf limit rest [] (value :: close)
    | .change 'E' :: rest => (close.reverse, .change 'E' :: rest)
    | .change letter :: rest =>
      let (inner, behind) := partsOf limit rest [] []
      let changed := .function (changeName letter) [.joined inner]
      match behind with
      | .change 'E' :: behind =>
        if letter = 'u' || letter = 'l' then
          partsOf limit (.change 'E' :: behind) [] (changed :: close)
        else partsOf limit behind [] (changed :: close)
      | behind => partsOf limit behind [] (changed :: close)

def allParts : Nat -> List Piece -> List Expression
  | 0, _ => []
  | limit + 1, pieces => match partsOf (2 * pieces.length + 2) pieces [] [] with
    | (parts, []) => parts
    | (parts, _ :: rest) => parts ++ allParts limit rest

def joinedText (inPattern : Bool) (text : Chars) (line : Nat) : Reading Expression := do
  let quoted := if inPattern then "pattern" else "string"
  let pieces <- within text line (some quoted) (takePieces grammar inPattern (text.length + 1) [])
  match allParts (pieces.length + 1) pieces with
  | [] => return .ofText ""
  | [.constant value] => return .constant value
  | parts => return .joined parts

def plainText : Chars -> Chars
  | '\\' :: '\\' :: rest => '\\' :: plainText rest
  | c :: rest => c :: plainText rest
  | [] => []

/-! ## Quoting words -/

def quotingWords : List String := wordsIn "q qq qw qr qx m s tr y"

def seesQuoting (word : String) : Reading Bool := do
  let before <- get
  skip word.length
  let isRight := (<- peek) == some '#' || !(<- peek).any isSpace
  toNext
  let next <- peek
  let arrow <- sees "=>"
  let isComma := next == some ',' || next == some ';' || next == some ')'
  let isGiven := (<- sees "=") && (word = "y" || word = "s" || word = "q" || word = "m") && !isRight
  set before
  return next.isSome && !arrow && !isComma && !isGiven && (isRight || next != some '#')

def takeFlags : Reading String := do return .ofList (<- takeRun Char.isAlpha)

def takeSecond (opening : Char) (keeps : Bool) (message : Char -> String) :
    Reading (Chars × Nat) := do
  if closingOf opening = opening then
    let line <- line
    return (<- takeInside opening keeps message, line)
  else
    toNext
    let second <- takeOpening
    let line <- line
    return (<- takeInside second keeps message, line)

def rangesOf : Nat -> Chars -> Chars
  | 0, text => text
  | limit + 1, first :: '-' :: last :: rest =>
    let count := last.toNat + 1 - first.toNat
    (List.range count).map (fun step => Char.ofNat (first.toNat + step)) ++ rangesOf limit rest
  | limit + 1, c :: rest => c :: rangesOf limit rest
  | _, [] => []

def charactersOf (text : Chars) : Reading Chars := do
  let mark := Char.ofNat 0x10fffe
  let rec go (limit : Nat) (done : Chars) : Reading Chars := do
    match limit, <- peek with
    | 0, _ => return done.reverse
    | _, none => return done.reverse
    | limit + 1, some '\\' =>
      skip 1
      if (<- peek) == some '-' then
        skip 1
        go limit (mark :: done)
      else match <- takeEscape with
        | .text octets => go limit (octets.reverse ++ done)
        | .change letter => go limit (letter :: done)
        | .value _ => go limit done
    | limit + 1, some c =>
      skip 1
      go limit (c :: done)
  let found <- within text (<- line) none (go (text.length + 1) [])
  return (rangesOf (found.length + 1) found).map (fun c => if c = mark then '-' else c)

def patternText (opening : Char) (text : Chars) (line : Nat) : Reading Expression := do
  if opening = '\'' then return .ofText (.ofList text) else joinedText grammar true text line

def takeQuoted (word : String) : Reading Expression := do
  let opening <- takeOpening
  let startLine <- line
  match word with
  | "q" => return .ofText (.ofList (plainText (<- takeInside opening false unendedText)))
  | "qq" => joinedText grammar false (<- takeInside opening false unendedText) startLine
  | "qw" =>
    let words := Records.partsAtBlanks isSpace (plainText (<- takeInside opening false unendedText))
    return .list (words.map fun word => .ofText (.ofList word))
  | "qx" =>
    let text <- takeInside opening false unendedText
    let command <-
      if opening = '\'' then pure (.ofText (.ofList text))
      else joinedText grammar false text startLine
    return .function "outputOf" [command]
  | "qr" =>
    let text <- takeInside opening true (fun _ => "Search pattern not terminated")
    return .patternOf (<- patternText grammar opening text startLine) (<- takeFlags)
  | "s" =>
    let text <- takeInside opening true (fun _ => "Substitution pattern not terminated")
    let (new, newLine) <- takeSecond opening false
      (fun _ => "Substitution replacement not terminated")
    let flags <- takeFlags
    let pattern <- patternText grammar opening text startLine
    if flags.contains 'e' then
      let value := .perform (<- within new newLine (some "pattern") (inBlock grammar.statements))
      let value :=
        if (flags.toList.filter (· == 'e')).length = 1 then value else .trialOf [] "main" value
      return .replace pattern value flags
    else
      let value <-
        if opening = '\'' then pure (.ofText (.ofList new))
        else joinedText grammar false new newLine
      return .replace pattern value flags
  | "m" =>
    let text <- takeInside opening true (fun _ => "Search pattern not terminated")
    return .search (<- patternText grammar opening text startLine) (<- takeFlags)
  | _ =>
    let old <- takeInside opening false (fun _ => "Transliteration pattern not terminated")
    let (new, _) <- takeSecond opening false (fun _ => "Transliteration replacement not terminated")
    let flags <- takeFlags
    return .translate (<- charactersOf old) (<- charactersOf new) flags

def takeAnnouncement? : Reading (Option Expression) := do
  let before <- get
  skip 2
  let isIndented <-
    if (<- peek) == some '~' then
      skip 1
      pure true
    else pure false
  match <- peek with
  | some '"' =>
    skip 1
    let mark <- takeRun (· != '"')
    skip 1
    let (text, line) <- takeAnnounced mark isIndented
    return some (<- joinedText grammar false text line)
  | some '\'' =>
    skip 1
    let mark <- takeRun (· != '\'')
    skip 1
    let (text, _) <- takeAnnounced mark isIndented
    return some (.ofText (.ofList text))
  | some c =>
    if isNameStart c then
      let (text, line) <- takeAnnounced (<- takeRun isNameInside) isIndented
      return some (<- joinedText grammar false text line)
    else
      set before
      return none
  | none =>
    set before
    return none

def takeAngles : Reading Expression := do
  skip 1
  let text <- takeInside '<' true (fun _ => "Unterminated <> operator")
  match text with
  | [] => return .readLine (.ofText "ARGV")
  | ['<', '>'] => return .readLine (.ofText "ARGV")
  | '$' :: name =>
    if !name.isEmpty && name.all isNameInside then
      return .readLine (.named .cell (<- holderOf .cell (.ofList name)))
    else return .filesLike (<- joinedText grammar false text (<- line))
  | text =>
    if text.all (fun c => isNameInside c || c = ':') then return .readLine (.ofText (.ofList text))
    else return .filesLike (<- joinedText grammar false text (<- line))

end

end Reading
end BaseLanguage.Shell.Extraction
