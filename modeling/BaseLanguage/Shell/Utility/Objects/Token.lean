import BaseLanguage.Shell.Utility.Objects.Value
import BaseLanguage.Shell.Utility.Records.Cell
import BaseLanguage.Text.OrderedPattern.Basic

namespace BaseLanguage.Shell.Objects

open Text

/-!
# The words of a program

A program is a row of words.  The blanks at the front of a line tell how deep it stands: more of them
begin a block, fewer of them end it.  Inside brackets the ends of lines do not count.
-/

structure Fault where
  type : String := "SyntaxError"
  message : String
  span : Span
  isWide : Bool := true
  shown : Option String := none

inductive TokenKind where
  | name
  | number (value : Value)
  | text (value : Value)
  /-- A text with values in it, from a place in the program on; a raw one takes backslashes as they
  are. -/
  | formed (isRaw : Bool) (start length : Nat)
  | sign
  | lineEnd
  | deeper
  | back
  | programEnd
  | wrong (fault : Fault)
  deriving Inhabited

structure Token where
  kind : TokenKind
  text : String
  span : Span
  deriving Inhabited

structure Lexing where
  text : Array Char
  place : Nat := 0
  ending : Nat
  line : Nat := 1
  lineStart : Nat := 0
  /-- How deep the blocks stand around this place, the innermost first: tabs stand up to eight
  columns, or count as one. -/
  depths : List (Nat × Nat) := [(0, 0)]
  brackets : List (Char × Nat × Nat) := []
  tokens : Array Token := #[]
  startsLine : Bool := true
  isDone : Bool := false

namespace Lexing

variable (lexing : Lexing)

def at? (count : Nat) : Option Char :=
  if lexing.place + count < lexing.ending then lexing.text[lexing.place + count]? else none

def columnOf (place : Nat) : Nat := place - lexing.lineStart

def span (first last : Nat) : Span :=
  ⟨lexing.line, lexing.columnOf first, lexing.line, lexing.columnOf last⟩

def between (first last : Nat) : Chars := (lexing.text.extract first last).toList

def push (lexing : Lexing) (kind : TokenKind) (last : Nat) : Lexing :=
  let word : Token :=
    { kind, text := .ofList (lexing.between lexing.place last)
      span := lexing.span lexing.place last }
  { lexing with tokens := lexing.tokens.push word, place := last }

def fail (fault : Fault) : Lexing :=
  { lexing with
    tokens := lexing.tokens.push { kind := .wrong fault, text := "", span := fault.span }
    isDone := true }

def failAt (message : String) (first last : Nat) : Lexing :=
  lexing.fail { message, span := lexing.span first last }

def runEnd (lexing : Lexing) (holds : Char -> Bool) : Nat -> Nat -> Nat
  | 0, place => place
  | limit + 1, place =>
    if place < lexing.ending && (lexing.text[place]?).any holds then
      runEnd lexing holds limit (place + 1)
    else place

def endOf (holds : Char -> Bool) : Nat :=
  lexing.runEnd holds (lexing.ending - lexing.place) lexing.place

end Lexing

/-! ## Names and numbers -/

def mayBegin (c : Char) : Bool := c.isAlpha || c = '_' || (128 <= c.toNat && isWideAlphanumeric c)

def mayFollow (c : Char) : Bool := mayBegin c || isDigit c

/-- Digits with lines between them, from a place on: where they end, and whether they are right. -/
def digitsEnd (lexing : Lexing) (isDigit : Char -> Bool) (start : Nat) : Nat × Bool :=
  let last := lexing.runEnd (fun c => isDigit c || c = '_') (lexing.ending - start) start
  let text := lexing.between start last
  let parts := pieces '_' text
  (last, parts.all (!·.isEmpty))

def wordsBehindNumbers : List String := wordsIn "and else for if in is not or"

def Lexing.pushNumber (lexing : Lexing) (value : Value) (last : Nat) (name : String) : Lexing :=
  let next := { lexing with place := last }
  match next.at? 0 with
  | some c =>
    if mayFollow c then
      let word := .ofList (lexing.between last (next.endOf mayFollow))
      if wordsBehindNumbers.contains word then lexing.push (.number value) last
      else
        lexing.fail
          { message := s!"invalid {name} literal", isWide := false
            span := lexing.span (last - 1) last }
    else lexing.push (.number value) last
  | none => lexing.push (.number value) last

def valueOfDigits (base : Nat) (digits : Chars) : Nat :=
  digits.foldl (fun value c => if c = '_' then value else base * value + hexValue c) 0

def Lexing.basedNumber (lexing : Lexing) (base : Nat) (name : String) (isDigit : Char -> Bool) :
    Lexing :=
  let start := lexing.place + 2
  let start := if lexing.text[start]? = some '_' then start + 1 else start
  let (last, isRight) := digitsEnd lexing isDigit start
  let isWrongDigit := (Lexing.at? { lexing with place := last } 0).any Text.isDigit
  if isWrongDigit then
    let digit := String.ofList (lexing.between last (last + 1))
    lexing.fail
      { message := s!"invalid digit '{digit}' in {name} literal", isWide := false
        span := lexing.span last (last + 1) }
  else if last = start || !isRight then
    lexing.fail
      { message := s!"invalid {name} literal", isWide := false, span := lexing.span (last - 1) last }
  else lexing.pushNumber (.whole (valueOfDigits base (lexing.between start last))) last name

def Lexing.number (lexing : Lexing) : Lexing :=
  match lexing.at? 0, (lexing.at? 1).map Char.toLower with
  | some '0', some 'x' => lexing.basedNumber 16 "hexadecimal" isHexDigit
  | some '0', some 'o' => lexing.basedNumber 8 "octal" (fun c => '0' <= c && c <= '7')
  | some '0', some 'b' => lexing.basedNumber 2 "binary" (fun c => c = '0' || c = '1')
  | _, _ =>
    let start := lexing.place
    let (wholeEnd, isRight) := digitsEnd lexing isDigit start
    let whole := lexing.between start wholeEnd
    let charAt (place : Nat) : Option Char := Lexing.at? { lexing with place } 0
    let (partEnd, hasPoint) :=
      if charAt wholeEnd = some '.' then ((digitsEnd lexing isDigit (wholeEnd + 1)).1, true)
      else (wholeEnd, false)
    let hasExponent :=
      (charAt partEnd = some 'e' || charAt partEnd = some 'E') &&
        ((charAt (partEnd + 1)).any isDigit ||
          ((charAt (partEnd + 1) = some '+' || charAt (partEnd + 1) = some '-') &&
            (charAt (partEnd + 2)).any isDigit))
    let last := if hasExponent then (digitsEnd lexing isDigit (partEnd + 2)).1 else partEnd
    if !isRight && !whole.isEmpty then
      lexing.fail
        { message := "invalid decimal literal", isWide := false
          span := lexing.span (wholeEnd - 1) wholeEnd }
    else if hasPoint || hasExponent then
      let digits := (lexing.between start last).filter (· != '_')
      let value := ((Records.decimalAt? digits).map Prod.fst).getD 0
      lexing.pushNumber (.real value) last "decimal"
    else if whole.head? = some '0' && whole.any (fun c => c ≠ '0' && c ≠ '_') then
      lexing.failAt ("leading zeros in decimal integer literals are not permitted; " ++
        "use an 0o prefix for octal integers") start
          (start + (whole.takeWhile (fun c => c = '0' || c = '_')).length)
    else lexing.pushNumber (.whole (valueOfDigits 10 whole)) last "decimal"

/-! ## Texts -/

def charOfNumber (number : Nat) : Char :=
  if 0xd800 <= number && number < 0xe000 then Char.ofNat (0x100000 + number) else Char.ofNat number

def numberOfChar (c : Char) : Nat :=
  if 0x10d800 <= c.toNat && c.toNat < 0x10e000 then c.toNat - 0x100000 else c.toNat

def escapeFault (first last : Nat) (what : String) : String :=
  s!"(unicode error) 'unicodeescape' codec can't decode bytes in position " ++
    s!"{numberText first}-{numberText last}: {what}"

def unescaped (isBytes : Bool) : Nat -> Nat -> Chars -> Chars -> Except String Chars
  | 0, _, _, done => .ok done.reverse
  | _, _, [], done => .ok done.reverse
  | limit + 1, place, '\\' :: rest, done =>
    let one (c : Char) (rest : Chars) : Except String Chars :=
      unescaped isBytes limit (place + 2) rest (c :: done)
    let coded (count : Nat) (letter : Char) (rest : Chars) : Except String Chars :=
      let digits := (rest.take count).takeWhile isHexDigit
      let shown := String.ofList (letter :: List.replicate count 'X')
      if digits.length < count then
        if isBytes then .error s!"(value error) invalid \\x escape at position {numberText place}"
        else .error (escapeFault place (place + 1 + digits.length) s!"truncated \\{shown} escape")
      else
        let value := hexadecimalValue digits
        if 0x10ffff < value then .error (escapeFault place (place + 9) "illegal Unicode character")
        else
          unescaped isBytes limit (place + 2 + count) (rest.drop count) (charOfNumber value :: done)
    match rest with
    | '\n' :: rest => unescaped isBytes limit (place + 2) rest done
    | '\\' :: rest => one '\\' rest
    | '\'' :: rest => one '\'' rest
    | '"' :: rest => one '"' rest
    | 'a' :: rest => one '\x07' rest
    | 'b' :: rest => one '\x08' rest
    | 'f' :: rest => one '\x0c' rest
    | 'n' :: rest => one '\n' rest
    | 'r' :: rest => one '\r' rest
    | 't' :: rest => one '\t' rest
    | 'v' :: rest => one '\x0b' rest
    | 'x' :: rest => coded 2 'x' rest
    | 'u' :: rest =>
      if isBytes then unescaped isBytes limit (place + 2) rest ('u' :: '\\' :: done)
      else coded 4 'u' rest
    | 'U' :: rest =>
      if isBytes then unescaped isBytes limit (place + 2) rest ('U' :: '\\' :: done)
      else coded 8 'U' rest
    | c :: more =>
      if '0' <= c && c <= '7' then
        let digits := ((c :: more).take 3).takeWhile (fun c => '0' <= c && c <= '7')
        let value := valueOfDigits 8 digits
        unescaped isBytes limit (place + 1 + digits.length) ((c :: more).drop digits.length)
          (Char.ofNat (if isBytes then value % 256 else value) :: done)
      else unescaped isBytes limit (place + 2) more (c :: '\\' :: done)
    | [] => .ok ('\\' :: done).reverse
  | limit + 1, place, c :: rest, done => unescaped isBytes limit (place + 1) rest (c :: done)

def closingPlace? (lexing : Lexing) (quote : Char) (isLong : Bool) : Nat -> Nat -> Option Nat
  | 0, _ => none
  | limit + 1, place =>
    if lexing.ending <= place then none
    else match lexing.text[place]? with
      | none => none
      | some '\\' => closingPlace? lexing quote isLong limit (place + 2)
      | some '\n' => if isLong then closingPlace? lexing quote isLong limit (place + 1) else none
      | some c =>
        if c = quote then
          if !isLong then some place
          else if lexing.between place (place + 3) = [quote, quote, quote] then some place
          else closingPlace? lexing quote isLong limit (place + 1)
        else closingPlace? lexing quote isLong limit (place + 1)

def linesBetween (lexing : Lexing) (first last : Nat) : Nat × Nat :=
  (List.range (last - first)).foldl (fun (count, start) index =>
    if lexing.text[first + index]? = some '\n' then (count + 1, first + index + 1)
    else (count, start)) (0, lexing.lineStart)

def Lexing.string (lexing : Lexing) (front : Nat) : Lexing :=
  let letters := (lexing.between lexing.place front).map Char.toLower
  let quote := (lexing.text[front]?).getD '"'
  let isLong := lexing.between front (front + 3) = [quote, quote, quote]
  let start := if isLong then front + 3 else front + 1
  match closingPlace? lexing quote isLong (lexing.ending + 1) start with
  | none =>
    let behind :=
      if isLong then lexing.ending else lexing.runEnd (· != '\n') (lexing.ending - start) start
    let (count, _) := linesBetween lexing lexing.place behind
    -- A text without an end that is said to go on stops where its line does.
    let joined := if isLong then 0 else
      ((List.range (behind - start)).filter fun index =>
        lexing.text[start + index]? = some '\\' && lexing.text[start + index + 1]? = some '\n').length
    let line := numberText (lexing.line + count + joined)
    let kind := if isLong then "triple-quoted string" else "string"
    lexing.fail
      { message := s!"unterminated {kind} literal (detected at line {line})", isWide := false
        span := lexing.span lexing.place (lexing.place + 1) }
  | some closing =>
    let last := closing + (if isLong then 3 else 1)
    let isRaw := letters.contains 'r'
    let isBytes := letters.contains 'b'
    let inside := lexing.between start closing
    let value : Except String Value :=
      if isBytes && inside.any (128 <= ·.toNat) then
        .error "bytes can only contain ASCII literal characters"
      else
        let text := if isRaw then .ok inside else unescaped isBytes (inside.length + 1) 0 inside []
        text.map fun text => if isBytes then .octets (bytesOf text) else .text (.ofList text)
    let (count, lineStart) := linesBetween lexing lexing.place last
    let span : Span :=
      ⟨lexing.line, lexing.columnOf lexing.place, lexing.line + count, last - lineStart⟩
    let kind : Except String TokenKind :=
      if letters.contains 'f' then .ok (.formed isRaw start (closing - start)) else value.map .text
    match kind with
    | .error message => lexing.fail { message, span }
    | .ok kind =>
      let word : Token := { kind, text := .ofList (lexing.between lexing.place last), span }
      { lexing with
        tokens := lexing.tokens.push word
        place := last
        line := lexing.line + count
        lineStart }

/-! ## Signs and lines -/

def signs : List String :=
  ["**=", "//=", ">>=", "<<=", "...", "**", "//", ">>", "<<", "<=", ">=", "==", "!=", "->", "+=",
    "-=", "*=", "/=", "%=", "&=", "|=", "^=", "@=", ":=", "+", "-", "*", "/", "%", "@", "&", "|",
    "^", "~", "<", ">", "(", ")", "[", "]", "\x7b", "\x7d", ",", ":", ".", ";", "="]

def closingOf : Char -> Char
  | '(' => ')'
  | '[' => ']'
  | _ => Char.ofNat 0x7d

def Lexing.sign (lexing : Lexing) : Lexing :=
  let front := lexing.between lexing.place (lexing.place + 3)
  match signs.find? (·.toList.isPrefixOf front) with
  | none =>
    let c := front.headD ' '
    let code := c.toNat
    let digits := ((Nat.toDigits 16 code).map Char.toUpper)
    let hex := String.ofList (withZeros 4 digits)
    if code < 32 || code = 127 || (128 <= code && isWideSpace c) || code = 0xfeff ||
        (0x2000 <= code && code <= 0x200f) then
      lexing.fail
        { message := s!"invalid non-printable character U+{hex}", isWide := false
          span := lexing.span lexing.place (lexing.place + 1) }
    else if 128 <= code then
      lexing.fail
        { message := s!"invalid character '{c}' (U+{hex})", isWide := false
          span := lexing.span lexing.place (lexing.place + 1) }
    else lexing.failAt "invalid syntax" lexing.place (lexing.place + 1)
  | some sign =>
    let last := lexing.place + sign.length
    let c := front.headD ' '
    if sign = "(" || sign = "[" || sign = "\x7b" then
      let column := lexing.columnOf lexing.place
      { lexing.push .sign last with brackets := (c, lexing.line, column) :: lexing.brackets }
    else if sign = ")" || sign = "]" || sign = "\x7d" then
      match lexing.brackets with
      | [] =>
        lexing.fail
          { message := s!"unmatched '{sign}'", isWide := false
            span := lexing.span lexing.place last }
      | (opening, line, _) :: brackets =>
        if closingOf opening = c then { lexing.push .sign last with brackets }
        else
          let lineText := if line = lexing.line then "" else s!" on line {numberText line}"
          lexing.fail
            { message :=
                s!"closing parenthesis '{sign}' does not match opening parenthesis " ++
                  s!"'{opening}'{lineText}"
              isWide := false
              span := lexing.span lexing.place last }
    else lexing.push .sign last

def Lexing.nextLine (lexing : Lexing) : Lexing :=
  { lexing with place := lexing.place + 1, line := lexing.line + 1, lineStart := lexing.place + 1 }

/-- How deep a line stands whose blanks are given: with tabs up to eight columns, and as one. -/
def depthOf (blanks : Chars) : Nat × Nat :=
  blanks.foldl (fun (columns, signs) c => match c with
    | '\t' => ((columns / 8 + 1) * 8, signs + 1)
    | '\x0c' => (0, 0)
    | _ => (columns + 1, signs + 1)) (0, 0)

def Lexing.pushBacks (lexing : Lexing) : Nat -> Lexing
  | 0 => lexing
  | count + 1 =>
    pushBacks { lexing.push .back lexing.place with depths := lexing.depths.drop 1 } count

def Lexing.lineFront (lexing : Lexing) : Lexing :=
  let start := lexing.place
  let last := lexing.endOf (fun c => c = ' ' || c = '\t' || c = '\x0c')
  let inside := { lexing with place := last }
  match inside.at? 0 with
  | none => { inside with startsLine := false }
  | some '\n' => inside.nextLine
  | some '\r' => { inside with place := last + 1 }
  | some '#' => { inside with place := inside.endOf (· != '\n') }
  | some _ =>
    let depth := depthOf (lexing.between start last)
    let present := lexing.depths.headD (0, 0)
    let mixed (lexing : Lexing) : Lexing :=
      lexing.fail
        { type := "TabError", message := "inconsistent use of tabs and spaces in indentation"
          isWide := false
          span :=
            let column := lexing.columnOf (lexing.endOf (· != '\n'))
            ⟨lexing.line, column, lexing.line, column + 1⟩ }
    let inside := { inside with startsLine := false }
    if depth.1 = present.1 then if depth.2 = present.2 then inside else mixed inside
    else if present.1 < depth.1 then
      if depth.2 <= present.2 then mixed inside
      else { inside.push .deeper last with depths := depth :: lexing.depths }
    else
      let count := (lexing.depths.takeWhile (depth.1 < ·.1)).length
      let target := (lexing.depths.drop count).headD (0, 0)
      if target.1 ≠ depth.1 then
        let column := inside.columnOf (inside.endOf (· != '\n'))
        inside.fail
          { type := "IndentationError"
            message := "unindent does not match any outer indentation level"
            isWide := false
            span := ⟨lexing.line, column, lexing.line, column + 1⟩ }
      else if target.2 ≠ depth.2 then mixed inside
      else inside.pushBacks count

def isStringFront (letters : Chars) : Bool :=
  [[], ['r'], ['b'], ['u'], ['f'], ['r', 'b'], ['b', 'r'], ['r', 'f'], ['f', 'r']].contains
    (letters.map Char.toLower)

def Lexing.finish (lexing : Lexing) : Lexing :=
  let isOpen := match lexing.tokens.back? with
    | some token => match token.kind with
      | .lineEnd => false
      | .back => false
      | .deeper => false
      | _ => true
    | none => false
  let lexing :=
    if isOpen && lexing.brackets.isEmpty then lexing.push .lineEnd lexing.place else lexing
  let lexing :=
    if lexing.brackets.isEmpty then
      let last := { lexing with
        line := if lexing.place = lexing.lineStart then lexing.line else lexing.line + 1
        lineStart := lexing.place }
      last.pushBacks (lexing.depths.length - 1)
    else lexing
  { lexing.push .programEnd lexing.place with isDone := true }

def Lexing.step (lexing : Lexing) : Lexing :=
  if lexing.startsLine then
    if (lexing.at? 0).isNone then { lexing with startsLine := false } else lexing.lineFront
  else match lexing.at? 0 with
    | none => lexing.finish
    | some c =>
      if c = ' ' || c = '\t' || c = '\x0c' then
        { lexing with place := lexing.endOf (fun c => c = ' ' || c = '\t' || c = '\x0c') }
      else if c = '\r' && lexing.at? 1 = some '\n' then { lexing with place := lexing.place + 1 }
      else if c = '#' then { lexing with place := lexing.endOf (· != '\n') }
      else if c = '\n' then
        if lexing.brackets.isEmpty then
          { (lexing.push .lineEnd lexing.place).nextLine with startsLine := true }
        else lexing.nextLine
      else if c = '\\' then
        if lexing.at? 1 = some '\n' then
          let next := { lexing with place := lexing.place + 1 }.nextLine
          if (next.at? 0).isNone then
            next.fail
              { message := "unexpected EOF while parsing", isWide := false
                span := ⟨lexing.line, lexing.columnOf lexing.place + 1, lexing.line,
                  lexing.columnOf lexing.place + 2⟩ }
          else next
        else if (lexing.at? 1).isNone then
          lexing.fail
            { message := "unexpected EOF while parsing", isWide := false
              span := lexing.span (lexing.place + 1) (lexing.place + 2) }
        else
          lexing.fail
            { message := "unexpected character after line continuation character"
              isWide := false
              span := lexing.span (lexing.place + 1) (lexing.place + 2) }
      else if mayBegin c then
        let last := lexing.endOf mayFollow
        let isQuote := lexing.text[last]? = some '"' || lexing.text[last]? = some '\''
        if last < lexing.ending && isQuote && isStringFront (lexing.between lexing.place last) then
          lexing.string last
        else lexing.push .name last
      else if c = '"' || c = '\'' then lexing.string lexing.place
      else if isDigit c || (c = '.' && (lexing.at? 1).any isDigit) then lexing.number
      else lexing.sign

def Lexing.run : Nat -> Lexing -> Lexing
  | 0, lexing => lexing.finish
  | limit + 1, lexing => if lexing.isDone then lexing else run limit lexing.step

/-!
## Reading words

A program is read word by word.  Where it cannot go on, the first word that does not fit is wrong,
unless there is more to say about it.
-/

structure Source where
  text : Array Char
  tokens : Array Token
  place : Nat := 0
  unclosed : Option (Char × Nat × Nat) := none

def sourceOf (text : Array Char) : Source :=
  let lexing := Lexing.run (3 * text.size + 10) { text, ending := text.size }
  let isWrong := match lexing.tokens.back? with
    | some { kind := .wrong _, .. } => true
    | _ => false
  { text, tokens := lexing.tokens, unclosed := if isWrong then none else lexing.brackets.head? }

abbrev Reading := StateT Source (Except Fault)

def keywords : List String :=
  wordsIn "False None True and as assert async await break class continue def del elif else except
  finally for from global if import in is lambda nonlocal not or pass raise return try while with
  yield"

def Span.to (first last : Span) : Span := ⟨first.line, first.column, last.lastLine, last.lastColumn⟩

namespace Reading

def peekAt (count : Nat) : Reading Token := do
  let source <- get
  return (source.tokens[source.place + count]?).getD (source.tokens.back?.getD default)

def peek : Reading Token := peekAt 0

def skip (count : Nat) : Reading Unit :=
  modify fun source => { source with place := source.place + count }

def last : Reading Token := do
  let source <- get
  return (source.tokens[source.place - 1]?).getD default

def refuse (span : Span) (message : String) : Reading α := throw { message, span }

def unclosedFault (bracket : Char × Nat × Nat) : Fault :=
  let (c, line, column) := bracket
  { message := s!"'{c}' was never closed", isWide := false
    span := ⟨line, column, line, column + 1⟩ }

def unexpectedFault : Reading Fault := do
  let source <- get
  let token <- peek
  let wrong := match source.tokens.back? with
    | some { kind := .wrong fault, .. } => some fault
    | _ => none
  match token.kind with
  | .wrong fault => return fault
  | .deeper =>
    return { type := "IndentationError", message := "unexpected indent", span := token.span }
  | .back =>
    return { type := "IndentationError", message := "unexpected unindent", span := token.span }
  | .programEnd => match source.unclosed with
    | some bracket => return unclosedFault bracket
    | none => return { message := "invalid syntax", span := token.span }
  | _ => match wrong, source.unclosed with
    | some fault, _ => return fault
    | none, some bracket =>
      if bracket.2.1 < token.span.line then return unclosedFault bracket
      else return { message := "invalid syntax", span := token.span }
    | none, none => return { message := "invalid syntax", span := token.span }

def unexpected : Reading α := do throw (<- unexpectedFault)

def refuseLate (span : Span) (message : String) : Reading α := do
  match (<- get).tokens.back? with
  | some { kind := .wrong fault, .. } => throw fault
  | _ => refuse span message

def sees (text : String) : Reading Bool := do
  let token <- peek
  match token.kind with
  | .sign => return token.text = text
  | .name => return token.text = text
  | _ => return false

def seesAt (count : Nat) (text : String) : Reading Bool := do
  let token <- peekAt count
  match token.kind with
  | .sign => return token.text = text
  | .name => return token.text = text
  | _ => return false

def accept (text : String) : Reading Bool := do
  if <- sees text then
    skip 1
    return true
  else return false

def demand (text : String) : Reading Unit := do
  if !(<- accept text) then unexpected

def seesLineEnd : Reading Bool := do
  match (<- peek).kind with
  | .lineEnd => return true
  | _ => return false

def demandColon : Reading Unit := do
  if !(<- accept ":") then
    match (<- peek).kind with
    | .wrong fault => throw fault
    | _ => refuseLate (<- peek).span "expected ':'"

def demandColonAtEnd : Reading Unit := do
  if !(<- accept ":") then
    if <- seesLineEnd then refuseLate (<- peek).span "expected ':'" else unexpected

def seesName : Reading Bool := do
  let token <- peek
  match token.kind with
  | .name => return !keywords.contains token.text
  | _ => return false

def name : Reading String := do
  if <- seesName then
    let token <- peek
    skip 1
    return token.text
  else unexpected

def spanned (read : Reading Expression) : Reading Expression := do
  let first := (<- peek).span
  let found <- read
  return .at (first.to (<- last).span) found

def mayRead? (read : Reading α) : Reading (Option α) := fun source => match read source with
  | .ok (found, source) => .ok (some found, source)
  | .error _ => .ok (none, source)

def separated (read : Reading α) (separator : String) : Nat -> Reading (List α)
  | 0 => return [<- read]
  | limit + 1 => do
    let first <- read
    if <- accept separator then return first :: (<- separated read separator limit)
    else return [first]

def bound : Reading Nat := do return (<- get).tokens.size + 1

end Reading

/-! ## Parts of expressions -/

namespace Expression

def span : Expression -> Span
  | .at span _ => span
  | _ => default

def bare : Expression -> Expression
  | .at _ inner => inner.bare
  | expression => expression

def told (expression : Expression) : String := match expression.bare with
  | .name _ => "name"
  | .attribute _ _ => "attribute"
  | .item _ _ => "subscript"
  | .items _ => "starred"
  | .list _ => "list"
  | .tuple _ => "tuple"
  | .function _ _ => "lambda"
  | .call _ _ => "function call"
  | .signed _ _ => "expression"
  | .binary _ _ _ => "expression"
  | .both _ _ => "expression"
  | .either _ _ => "expression"
  | .collected .list _ _ _ => "list comprehension"
  | .collected .set _ _ _ => "set comprehension"
  | .collected .dict _ _ _ => "dict comprehension"
  | .collected .generator _ _ _ => "generator expression"
  | .give _ => "yield expression"
  | .giveAll _ => "yield expression"
  | .dict _ => "dict literal"
  | .set _ => "set display"
  | .joined _ => "f-string expression"
  | .formed _ _ _ => "f-string expression"
  | .constant .nothing => "None"
  | .constant (.truth true) => "True"
  | .constant (.truth false) => "False"
  | .constant .ellipsis => "ellipsis"
  | .constant _ => "literal"
  | .compared _ _ => "comparison"
  | .choice _ _ _ => "conditional expression"
  | .assigned _ _ => "named expression"
  | .slice _ _ _ => "slice"
  | .at _ _ => "expression"

def unassignable? (isDeletion : Bool) : Nat -> Expression -> Option Expression
  | 0, _ => none
  | depth + 1, expression => match expression.bare with
    | .name _ => none
    | .attribute _ _ => none
    | .item _ _ => none
    | .items inner => if isDeletion then some expression else inner.unassignable? isDeletion depth
    | .list parts => parts.findSome? (unassignable? isDeletion depth)
    | .tuple parts => parts.findSome? (unassignable? isDeletion depth)
    | _ => some expression

end Expression

end BaseLanguage.Shell.Objects
