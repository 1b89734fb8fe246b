import BaseLanguage.Shell.Syntax
import BaseLanguage.Text.Utf8

namespace BaseLanguage.Shell

open Text

/-!
# Reading words

A word goes on up to a blank or an operator.  What stands in quotes belongs to it, and so does what
stands behind a dollar sign: a parameter, with or without braces, a sum in two pairs of parentheses,
or commands in one pair.  The commands are read by what is given as `Nesting`.

Reading goes piece by piece, and ends where the surroundings of the pieces end.  Every step takes at
least one character, so that the length of the source bounds the number of steps.
-/

structure Nesting where
  enclosed : Reading (List Command)
  all : Reading (List Command)

inductive Surrounding where
  | blanks
  | condition
  | mark
  | quotes
  | braces (quoted : Bool) (stops : Chars)
  | brackets
  | sum
  | document
  | group
  deriving DecidableEq

namespace Surrounding

def quotes? : Surrounding -> Bool
  | .blanks | .condition | .mark | .brackets | .group => false
  | .braces quoted _ => quoted
  | .quotes | .sum | .document => true

end Surrounding

def isBlank (c : Char) : Bool := c = ' ' || c = '\t'

def isOperatorChar (c : Char) : Bool :=
  c = ';' || c = '&' || c = '|' || c = '<' || c = '>' || c = '(' || c = ')'

def isNameStart (c : Char) : Bool := c.isAlpha || c = '_'

def isNameChar (c : Char) : Bool := isNameStart c || isDigit c

def isName : Chars -> Bool
  | [] => false
  | c :: rest => isNameStart c && rest.all isNameChar

def isSpecialParameter (c : Char) : Bool :=
  c = '#' || c = '?' || c = '$' || c = '!' || c = '-' || c = '*' || c = '@' || isDigit c

namespace Word

def push (found : Word) (quoted : Bool) (c : Char) : Word := match found with
  | .text marked octets :: rest =>
    if marked = quoted then .text quoted (c :: octets) :: rest else .text quoted [c] :: found
  | _ => .text quoted [c] :: found

def pushAll (found : Word) (parts : Word) : Word :=
  parts.foldl
    (fun found part => match part with
      | .text quoted [] => match found with
        | .text marked _ :: _ => if marked = quoted then found else part :: found
        | _ => part :: found
      | .text quoted octets => octets.foldl (fun found c => push found quoted c) found
      | part => part :: found)
    found

def finish (found : Word) : Word :=
  found.reverse.map fun
    | .text quoted octets => .text quoted octets.reverse
    | part => part

/-- Pieces in quotes.  Quotes around nothing are a piece, except around all arguments. -/
def inQuotes : Word -> Word
  | [] => [.text true []]
  | parts => parts

end Word

def spellOctets (code : Nat) : Chars := octetsOf (toBytes (.singleton (Char.ofNat code)))

def hexValue? (c : Char) : Option Nat :=
  if isDigit c then some (digitValue c)
  else if 'a' <= c && c <= 'f' then some (c.toNat - 'a'.toNat + 10)
  else if 'A' <= c && c <= 'F' then some (c.toNat - 'A'.toNat + 10)
  else none

def isOctalDigit (c : Char) : Bool := '0' <= c && c <= '7'

def valueInBase (base : Nat) (digits : Chars) : Nat :=
  digits.foldl (fun value c => value * base + (hexValue? c).getD 0) 0

def digitsInFront (count : Nat) (text : Chars) : Chars :=
  (text.take count).takeWhile (fun c => (hexValue? c).isSome)

def controlOctet? (c : Char) : Option Char := match c with
  | 'a' => some '\x07'
  | 'b' => some '\x08'
  | 'e' | 'E' => some '\x1b'
  | 'f' => some '\x0c'
  | 'n' => some '\n'
  | 'r' => some '\r'
  | 't' => some '\t'
  | 'v' => some '\x0b'
  | '\\' | '\'' | '"' | '?' => some c
  | _ => none

def escapedOctets (text : Chars) : Chars × Chars := match text with
  | [] => (['\\'], [])
  | 'x' :: rest =>
    let digits := digitsInFront 2 rest
    if digits.isEmpty then (['\\', 'x'], rest)
    else ([Char.ofNat (valueInBase 16 digits)], rest.drop digits.length)
  | 'u' :: rest =>
    let digits := digitsInFront 4 rest
    if digits.isEmpty then (['\\', 'u'], rest)
    else (spellOctets (valueInBase 16 digits), rest.drop digits.length)
  | 'U' :: rest =>
    let digits := digitsInFront 8 rest
    if digits.isEmpty then (['\\', 'U'], rest)
    else (spellOctets (valueInBase 16 digits), rest.drop digits.length)
  | 'c' :: c :: rest => ([Char.ofNat (c.toUpper.toNat % 64)], rest)
  | c :: rest => match controlOctet? c with
    | some octet => ([octet], rest)
    | none =>
      let digits := (text.take 3).takeWhile isOctalDigit
      if digits.isEmpty then (['\\', c], rest)
      else ([Char.ofNat (valueInBase 8 digits % 256)], text.drop digits.length)

def unescapeQuoted : Nat -> Chars -> Chars
  | 0, _ => []
  | _, [] => []
  | limit + 1, '\\' :: rest =>
    let (octets, rest) := escapedOctets rest
    octets ++ unescapeQuoted limit rest
  | limit + 1, c :: rest => c :: unescapeQuoted limit rest

/-- The text up to a single quote, which is taken.  With escapes, a backslash keeps the quote behind
it from ending the text. -/
def readSingleQuoted (escapes : Bool) : Reading Chars := do beginning (go (<- bound) [])
where
  go : Nat -> Chars -> Reading Chars
    | 0, _ => faulty (.unclosed '\'')
    | limit + 1, found => do
      match <- nextRaw with
      | none => faulty (.unclosed '\'')
      | some '\'' => return found.reverse
      | some '\\' =>
        if escapes then
          match <- nextRaw with
          | none => faulty (.unclosed '\'')
          | some c => go limit (c :: '\\' :: found)
        else go limit ('\\' :: found)
      | some c => go limit (c :: found)

/-- The text up to a backquote, which is taken.  Some characters lose a backslash in front. -/
def readBackquoted (quoted : Bool) : Reading Chars := do beginning (go (<- bound) [])
where
  go : Nat -> Chars -> Reading Chars
    | 0, _ => faulty (.unclosed (Char.ofNat 0x60))
    | limit + 1, found => do
      match <- next with
      | none => faulty (.unclosed (Char.ofNat 0x60))
      | some '\\' => match <- nextRaw with
        | none => faulty (.unclosed (Char.ofNat 0x60))
        | some c =>
          if c = '\\' || c = '$' || c.toNat = 0x60 || (quoted && c = '"') then go limit (c :: found)
          else go limit (c :: '\\' :: found)
      | some c => if c.toNat = 0x60 then return found.reverse else go limit (c :: found)

variable (surrounding : Surrounding)

def Surrounding.endsAt (c : Char) : Bool := match surrounding with
  | .blanks | .mark => isBlank c || c = '\n' || isOperatorChar c
  | .condition => isBlank c || c = '\n'
  | .quotes => c = '"'
  | .braces _ stops => c = '\x7d' || stops.contains c
  | .brackets => c = ']'
  | .group => c = ')'
  | .sum | .document => false

def endOfPieces (found : Word) : Reading Word := match surrounding with
  | .blanks | .condition | .mark | .document => return found.finish
  | .quotes => faulty (.unclosed '"')
  | .braces quoted _ => do
    if quoted && !(<- isExtended) then faulty (.unclosed '"') else faulty (.missing "\x7d")
  | .brackets => faulty (.missing "]")
  | .sum => faulty (.missing "))")
  | .group => faulty (.missing ")")

def Surrounding.escapes (c : Char) : Bool :=
  c = '\\' || c = '$' || c.toNat = 0x60 ||
    match surrounding with
    | .document => false
    | .braces _ _ => c = '"' || c = '\x7d'
    | _ => c = '"'

def opensSaid : Reading Bool := do
  let source <- get
  let isWord := surrounding = .blanks || surrounding = .condition
  return source.kind = .extended && isWord &&
    (source.rest.take 2 == ['<', '('] || source.rest.take 2 == ['>', '('])

def opensGroup (c : Char) : Reading Bool := do
  let source <- get
  let isWord := surrounding = .blanks || surrounding = .condition || surrounding = .group
  return source.groups && isWord && ['?', '*', '+', '@', '!'].contains c &&
    source.rest.head? == some '('

def readOccurrence : Reading Occurrence := do
  if <- accept '/' then return .all
  else if <- accept '#' then return .front
  else if <- accept '%' then return .back
  else return .first

def readParameterName : Reading (Option Chars) := do
  let some c <- peek | return none
  if isNameStart c then return some (<- nextWhile isNameChar)
  else if isDigit c then return some (<- nextWhile isDigit)
  else return none

mutual

/-- Pieces up to the end of their surroundings; those so far are in reverse.  The level is the
number of open parentheses in a sum.  -/
def readPieces (nesting : Nesting) (surrounding : Surrounding) : Nat -> Nat -> Word -> Reading Word
  | 0, _, _ => faulty .tooDeep
  | limit + 1, level, found => do
    let quoted := surrounding.quotes?
    let some c <- peek | endOfPieces surrounding found
    if <- opensSaid surrounding then
      discard nextRaw
      discard nextRaw
      let body <- nesting.enclosed
      readPieces nesting surrounding limit level (found.pushAll [.said (c = '>') body])
    else if surrounding.endsAt c && !(surrounding = .group && level ≠ 0) then return found.finish
    else
      discard nextRaw
      let goOn (found : Word) : Reading Word := readPieces nesting surrounding limit level found
      if <- opensGroup surrounding c then
        discard nextRaw
        let inside <- beginning (readPieces nesting .group limit 0 [])
        discard nextRaw
        return <- goOn ((((found.push false c).push false '(').pushAll inside).push false ')')
      match c with
      | '\\' => match <- nextRaw with
        | none => goOn (found.push true '\\')
        | some d =>
          if !quoted || surrounding.escapes d then goOn (found.push true d)
          else goOn ((found.push true '\\').push true d)
      | '\'' =>
        if quoted then goOn (found.push true c)
        else goOn (found.pushAll [.text true (<- readSingleQuoted false)])
      | '"' =>
        if surrounding = .document || (surrounding = .sum && !(<- isExtended)) then
          goOn (found.push true c)
        else
          let inside <- beginning (readPieces nesting .quotes limit 0 [])
          discard nextRaw
          goOn (found.pushAll (.inQuotes inside))
      | '$' =>
        if surrounding = .mark then goOn (found.push quoted c)
        else goOn (found.pushAll (<- readDollar nesting surrounding limit))
      | '(' =>
        if surrounding = .sum || surrounding = .group then
          readPieces nesting surrounding limit (level + 1) (found.push quoted c)
        else goOn (found.push quoted c)
      | ')' =>
        if surrounding = .group then
          readPieces nesting surrounding limit (level - 1) (found.push quoted c)
        else if surrounding ≠ .sum then goOn (found.push quoted c)
        else if level = 0 then
          if <- accept ')' then return found.finish
          else if <- isExtended then faulty (.missing "))")
          else goOn (found.push quoted c)
        else readPieces nesting surrounding limit (level - 1) (found.push quoted c)
      | '\x60' =>
        if surrounding = .mark then goOn (found.push quoted c)
        else
          let line := (<- get).line
          let text <- readBackquoted quoted
          let start := if <- isExtended then line else 1
          goOn (found.pushAll [.output quoted (<- within text start nesting.all)])
      | c => goOn (found.push quoted c)

def readDollar (nesting : Nesting) (surrounding : Surrounding) : Nat -> Reading Word
  | 0 => faulty .tooDeep
  | limit + 1 => do
    let quoted := surrounding.quotes?
    match <- peek with
    | some '(' =>
      discard nextRaw
      let before <- get
      if <- accept '(' then
        let sum : Reading WordPart := do
          return .sum quoted (<- beginning (readPieces nesting .sum limit 0 []))
        if <- isExtended then
          let output : Reading WordPart := do
            set before
            return .output quoted (<- nesting.enclosed)
          return [<- tryCatch sum (fun _ => output)]
        else return [<- sum]
      else return [.output quoted (<- nesting.enclosed)]
    | some '\x7b' =>
      discard nextRaw
      return [<- beginning (readBraces nesting surrounding limit)]
    | some c =>
      if isNameStart c then return [.parameter quoted (<- nextWhile isNameChar) .only .value]
      else if isSpecialParameter c then
        discard nextRaw
        return [.parameter quoted [c] .only .value]
      else if (c = '\'' || c = '"') && !quoted && (<- isExtended) then
        if c = '\'' then
          discard nextRaw
          let text <- readSingleQuoted true
          return [.text true (unescapeQuoted (text.length + 1) text)]
        else return []
      else return [.text quoted ['$']]
    | none => return [.text quoted ['$']]

def readBraces (nesting : Nesting) (surrounding : Surrounding) : Nat -> Reading WordPart
  | 0 => faulty .tooDeep
  | limit + 1 => do
    let quoted := surrounding.quotes?
    let inside (quoted : Bool) (stops : Chars) : Reading Word :=
      readPieces nesting (.braces quoted stops) limit 0 []
    let wrong (start : Chars) : Reading WordPart := do
      let rest <- inside quoted []
      discard nextRaw
      return .parameter quoted start .only (.wrong (start ++ (rest.literal?.getD [])))
    let close (name : Chars) (index : Index) (form : Form) : Reading WordPart := do
      if <- accept '\x7d' then return .parameter quoted name index form else wrong name
    let index : Reading Index := do
      if <- acceptExtended '[' then
        let word <- readPieces nesting .brackets limit 0 []
        discard nextRaw
        match word.bare? with
        | some ['@'] => return .each
        | some ['*'] => return .joined
        | _ => return .at word
      else return .only
    let formed (name : Chars) : Reading WordPart := do
      let index <- index
      let finish (form : Form) : Reading WordPart := do
        discard nextRaw
        return .parameter quoted name index form
      match <- next with
      | none => do
        discard <| endOfPieces (.braces quoted []) []
        wrong name
      | some '\x7d' => return .parameter quoted name index .value
      | some ':' => match <- peek with
        | some '-' => discard nextRaw; finish (.fallback true .use (<- inside quoted []))
        | some '=' => discard nextRaw; finish (.fallback true .assign (<- inside quoted []))
        | some '?' => discard nextRaw; finish (.fallback true .demand (<- inside quoted []))
        | some '+' => discard nextRaw; finish (.fallback true .replace (<- inside quoted []))
        | _ =>
          if <- isExtended then
            let offset <- inside quoted [':']
            if <- accept ':' then finish (.slice offset (some (<- inside quoted [])))
            else finish (.slice offset none)
          else if <- accept '\x7d' then faulty (.missing "\x7d")
          else wrong name
      | some '-' => finish (.fallback false .use (<- inside quoted []))
      | some '=' => finish (.fallback false .assign (<- inside quoted []))
      | some '?' => finish (.fallback false .demand (<- inside quoted []))
      | some '+' => finish (.fallback false .replace (<- inside quoted []))
      | some '#' => finish (.trim true (<- accept '#') (<- inside false []))
      | some '%' => finish (.trim false (<- accept '%') (<- inside false []))
      | some c =>
        if <- isExtended then
          match c with
          | '/' =>
            let occurrence <- readOccurrence
            let pattern <- inside false ['/']
            if <- accept '/' then finish (.substitute occurrence pattern (<- inside quoted []))
            else finish (.substitute occurrence pattern [])
          | '^' => finish (.recase .upper (<- accept '^') (<- inside false []))
          | ',' => finish (.recase .lower (<- accept ',') (<- inside false []))
          | '~' => finish (.recase .toggle (<- accept '~') (<- inside false []))
          | '@' => match <- next with
            | some letter => close name index (.transform letter)
            | none => wrong name
          | c => do putBack c; wrong name
        else
          putBack c
          wrong name
    let special (c : Char) : Reading WordPart :=
      if isSpecialParameter c then formed [c]
      else do
        putBack c
        wrong []
    match <- readParameterName with
    | some name => formed name
    | none => match <- next with
      | none => do
        discard <| endOfPieces (.braces quoted []) []
        wrong []
      | some '#' => match <- readParameterName with
        | some name => close name (<- index) .length
        | none => match <- next with
          | some '\x7d' => return .parameter quoted ['#'] .only .value
          | some c =>
            if (<- peek) == some '\x7d' && isSpecialParameter c then close [c] .only .length
            else
              putBack c
              formed ['#']
          | none => wrong ['#']
      | some '!' =>
        if <- isExtended then
          match <- readParameterName with
          | some name =>
            if <- acceptText ['*', '\x7d'] then return .parameter quoted name .joined .names
            else if <- acceptText ['@', '\x7d'] then return .parameter quoted name .each .names
            else match <- index with
              | .each => close name .each .indices
              | .joined => close name .joined .indices
              | index => close name index .indirect
          | none => match <- peek with
            | some c =>
              let behind := (<- get).rest.drop 1
              if isSpecialParameter c && behind.head? == some '\x7d' then
                discard nextRaw
                close [c] .only .indirect
              else formed ['!']
            | none => formed ['!']
        else formed ['!']
      | some c => special c

end

def readWordIn (nesting : Nesting) (surrounding : Surrounding) : Reading Word := do
  readPieces nesting surrounding (2 * (<- bound)) 0 []

def readWord (nesting : Nesting) : Reading Word := readWordIn nesting .blanks

/-!
## Assignments as words

An assignment is a word that begins with a name and an equals sign.  Neither may be quoted.  An
extended shell also knows assignments to one element of a row, with an index in brackets, and those
that add to a value.
-/

namespace Word

def withFront (octets : Chars) (rest : Word) : Word :=
  if octets.isEmpty then rest else .text false octets :: rest

/-- The index up to a closing bracket with an equals sign behind it, whether a value is added to,
and the word behind.  The text in front is not quoted; the pieces before are in reverse.  -/
def splitIndex (before : Word) : Nat -> Word -> Option (Word × Bool × Word)
  | limit + 1, .text false octets :: rest =>
    let inside := octets.takeWhile (· != ']')
    match octets.dropWhile (· != ']') with
    | [] => splitIndex (.text false octets :: before) limit rest
    | ']' :: '=' :: value =>
      some (before.reverse ++ withFront inside [], false, withFront value rest)
    | ']' :: '+' :: '=' :: value =>
      some (before.reverse ++ withFront inside [], true, withFront value rest)
    | _ => none
  | limit + 1, part :: rest => splitIndex (part :: before) limit rest
  | _, _ => none

def assignment? (kind : ShellKind) (word : Word) : Option (Chars × Index × Bool × Word) :=
  match word with
  | .text false octets :: rest =>
    let name := octets.takeWhile isNameChar
    if !isName name then none
    else match octets.drop name.length with
      | '=' :: value => some (name, .only, false, withFront value rest)
      | '+' :: '=' :: value =>
        if kind = .extended then some (name, .only, true, withFront value rest) else none
      | '[' :: inside =>
        if kind = .extended then do
          let (index, append, value) <- splitIndex [] (word.length + 1) (withFront inside rest)
          return (name, .at index, append, value)
        else none
      | _ => none
  | _ => none

def element (word : Word) : Assignment := match word with
  | .text false ('[' :: inside) :: rest =>
    match splitIndex [] (word.length + 1) (withFront inside rest) with
    | some (index, append, value) => .value [] (.at index) append value
    | none => .element word
  | _ => .element word

end Word

end BaseLanguage.Shell

namespace BaseLanguage.Shell.Word

/-!
## Words with alternatives

In an extended shell, braces in a word list alternatives: a word with braces stands for several
words, one for each.  The alternatives are separated by commas, or they are the numbers or letters
of a range.  Braces with neither stand for themselves, and so do quoted ones.
-/

def atoms (word : Word) : Word :=
  word.flatMap fun
    | .text quoted [] => [.text quoted []]
    | .text quoted octets => octets.map (.text quoted [·])
    | part => [part]

def ofAtoms (atoms : Word) : Word := finish (pushAll [] atoms)

def isMark (c : Char) : WordPart -> Bool
  | .text false octets => octets == [c]
  | _ => false

/-- The alternatives up to the brace that closes them, and what follows it.  The alternative so far
is in reverse; the level is the number of open braces inside.  -/
def alternatives (level : Nat) (current : Word) : Word -> Option (List Word × Word)
  | [] => none
  | part :: rest =>
    if isMark '\x7b' part then alternatives (level + 1) (part :: current) rest
    else if isMark '\x7d' part then
      match level with
      | 0 => some ([current.reverse], rest)
      | outer + 1 => alternatives outer (part :: current) rest
    else if isMark ',' part && level = 0 then
      (alternatives level [] rest).map fun (others, behind) => (current.reverse :: others, behind)
    else alternatives level (part :: current) rest

def integer? : Chars -> Option Int
  | '-' :: digits =>
    if !digits.isEmpty && digits.all Text.isDigit then some (-(Text.valueOf digits : Int)) else none
  | digits =>
    if !digits.isEmpty && digits.all Text.isDigit then some (Text.valueOf digits) else none

def numbersBetween (first last : Int) (step : Nat) : List Int :=
  let step := max step 1
  let count := (last - first).natAbs / step
  (List.range (count + 1)).map fun (index : Nat) =>
    if first <= last then first + step * index else first - step * index

def paddedNumber (width : Nat) (value : Int) : Chars :=
  let digits := Text.decimal value.natAbs
  let sign := if value < 0 then ['-'] else []
  sign ++ List.replicate (width - sign.length - digits.length) '0' ++ digits

def rangeParts : Chars -> List Chars
  | [] => [[]]
  | '.' :: '.' :: rest => [] :: rangeParts rest
  | c :: rest => match rangeParts rest with
    | [] => [[c]]
    | part :: others => (c :: part) :: others

def hasLeadingZero : Chars -> Bool
  | '-' :: '0' :: _ :: _ => true
  | '0' :: _ :: _ => true
  | _ => false

def range? (text : Chars) : Option (List Chars) := do
  let (first, last, step) <-
    match rangeParts text with
    | [first, last] => some (first, last, 1)
    | [first, last, step] => (integer? step).map (fun step => (first, last, step.natAbs))
    | _ => none
  match integer? first, integer? last with
  | some low, some high =>
    let width :=
      if hasLeadingZero first || hasLeadingZero last then max first.length last.length else 0
    return (numbersBetween low high step).map (paddedNumber width)
  | _, _ => match first, last with
    | [low], [high] =>
      if low.isAlpha && high.isAlpha then
        return (numbersBetween low.toNat high.toNat step).map ([Char.ofNat ·.toNat])
      else none
    | _, _ => none

def expandAtoms : Nat -> Word -> List Word
  | 0, atoms => [atoms]
  | limit + 1, atoms =>
    let before := atoms.takeWhile (!isMark '\x7b' ·)
    match atoms.dropWhile (!isMark '\x7b' ·) with
    | [] => [atoms]
    | brace :: rest =>
      let itself : List Word := (expandAtoms limit rest).map (before ++ brace :: ·)
      match alternatives 0 [] rest with
      | none => itself
      | some (found, behind) =>
        let choices : Option (List Word) := match found with
          | [only] => match bare? (ofAtoms only) with
            | some text => (range? text).map (List.map ([.text false ·]))
            | none => none
          | several => some (several.flatMap (expandAtoms limit))
        match choices with
        | none => itself
        | some choices =>
          let ends := expandAtoms limit behind
          choices.flatMap fun choice => ends.map (before ++ choice ++ ·)

def expandBraces (word : Word) : List Word :=
  if word.any (fun part =>
    match part with
    | .text false octets => octets.contains '\x7b'
    | _ => false) then
    let pieces := atoms word
    (expandAtoms (pieces.length + 1) pieces).map ofAtoms
  else [word]

end BaseLanguage.Shell.Word
