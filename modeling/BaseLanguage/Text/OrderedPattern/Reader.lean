import BaseLanguage.Text.Binary
import BaseLanguage.Text.OrderedPattern.Basic

namespace BaseLanguage
namespace Text

/-!
# Reading ordered patterns

Ordered patterns are written like extended regular expressions, with more signs: a question mark
behind one that repeats lets it take as little as it can, and parentheses with a question mark in
them say what their inside is for.
-/

inductive OrderedFaultKind where
  | unclosedGroup
  | unopenedGroup
  | unclosedSet
  | nothingToRepeat
  | repeatedTwice
  | endingBackslash
  | badRange (range : String)
  | badEscape (escape : String)
  | badGroup (text : String)
  | badName
  | badBack (text : String)
  | badBound
  | unknownClass
  deriving Repr, DecidableEq

def OrderedFaultKind.message : OrderedFaultKind -> String
  | .unclosedGroup => "missing closing parenthesis"
  | .unopenedGroup => "unmatched closing parenthesis"
  | .unclosedSet => "missing terminating ] for character class"
  | .nothingToRepeat => "quantifier does not follow a repeatable item"
  | .repeatedTwice => "quantifier does not follow a repeatable item"
  | .endingBackslash => "\\ at end of pattern"
  | .badRange _ => "range out of order in character class"
  | .badEscape _ => "unrecognized character follows \\"
  | .badGroup _ => "unrecognized character after (? or (?-"
  | .badName => "syntax error in subpattern name (missing terminator?)"
  | .badBack _ => "reference to non-existent subpattern"
  | .badBound => "numbers out of order in \x7b\x7d quantifier"
  | .unknownClass => "unknown POSIX class name"

structure OrderedFault where
  kind : OrderedFaultKind
  place : Nat
  deriving Repr, DecidableEq

structure OrderedStyle where
  /-- A capital letter for the end of the text does not mean the end of its last line. -/
  strictEnd : Bool := false
  /-- A bound may lack its first number. -/
  upTo : Bool := false
  /-- Unknown letters behind a backslash are faults. -/
  strictEscapes : Bool := false
  deriving Repr, DecidableEq

structure OrderedFlags where
  ignoresCase : Bool := false
  /-- Lines inside the text have starts and ends. -/
  lines : Bool := false
  /-- Any character may be the end of a line. -/
  dotAll : Bool := false
  /-- Blanks and comments do not count. -/
  spaced : Bool := false
  /-- Parentheses make no groups. -/
  noGroups : Bool := false
  deriving Repr, DecidableEq

structure OrderedSource where
  text : Array Char
  place : Nat := 0
  flags : OrderedFlags := {}
  opened : Nat := 0
  names : List (String × Nat) := []
  /-- Whether everything is a character up to a sign. -/
  isQuoted : Bool := false

abbrev OrderedReading := StateT OrderedSource (Except OrderedFault)

/-- The letters that stand for characters. -/
def controlLetters : List (Char × Char) :=
  [('t', '\t'), ('n', '\n'), ('r', '\r'), ('f', '\x0c'), ('a', '\x07'), ('e', '\x1b'),
    ('v', '\x0b')]

def propertyKind? (name : String) : Option (List CharKind) :=
  match name with
  | "L" => some [.named "alpha"]
  | "Letter" => some [.named "alpha"]
  | "Alpha" => some [.named "alpha"]
  | "Alphabetic" => some [.named "alpha"]
  | "Lu" => some [.named "upper"]
  | "Uppercase" => some [.named "upper"]
  | "Upper" => some [.named "upper"]
  | "Ll" => some [.named "lower"]
  | "Lowercase" => some [.named "lower"]
  | "Lower" => some [.named "lower"]
  | "N" => some [.digit]
  | "Nd" => some [.digit]
  | "Digit" => some [.digit]
  | "P" => some [.named "punct"]
  | "Punct" => some [.named "punct"]
  | "Space" => some [.space]
  | "IsSpace" => some [.space]
  | "Word" => some [.word]
  | "IsWord" => some [.word]
  | "Alnum" => some [.named "alnum"]
  | "XDigit" => some [.named "xdigit"]
  | "Zs" => some [.range ' ' ' ']
  | "Z" => some [.range ' ' ' ']
  | "S" => some [.range '$' '$', .range '+' '+', .range '<' '>', .range '^' '^',
      .range '\x60' '\x60', .range '|' '|', .range '~' '~']
  | _ => none

namespace OrderedReading

def peekAt (count : Nat) : OrderedReading (Option Char) := do
  let source ← get
  return source.text[source.place + count]?

def peek : OrderedReading (Option Char) := peekAt 0

def skip (count : Nat) : OrderedReading Unit :=
  modify (fun source => { source with place := source.place + count })

def faultAt (kind : OrderedFaultKind) (place : Nat) : OrderedReading α := do throw ⟨kind, place⟩

def fault (kind : OrderedFaultKind) : OrderedReading α := do throw ⟨kind, (← get).place⟩

def sees (text : String) : OrderedReading Bool := do
  let source ← get
  return (source.text.extract source.place (source.place + text.length)).toList == text.toList

def accept (text : String) : OrderedReading Bool := do
  if ← sees text then
    skip text.length
    return true
  else return false

def takeRun (holds : Char -> Bool) (most : Nat) : OrderedReading (List Char) := do
  let source ← get
  let found := ((source.text.extract source.place (source.place + most)).toList).takeWhile holds
  skip found.length
  return found

def takeUpTo (sign : Char) (kind : OrderedFaultKind) (place : Nat) :
    OrderedReading (List Char) := do
  let source ← get
  let found ← takeRun (· != sign) source.text.size
  if (← peek) == some sign then
    skip 1
    return found
  else faultAt kind place

def exactlyHere (c : Char) : OrderedReading OrderedPattern := do
  return .exactly c (← get).flags.ignoresCase

def oneOfHere (isOpposite : Bool) (kinds : List CharKind) : OrderedReading OrderedPattern := do
  return .oneOf isOpposite kinds (← get).flags.ignoresCase

def kindOf? (c : Char) : Option CharKind :=
  match c with
  | 'd' => some .digit
  | 'D' => some (.opposite .digit)
  | 'w' => some .word
  | 'W' => some (.opposite .word)
  | 's' => some .space
  | 'S' => some (.opposite .space)
  | 'h' => some .blank
  | 'H' => some (.opposite .blank)
  | 'V' => some (.opposite .lineEnd)
  | 'N' => some (.opposite (.range '\n' '\n'))
  | _ => none

def readProperty (isOpposite : Bool) : OrderedReading (List CharKind) := do
  let start := (← get).place
  let name ←
    if ← accept "\x7b" then takeUpTo '\x7d' (.badEscape "\\p") start else takeRun (fun _ => true) 1
  let (isTurned, name) :=
    match name with
    | '^' :: name => (true, name)
    | name => (false, name)
  match propertyKind? (String.ofList name) with
  | some kinds => if isOpposite != isTurned then return kinds.map .opposite else return kinds
  | none => faultAt (.badEscape "\\p") start

def readCode : OrderedReading Char := do
  if ← accept "\x7b" then
    let digits ← takeUpTo '\x7d' (.badEscape "\\x") (← get).place
    return Char.ofNat (hexadecimalValue (digits.filter isHexDigit))
  else
    let digits ← takeRun isHexDigit 2
    return Char.ofNat (hexadecimalValue digits)

def octalChar (digits : List Char) : Char :=
  Char.ofNat ((digits.foldl (fun value c => 8 * value + digitValue c) 0) % 256)

def isOctal (c : Char) : Bool := '0' ≤ c && c ≤ '7'

/-- The number of the group with a name, or a number that may be counted from here. -/
def groupOf (text : List Char) : OrderedReading Nat := do
  let source ← get
  match text with
  | '-' :: digits =>
    if digits.all isDigit then return source.opened + 1 - valueOf digits
    else fault (.badBack (String.ofList text))
  | '+' :: digits =>
    if digits.all isDigit then return source.opened + valueOf digits
    else fault (.badBack (String.ofList text))
  | digits =>
    if !digits.isEmpty && digits.all isDigit then return valueOf digits
    else match source.names.lookup (String.ofList digits) with
      | some number => return number
      | none => fault (.badBack (String.ofList text))

/-! ## Sets -/

variable (style : OrderedStyle)

def readMember : OrderedReading (Char ⊕ List CharKind) := do
  let start := (← get).place
  match ← peek with
  | none => fault .unclosedSet
  | some '\\' =>
    skip 1
    match ← peek with
    | none => fault .unclosedSet
    | some c =>
      skip 1
      match kindOf? c with
      | some kind => return .inr [kind]
      | none =>
        if c = 'b' then return .inl '\x08'
        else if c = 'x' then return .inl (← readCode)
        else if c = 'p' then return .inr (← readProperty false)
        else if c = 'P' then return .inr (← readProperty true)
        else if c = 'c' then
          match ← peek with
          | some letter =>
            skip 1
            return .inl (Char.ofNat (letter.toUpper.toNat ^^^ 64))
          | none => fault .unclosedSet
        else if isOctal c then
          let digits ← takeRun isOctal 2
          return .inl (octalChar (c :: digits))
        else match controlLetters.lookup c with
          | some value => return .inl value
          | none =>
            if style.strictEscapes && c.isAlpha then
              faultAt (.badEscape (String.ofList ['\\', c])) start
            else return .inl c
  | some '[' =>
    if ← sees "[:" then
      let source ← get
      let inside := ((source.text.extract (source.place + 2) source.text.size).toList).takeWhile
        (· != ':')
      let ends := (source.text.extract (source.place + 2 + inside.length)
        (source.place + 4 + inside.length)).toList
      if ends == [':', ']'] && !style.strictEscapes then
        skip (inside.length + 4)
        let (isOpposite, name) :=
          match inside with
          | '^' :: name => (true, String.ofList name)
          | name => (false, String.ofList name)
        if name = "word" then return .inr [if isOpposite then .opposite .word else .word]
        else if (namedClass? name).isSome then
          return .inr [if isOpposite then .opposite (.named name) else .named name]
        else fault .unknownClass
      else
        skip 1
        return .inl '['
    else
      skip 1
      return .inl '['
  | some c =>
    skip 1
    return .inl c

def readMembers (style : OrderedStyle) (opening : Nat) :
    Nat -> Bool -> List CharKind -> OrderedReading (List CharKind)
  | 0, _, _ => faultAt .unclosedSet opening
  | limit + 1, isFirst, done => do
    match ← peek with
    | none => faultAt .unclosedSet opening
    | some c =>
      if c = ']' && !isFirst then
        skip 1
        return done.reverse
      else
        let start := (← get).place
        match ← readMember style with
        | .inr kinds => readMembers style opening limit false (kinds.reverse ++ done)
        | .inl first =>
          if (← peek) == some '-' && (← peekAt 1) != some ']' && (← peekAt 1).isSome then
            skip 1
            match ← readMember style with
            | .inl last =>
              if last < first then faultAt (.badRange (String.ofList [first, '-', last])) start
              else readMembers style opening limit false (.range first last :: done)
            | .inr kinds =>
              readMembers style opening limit false
                (kinds.reverse ++ .range '-' '-' :: .range first first :: done)
          else readMembers style opening limit false (.range first first :: done)

def readSet : OrderedReading OrderedPattern := do
  let opening := (← get).place - 1
  let isOpposite ← accept "^"
  let kinds ← readMembers style opening ((← get).text.size + 1) true []
  oneOfHere isOpposite kinds

/-! ## Parts -/

def readBound? : OrderedReading (Option (Nat × Option Nat)) := do
  let before ← get
  skip 1
  let least ← takeRun isDigit 9
  let hasComma ← accept ","
  let most ← if hasComma then takeRun isDigit 9 else pure []
  let closes ← accept "\x7d"
  if closes && (!least.isEmpty || (style.upTo && hasComma && !most.isEmpty)) then
    let low := valueOf least
    if !hasComma then return some (low, some low)
    else if most.isEmpty then return some (low, none)
    else
      let high := valueOf most
      if high < low then faultAt .badBound (before.place + 1) else return some (low, some high)
  else
    set before
    return none

/-- How often the part in front is repeated, if it is. -/
def readRepetition? : OrderedReading (Option (Nat × Option Nat)) := do
  match ← peek with
  | some '*' =>
    skip 1
    return some (0, none)
  | some '+' =>
    skip 1
    return some (1, none)
  | some '?' =>
    skip 1
    return some (0, some 1)
  | some '\x7b' => readBound? style
  | _ => return none

def skipSpace : Nat -> OrderedReading Unit
  | 0 => return ()
  | limit + 1 => do
    if (← get).flags.spaced then
      match ← peek with
      | some '#' =>
        discard <| takeRun (· != '\n') (← get).text.size
        skipSpace limit
      | some c =>
        if isSpace c then
          skip 1
          skipSpace limit
      | none => return ()

def withRepetition (part : OrderedPattern) : OrderedReading OrderedPattern := do
  skipSpace (← get).text.size
  match ← readRepetition? style with
  | none => return part
  | some (least, most) =>
    let greed ←
      if ← accept "?" then pure Greed.least
      else if ← accept "+" then pure Greed.all
      else pure Greed.most
    skipSpace (← get).text.size
    let start := (← get).place
    match ← readRepetition? style with
    | some _ => faultAt .repeatedTwice start
    | none => return .repeated least most greed part

/-- The flags that letters turn on and off. -/
def readFlags : Nat -> Bool -> OrderedFlags -> OrderedReading OrderedFlags
  | 0, _, flags => return flags
  | limit + 1, on, flags => do
    match ← peek with
    | some 'i' =>
      skip 1
      readFlags limit on { flags with ignoresCase := on }
    | some 'm' =>
      skip 1
      readFlags limit on { flags with lines := on }
    | some 's' =>
      skip 1
      readFlags limit on { flags with dotAll := on }
    | some 'x' =>
      skip 1
      readFlags limit on { flags with spaced := on }
    | some 'n' =>
      skip 1
      readFlags limit on { flags with noGroups := on }
    | some '-' =>
      skip 1
      readFlags limit false flags
    | some '^' =>
      skip 1
      readFlags limit on {}
    | some c =>
      if c = 'u' || c = 'a' || c = 'l' || c = 'd' || c = 'U' || c = 'J' then
        skip 1
        readFlags limit on flags
      else return flags
    | none => return flags

mutual

/-- Rows of parts, the first of which that matches counts. -/
def readEither (style : OrderedStyle) : Nat -> OrderedReading OrderedPattern
  | 0 => fault .unclosedGroup
  | limit + 1 => do
    let first ← readRow style limit .empty
    if ← accept "|" then return .either first (← readEither style limit) else return first

def readRow (style : OrderedStyle) : Nat -> OrderedPattern -> OrderedReading OrderedPattern
  | 0, _ => fault .unclosedGroup
  | limit + 1, before => do
    let follow (part : OrderedPattern) : OrderedPattern :=
      if before = .empty then part else if part = .empty then before else .row before part
    if (← get).isQuoted then
      if ← accept "\\E" then
        modify ({ · with isQuoted := false })
        readRow style limit before
      else match ← peek with
        | none => return before
        | some c =>
          skip 1
          readRow style limit (follow (← exactlyHere c))
    else
      skipSpace (← get).text.size
      match ← peek with
      | none => return before
      | some '|' => return before
      | some ')' => return before
      | some c =>
        if c = '*' || c = '+' || c = '?' then fault .nothingToRepeat
        else match ← readPart style limit with
          | some part => readRow style limit (follow (← withRepetition style part))
          | none => readRow style limit before

/-- A single part; none where something only changes how the rest is read. -/
def readPart (style : OrderedStyle) : Nat -> OrderedReading (Option OrderedPattern)
  | 0 => fault .unclosedGroup
  | limit + 1 => do
    let source ← get
    match ← peek with
    | none => return some .empty
    | some '(' =>
      skip 1
      readGroup style limit source.place
    | some '[' =>
      skip 1
      return some (← readSet style)
    | some '.' =>
      skip 1
      return some (.anyOne source.flags.dotAll)
    | some '^' =>
      skip 1
      return some (.at (if source.flags.lines then .lineStart else .textStart))
    | some '$' =>
      skip 1
      return some (.at (if source.flags.lines then .lineEnd else .lastLineEnd))
    | some '\\' =>
      skip 1
      readEscape style
    | some c =>
      skip 1
      return some (← exactlyHere c)

def readEscape (style : OrderedStyle) : OrderedReading (Option OrderedPattern) := do
  let start := (← get).place - 1
  match ← peek with
  | none => faultAt .endingBackslash start
  | some c =>
    skip 1
    let spot (spot : Spot) : OrderedReading (Option OrderedPattern) := return some (.at spot)
    let ignoresCase := (← get).flags.ignoresCase
    match c with
    | 'b' => spot .wordEdge
    | 'B' => spot .noWordEdge
    | 'A' => spot .textStart
    | 'Z' => spot (if style.strictEnd then .textEnd else .lastLineEnd)
    | 'z' => spot .textEnd
    | 'G' => spot .searchStart
    | 'K' => return some .keep
    | 'Q' =>
      modify ({ · with isQuoted := true })
      return none
    | 'E' => return none
    | 'v' =>
      if style.strictEscapes then return some (← exactlyHere '\x0b')
      else return some (← oneOfHere false [.lineEnd])
    | 'R' =>
      let lines : OrderedPattern := .oneOf false [.lineEnd] false
      return some (.either (.row (.exactly '\r' false) (.exactly '\n' false)) lines)
    | 'X' => return some (.anyOne true)
    | 'p' => return some (← oneOfHere false (← readProperty false))
    | 'P' => return some (← oneOfHere false (← readProperty true))
    | 'x' => return some (← exactlyHere (← readCode))
    | 'o' =>
      if ← accept "\x7b" then
        return some (← exactlyHere (octalChar (← takeUpTo '\x7d' (.badEscape "\\o") start)))
      else return some (← exactlyHere 'o')
    | 'c' => match ← peek with
      | some letter =>
        skip 1
        return some (← exactlyHere (Char.ofNat (letter.toUpper.toNat ^^^ 64)))
      | none => faultAt .endingBackslash start
    | 'g' =>
      if ← accept "\x7b" then
        let text ← takeUpTo '\x7d' (.badEscape "\\g") start
        return some (.back (← groupOf text) ignoresCase)
      else
        let text ← takeRun (fun c => isDigit c || c = '-') 5
        return some (.back (← groupOf text) ignoresCase)
    | 'k' =>
      let close ←
        if ← accept "<" then pure '>'
        else if ← accept "\x7b" then pure '\x7d'
        else pure '\''
      if close = '\'' then discard <| accept "'"
      let text ← takeUpTo close (.badEscape "\\k") start
      return some (.back (← groupOf text) ignoresCase)
    | c => match kindOf? c with
      | some kind => return some (← oneOfHere false [kind])
      | none =>
        if c = '0' then return some (← exactlyHere (octalChar (← takeRun isOctal 2)))
        else if isDigit c then
          let more ← takeRun isDigit 2
          let number := valueOf (c :: more)
          if number ≤ (← get).opened || more.isEmpty then
            if style.strictEscapes && (← get).opened < number then
              faultAt (.badBack (String.ofList (c :: more))) (start + 1)
            return some (.back number ignoresCase)
          else return some (← exactlyHere (octalChar ((c :: more).filter isOctal)))
        else match controlLetters.lookup c with
          | some value => return some (← exactlyHere value)
          | none =>
            if style.strictEscapes && c.isAlpha then
              faultAt (.badEscape (String.ofList ['\\', c])) start
            else return some (← exactlyHere c)

def closeGroup (opening : Nat) : OrderedReading Unit := do
  if !(← accept ")") then faultAt .unclosedGroup opening

/-- The inside of a group, whose flags do not count behind it. -/
def readInside (style : OrderedStyle) (opening : Nat) : Nat -> OrderedReading OrderedPattern
  | 0 => fault .unclosedGroup
  | limit + 1 => do
    let flags := (← get).flags
    let inside ← readEither style limit
    closeGroup opening
    modify ({ · with flags })
    return inside

/-- A group that remembers what it matches, perhaps by a name. -/
def readNumbered (style : OrderedStyle) (opening : Nat) (name : Option String) :
    Nat -> OrderedReading (Option OrderedPattern)
  | 0 => fault .unclosedGroup
  | limit + 1 => do
    let number := (← get).opened + 1
    modify fun source => { source with
      opened := number
      names :=
        match name with
        | some name => source.names ++ [(name, number)]
        | none => source.names }
    return some (.group number (← readInside style opening limit))

def readGroup (style : OrderedStyle) : Nat -> Nat -> OrderedReading (Option OrderedPattern)
  | 0, _ => fault .unclosedGroup
  | limit + 1, opening => do
    let inside : OrderedReading OrderedPattern := readInside style opening limit
    if !(← sees "?") || (← sees "?)") then
      if (← get).flags.noGroups then return some (← inside)
      else readNumbered style opening none limit
    else
      skip 1
      if ← accept "#" then
        discard <| takeUpTo ')' .unclosedGroup opening
        return none
      else if ← accept ":" then return some (← inside)
      else if ← accept "=" then return some (.ahead false (← inside))
      else if ← accept "!" then return some (.ahead true (← inside))
      else if ← accept "<=" then return some (.behind false (← inside))
      else if ← accept "<!" then return some (.behind true (← inside))
      else if ← accept ">" then return some (.atomic (← inside))
      else if ← accept "|" then return some (← inside)
      else if (← accept "P<") || (← accept "<") then
        let name ← takeUpTo '>' .badName (opening + 1)
        readNumbered style opening (some (String.ofList name)) limit
      else if ← accept "'" then
        let name ← takeUpTo '\'' .badName (opening + 1)
        readNumbered style opening (some (String.ofList name)) limit
      else if ← accept "P=" then
        let name ← takeUpTo ')' .unclosedGroup opening
        return some (.back (← groupOf name) (← get).flags.ignoresCase)
      else if (← accept "P>") || (← accept "&") then
        let name ← takeUpTo ')' .unclosedGroup opening
        return some (.again (← groupOf name))
      else if ← accept "R)" then return some (.again 0)
      else if ← accept "(" then
        let text ← takeUpTo ')' .unclosedGroup opening
        let bare := text.filter (fun c => c ≠ '<' && c ≠ '>' && c ≠ '\'')
        let number ← groupOf bare
        let flags := (← get).flags
        let first ← readRow style limit .empty
        let second ← if ← accept "|" then readRow style limit .empty else pure .empty
        closeGroup opening
        modify ({ · with flags })
        return some (.ifGroup number first second)
      else
        let next ← peek
        let digits := next.any isDigit || ((next == some '+' || next == some '-') &&
          (← peekAt 1).any isDigit)
        if digits then
          let text ← takeUpTo ')' .unclosedGroup opening
          return some (.again (← groupOf text))
        else
          let before := (← get).flags
          let flags ← readFlags 20 true before
          if ← accept ")" then
            modify ({ · with flags })
            return none
          else if ← accept ":" then
            modify ({ · with flags })
            let found ← readEither style limit
            closeGroup opening
            modify ({ · with flags := before })
            return some found
          else
            let shown := String.ofList ('?' :: (← peek).toList)
            faultAt (.badGroup shown) (opening + 1)

end

end OrderedReading

structure NamedPattern where
  pattern : OrderedPattern
  groups : Nat := 0
  names : List (String × Nat) := []
  deriving Repr, DecidableEq

def OrderedPattern.parse (style : OrderedStyle) (flags : OrderedFlags) (text : List Char) :
    Except OrderedFault NamedPattern := do
  let (pattern, source) ←
    (OrderedReading.readEither style (4 * text.length + 16)).run { text := text.toArray, flags }
  if source.place < text.length then throw ⟨.unopenedGroup, source.place⟩
  else return ⟨pattern, source.opened, source.names⟩

end Text
end BaseLanguage
