import BaseLanguage.Text.Regex.Basic

namespace BaseLanguage
namespace Text

/-!
# Reading regular expressions

Regular expressions are written in two ways.  In the basic one, parentheses, braces and bars are
signs behind a backslash; in the extended one, without it.  Where a sign cannot be one, some
programs take it for a character and others complain.
-/

inductive RegexFault where
  | unclosedGroup
  | unopenedGroup
  | unclosedSet
  /-- A set is opened at the end. -/
  | emptySet
  | unclosedBound
  | badBound
  | bigBound
  | badClass
  | badCollation
  | badRange
  | badBack
  | nothingToRepeat
  | endingBackslash
  /-- A class stands outside of brackets. -/
  | bareClass
  deriving Repr, DecidableEq

namespace RegexFault

def message : RegexFault -> String
  | .unclosedGroup => "Unmatched ( or \\("
  | .unopenedGroup => "Unmatched ) or \\)"
  | .emptySet => "Invalid regular expression"
  | .unclosedSet => "Unmatched [, [^, [:, [., or [="
  | .unclosedBound => "Unmatched \\\x7b"
  | .badBound => "Invalid content of \\\x7b\\\x7d"
  | .bigBound => "Regular expression too big"
  | .badClass => "Invalid character class name"
  | .badCollation => "Invalid collation character"
  | .badRange => "Invalid range end"
  | .badBack => "Invalid back reference"
  | .nothingToRepeat => "Invalid preceding regular expression"
  | .endingBackslash => "Trailing backslash"
  | .bareClass => "character class syntax is [[:space:]], not [:space:]"

end RegexFault

structure RegexStyle where
  extended : Bool
  /-- A sign that cannot be one is a character, or nothing where something is to be repeated. -/
  lenient : Bool := false
  /-- A part may be repeated once only. -/
  repeatsOnce : Bool := false
  deriving Repr, DecidableEq

structure RegexSource where
  rest : List Char
  opened : Nat := 0
  closed : List Nat := []
  deriving Repr, DecidableEq

abbrev RegexReading := StateT RegexSource (Except RegexFault)

def greatestBound : Nat := 32767

namespace RegexReading

def acceptText (text : String) : RegexReading Bool := do
  let source ← get
  if text.toList.isPrefixOf source.rest then
    set { source with rest := source.rest.drop text.length }
    return true
  else return false

def seesText (text : String) : RegexReading Bool := do return text.toList.isPrefixOf (← get).rest

def skip (count : Nat) : RegexReading Unit :=
  modify (fun source => { source with rest := source.rest.drop count })

/-! ## Sets -/

/-- What stands between a bracket with a sign and the sign with a bracket, and what follows. -/
def bracketed (sign : Char) (text : List Char) : Option (String × List Char) :=
  let inside := text.takeWhile (· != sign)
  match text.drop inside.length with
  | c :: ']' :: rest => if c = sign then some (String.ofList inside, rest) else none
  | _ => none

/-- A character that may be the end of a range, and what follows. -/
def rangeChar (text : List Char) : Except RegexFault (Option (Char × List Char)) :=
  match text with
  | '[' :: '.' :: rest => match bracketed '.' rest with
    | some (name, rest) => match name.toList with
      | [c] => .ok (some (c, rest))
      | _ => .error .badCollation
    | none => .error .unclosedSet
  | '[' :: c :: rest => if c = ':' || c = '=' then .ok none else .ok (some ('[', c :: rest))
  | c :: rest => .ok (some (c, rest))
  | [] => .error .unclosedSet

def setItems : Nat -> Bool -> List Char -> Except RegexFault (List SetItem × List Char)
  | 0, _, _ => .error .unclosedSet
  | _, _, [] => .error .unclosedSet
  | limit + 1, first, text =>
    if !first && text.head? == some ']' then .ok ([], text.drop 1)
    else match text with
      | '[' :: ':' :: rest => match bracketed ':' rest with
        | some (name, rest) =>
          if (namedClass? name).isNone then .error .badClass
          else do
            let (items, rest) ← setItems limit false rest
            return (.named name :: items, rest)
        | none => .error .unclosedSet
      | '[' :: '=' :: rest => match bracketed '=' rest with
        | some (name, rest) => match name.toList with
          | [c] => do
            let (items, rest) ← setItems limit false rest
            return (.range c c :: items, rest)
          | _ => .error .badCollation
        | none => .error .unclosedSet
      | text => do
        match ← rangeChar text with
        | none => .error .unclosedSet
        | some (c, '-' :: behind) =>
          if behind.head? == some ']' then
            let (items, rest) ← setItems limit false ('-' :: behind)
            return (.range c c :: items, rest)
          else match ← rangeChar behind with
            | none => .error .badRange
            | some (last, rest) =>
              if last < c then .error .badRange
              else
                let (items, rest) ← setItems limit false rest
                return (.range c last :: items, rest)
        | some (c, rest) =>
          let (items, rest) ← setItems limit false rest
          return (.range c c :: items, rest)

variable (style : RegexStyle)

def readSet : RegexReading Regex := do
  let text := (← get).rest
  let (opposite, inside) : Bool × List Char :=
    match text with
    | '^' :: rest => (true, rest)
    | text => (false, text)
  if inside.isEmpty then throw .emptySet
  let (items, rest) ← liftM (setItems (text.length + 2) true inside)
  let size := text.length - rest.length
  let written := text.take (size - 1)
  if style.lenient && 2 < size && written.head? == some ':' && written.getLast? == some ':' then
    throw .bareClass
  modify ({ · with rest })
  return .oneOf ⟨opposite, items⟩

/-! ## Bounds -/

/-- The number at the front of a text, if there is one, and what follows. -/
def numberInFront (text : List Char) : Option Nat × List Char :=
  let digits := text.takeWhile isDigit
  (if digits.isEmpty then none else some (valueOf digits), text.drop digits.length)

/-- The bound that a text begins with, up to its closing brace, and what follows. -/
def boundInFront (extended : Bool) (text : List Char) :
    Except RegexFault (Nat × Option Nat × List Char) := do
  let (least, behind) := numberInFront text
  let (limited, most, behind) : Bool × Option Nat × List Char :=
    match behind with
    | ',' :: rest =>
      let (most, behind) := numberInFront rest
      (most.isSome, most, behind)
    | behind => (true, least, behind)
  let closing := if extended then ['\x7d'] else ['\\', '\x7d']
  if behind.isEmpty then throw .unclosedBound
  if !closing.isPrefixOf behind then
    throw (if closing.drop 1 == behind then .unclosedBound else .badBound)
  if least.isNone && text.head? != some ',' then throw .badBound
  let least := least.getD 0
  let most := if limited then most else none
  if most.any (· < least) then throw .badBound
  if greatestBound < least || most.any (greatestBound < ·) then throw .bigBound
  return (least, most, behind.drop closing.length)

/-! ## Parts -/

def escaped? (c : Char) : Option Regex :=
  let word (opposite : Bool) : Regex := .oneOf ⟨opposite, [.named "alnum", .range '_' '_']⟩
  match c with
  | 'w' => some (word false)
  | 'W' => some (word true)
  | 's' => some (.oneOf ⟨false, [.named "space"]⟩)
  | 'S' => some (.oneOf ⟨true, [.named "space"]⟩)
  | 'b' => some (.atPlace .wordEdge)
  | 'B' => some (.atPlace .noWordEdge)
  | '<' => some (.atPlace .wordStart)
  | '>' => some (.atPlace .wordEnd)
  | '\x60' => some (.atPlace .textStart)
  | '\'' => some (.atPlace .textEnd)
  | _ => none

def exactly (c : Char) : Regex := .oneOf ⟨false, [.range c c]⟩

/-- How often a part is repeated, if it is: the least and the greatest number. -/
def readRepetition? : RegexReading (Option (Nat × Option Nat)) := do
  let extended := style.extended
  if ← acceptText "*" then return some (0, none)
  else if ← acceptText (if extended then "+" else "\\+") then return some (1, none)
  else if ← acceptText (if extended then "?" else "\\?") then return some (0, some 1)
  else
    let opening := if extended then "\x7b" else "\\\x7b"
    if ← seesText opening then
      match boundInFront extended ((← get).rest.drop opening.length) with
      | .ok (least, most, rest) =>
        modify ({ · with rest })
        return some (least, most)
      | .error fault =>
        if style.lenient && extended && fault ≠ .bigBound then return none else throw fault
    else return none

def withRepetitions (style : RegexStyle) : Nat -> Bool -> Regex -> RegexReading Regex
  | 0, _, part => return part
  | limit + 1, repeated, part => do
    if repeated && style.repeatsOnce && ((← seesText "*") || (← seesText "\\\x7b")) then
      throw .nothingToRepeat
    match ← readRepetition? style with
    | some (least, most) => withRepetitions style limit true (.repeated least most part)
    | none => return part

def atRowEnd (depth : Nat) : RegexReading Bool := do
  let source ← get
  if source.rest.isEmpty then return true
  else if ← seesText (if style.extended then "|" else "\\|") then return true
  else if ← seesText (if style.extended then ")" else "\\)") then
    return 0 < depth || !(style.extended && style.lenient)
  else return false

/-- Skips what repeats where there is nothing to be repeated. -/
def skipRepetitions (style : RegexStyle) : Nat -> RegexReading Unit
  | 0 => return ()
  | limit + 1 => do
    if (← readRepetition? style).isSome then skipRepetitions style limit

mutual

def readEither (style : RegexStyle) (depth : Nat) : Nat -> RegexReading Regex
  | 0 => throw .nothingToRepeat
  | limit + 1 => do
    let first ← readRow style depth limit true .empty
    if ← acceptText (if style.extended then "|" else "\\|") then
      return .either first (← readEither style depth limit)
    else return first

/-- A row of parts behind a first one.  Whether the row has only begun decides what some signs mean.
-/
def readRow (style : RegexStyle) (depth : Nat) : Nat -> Bool -> Regex -> RegexReading Regex
  | 0, _, _ => throw .nothingToRepeat
  | limit + 1, begins, before => do
    if ← atRowEnd style depth then return before
    else
      let follow (part : Regex) : Regex := if before = .empty then part else .row before part
      let source ← get
      let size := source.rest.length + 1
      match source.rest, style.extended with
      | '^' :: rest, extended =>
        skip 1
        if extended then
          let part ← withRepetitionsAtPlace style size (.atPlace .start)
          readRow style depth limit true (follow part)
        else if begins then readRow style depth limit true (follow (.atPlace .start))
        else
          modify ({ · with rest })
          readRow style depth limit false
            (follow (← withRepetitions style size false (exactly '^')))
      | '$' :: rest, extended =>
        skip 1
        let ends := rest.isEmpty || ['\\', ')'].isPrefixOf rest || ['\\', '|'].isPrefixOf rest
        if extended then
          let part ← withRepetitionsAtPlace style size (.atPlace .ending)
          readRow style depth limit false (follow part)
        else if ends then readRow style depth limit false (follow (.atPlace .ending))
        else
          readRow style depth limit false
            (follow (← withRepetitions style size false (exactly '$')))
      | text, extended =>
        let isStar := text.head? == some '*'
        let isSign := extended && (isStar || text.head? == some '+' || text.head? == some '?')
        if begins && isStar && !extended then
          skip 1
          readRow style depth limit false
            (follow (← withRepetitions style size false (exactly '*')))
        else if begins && isSign then
          if style.lenient then
            skipRepetitions style size
            readRow style depth limit true before
          else throw .nothingToRepeat
        else if begins && !extended && !style.lenient && (← seesText "\\\x7b") then
          throw .nothingToRepeat
        else if begins && extended && text.head? == some '\x7b' then
          if style.lenient then
            if (← readRepetition? style).isSome then readRow style depth limit true before
            else
              skip 1
              readRow style depth limit false
                (follow (← withRepetitions style size false (exactly '\x7b')))
          else throw .nothingToRepeat
        else
          let part ← readPart style depth limit
          readRow style depth limit false (follow (← withRepetitions style size false part))

def readPart (style : RegexStyle) (depth : Nat) : Nat -> RegexReading Regex
  | 0 => throw .nothingToRepeat
  | limit + 1 => do
    let source ← get
    if ← acceptText (if style.extended then "(" else "\\(") then
      let number := source.opened + 1
      modify ({ · with opened := number })
      let inside ← readEither style (depth + 1) limit
      if !(← acceptText (if style.extended then ")" else "\\)")) then throw .unclosedGroup
      modify (fun source => { source with closed := number :: source.closed })
      return .group number inside
    else match source.rest with
      | [] => return .empty
      | '[' :: rest =>
        modify ({ · with rest })
        readSet style
      | '.' :: rest =>
        modify ({ · with rest })
        return .anyOne
      | ['\\'] => throw .endingBackslash
      | '\\' :: c :: rest =>
        modify ({ · with rest })
        if '1' ≤ c && c ≤ '9' then
          let number := c.toNat - '0'.toNat
          if source.closed.contains number then return .back number else throw .badBack
        else return (escaped? c).getD (exactly c)
      | c :: rest =>
        modify ({ · with rest })
        return exactly c

/-- A place, which may be repeated in the extended way of writing. -/
def withRepetitionsAtPlace (style : RegexStyle) (limit : Nat) (part : Regex) :
    RegexReading Regex := do
  if style.lenient then return part else withRepetitions style limit false part

end

end RegexReading

/-- The regular expression that a text is, and the number of its groups. -/
def Regex.parse (style : RegexStyle) (text : List Char) : Except RegexFault (Regex × Nat) := do
  let (regex, source) ← (RegexReading.readEither style 0 (4 * text.length + 8)).run { rest := text }
  match source.rest with
  | [] => return (regex, source.opened)
  | _ => throw .unopenedGroup

/-- A regular expression in which groups and choices have backslashes, and repetitions have none, in
the extended way of writing. -/
def extendedText : Nat -> List Char -> List Char
  | 0, _ => []
  | _, [] => []
  | limit + 1, '\\' :: c :: rest =>
    if ['(', ')', '|'].contains c then c :: extendedText limit rest
    else '\\' :: c :: extendedText limit rest
  | limit + 1, '[' :: rest =>
    let first := rest.takeWhile (· = '^')
    let behind := rest.drop first.length
    let inside := behind.take 1 ++ (behind.drop 1).takeWhile (· != ']')
    let set := first ++ inside
    '[' :: set ++ (rest.drop set.length).take 1 ++ extendedText limit (rest.drop (set.length + 1))
  | limit + 1, c :: rest =>
    if ['(', ')', '|', '\x7b', '\x7d'].contains c then '\\' :: c :: extendedText limit rest
    else c :: extendedText limit rest

end Text
end BaseLanguage
