import BaseLanguage.Shell.Utility.Objects.BuiltIns

namespace BaseLanguage.Shell.Objects

open Text

/-!
# Searching in texts

A text is a pattern once it is read; then other texts are searched for what it matches.  A match that
took nothing is not followed by another one like it at the same place.
-/

/-! ## Patterns -/

structure PatternBits where
  ignoresCase : Nat := 2
  lines : Nat := 8
  dotAll : Nat := 16
  wide : Nat := 32
  spaced : Nat := 64
  plain : Nat := 256

def patternFault (fault : OrderedFault) : String × Nat := match fault.kind with
  | .unclosedGroup => ("missing ), unterminated subpattern", fault.place)
  | .unopenedGroup => ("unbalanced parenthesis", fault.place)
  | .unclosedSet => ("unterminated character set", fault.place)
  | .nothingToRepeat => ("nothing to repeat", fault.place)
  | .repeatedTwice => ("multiple repeat", fault.place)
  | .endingBackslash => ("bad escape (end of pattern)", fault.place)
  | .badRange range => (s!"bad character range {range}", fault.place)
  | .badEscape escape => (s!"bad escape {escape}", fault.place)
  | .badGroup text => (s!"unknown extension {text}", fault.place)
  | .badName => ("bad character in group name", fault.place)
  | .badBack text => (s!"invalid group reference {text}", fault.place)
  | .badBound => ("min repeat greater than max repeat", fault.place)
  | .unknownClass => ("unterminated character set", fault.place)

def failPattern (message : String) (place : Nat) (pattern : Value) : Machine α := do
  let shown := s!"{message} at position {numberText place}"
  let value <- newFault (nativeType "error") [.text shown]
  match value with
  | .object address => match <- thingAt address with
    | .member _ names _ =>
      setNamedIn names "msg" (.text message)
      setNamedIn names "pos" (.whole place)
      setNamedIn names "pattern" pattern
    | _ => pure ()
  | _ => pure ()
  throw (.raised value)

def charsToSearch? (value : Value) : Machine (Option (Chars × Bool)) := do
  match <- heldBy value with
  | .text text => return some (text.toList, false)
  | .octets bytes => return some (octetsOf bytes, true)
  | .object address => match <- thingAt address with
    | .octets bytes => return some (octetsOf bytes, true)
    | _ => return none
  | _ => return none

def compilePattern (pattern : Value) (flags : Nat) : Machine Value := do
  let bits : PatternBits := {}
  match pattern with
  | .object address => match <- thingAt address with
    | .pattern _ _ _ =>
      if flags ≠ 0 then failValue "cannot process flags argument with a compiled pattern"
      return pattern
    | _ => pure ()
  | _ => pure ()
  match <- charsToSearch? pattern with
  | none => failType "first argument must be string or compiled pattern"
  | some (chars, isBytes) =>
    let has (bit : Nat) : Bool := flags &&& bit ≠ 0
    let orderedFlags : OrderedFlags :=
      { ignoresCase := has bits.ignoresCase, lines := has bits.lines, dotAll := has bits.dotAll
        spaced := has bits.spaced }
    let style : OrderedStyle := { strictEnd := true, upTo := true, strictEscapes := true }
    let flags := if isBytes || has bits.plain then flags else flags ||| bits.wide
    match OrderedPattern.parse style orderedFlags chars with
    | .ok found => newObject (.pattern pattern flags found)
    | .error fault =>
      let (message, place) := patternFault fault
      failPattern message place pattern

/-! ## Searching -/

structure Search where
  pattern : Nat
  text : Value
  isBytes : Bool
  found : NamedPattern
  searched : Searched
  first : Nat := 0

inductive SearchKind where
  | anywhere
  | here
  | whole

variable (search : Search)

def Search.matchAt? (accepts : Nat -> Bool) (start : Nat) : Option OrderedFound :=
  let isEnd (standing : Standing) : Option Standing :=
    if accepts standing.place then some standing else none
  (OrderedPattern.run search.searched search.found.pattern
    OrderedPattern.deepestSearch search.found.pattern isEnd ⟨start, start, []⟩).map
    fun found => ⟨found.start, found.place, found.groups⟩

def Search.next? (mustAdvance : Bool) (start : Nat) : Option OrderedFound :=
  if search.searched.text.size < start then none
  else match search.matchAt? (!mustAdvance || · ≠ start) start with
    | some found => some found
    | none =>
      search.found.pattern.searchFrom { search.searched with start }
        (search.searched.text.size - start) (start + 1)

def Search.all (search : Search) : Nat -> Bool -> Nat -> List OrderedFound
  | 0, _, _ => []
  | limit + 1, mustAdvance, start => match search.next? mustAdvance start with
    | some found => found :: search.all limit (found.start = found.ending) found.ending
    | none => []

def Search.matches : List OrderedFound :=
  search.all (2 * search.searched.text.size + 2) false search.first

def searchIn (pattern : Nat) (text : Value) (first last : Option Int) : Machine Search := do
  match <- thingAt pattern, <- charsToSearch? text with
  | .pattern source flags found, some (chars, isBytes) =>
    let ofBytes := match source with
      | .text _ => false
      | _ => true
    if ofBytes && !isBytes then failType "cannot use a bytes pattern on a string-like object"
    if !ofBytes && isBytes then failType "cannot use a string pattern on a bytes-like object"
    let all := chars.toArray
    let clip (value : Int) : Nat := min all.size value.toNat
    let ending := clip (last.getD all.size)
    let bits : PatternBits := {}
    return {
      pattern, text, isBytes, found, first := clip (first.getD 0)
      searched := { text := all.extract 0 ending, isWide := flags &&& bits.wide ≠ 0 } }
  | _, none => failType s!"expected string or bytes-like object, got '{← typeName text}'"
  | _, _ => failType "expected a pattern"

def Search.part (first last : Nat) : Value :=
  ofChars search.isBytes (search.searched.between first last)

def Search.group (found : OrderedFound) (number : Nat) (usual : Value) : Value :=
  match found.group? search.searched number with
  | some chars => ofChars search.isBytes chars
  | none => usual

def Search.value (found : OrderedFound) : Machine Value :=
  newObject (.found search.pattern search.text found search.first search.searched.text.size)

section

variable (engine : Engine)

def matchOf (pattern : Nat) (kind : SearchKind) (given : Arguments) : Machine Value := do
  let found <- given.take ["string", "pos", "endpos"] 1
  let bound (index : Nat) : Machine (Option Int) := do
    match givenAt found index with
    | some value => return some (<- indexOf engine value)
    | none => return none
  let search <- searchIn pattern ((givenAt found 0).getD .nothing) (<- bound 1) (<- bound 2)
  let result := match kind with
    | .anywhere => search.next? false search.first
    | .here => search.matchAt? (fun _ => true) search.first
    | .whole => search.matchAt? (· = search.searched.text.size) search.first
  match result with
  | some found => search.value found
  | none => return .nothing

/-! ## What replaces a match -/

inductive ReplacementPart where
  | char (c : Char)
  | group (number : Nat)

def groupNumber? (found : NamedPattern) (name : Chars) : Option Nat :=
  if !name.isEmpty && name.all Char.isDigit then
    let number := valueOfDigits 10 name
    if number <= found.groups then some number else none
  else found.names.lookup (.ofList name)

def replacementParts (found : NamedPattern) :
    Nat -> Nat -> Chars -> Except (String × Nat × Bool) (List ReplacementPart)
  | 0, _, _ => .ok []
  | limit + 1, place, text =>
    let goOn (part : ReplacementPart) (count : Nat) :
        Except (String × Nat × Bool) (List ReplacementPart) := do
      return part :: (<- replacementParts found limit (place + count) (text.drop count))
    match text with
    | [] => .ok []
    | '\\' :: 'g' :: '<' :: rest =>
      let name := rest.takeWhile (· != '>')
      if name.length = rest.length then
        .error (if rest.isEmpty then "missing group name"
          else "missing >, unterminated name", place + 3, false)
      else match groupNumber? found name with
        | some number => goOn (.group number) (name.length + 4)
        | none =>
          let shown := .ofList name
          if name.isEmpty then .error ("missing group name", place + 3, false)
          else if name.all Char.isDigit then
            .error (s!"invalid group reference {shown}", place + 3, false)
          else .error (s!"unknown group name {quotedText shown false}", 0, true)
    | '\\' :: 'g' :: _ => .error ("missing <", place + 2, false)
    | '\\' :: '0' :: rest =>
      let digits := (rest.takeWhile (fun c => '0' <= c && c <= '7')).take 2
      goOn (.char (Char.ofNat (valueOfDigits 8 ('0' :: digits) % 256))) (digits.length + 2)
    | '\\' :: c :: rest =>
      if c.isDigit then
        let more := (rest.takeWhile Char.isDigit).take 1
        let octal := ((c :: rest).takeWhile (fun c => '0' <= c && c <= '7')).take 3
        if octal.length = 3 then goOn (.char (Char.ofNat (valueOfDigits 8 octal))) 4
        else
          let number := valueOfDigits 10 (c :: more)
          if number <= found.groups then goOn (.group number) (more.length + 2)
          else .error (s!"invalid group reference {numberText number}", place + 1, false)
      else
        match List.lookup c [('n', '\n'), ('t', '\t'), ('r', '\r'), ('\\', '\\'), ('a', '\x07'),
            ('b', '\x08'), ('f', '\x0c'), ('v', '\x0b')] with
        | some meant => goOn (.char meant) 2
        | none =>
          if c.isAlpha then .error (s!"bad escape \\{String.singleton c}", place, false)
          else do return .char '\\' :: .char c :: (<- replacementParts found limit (place + 2) rest)
    | ['\\'] => .error ("bad escape (end of pattern)", place, false)
    | c :: _ => goOn (.char c) 1

def readReplacement (found : NamedPattern) (text : Value) (chars : Chars) :
    Machine (List ReplacementPart) := do
  match replacementParts found (chars.length + 1) 0 chars with
  | .ok parts => return parts
  | .error (message, _, true) => fail "IndexError" message
  | .error (message, place, false) => failPattern message place text

def Search.filled (found : OrderedFound) (parts : List ReplacementPart) : Chars :=
  parts.flatMap fun
    | .char c => [c]
    | .group number => (found.group? search.searched number).getD []

def substitute (pattern : Nat) (given : Arguments) : Machine (Value × Nat) := do
  let found <- given.take ["repl", "string", "count"] 2
  let new := (givenAt found 0).getD .nothing
  let search <- searchIn pattern ((givenAt found 1).getD .nothing) none none
  let most <- indexOr engine 0 (givenAt found 2)
  let all := search.matches
  let chosen := if 0 < most then all.take most.toNat else all
  let parts <- match <- charsToSearch? new with
    | some (chars, _) => do pure (some (<- readReplacement search.found new chars))
    | none => pure none
  let pieces <- chosen.mapM fun found => do
    match parts with
    | some parts => return (found, search.filled found parts)
    | none => match <- charsToSearch? (<- engine.call new [<- search.value found] []) with
      | some (chars, _) => return (found, chars)
      | none => return (found, [])
  let (done, place) := pieces.foldl
    (fun (state : List Chars × Nat) (piece : OrderedFound × Chars) =>
      (piece.2 :: search.searched.between state.2 piece.1.start :: state.1, piece.1.ending))
    (([] : List Chars), 0)
  let rest := search.searched.between place search.searched.text.size
  return (ofChars search.isBytes ((rest :: done).reverse.flatten), chosen.length)

def patternFunction (name : String) (pattern : Nat) (given : Arguments) : Machine Value := do
  let searchGiven : Machine Search := do
    let found <- given.take ["string", "pos", "endpos"] 1
    let bound (index : Nat) : Machine (Option Int) := do
      match givenAt found index with
      | some value => return some (<- indexOf engine value)
      | none => return none
    searchIn pattern ((givenAt found 0).getD .nothing) (<- bound 1) (<- bound 2)
  match name with
  | "match" => matchOf engine pattern .here given
  | "fullmatch" => matchOf engine pattern .whole given
  | "search" => matchOf engine pattern .anywhere given
  | "sub" => return (<- substitute engine pattern given).1
  | "subn" =>
    let (text, count) <- substitute engine pattern given
    return .tuple [text, .whole count]
  | "findall" =>
    let search <- searchGiven
    let empty := ofChars search.isBytes []
    newList (search.matches.map fun found => match search.found.groups with
      | 0 => search.part found.start found.ending
      | 1 => search.group found 1 empty
      | count => .tuple ((List.range count).map fun index => search.group found (index + 1) empty))
  | "finditer" =>
    let search <- searchGiven
    let values <- search.matches.mapM search.value
    newObject (.iterator (.items values.toArray 0 "callable_iterator"))
  | "split" =>
    let found <- given.take ["string", "maxsplit"] 1
    let search <- searchIn pattern ((givenAt found 0).getD .nothing) none none
    let most <- indexOr engine 0 (givenAt found 1)
    let all := search.matches
    let chosen := if 0 < most then all.take most.toNat else all
    let (done, place) := chosen.foldl
      (fun (state : List (List Value) × Nat) (found : OrderedFound) =>
        let groups := (List.range search.found.groups).map fun index =>
          search.group found (index + 1) .nothing
        ((search.part state.2 found.start :: groups) :: state.1, found.ending))
      (([] : List (List Value)), 0)
    newList (([search.part place search.searched.text.size] :: done).reverse.flatten)
  | name => fail "AttributeError" s!"'re.Pattern' object has no attribute '{name}'"

/-! ## Matches -/

def foundFunction (name : String) (self : Nat) (given : Arguments) : Machine Value := do
  match <- thingAt self with
  | .found pattern text found first last =>
    let search <- searchIn pattern text (some first) (some last)
    let numberOf (value : Value) : Machine Nat := do
      let number? <- match <- heldBy value with
        | .text name => pure (search.found.names.lookup name)
        | value => do
          let number <- indexOf engine value
          pure (if 0 <= number && number <= search.found.groups then some number.toNat else none)
      match number? with
      | some number => return number
      | none => fail "IndexError" "no such group"
    let spanOf (number : Nat) : Int × Int :=
      if number = 0 then (found.start, found.ending)
      else match found.groups.lookup number with
        | some (first, last) => (first, last)
        | none => (-1, -1)
    let oneNumber : Machine Nat := do
      match givenAt (<- given.take [""] 0) 0 with
      | some value => numberOf value
      | none => return 0
    match name with
    | "group" => match given.placed with
      | [] => return search.group found 0 .nothing
      | [value] => return search.group found (<- numberOf value) .nothing
      | values =>
        return .tuple (<- values.mapM fun value => do
          return search.group found (<- numberOf value) .nothing)
    | "__getitem__" => return search.group found (<- numberOf (<- given.one)) .nothing
    | "groups" =>
      let usual := (givenAt (<- given.take ["default"] 0) 0).getD .nothing
      return .tuple ((List.range search.found.groups).map fun index =>
        search.group found (index + 1) usual)
    | "groupdict" =>
      let usual := (givenAt (<- given.take ["default"] 0) 0).getD .nothing
      let entries := search.found.names.map fun (name, number) =>
        (name, search.group found number usual)
      return .object (<- newTable (.ofNames entries))
    | "start" => return .whole (spanOf (<- oneNumber)).1
    | "end" => return .whole (spanOf (<- oneNumber)).2
    | "span" =>
      let (first, last) := spanOf (<- oneNumber)
      return .tuple [.whole first, .whole last]
    | "expand" =>
      let template <- given.one
      match <- charsToSearch? template with
      | some (chars, _) =>
        let parts <- readReplacement search.found template chars
        return ofChars search.isBytes (search.filled found parts)
      | none => failType "expected a template"
    | name => fail "AttributeError" s!"'re.Match' object has no attribute '{name}'"
  | _ => failType "expected a match"

end

end BaseLanguage.Shell.Objects
