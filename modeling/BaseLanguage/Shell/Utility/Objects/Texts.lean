import BaseLanguage.Shell.Utility.Objects.Letters

namespace BaseLanguage.Shell.Objects

open Text

/-!
# Functions of texts and bytes

Texts and bytes are cut, joined, searched and changed in the same ways; bytes know only plain letters.
-/

/-! ## Arguments -/

structure Arguments where
  function : String
  placed : List Value
  named : List (String × Value) := []

def givenAt (found : List (Option Value)) (index : Nat) : Option Value := found.getD index none

namespace Arguments

def take (given : Arguments) (names : List String) (least : Nat) :
    Machine (List (Option Value)) := do
  let count := given.placed.length
  if names.length < count + given.named.length then
    let most := names.length
    let total := numberText (count + given.named.length)
    if most = 0 then failType s!"{given.function}() takes no arguments ({total} given)"
    else if most = least && most = 1 then
      failType s!"{given.function}() takes exactly one argument ({total} given)"
    else
      let word := if most = least then "exactly" else "at most"
      let plural := if most = 1 then "argument" else "arguments"
      failType s!"{given.function}() takes {word} {numberText most} {plural} ({total} given)"
  match given.named.find? (!names.contains ·.1) with
  | some (name, _) =>
    if names.isEmpty || names.all (·.isEmpty) then
      failType s!"{given.function}() takes no keyword arguments"
    else failType s!"'{name}' is an invalid keyword argument for {given.function}()"
  | none => pure ()
  let found := names.zipIdx.map fun (name, index) => match given.placed[index]? with
    | some value => some value
    | none => given.named.lookup name
  match (found.take least).findIdx? Option.isNone with
  | some index =>
    if names.length = 1 then failType s!"{given.function}() takes exactly one argument (0 given)"
    else if (names.getD index "").isEmpty then
      let word := if least = names.length then "" else "at least "
      let plural := if least = 1 then "argument" else "arguments"
      failType
        (s!"{lastPart given.function} expected {word}{numberText least} {plural}, " ++
          s!"got {numberText count}")
    else
      let missing := names.getD index ""
      failType
        (s!"{given.function}() missing required argument '{missing}' " ++
          s!"(pos {numberText (index + 1)})")
  | none => return found

def one (given : Arguments) : Machine Value := do
  match <- given.take [""] 1 with
  | some value :: _ => return value
  | _ => failType s!"{given.function}() takes exactly one argument"

def check (given : Arguments) : Machine Unit := do discard <| given.take [] 0

end Arguments

section

variable (engine : Engine)

def indexOr (usual : Int) (value : Option Value) : Machine Int := do
  match value with
  | some .nothing => return usual
  | some value => indexOf engine value
  | none => return usual

def boundsOf (size : Nat) (first last : Option Value) : Machine (Nat × Nat) := do
  let clip (value : Int) : Nat := (max 0 (if value < 0 then value + size else value)).toNat
  return (clip (<- indexOr engine 0 first), min size (clip (<- indexOr engine size last)))

/-! ## Texts with places in braces -/

inductive BracePart where
  | plain (text : Chars)
  | place (name : Chars) (letter : Option Char) (form : Chars)

def braceEnd : Chars -> Nat -> Chars -> Option (Chars × Chars)
  | [], _, _ => none
  | '\x7b' :: rest, depth, done => braceEnd rest (depth + 1) ('\x7b' :: done)
  | '\x7d' :: rest, 0, done => some (done.reverse, rest)
  | '\x7d' :: rest, depth + 1, done => braceEnd rest depth ('\x7d' :: done)
  | c :: rest, depth, done => braceEnd rest depth (c :: done)

def braceParts : Nat -> Chars -> Except String (List BracePart)
  | 0, _ => .ok []
  | _, [] => .ok []
  | limit + 1, '\x7b' :: '\x7b' :: rest => do return .plain ['\x7b'] :: (<- braceParts limit rest)
  | limit + 1, '\x7d' :: '\x7d' :: rest => do return .plain ['\x7d'] :: (<- braceParts limit rest)
  | _, '\x7d' :: _ => .error "Single '\x7d' encountered in format string"
  | _, ['\x7b'] => .error "Single '\x7b' encountered in format string"
  | limit + 1, '\x7b' :: rest => match braceEnd rest 0 [] with
    | none => .error "expected '\x7d' before end of string"
    | some (inside, rest) => do
      let name := inside.takeWhile (fun c => c ≠ '!' && c ≠ ':')
      let behind := inside.drop name.length
      let part : BracePart <- match behind with
        | '!' :: letter :: ':' :: form => pure (.place name (some letter) form)
        | ['!', letter] => pure (.place name (some letter) [])
        | '!' :: [] => throw "unmatched '\x7b' in format spec"
        | '!' :: _ => throw "expected ':' after conversion specifier"
        | ':' :: form => pure (.place name none form)
        | _ => pure (.place name none [])
      return part :: (<- braceParts limit rest)
  | limit + 1, text => do
    let plain := text.takeWhile (fun c => c ≠ '\x7b' && c ≠ '\x7d')
    return .plain plain :: (<- braceParts limit (text.drop plain.length))

def braceValue (name : Chars) (placed : List Value) (named : String -> Machine Value)
    (next : Option Nat) : Machine (Value × Option Nat) := do
  let first := name.takeWhile (fun c => c ≠ '.' && c ≠ '[')
  let isNumber := !first.isEmpty && first.all isDigit
  let (value, next) <-
    if first.isEmpty then do
      match next with
      | none =>
        failValue "cannot switch from manual field specification to automatic field numbering"
      | some index => match placed[index]? with
        | some value => pure (value, some (index + 1))
        | none =>
          fail "IndexError"
            s!"Replacement index {numberText index} out of range for positional args tuple"
    else if isNumber then do
      match next with
      | some (_ + 1) =>
        failValue "cannot switch from automatic field numbering to manual field specification"
      | _ =>
        let index := valueOf first
        match placed[index]? with
        | some value => pure (value, none)
        | none =>
          fail "IndexError"
            s!"Replacement index {numberText index} out of range for positional args tuple"
    else do pure (<- named (.ofList first), next)
  return ((<- parts (name.length + 1) value (name.drop first.length)), next)
where
  parts : Nat -> Value -> Chars -> Machine Value
    | 0, value, _ => return value
    | _, value, [] => return value
    | limit + 1, value, '.' :: rest => do
      let name := rest.takeWhile (fun c => c ≠ '.' && c ≠ '[')
      if name.isEmpty then failValue "Empty attribute in format string"
      parts limit (<- attributeOf engine value (.ofList name)) (rest.drop name.length)
    | limit + 1, value, '[' :: rest => do
      let key := rest.takeWhile (· != ']')
      if key.isEmpty then failValue "Empty attribute in format string"
      let index : Value := if key.all isDigit then .whole (valueOf key) else .text (.ofList key)
      parts limit (<- itemOf engine value index) (rest.drop (key.length + 1))
    | _, _, _ => failValue "Only '.' or '[' may follow ']' in format field specifier"

def fillBraces (placed : List Value) (named : String -> Machine Value) :
    Nat -> Option Nat -> Chars -> Machine (String × Option Nat)
  | 0, _, _ => failValue "Max string recursion exceeded"
  | depth + 1, next, text => do
    match braceParts (text.length + 1) text with
    | .error message => failValue message
    | .ok parts =>
      parts.foldlM (fun (found : String × Option Nat) part => do
        match part with
        | .plain text => return (found.1 ++ .ofList text, found.2)
        | .place name letter form =>
          let (value, next) <- braceValue engine name placed named found.2
          let value <- match letter with
            | some 'r' => pure (.text (<- reprOf engine value))
            | some 's' => pure (.text (<- strOf engine value))
            | some 'a' => pure (.text (<- plainRepr engine value))
            | some letter => failValue s!"Unknown conversion specifier '{letter}'"
            | none => pure value
          let (form, next) <-
            if form.contains '\x7b' then fillBraces placed named depth next form
            else pure (.ofList form, next)
          return (found.1 ++ (<- formOf engine value form), next)) ("", next)

/-! ## Functions -/

def charsOf (isBytes : Bool) (value : Value) : Machine Chars := do
  match <- heldBy value with
  | .text text =>
    if isBytes then failType "a bytes-like object is required, not 'str'" else return text.toList
  | .octets bytes => if isBytes then return octetsOf bytes else failType "must be str, not bytes"
  | .object address => match <- thingAt address with
    | .octets bytes =>
      if isBytes then return octetsOf bytes else failType "must be str, not bytearray"
    | _ => wrong
  | .whole value =>
    if isBytes && 0 <= value && value < 256 then return [Char.ofNat value.toNat] else wrong
  | _ => wrong
where
  wrong : Machine Chars := do
    if isBytes then failType s!"a bytes-like object is required, not '{← typeName value}'"
    else failType s!"must be str, not {← typeName value}"

def ofChars (isBytes : Bool) (chars : Chars) : Value :=
  if isBytes then .octets (bytesOf chars) else .text (.ofList chars)

def isName : Chars -> Bool
  | c :: rest => mayBegin c && rest.all mayFollow
  | [] => false

def translated (table : Value) (c : Char) : Machine Chars := do
  let found <- match <- heldBy table with
    | .object address => match <- thingAt address with
      | .dict entries => match entries.get? (.whole (numberOfChar c)) with
        | some (_, value) => pure (some value)
        | none => match <- callSpecial? engine table "__missing__" [.whole (numberOfChar c)] with
          | some value => pure (some value)
          | none => pure none
      | _ => orNothing "LookupError" (itemOf engine table (.whole (numberOfChar c)))
    | _ => orNothing "LookupError" (itemOf engine table (.whole (numberOfChar c)))
  match found with
  | none => return [c]
  | some .nothing => return []
  | some (.whole value) => return [charOfNumber value.toNat]
  | some (.text text) => return text.toList
  | some _ => failType "character mapping must return integer, None or str"

def translationTable (given : Arguments) : Machine Value := do
  let found <- given.take ["", "", ""] 1
  let first := (givenAt found 0).getD .nothing
  match givenAt found 1, givenAt found 2 with
  | none, _ => match first with
    | .object address => match <- thingAt address with
      | .dict table =>
        let entries <- table.values.mapM fun (key, value) => do
          match key with
          | .text text => match text.toList with
            | [c] => return (.whole (numberOfChar c), (.whole (numberOfChar c), value))
            | _ => failValue "string keys in translate table must be of length 1"
          | .whole number => return (.whole number, (key, value))
          | _ => failType "keys in translate table must be strings or integers"
        newObject (.dict (.ofList entries))
      | _ => failType "if you give only one argument to maketrans it must be a dict"
    | _ => failType "if you give only one argument to maketrans it must be a dict"
  | some second, third => match first, second with
    | .octets first, .octets second =>
      let pairs := first.toList.zip second.toList
      let bytes := (List.range 256).map fun code =>
        ((pairs.reverse.find? (·.1.toNat = code)).map Prod.snd).getD (UInt8.ofNat code)
      return .octets ⟨bytes.toArray⟩
    | _, _ =>
      let first <- charsOf false first
      let second <- charsOf false second
      if first.length ≠ second.length then
        failValue "the first two maketrans arguments must have equal length"
      let pairs := (first.zip second).map fun (c, d) =>
        (.whole (numberOfChar c), (.whole (numberOfChar c), .whole (numberOfChar d)))
      let gone <- match third with
        | some third => charsOf false third
        | none => pure []
      let dropped := gone.map fun c =>
        (.whole (numberOfChar c), (.whole (numberOfChar c), .nothing))
      newObject (.dict (.ofList (pairs ++ dropped)))

def mostOf (value : Option Value) : Machine (Option Nat) := do
  let number <- indexOr engine (-1) value
  return if number < 0 then none else some number.toNat

def meets (text : Chars) (isBytes isStart : Bool) (given : Arguments) : Machine Value := do
  let found <- given.take ["", "", ""] 1
  let (first, last) <- boundsOf engine text.length (givenAt found 1) (givenAt found 2)
  let inside := (text.drop first).take (last - first)
  let isOutside := text.length < first || last < first
  let one (part : Value) : Machine Bool := do
    let chars <- match <- heldBy part with
      | .text _ => charsOf isBytes part
      | .octets _ => charsOf isBytes part
      | _ =>
        let word := if isBytes then "bytes" else "str"
        failType
          (s!"{lastPart given.function} first arg must be {word} or a tuple of {word}, " ++
            s!"not {← typeName part}")
    return !isOutside && (if isStart then chars.isPrefixOf inside else chars.isSuffixOf inside)
  match (givenAt found 0).getD .nothing with
  | .tuple parts => return .truth (<- parts.anyM one)
  | part => return .truth (<- one part)

def textFunction (isBytes : Bool) (name : String) (self : Chars) (given : Arguments) :
    Machine Value := do
  let back (chars : Chars) : Value := ofChars isBytes chars
  let many (parts : List Chars) : Machine Value := newList (parts.map back)
  let isSpace (c : Char) : Bool := if isBytes then Text.isSpace c else isWideSpace c
  let small (c : Char) : Chars := if isBytes then [c.toLower] else smallOf c
  let great (c : Char) : Chars := if isBytes then [c.toUpper] else greatOf c
  let isSmallHere (c : Char) : Bool := if isBytes then c.isLower else isSmall c
  let isGreatHere (c : Char) : Bool := if isBytes then c.isUpper else isGreat c
  let letter (c : Char) : Bool := if isBytes then c.isAlpha else isLetter c
  let all (holds : Char -> Bool) : Machine Value := do
    given.check
    return .truth (!self.isEmpty && self.all holds)
  let plain (chars : Chars) : Machine Value := do
    given.check
    return back chars
  let stripSet : Machine (Char -> Bool) := do
    match <- given.take [""] 0 with
    | [some .nothing] => return isSpace
    | [some value] =>
      match value with
      | .text _ => pure ()
      | .octets _ => pure ()
      | _ => if !isBytes then failType s!"{name} arg must be None or str"
      return (<- charsOf isBytes value).contains
    | _ => return isSpace
  let padded (put : Nat -> Char -> Chars) : Machine Value := do
    let found <- given.take ["", ""] 1
    let width <- indexOr engine 0 (givenAt found 0)
    let fill <- match givenAt found 1 with
      | some value => charsOf isBytes value
      | none => pure [' ']
    match fill with
    | [c] => return back (if width.toNat <= self.length then self else put (width.toNat - self.length) c)
    | _ => failType "The fill character must be exactly one character long"
  let searched (find : Chars -> Chars -> Nat -> Nat -> Option Nat) :
      Machine (Option Nat) := do
    let found <- given.take ["", "", ""] 1
    let part <- charsOf isBytes ((givenAt found 0).getD .nothing)
    let (first, last) <- boundsOf engine self.length (givenAt found 1) (givenAt found 2)
    if self.length < first || last < first then return none else return find part self first last
  let placeText (found : Option Nat) : Value := match found with
    | some place => .whole (place : Nat)
    | none => .whole (-1)
  let orMissing (found : Option Nat) : Machine Value := do
    match found with
    | some place => return .whole (place : Nat)
    | none => failValue (if isBytes then "subsection not found" else "substring not found")
  match name with
  | "upper" => plain (self.flatMap great)
  | "lower" => plain (if isBytes then self.map Char.toLower else inSmallLetters self)
  | "casefold" => plain (self.flatMap (fun c => if c.toNat = 0xdf then ['s', 's'] else smallOf c))
  | "title" => plain (if isBytes then asTitle self else asTitle self)
  | "capitalize" =>
    plain (match self with
      | [] => []
      | c :: rest =>
        (match great c with
          | [c] => [c]
          | c :: more => c :: more.flatMap small
          | [] => []) ++
          (if isBytes then rest.map Char.toLower else (inSmallLetters (c :: rest)).drop 1))
  | "swapcase" => plain (self.flatMap (fun c => if isGreatHere c then small c else great c))
  | "strip" =>
    let drop <- stripSet
    return back ((self.dropWhile drop).reverse.dropWhile drop).reverse
  | "lstrip" => return back (self.dropWhile (<- stripSet))
  | "rstrip" => return back (dropTrailing (<- stripSet) self)
  | "center" =>
    padded fun missing c =>
      let width := missing + self.length
      let left := missing / 2 + (if missing % 2 = 1 && width % 2 = 1 then 1 else 0)
      List.replicate left c ++ self ++ List.replicate (missing - left) c
  | "ljust" => padded fun missing c => self ++ List.replicate missing c
  | "rjust" => padded fun missing c => List.replicate missing c ++ self
  | "zfill" =>
    let width := (<- indexOf engine (<- given.one)).toNat
    return back (match self with
      | '-' :: rest => '-' :: withZeros (width - 1) rest
      | '+' :: rest => '+' :: withZeros (width - 1) rest
      | text => withZeros width text)
  | "count" =>
    let found <- given.take ["", "", ""] 1
    let part <- charsOf isBytes ((givenAt found 0).getD .nothing)
    let (first, last) <- boundsOf engine self.length (givenAt found 1) (givenAt found 2)
    if self.length < first || last < first then return .whole 0
    return .whole (countOf part ((self.drop first).take (last - first)) : Nat)
  | "find" => return placeText (<- searched placeOf?)
  | "rfind" => return placeText (<- searched lastPlaceOf?)
  | "index" => orMissing (<- searched placeOf?)
  | "rindex" => orMissing (<- searched lastPlaceOf?)
  | "startswith" => meets engine self isBytes true given
  | "endswith" => meets engine self isBytes false given
  | "replace" =>
    let found <- given.take ["", "", ""] 2
    let part (index : Nat) : Machine Chars := do
      match (givenAt found index).getD .nothing with
      | .text text => if isBytes then charsOf isBytes (.text text) else return text.toList
      | value =>
        if isBytes then charsOf isBytes value
        else match <- heldBy value with
          | .text text => return text.toList
          | _ =>
            failType
              (s!"replace() argument {numberText (index + 1)} must be str, " ++
                s!"not {← typeName value}")
    return back (replaced (<- part 0) (<- part 1) (<- mostOf engine (givenAt found 2)) self)
  | "split" =>
    let found <- given.take ["sep", "maxsplit"] 0
    let most <- mostOf engine (givenAt found 1)
    match (givenAt found 0).getD .nothing with
    | .nothing => many (wordsOf isSpace most self)
    | separator =>
      let chars <- charsOf isBytes separator
      if chars.isEmpty then failValue "empty separator"
      many (cutAt chars most self)
  | "rsplit" =>
    let found <- given.take ["sep", "maxsplit"] 0
    let most <- mostOf engine (givenAt found 1)
    match (givenAt found 0).getD .nothing with
    | .nothing => many (wordsFromEnd isSpace most self)
    | separator =>
      let chars <- charsOf isBytes separator
      if chars.isEmpty then failValue "empty separator"
      many (cutFromEnd chars most self)
  | "splitlines" =>
    let found <- given.take ["keepends"] 0
    let keeps <- match givenAt found 0 with
      | some value => isTrue engine value
      | none => pure false
    many (linesAt (if isBytes then fun c => c = '\n' || c = '\r' else isLineEnd) keeps self)
  | "partition" =>
    let part <- charsOf isBytes (<- given.one)
    if part.isEmpty then failValue "empty separator"
    match placeOf? part self 0 self.length with
    | some place =>
      return .tuple [back (self.take place), back part, back (self.drop (place + part.length))]
    | none => return .tuple [back self, back [], back []]
  | "rpartition" =>
    let part <- charsOf isBytes (<- given.one)
    if part.isEmpty then failValue "empty separator"
    match lastPlaceOf? part self 0 self.length with
    | some place =>
      return .tuple [back (self.take place), back part, back (self.drop (place + part.length))]
    | none => return .tuple [back [], back [], back self]
  | "join" =>
    let source <- given.one
    let values <- match <- orNothing "TypeError" (iteratorOf engine source) with
      | none =>
        if isBytes then failType "can only join an iterable" else failType "can only join an iterable"
      | some _ => itemsOf engine source
    let parts <- values.zipIdx.mapM fun (value, index) => do
      match <- heldBy value, isBytes with
      | .text text, false => return text.toList
      | .octets bytes, true => return octetsOf bytes
      | _, _ =>
        let word := if isBytes then "a bytes-like object is required" else "expected str instance"
        let joint := if isBytes then ", " else ", "
        failType s!"sequence item {numberText index}: {word}{joint}{← typeName value} found"
    return back (parts.intersperse self).flatten
  | "expandtabs" =>
    let found <- given.take ["tabsize"] 0
    return back (withoutTabs (<- indexOr engine 8 (givenAt found 0)).toNat self)
  | "removeprefix" =>
    let part <- charsOf isBytes (<- given.one)
    return back (if part.isPrefixOf self then self.drop part.length else self)
  | "removesuffix" =>
    let part <- charsOf isBytes (<- given.one)
    return back (if part.isSuffixOf self then self.take (self.length - part.length) else self)
  | "isalpha" => all letter
  | "isdigit" => all (if isBytes then isDigit else isDigitLike)
  | "isdecimal" => all (fun c => (decimalValue? c).isSome)
  | "isnumeric" => all isNumberLike
  | "isalnum" => all (if isBytes then isAlphanumeric else fun c => isLetter c || isNumberLike c)
  | "isspace" => all isSpace
  | "isascii" =>
    given.check
    return .truth (self.all (·.toNat < 128))
  | "isprintable" =>
    given.check
    return .truth (self.all isPrintable)
  | "isidentifier" =>
    given.check
    return .truth (isName self)
  | "isupper" =>
    given.check
    return .truth (self.any isGreatHere && !self.any isSmallHere)
  | "islower" =>
    given.check
    return .truth (self.any isSmallHere && !self.any isGreatHere)
  | "istitle" =>
    given.check
    return .truth (isTitle self)
  | "encode" =>
    let found <- given.take ["encoding", "errors"] 0
    let word (index : Nat) (usual : String) : String := match givenAt found index with
      | some (.text text) => text
      | _ => usual
    return .octets (<- spell (.ofList self) (word 0 "utf-8") (word 1 "strict"))
  | "decode" =>
    let found <- given.take ["encoding", "errors"] 0
    let word (index : Nat) (usual : String) : String := match givenAt found index with
      | some (.text text) => text
      | _ => usual
    return .text (<- unspell (bytesOf self) (word 0 "utf-8") (word 1 "strict"))
  | "hex" =>
    let found <- given.take ["sep", "bytes_per_sep"] 0
    let digits := self.map (fun c => (hexDigits 2 c.toNat).toList)
    match givenAt found 0 with
    | some separator =>
      let sign <- match separator with
        | .octets bytes => pure (octetsOf bytes)
        | separator => charsOf false separator
      let size <- indexOr engine 1 (givenAt found 1)
      let count := size.natAbs
      let grouped (parts : List Chars) : List Chars :=
        parts.zipIdx.flatMap fun (part, index) =>
          let isBorder := if size < 0 then index % count = 0 else (parts.length - index) % count = 0
          if index ≠ 0 && isBorder then [sign, part] else [part]
      return .text (.ofList (grouped digits).flatten)
    | none => return .text (.ofList digits.flatten)
  | "translate" =>
    if isBytes then
      let found <- given.take ["table", "delete"] 1
      let gone <- match givenAt found 1 with
        | some value => charsOf true value
        | none => pure []
      let kept := self.filter (!gone.contains ·)
      match givenAt found 0 with
      | some (.octets table) =>
        return .octets (bytesOf (kept.map fun c => Char.ofNat (table.get! c.toNat).toNat))
      | _ => return back kept
    else
      let table <- given.one
      return back (<- self.mapM (translated engine table)).flatten
  | "format" =>
    let named (name : String) : Machine Value := do
      match given.named.lookup name with
      | some value => return value
      | none => throw (.raised (<- newFault (nativeType "KeyError") [.text name]))
    let (text, _) <- fillBraces engine given.placed named 3 (some 0) self
    return .text text
  | "format_map" =>
    let table <- given.one
    let named (name : String) : Machine Value := itemOf engine table (.text name)
    let (text, _) <- fillBraces engine [] named 3 (some 0) self
    return .text text
  | "maketrans" => translationTable given
  | "fromhex" =>
    let text <- charsOf false (<- given.one)
    let digits := text.filter (!Text.isSpace ·)
    match digits.findIdx? (!isHexDigit ·) with
    | some index =>
      failValue s!"non-hexadecimal number found in fromhex() arg at position {numberText index}"
    | none =>
      if digits.length % 2 = 1 then
        failValue
          ("non-hexadecimal number found in fromhex() arg at position " ++ numberText text.length)
      let rec pairs : Chars -> List UInt8
        | a :: b :: rest => UInt8.ofNat (hexadecimalValue [a, b]) :: pairs rest
        | _ => []
      return .octets ⟨(pairs digits).toArray⟩
  | name => fail "AttributeError" s!"'str' object has no attribute '{name}'"

end

end BaseLanguage.Shell.Objects
