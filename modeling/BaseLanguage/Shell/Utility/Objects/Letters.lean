import BaseLanguage.Shell.Utility.Objects.Operations

namespace BaseLanguage.Shell.Objects

open Text

/-!
# Letters

Letters are great or small, and some characters are digits or numbers.  The letters of Latin, Greek,
Cyrillic and Armenian are known, with what they become.
-/

def isPaired (first last code : Nat) : Bool := first <= code && code <= last && code % 2 = first % 2

def pairRanges : List (Nat × Nat) :=
  [(0x100, 0x12e), (0x132, 0x136), (0x139, 0x147), (0x14a, 0x176), (0x179, 0x17d), (0x1cd, 0x1db),
    (0x1de, 0x1ee), (0x1f8, 0x21e), (0x222, 0x232), (0x370, 0x372), (0x3d8, 0x3ee), (0x460, 0x480),
    (0x48a, 0x4be), (0x4c1, 0x4cd), (0x4d0, 0x52e), (0x1e00, 0x1e94), (0x1ea0, 0x1efe)]

def shiftRanges : List (Nat × Nat × Nat) :=
  [(0x41, 0x5a, 32), (0xc0, 0xd6, 32), (0xd8, 0xde, 32), (0x391, 0x3a1, 32), (0x3a3, 0x3ab, 32),
    (0x410, 0x42f, 32), (0x400, 0x40f, 80), (0x531, 0x556, 48), (0x2160, 0x216f, 16),
    (0x24b6, 0x24cf, 26), (0xff21, 0xff3a, 32), (0x388, 0x38a, 37), (0x10400, 0x10427, 40)]

def loosePairs : List (Nat × Nat) :=
  [(0x178, 0xff), (0x386, 0x3ac), (0x38c, 0x3cc), (0x38e, 0x3cd), (0x38f, 0x3ce), (0x1e9e, 0xdf),
    (0x4c0, 0x4cf)]

def smallOf (c : Char) : Chars :=
  let code := c.toNat
  if code < 0x80 then [c.toLower]
  else if code = 0x130 then ['i', Char.ofNat 0x307]
  else match shiftRanges.find? (fun (first, last, _) => first <= code && code <= last) with
    | some (_, _, shift) => [Char.ofNat (code + shift)]
    | none =>
      if pairRanges.any (fun (first, last) => isPaired first last code) then [Char.ofNat (code + 1)]
      else match loosePairs.lookup code with
        | some small => [Char.ofNat small]
        | none => [c]

def greatOf (c : Char) : Chars :=
  let code := c.toNat
  if code < 0x80 then [c.toUpper]
  else match code with
    | 0xdf => ['S', 'S']
    | 0xb5 => [Char.ofNat 0x39c]
    | 0x131 => ['I']
    | 0x17f => ['S']
    | 0x149 => [Char.ofNat 0x2bc, 'N']
    | 0x3c2 => [Char.ofNat 0x3a3]
    | 0xfb00 => ['F', 'F']
    | 0xfb01 => ['F', 'I']
    | 0xfb02 => ['F', 'L']
    | code =>
      match shiftRanges.find? (fun (first, last, shift) =>
        first + shift <= code && code <= last + shift) with
      | some (_, _, shift) => [Char.ofNat (code - shift)]
      | none =>
        if pairRanges.any (fun (first, last) => isPaired (first + 1) (last + 1) code) then
          [Char.ofNat (code - 1)]
        else match loosePairs.find? (·.2 = code) with
          | some (great, _) => [Char.ofNat great]
          | none => [c]

def isGreat (c : Char) : Bool := smallOf c ≠ [c]

def isSmall (c : Char) : Bool :=
  greatOf c ≠ [c] || [0xaa, 0xba, 0x138, 0x18d, 0x19b].contains c.toNat

def digitStarts : List Nat :=
  [0x30, 0x660, 0x6f0, 0x7c0, 0x966, 0x9e6, 0xa66, 0xae6, 0xb66, 0xbe6, 0xc66, 0xce6, 0xd66, 0xe50,
    0xed0, 0xf20, 0x1040, 0x17e0, 0x1810, 0xff10]

def decimalValue? (c : Char) : Option Nat :=
  (digitStarts.find? (fun start => start <= c.toNat && c.toNat < start + 10)).map (c.toNat - ·)

def isDigitLike (c : Char) : Bool :=
  let code := c.toNat
  (decimalValue? c).isSome || [0xb2, 0xb3, 0xb9, 0x2070].contains code ||
    (0x2074 <= code && code <= 0x2079) || (0x2080 <= code && code <= 0x2089) ||
    (0x2460 <= code && code <= 0x2468)

def isNumberLike (c : Char) : Bool :=
  let code := c.toNat
  isDigitLike c || [0xbc, 0xbd, 0xbe].contains code || (0x2150 <= code && code <= 0x218b) ||
    (0x2460 <= code && code <= 0x249b) || [0x4e00, 0x4e8c, 0x4e09, 0x56db, 0x4e94, 0x516d, 0x4e03,
      0x516b, 0x4e5d, 0x5341, 0x767e, 0x5343, 0x4e07].contains code

def isLetter (c : Char) : Bool :=
  let code := c.toNat
  if code < 0x80 then c.isAlpha
  else
    isWideAlphanumeric c && (code = 0x4e00 || (0x4e00 < code && code < 0xa000) ||
      !isNumberLike c) && !(0x300 <= code && code < 0x370) && !(0x483 <= code && code <= 0x489) &&
      !(0xfe00 <= code && code <= 0xfe0f) && !(0x10d800 <= code)

def inSmallLetters (text : Chars) : Chars :=
  let rec go : Option Char -> Chars -> Chars
    | _, [] => []
    | before, c :: rest =>
      let small :=
        if c.toNat = 0x3a3 && before.any isLetter && !(rest.head?.any isLetter) then
          [Char.ofNat 0x3c2]
        else smallOf c
      small ++ go (some c) rest
  go none text

def asTitle (text : Chars) : Chars :=
  let rec go : Bool -> Chars -> Chars
    | _, [] => []
    | inside, c :: rest =>
      let isCased := isGreat c || isSmall c
      let put := if inside then smallOf c else match greatOf c with
        | [c] => [c]
        | first :: more => first :: more.flatMap smallOf
        | [] => []
      put ++ go isCased rest
  go false text

def isTitle (text : Chars) : Bool :=
  let rec go : Bool -> Bool -> Chars -> Bool
    | _, any, [] => any
    | inside, any, c :: rest =>
      if isGreat c then if inside then false else go true true rest
      else if isSmall c then if inside then go true any rest else false
      else go false any rest
  go false false text

/-! ## Parts of texts -/

def placeOf? (part text : Chars) (first last : Nat) : Option Nat :=
  let rec go : Nat -> Chars -> Nat -> Option Nat
    | 0, _, _ => none
    | limit + 1, rest, place =>
      if last < place + part.length then none
      else if part.isPrefixOf rest then some place
      else match rest with
        | [] => none
        | _ :: rest => go limit rest (place + 1)
  go (text.length + 2) (text.drop first) first

def lastPlaceOf? (part text : Chars) (first last : Nat) : Option Nat :=
  if last < first + part.length then none
  else
    let chars := text.toArray
    let size := part.length
    let pattern := part.toArray
    let fits (place : Nat) : Bool :=
      (List.range size).all (fun index => chars[place + index]? == pattern[index]?)
    let rec go : Nat -> Nat -> Option Nat
      | 0, _ => none
      | limit + 1, place =>
        if fits place then some place
        else if place <= first then none
        else go limit (place - 1)
    go (text.length + 2) (last - size)

def cutAt (separator : Chars) (most : Option Nat) (text : Chars) : List Chars :=
  let size := separator.length
  let rec go : Nat -> Option Nat -> Chars -> Chars -> List Chars
    | 0, _, _, done => [done.reverse]
    | _, some 0, rest, done => [done.reverse ++ rest]
    | _, _, [], done => [done.reverse]
    | limit + 1, most, c :: rest, done =>
      if separator.isPrefixOf (c :: rest) then
        done.reverse :: go limit (most.map (· - 1)) ((c :: rest).drop size) []
      else go limit most rest (c :: done)
  go (text.length + 1) most text []

def cutFromEnd (separator : Chars) (most : Option Nat) (text : Chars) : List Chars :=
  let parts := cutAt separator.reverse most text.reverse
  (parts.map List.reverse).reverse

def wordsOf (isSpace : Char -> Bool) (most : Option Nat) (text : Chars) : List Chars :=
  let rec go : Nat -> Option Nat -> Chars -> List Chars
    | 0, _, _ => []
    | limit + 1, most, text => match text.dropWhile isSpace with
      | [] => []
      | text =>
        if most = some 0 then [(dropTrailing isSpace text)]
        else
          let word := text.takeWhile (!isSpace ·)
          word :: go limit (most.map (· - 1)) (text.drop word.length)
  go (text.length + 1) most text

def wordsFromEnd (isSpace : Char -> Bool) (most : Option Nat) (text : Chars) : List Chars :=
  ((wordsOf isSpace most text.reverse).map List.reverse).reverse

def linesAt (isEnd : Char -> Bool) (keeps : Bool) (text : Chars) : List Chars :=
  let rec go : Chars -> Chars -> List Chars
    | [], [] => []
    | [], done => [done.reverse]
    | '\r' :: '\n' :: rest, done =>
      (if keeps then ('\n' :: '\r' :: done).reverse else done.reverse) :: go rest []
    | c :: rest, done =>
      if isEnd c then (if keeps then (c :: done).reverse else done.reverse) :: go rest []
      else go rest (c :: done)
  go text []

def isLineEnd (c : Char) : Bool :=
  let code := c.toNat
  (10 <= code && code <= 13) || (0x1c <= code && code <= 0x1e) || code = 0x85 || code = 0x2028 ||
    code = 0x2029

def replaced (old new : Chars) (most : Option Nat) (text : Chars) : Chars :=
  if old.isEmpty then
    let count := most.getD (text.length + 1)
    let indexed := text.zipIdx
    (if count = 0 then [] else new) ++ indexed.flatMap (fun (c, index) =>
      if index + 1 < count then c :: new else [c])
  else
    let parts := cutAt old most text
    (parts.intersperse new).flatten

def withoutTabs (size : Nat) (text : Chars) : Chars :=
  let rec go : Nat -> Chars -> Chars
    | _, [] => []
    | column, '\t' :: rest =>
      let count := if size = 0 then 0 else size - column % size
      List.replicate count ' ' ++ go (column + count) rest
    | column, c :: rest => c :: go (if c = '\n' || c = '\r' then 0 else column + 1) rest
  go 0 text

def countOf (part text : Chars) : Nat :=
  if part.isEmpty then text.length + 1 else (cutAt part none text).length - 1

/-! ## Spellings -/

def spellingName (name : String) : String :=
  let plain := (name.toList.map Char.toLower).filter (fun c => c ≠ '-' && c ≠ '_' && c ≠ ' ')
  match .ofList plain with
  | "utf8" => "utf-8"
  | "u8" => "utf-8"
  | "utf8sig" => "utf-8-sig"
  | "cp65001" => "utf-8"
  | "ascii" => "ascii"
  | "usascii" => "ascii"
  | "latin1" => "latin-1"
  | "l1" => "latin-1"
  | "iso88591" => "latin-1"
  | "cp1252" => "latin-1"
  | "utf16" => "utf-16"
  | "utf16le" => "utf-16-le"
  | "utf16be" => "utf-16-be"
  | "utf32" => "utf-32"
  | "utf32le" => "utf-32-le"
  | "utf32be" => "utf-32-be"
  | other => other

def smallBytes (count value : Nat) : List UInt8 :=
  (List.range count).map (fun index => UInt8.ofNat (value / Nat.pow 256 index))

def unitsOf (c : Char) : List Nat :=
  let code := numberOfChar c
  if code < 0x10000 then [code]
  else [0xd800 + (code - 0x10000) / 1024, 0xdc00 + (code - 0x10000) % 1024]

def spellingOf (errors : String) (c : Char) : Option (List UInt8) :=
  let code := numberOfChar c
  let plain (text : String) : List UInt8 := text.toUTF8.toList
  match errors with
  | "ignore" => some []
  | "replace" => some [63]
  | "xmlcharrefreplace" => some (plain s!"&#{numberText code};")
  | "backslashreplace" => some (plain (quotedChar '\x00' true c))
  | "namereplace" => some (plain (quotedChar '\x00' true c))
  | "surrogateescape" =>
    if 0xdc80 <= code && code <= 0xdcff then some [UInt8.ofNat (code - 0xdc00)] else none
  | "surrogatepass" =>
    some [UInt8.ofNat (0xe0 + code / 4096), UInt8.ofNat (0x80 + code / 64 % 64),
      UInt8.ofNat (0x80 + code % 64)]
  | _ => none

def spell (text : String) (encoding errors : String) : Machine ByteArray := do
  let spelling := spellingName encoding
  let narrow (wide : Nat) (reason : String) : Machine ByteArray := do
    let step (bytes : ByteArray) (entry : Char × Nat) : Machine ByteArray := do
      let (c, index) := entry
      if c.toNat < wide then return bytes.push (UInt8.ofNat c.toNat)
      else match spellingOf errors c with
        | some more => return bytes ++ ⟨more.toArray⟩
        | none =>
          let shown := quotedChar '\x00' true c
          fail "UnicodeEncodeError"
            (s!"'{spelling}' codec can't encode character '{shown}' in position " ++
              s!"{numberText index}: {reason}")
    text.toList.zipIdx.foldlM step .empty
  let units (count : Nat) (isGreat : Bool) (front : List UInt8) (parts : Char -> List Nat) :
      ByteArray :=
    let bytes := text.toList.flatMap fun c => (parts c).flatMap fun value =>
      let found := smallBytes count value
      if isGreat then found.reverse else found
    ⟨(front ++ bytes).toArray⟩
  match spelling with
  | "utf-8" => utf8
  | "utf-8-sig" => return ⟨#[0xef, 0xbb, 0xbf]⟩ ++ (<- utf8)
  | "ascii" => narrow 128 "ordinal not in range(128)"
  | "latin-1" => narrow 256 "ordinal not in range(256)"
  | "utf-16" => return units 2 false [0xff, 0xfe] unitsOf
  | "utf-16-le" => return units 2 false [] unitsOf
  | "utf-16-be" => return units 2 true [] unitsOf
  | "utf-32" => return units 4 false [0xff, 0xfe, 0, 0] ([numberOfChar ·])
  | "utf-32-le" => return units 4 false [] ([numberOfChar ·])
  | "utf-32-be" => return units 4 true [] ([numberOfChar ·])
  | _ => fail "LookupError" s!"unknown encoding: {encoding}"
where
  utf8 : Machine ByteArray := do
    if text.toList.any (fun c => 0x10d800 <= c.toNat && c.toNat < 0x10e000) then
      text.toList.zipIdx.foldlM (fun (bytes : ByteArray) (entry : Char × Nat) => do
        let (c, index) := entry
        if 0x10d800 <= c.toNat && c.toNat < 0x10e000 then
          match spellingOf errors c with
          | some more => return bytes ++ ⟨more.toArray⟩
          | none =>
            let shown := quotedChar '\x00' true c
            fail "UnicodeEncodeError"
              (s!"'utf-8' codec can't encode character '{shown}' in position " ++
                s!"{numberText index}: surrogates not allowed")
        else return bytes ++ (String.singleton c).toUTF8) ByteArray.empty
    else return text.toUTF8

def unspell (bytes : ByteArray) (encoding errors : String) : Machine String := do
  let spelling := spellingName encoding
  let units (count : Nat) (isGreat : Bool) (bytes : List UInt8) : List Nat :=
    let rec go : Nat -> List UInt8 -> List Nat
      | 0, _ => []
      | limit + 1, bytes =>
        if bytes.length < count || bytes.isEmpty then []
        else
          let part := bytes.take count
          let part := if isGreat then part else part.reverse
          part.foldl (fun value byte => 256 * value + byte.toNat) 0 :: go limit (bytes.drop count)
    go (bytes.length + 1) bytes
  let rec joined : List Nat -> Chars
    | first :: second :: rest =>
      if 0xd800 <= first && first < 0xdc00 && 0xdc00 <= second && second < 0xe000 then
        Char.ofNat (0x10000 + (first - 0xd800) * 1024 + (second - 0xdc00)) :: joined rest
      else charOfNumber first :: joined (second :: rest)
    | rest => rest.map charOfNumber
  match spelling with
  | "utf-8" => utf8 bytes
  | "utf-8-sig" =>
    utf8 (if (bytes.extract 0 3).toList = [0xef, 0xbb, 0xbf] then bytes.extract 3 bytes.size else bytes)
  | "latin-1" => return .ofList (octetsOf bytes)
  | "ascii" => match bytes.toList.findIdx? (128 <= ·) with
    | none => return .ofList (octetsOf bytes)
    | some index => match errors with
      | "ignore" => return .ofList ((octetsOf bytes).filter (·.toNat < 128))
      | "replace" =>
        return .ofList ((octetsOf bytes).map
          (fun c => if c.toNat < 128 then c else Char.ofNat 0xfffd))
      | "surrogateescape" =>
        return .ofList ((octetsOf bytes).map
          (fun c => if c.toNat < 128 then c else Char.ofNat (0x10dc00 + c.toNat)))
      | _ =>
        let byte := hexDigits 2 (bytes.get! index).toNat
        fail "UnicodeDecodeError"
          (s!"'ascii' codec can't decode byte 0x{byte} in position {numberText index}: " ++
            "ordinal not in range(128)")
  | "utf-16" =>
    let front := (bytes.extract 0 2).toList
    let isGreat := front = [0xfe, 0xff]
    let rest := if isGreat || front = [0xff, 0xfe] then bytes.toList.drop 2 else bytes.toList
    return .ofList (joined (units 2 isGreat rest))
  | "utf-16-le" => return .ofList (joined (units 2 false bytes.toList))
  | "utf-16-be" => return .ofList (joined (units 2 true bytes.toList))
  | "utf-32" =>
    let rest := if (bytes.extract 0 4).toList = [0xff, 0xfe, 0, 0] then bytes.toList.drop 4
      else bytes.toList
    return .ofList ((units 4 false rest).map charOfNumber)
  | "utf-32-le" => return .ofList ((units 4 false bytes.toList).map charOfNumber)
  | "utf-32-be" => return .ofList ((units 4 true bytes.toList).map charOfNumber)
  | _ => fail "LookupError" s!"unknown encoding: {encoding}"
where
  utf8 (bytes : ByteArray) : Machine String := do
    match errors with
    | "backslashreplace" =>
      return .join ((decodedText bytes).toList.map fun c =>
        if 0x10dc80 <= c.toNat && c.toNat <= 0x10dcff then "\\x" ++ hexDigits 2 (c.toNat - 0x10dc00)
        else .singleton c)
    | errors => decodedFor { name := .nothing, mode := "r", errors } bytes

end BaseLanguage.Shell.Objects
