import BaseLanguage.Shell.Utility.Options

namespace BaseLanguage.Shell

/-!
# Texts in other codes

`iconv` says texts in another code.  A text is read as the numbers of its characters, which are then
written anew; a character that a code does not have ends it all, unless such are left out or
written with others.
-/

inductive CharCode where
  | ascii
  | latin
  | latinEuro
  | windows
  | utf8
  | units (bytes : Nat) (lowFirst marked : Bool)

inductive CodeFault where
  | illegal
  | incomplete

namespace CharCode

def names : List (List String × CharCode) :=
  [(Text.wordsIn "ASCII US-ASCII ANSI_X3.4-1968 ANSI_X3.4-1986 ISO646-US 646 CP367 US IBM367
    ISO-IR-6", .ascii),
    (Text.wordsIn "ISO-8859-1 ISO8859-1 ISO88591 ISO_8859-1 LATIN1 L1 8859_1 CP819 IBM819
      ISO-IR-100", .latin),
    (["ISO-8859-15", "ISO8859-15", "ISO885915", "ISO_8859-15", "LATIN-9", "LATIN9"], .latinEuro),
    (["CP1252", "WINDOWS-1252", "MS-ANSI"], .windows),
    (["UTF-8", "UTF8"], .utf8),
    (["UTF-16", "UTF16"], .units 2 true true),
    (["UTF-16LE", "UTF16LE", "UCS-2LE", "UCS2LE", "UNICODELITTLE"], .units 2 true false),
    (["UTF-16BE", "UTF16BE", "UCS-2BE", "UCS2BE", "UNICODEBIG"], .units 2 false false),
    (["UCS-2", "UCS2", "ISO-10646-UCS-2"], .units 2 true false),
    (["UTF-32", "UTF32"], .units 4 true true),
    (["UTF-32LE", "UTF32LE", "UCS-4LE", "UCS4LE"], .units 4 true false),
    (["UTF-32BE", "UTF32BE", "UCS-4", "UCS4", "UCS-4BE", "ISO-10646"], .units 4 false false)]

def named? (name : String) : Option CharCode :=
  let upper := .ofList (name.toList.map Char.toUpper)
  let upper := if upper.isEmpty then "ASCII" else upper
  (names.find? (·.1.contains upper)).map Prod.snd

def windowsSigns : List Nat :=
  [0x20AC, 0, 0x201A, 0x0192, 0x201E, 0x2026, 0x2020, 0x2021, 0x02C6, 0x2030, 0x0160, 0x2039,
    0x0152, 0, 0x017D, 0, 0, 0x2018, 0x2019, 0x201C, 0x201D, 0x2022, 0x2013, 0x2014, 0x02DC,
    0x2122, 0x0161, 0x203A, 0x0153, 0, 0x017E, 0x0178]

def euroSigns : List (Nat × Nat) :=
  [(0xA4, 0x20AC), (0xA6, 0x160), (0xA8, 0x161), (0xB4, 0x17D), (0xB8, 0x17E), (0xBC, 0x152),
    (0xBD, 0x153), (0xBE, 0x178)]

def unit (lowFirst : Bool) (bytes : List UInt8) : Nat :=
  (if lowFirst then bytes.reverse else bytes).foldl (fun value byte => value * 256 + byte.toNat) 0

def unitBytes (lowFirst : Bool) (count value : Nat) : List UInt8 :=
  let bytes := (List.range count).map fun index => UInt8.ofNat (value / Nat.pow 256 index % 256)
  if lowFirst then bytes else bytes.reverse

def read (code : CharCode) (bytes : List UInt8) : Except CodeFault (Nat × Nat) := match bytes with
  | [] => .error .incomplete
  | first :: _ =>
    let value := first.toNat
    match code with
    | .ascii => if value < 128 then .ok (value, 1) else .error .illegal
    | .latin => .ok (value, 1)
    | .latinEuro => .ok ((euroSigns.lookup value).getD value, 1)
    | .windows =>
      if 128 <= value && value < 160 then
        let sign := windowsSigns.getD (value - 128) 0
        if sign = 0 then .error .illegal else .ok (sign, 1)
      else .ok (value, 1)
    | .utf8 =>
      let size :=
        if value < 0x80 then 1
        else if value < 0xC2 then 0
        else if value < 0xE0 then 2
        else if value < 0xF0 then 3
        else if value < 0xF5 then 4
        else 0
      if size = 0 then .error .illegal
      else
        let taken := bytes.take size
        let rest := (taken.drop 1).takeWhile (·.toNat / 64 = 2)
        if rest.length + 1 < size then
          if taken.length < size && rest.length + 1 = taken.length then .error .incomplete
          else .error .illegal
        else
          let lead := if size = 1 then value else value % Nat.pow 2 (7 - size)
          let number := rest.foldl (fun number byte => number * 64 + byte.toNat % 64) lead
          let least := [0, 0, 0x80, 0x800, 0x10000].getD size 0
          if number < least || (0xD800 <= number && number < 0xE000) || 0x10FFFF < number then
            .error .illegal
          else .ok (number, size)
    | .units count lowFirst _ =>
      if bytes.length < count then .error .incomplete
      else
        let number := unit lowFirst (bytes.take count)
        if count = 2 && 0xD800 <= number && number < 0xDC00 then
          if bytes.length < 4 then .error .incomplete
          else
            let low := unit lowFirst ((bytes.drop 2).take 2)
            if 0xDC00 <= low && low < 0xE000 then
              .ok (0x10000 + (number - 0xD800) * 0x400 + (low - 0xDC00), 4)
            else .error .illegal
        else if (0xD800 <= number && number < 0xE000) || 0x10FFFF < number then .error .illegal
        else .ok (number, count)

def write? (code : CharCode) (number : Nat) : Option (List UInt8) := match code with
  | .ascii => if number < 128 then some [UInt8.ofNat number] else none
  | .latin => if number < 256 then some [UInt8.ofNat number] else none
  | .latinEuro => match euroSigns.find? (·.2 = number) with
    | some (place, _) => some [UInt8.ofNat place]
    | none =>
      if number < 256 && (euroSigns.lookup number).isNone then some [UInt8.ofNat number] else none
  | .windows =>
    if number < 128 || (160 <= number && number < 256) then some [UInt8.ofNat number]
    else match windowsSigns.findIdx? (fun sign => sign = number && sign ≠ 0) with
      | some index => some [UInt8.ofNat (128 + index)]
      | none => none
  | .utf8 => some (Text.toBytes (.singleton (Char.ofNat number))).data.toList
  | .units count lowFirst _ =>
    if count = 2 && 0x10000 <= number then
      let rest := number - 0x10000
      some (unitBytes lowFirst 2 (0xD800 + rest / 0x400) ++
        unitBytes lowFirst 2 (0xDC00 + rest % 0x400))
    else some (unitBytes lowFirst count number)

def mark : CharCode -> List UInt8
  | .units count lowFirst true => unitBytes lowFirst count 0xFEFF
  | _ => []

def settled (code : CharCode) (bytes : List UInt8) : CharCode × Nat := match code with
  | .units count _ true =>
    let front := bytes.take count
    if unit true front = 0xFEFF then (.units count true false, count)
    else if unit false front = 0xFEFF then (.units count false false, count)
    else (.units count true false, 0)
  | code => (code, 0)

end CharCode

def plainSpellings : List (Nat × String) :=
  [(0xA0, " "), (0xA9, "(C)"), (0xAB, "<<"), (0xAE, "(R)"), (0xB5, "u"), (0xBB, ">>"),
    (0xBC, " 1/4 "), (0xBD, " 1/2 "), (0xBE, " 3/4 "), (0xC6, "AE"), (0xD7, "x"), (0xDF, "ss"),
    (0xE6, "ae"), (0x152, "OE"), (0x153, "oe"), (0x2010, "-"), (0x2011, "-"), (0x2012, "-"),
    (0x2013, "-"), (0x2014, "-"), (0x2018, "'"), (0x2019, "'"), (0x201A, ","), (0x201C, "\""),
    (0x201D, "\""), (0x201E, ",,"), (0x2022, "o"), (0x2026, "..."), (0x2039, "<"), (0x203A, ">"),
    (0x20AC, "EUR"), (0x2122, "(TM)"), (0x2190, "<-"), (0x2192, "->"), (0x2212, "-"),
    (0x2260, "/="), (0x2264, "<="), (0x2265, ">=")]

structure Recoding where
  source : CharCode
  target : CharCode
  omits : Bool := false
  complains : Bool := false
  spells : Bool := false

structure Recoded where
  said : List UInt8 := []
  fault : Option (CodeFault × Nat) := none
  hasOmitted : Bool := false

namespace Recoding

def bytesOf? (recoding : Recoding) (number : Nat) : Option (List UInt8) :=
  match recoding.target.write? number with
  | some bytes => some bytes
  | none =>
    if recoding.spells then
      let text := (plainSpellings.lookup number).getD "?"
      some (text.toList.flatMap fun c => (recoding.target.write? c.toNat).getD [])
    else none

def go (recoding : Recoding) (source : CharCode) : Nat -> Nat -> List UInt8 -> Recoded -> Recoded
  | 0, _, _, state => state
  | _, _, [], state => state
  | limit + 1, place, bytes, state => match source.read bytes with
    | .error .incomplete => { state with fault := some (.incomplete, place) }
    | .error .illegal =>
      if recoding.omits then
        go recoding source limit (place + 1) (bytes.drop 1) { state with hasOmitted := true }
      else { state with fault := some (.illegal, place) }
    | .ok (number, size) => match recoding.bytesOf? number with
      | some said =>
        go recoding source limit (place + size) (bytes.drop size)
          { state with said := said.reverse ++ state.said }
      | none =>
        if recoding.omits then
          go recoding source limit (place + size) (bytes.drop size)
            { state with hasOmitted := true }
        else { state with fault := some (.illegal, place) }

def apply (recoding : Recoding) (bytes : ByteArray) : Recoded :=
  let all := bytes.data.toList
  let (source, front) := recoding.source.settled all
  let start : Recoded := { said := if all.isEmpty then [] else recoding.target.mark.reverse }
  recoding.go source (all.length + 1) front (all.drop front) start

end Recoding

def iconvOptions : OptionTable where
  letters := "cf:lo:st:v"
  words := [("from-code", 'f'), ("to-code", 't'), ("list", 'l'), ("output", 'o'),
    ("silent", 's'), ("verbose", 'v')]
  status := 64

def codeName (text : String) : String × List String :=
  let letters := text.toList
  let rec go : Nat -> Chars -> Chars -> List Chars
    | 0, current, _ => [current.reverse]
    | _, current, [] => [current.reverse]
    | limit + 1, current, '/' :: '/' :: rest => current.reverse :: go limit [] rest
    | limit + 1, current, c :: rest => go limit (c :: current) rest
  match (go (letters.length + 1) [] letters).map .ofList with
  | name :: rest => (name, rest)
  | [] => (text, [])

def iconv : Utility := fun program arguments => do
  let hint := s!"Try \x60{program} --help' or \x60{program} --usage' for more information."
  match iconvOptions.read arguments with
  | .error message => complainWith 64 program s!"{message}\n{hint}"
  | .ok call =>
    let given (letter : Char) : String × List String :=
      codeName ((call.argument? letter).getD "ASCII")
    let (fromName, fromRest) := given 'f'
    let (toName, toRest) := given 't'
    let words := (fromRest ++ toRest).map fun word => .ofList (word.toList.map Char.toUpper)
    match CharCode.named? fromName, CharCode.named? toName with
    | none, none =>
      complain program
        (s!"conversions from \x60{fromName}' and to \x60{toName}' are not supported\n" ++ hint)
    | none, _ => complain program s!"conversion from \x60{fromName}' is not supported\n{hint}"
    | _, none => complain program s!"conversion to \x60{toName}' is not supported\n{hint}"
    | some source, some target =>
      let ignores := words.contains "IGNORE"
      let recoding : Recoding := {
        source, target
        omits := call.has 'c' || ignores
        spells := words.contains "TRANSLIT" }
      let contents <- (operandsOrInput call.operands).mapM fun name => do
        match <- readOperand name with
        | .ok bytes => return some bytes
        | .error fault =>
          discard <| complain program s!"cannot open input file \x60{name}': {fault}"
          return none
      let bytes := (contents.filterMap id).foldl (· ++ ·) ByteArray.empty
      let result := recoding.apply bytes
      let said : ByteArray := ⟨result.said.reverse.toArray⟩
      let status <-
        match call.argument? 'o' with
        | some name => match <- writeNamed .writing name said with
          | .ok () => pure success
          | .error _ => complain program "unable to open output file"
        | none => answer program said
      match result.fault with
      | some (.illegal, place) =>
        complain program s!"illegal input sequence at position {numberText place}"
      | some (.incomplete, _) =>
        complain program "incomplete character or shift sequence at end of buffer"
      | none =>
        if result.hasOmitted && !call.has 'c' then
          complain program s!"illegal input sequence at position {numberText bytes.size}"
        else if result.hasOmitted || !contents.all Option.isSome then return failure
        else return status

end BaseLanguage.Shell
