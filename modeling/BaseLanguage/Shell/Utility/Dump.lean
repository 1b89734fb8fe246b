import BaseLanguage.Shell.Utility.Options
import BaseLanguage.Shell.Utility.Output

namespace BaseLanguage.Shell

open Text

/-!
# Bytes as characters

Bytes are written with characters of an alphabet, so many bits each.  Characters come in groups that
are whole bytes; the last group may be filled up.  Ends of lines count for nothing.
-/

structure Alphabet where
  chars : Array Char
  bits : Nat
  group : Nat
  fills : Bool := true
  reverses : Bool := false

namespace Alphabet

def letters : Chars := "ABCDEFGHIJKLMNOPQRSTUVWXYZ".toList

def digits : Chars := "0123456789".toList

def sixtyFour (last : Chars) : Alphabet where
  chars := (letters ++ letters.map Char.toLower ++ digits ++ last).toArray
  bits := 6
  group := 4

def named : List (String × Alphabet) :=
  [("base64", sixtyFour ['+', '/']), ("base64url", sixtyFour ['-', '_']),
    ("base32", ⟨(letters ++ digits.drop 2 |>.take 32).toArray, 5, 8, true, false⟩),
    ("base32hex", ⟨(digits ++ letters.take 22).toArray, 5, 8, true, false⟩),
    ("base16", ⟨(digits ++ letters.take 6).toArray, 4, 2, false, false⟩),
    ("base2msbf", ⟨#['0', '1'], 1, 8, false, false⟩),
    ("base2lsbf", ⟨#['0', '1'], 1, 8, false, true⟩)]

def bitsOf (count value : Nat) : List Bool :=
  (List.range count).map fun index => value >>> (count - 1 - index) % 2 == 1

def ofBits (bits : List Bool) : Nat :=
  bits.foldl (fun value bit => value * 2 + (if bit then 1 else 0)) 0

def inPieces (size : Nat) : Nat -> List Bool -> List (List Bool)
  | 0, _ => []
  | limit + 1, bits =>
    if bits.isEmpty then []
    else
      let piece := bits.take size
      (piece ++ List.replicate (size - piece.length) false) :: inPieces size limit (bits.drop size)

variable (alphabet : Alphabet)

def encodeGroup (bytes : List UInt8) : Chars :=
  let bits := bytes.flatMap fun byte =>
    let bits := bitsOf 8 byte.toNat
    if alphabet.reverses then bits.reverse else bits
  let chars := (inPieces alphabet.bits bits.length bits).map fun piece =>
    alphabet.chars.getD (ofBits piece) '0'
  if alphabet.fills then chars ++ List.replicate (alphabet.group - chars.length) '=' else chars

def groupBytes : Nat := alphabet.group * alphabet.bits / 8

def encode (bytes : ByteArray) : Chars :=
  let size := alphabet.groupBytes
  (List.range ((bytes.size + size - 1) / size)).flatMap fun index =>
    alphabet.encodeGroup (bytes.extract (index * size) ((index + 1) * size)).data.toList

def value? (c : Char) : Option Nat := alphabet.chars.idxOf? c

def bytesOfGroup (chars : Chars) : List UInt8 :=
  let bits := chars.flatMap fun c => bitsOf alphabet.bits ((alphabet.value? c).getD 0)
  (List.range (bits.length / 8)).map fun index =>
    let bits := (bits.drop (8 * index)).take 8
    UInt8.ofNat (ofBits (if alphabet.reverses then bits.reverse else bits))

def decode (alphabet : Alphabet) : Nat -> Chars -> List UInt8 × Bool
  | 0, _ => ([], true)
  | limit + 1, text =>
    if text.isEmpty then ([], true)
    else
      let group := text.take alphabet.group
      let known := group.takeWhile (fun c => (alphabet.value? c).isSome)
      let behind := group.drop known.length
      let bytes := alphabet.bytesOfGroup known
      let isFilled := alphabet.fills && behind.all (· = '=') &&
        group.length = alphabet.group && !bytes.isEmpty &&
        behind.length * alphabet.bits < 8 * (alphabet.groupBytes - bytes.length) + 8 &&
        (bytes.length * 8 + alphabet.bits - 1) / alphabet.bits = known.length
      if (behind.isEmpty && group.length = alphabet.group) || isFilled then
        let (rest, whole) := decode alphabet limit (text.drop alphabet.group)
        (bytes ++ rest, whole)
      else (bytes, false)

end Alphabet

def wrapped (width : Nat) (text : Chars) : Chars :=
  if width = 0 then text
  else
    (text.foldl
      (fun (said, column) c =>
        if column + 1 = width then ('\n' :: c :: said, 0) else (c :: said, column + 1))
      (([] : Chars), 0)
      |> fun (said, column) => if column = 0 then said else '\n' :: said).reverse

def encodeWith (alphabet : Alphabet) (program : String) (call : ProgramCall) : Act Nat := do
  let width? : Option Nat := match call.argument? 'w' with
    | none => some 76
    | some text => digitsValue? text
  match width?, call.operands with
  | none, _ =>
    let shown := quoted ((call.argument? 'w').getD "")
    complain program s!"invalid wrap size: {shown}"
  | _, _ :: extra :: _ => complainOfExtra program extra
  | some width, operands =>
    let name := operands.headD "-"
    match <- readOperand name with
    | .error fault => complain program s!"{quotedIfNeeded name}: {fault}"
    | .ok bytes =>
      if call.has 'd' then
        let text := (octetsOf bytes).filter fun c =>
          c != '\n' && (!call.has 'i' || c = '=' || (alphabet.value? c).isSome)
        let (decoded, whole) := alphabet.decode (text.length + 1) text
        let status <- answer program ⟨decoded.toArray⟩
        if whole then return status else complain program "invalid input"
      else answerText program (wrapped width (alphabet.encode bytes))

def encodingProgram (name : String) : Utility :=
  withOptions
    { letters := "diw:", words := [("decode", 'd'), ("ignore-garbage", 'i'), ("wrap", 'w')] }
    fun program call => match Alphabet.named.lookup name with
      | some alphabet => encodeWith alphabet program call
      | none => return failure

def encodingSigns : List (String × Char) :=
  [("base64", 'α'), ("base64url", 'β'), ("base32", 'γ'), ("base32hex", 'δ'), ("base16", 'ε'),
    ("base2msbf", 'ζ'), ("base2lsbf", 'η'), ("z85", 'θ')]

def basenc : Utility :=
  withOptions
    { letters := "diw:αβγδεζηθ",
      words := [("decode", 'd'), ("ignore-garbage", 'i'), ("wrap", 'w')] ++ encodingSigns }
    fun program call => do
      let sign? := call.lastOf (encodingSigns.map Prod.snd)
      let name? := sign?.bind fun sign => (encodingSigns.find? (·.2 == sign))
      match name?.bind (Alphabet.named.lookup ·.1) with
      | some alphabet => encodeWith alphabet program call
      | none => complainOfCall program "missing encoding type"

/-!
## Bytes as numbers

`od` says bytes as numbers or characters, so many on a line behind the place of the first one.  What
is said in several ways stands below each other in columns.  Lines that are the same as the one in
front are left out.
-/

inductive DumpKind where
  | names
  | chars
  | signed
  | unsigned
  | octal
  | hexadecimal
  | real

structure DumpForm where
  kind : DumpKind
  size : Nat
  shows : Bool := false

namespace DumpForm

def width (form : DumpForm) : Nat := match form.kind with
  | .names => 3
  | .chars => 3
  | .signed => if form.size = 1 then 4 else if form.size = 2 then 6 else if form.size = 4 then 11 else 20
  | .unsigned => if form.size = 1 then 3 else if form.size = 2 then 5 else if form.size = 4 then 10 else 20
  | .octal => (8 * form.size + 2) / 3
  | .hexadecimal => 2 * form.size
  | .real => if form.size = 4 then 15 else 24

def charNames : Array String :=
  #["nul", "soh", "stx", "etx", "eot", "enq", "ack", "bel", "bs", "ht", "nl", "vt", "ff", "cr",
    "so", "si", "dle", "dc1", "dc2", "dc3", "dc4", "nak", "syn", "etb", "can", "em", "sub", "esc",
    "fs", "gs", "rs", "us", "sp"]

def nameOf (byte : Nat) : String :=
  let code := byte % 128
  if code = 127 then "del" else charNames.getD code (.singleton (Char.ofNat code))

def charOf (byte : Nat) : String := match Char.ofNat byte with
  | '\x00' => "\\0"
  | '\x07' => "\\a"
  | '\x08' => "\\b"
  | '\x0c' => "\\f"
  | '\n' => "\\n"
  | '\r' => "\\r"
  | '\t' => "\\t"
  | '\x0b' => "\\v"
  | c => if isVisible c then .singleton c else .ofList (octalTriple byte)

def realText (size bits : Nat) : String :=
  let form : BinaryForm := if size = 4 then .short else .long
  let signed (negative : Bool) (text : Chars) : String :=
    .ofList (if negative then '-' :: text else text)
  match form.read bits with
  | .undefined => "nan"
  | .infinite negative => signed negative "inf".toList
  | .finite negative value =>
    let digits := (value.shortest form).1.length
    let isTiny := value.less ((Fraction.ofNat 1).scale 2 (form.leastUnit + form.places))
    let least := if isTiny then 1 else if size = 4 then 6 else 15
    signed negative (value.general (max digits least) false)

def written (form : DumpForm) (value : Nat) : String := match form.kind with
  | .names => nameOf value
  | .chars => charOf value
  | .signed =>
    let bound := Nat.pow 256 form.size
    let value : Int := if bound <= 2 * value then (value : Int) - bound else value
    .ofList (signedDecimal value)
  | .unsigned => numberText value
  | .octal => .ofList (withZeros form.width (Nat.toDigits 8 value))
  | .hexadecimal => .ofList (withZeros form.width (Nat.toDigits 16 value))
  | .real => realText form.size value

def valueOf (big : Bool) (bytes : List UInt8) : Nat :=
  (if big then bytes else bytes.reverse).foldl (fun value byte => value * 256 + byte.toNat) 0

def values (form : DumpForm) (big : Bool) (bytes : ByteArray) : List Nat :=
  (List.range ((bytes.size + form.size - 1) / form.size)).map fun index =>
    let own := (bytes.extract (index * form.size) ((index + 1) * form.size)).data.toList
    valueOf big (own ++ List.replicate (form.size - own.length) 0)

end DumpForm

structure DumpRequest where
  forms : List DumpForm
  base : Option (Nat × Nat)
  lineBytes : Nat
  big : Bool := false
  repeats : Bool := false

namespace DumpRequest

variable (request : DumpRequest)

def fields (form : DumpForm) : Nat := request.lineBytes / form.size

def lineWidth : Nat :=
  (request.forms.map fun form => (form.width + 1) * request.fields form).foldl max 0

def placeText (place : Nat) : String := match request.base with
  | none => ""
  | some (base, width) => .ofList (withZeros width (Nat.toDigits base place))

def formLine (form : DumpForm) (bytes : ByteArray) : String :=
  let fields := request.fields form
  let pad := request.lineWidth - form.width * fields
  let values := form.values request.big bytes
  let said := values.zipIdx.map fun (value, index) =>
    let left := fields - index
    let room := pad * left / fields - pad * (left - 1) / fields
    let text := form.written value
    .ofList (List.replicate (form.width + room - text.length) ' ') ++ text
  let blank := fields - values.length
  let behind :=
    if form.shows then
      let gap := form.width * blank + pad * blank / fields
      let shown := (octetsOf bytes).map fun c => if isVisible c then c else '.'
      .ofList (List.replicate gap ' ') ++ "  >" ++ .ofList shown ++ "<"
    else ""
  .join said ++ behind

def rowLines (place : Nat) (bytes : ByteArray) : List String :=
  let front := request.placeText place
  let blank := .ofList (List.replicate front.length ' ')
  request.forms.zipIdx.map fun (form, index) =>
    (if index = 0 then front else blank) ++ request.formLine form bytes

def lines (start : Nat) (bytes : ByteArray) : List String :=
  let size := request.lineBytes
  let rows := (List.range ((bytes.size + size - 1) / size)).map fun index =>
    (start + index * size, bytes.extract (index * size) ((index + 1) * size))
  let step (state : List (List String) × Option ByteArray × Bool) (row : Nat × ByteArray) :
      List (List String) × Option ByteArray × Bool :=
    let (said, before, starred) := state
    let isSame := !request.repeats && row.2.size = size && before.any (·.data == row.2.data)
    if isSame then ((if starred then said else ["*"] :: said), before, true)
    else (request.rowLines row.1 row.2 :: said, some row.2, false)
  let (said, _, _) := rows.foldl step ([], none, false)
  said.reverse.flatten ++
    (if request.base.isSome then [request.placeText (start + bytes.size)] else [])

end DumpRequest

def dumpForms (text : String) : Nat -> Chars -> Except String (List DumpForm)
  | 0, _ => .ok []
  | _, [] => .ok []
  | limit + 1, letter :: rest => do
    let size (usual : Nat) (letters : List (Char × Nat)) (known : List Nat) (what : String) :
        Except String (Nat × Chars) :=
      match rest with
      | c :: behind => match letters.lookup c with
        | some size => .ok (size, behind)
        | none =>
          let digits := rest.takeWhile isDigit
          if digits.isEmpty then .ok (usual, rest)
          else
            let size := valueOf digits
            if known.contains size then .ok (size, rest.drop digits.length)
            else
              let count := numberText size
              .error (s!"invalid type string {quoted text};\nthis system doesn't provide a " ++
                s!"{count}-byte {what} type")
      | [] => .ok (usual, [])
    let whole := size 4 [('C', 1), ('S', 2), ('I', 4), ('L', 8)] [1, 2, 4, 8] "integral"
    let (kind, size, behind) <- (match letter with
      | 'a' => .ok (.names, 1, rest)
      | 'c' => .ok (.chars, 1, rest)
      | 'd' => whole.map fun found => (.signed, found)
      | 'u' => whole.map fun found => (.unsigned, found)
      | 'o' => whole.map fun found => (.octal, found)
      | 'x' => whole.map fun found => (.hexadecimal, found)
      | 'f' =>
        (size 8 [('F', 4), ('D', 8), ('L', 8)] [4, 8] "floating-point").map
          fun found => (.real, found)
      | letter =>
        .error s!"invalid character '{String.singleton letter}' in type string {quoted text}")
    let (shows, behind) : Bool × Chars := match behind with
      | 'z' :: behind => (true, behind)
      | behind => (false, behind)
    return ⟨kind, size, shows⟩ :: (<- dumpForms text limit behind)

def byteCount? (text : String) : Option Nat :=
  let scaled (value : Nat) (suffix : Chars) : Option Nat := match suffix with
    | ['b'] => some (value * 512)
    | ['k'] => some (value * 1024)
    | ['m'] => some (value * 1048576)
    | _ => (sizeFactorOf suffix).map (value * ·)
  match text.toList with
  | '0' :: x :: rest =>
    if x = 'x' || x = 'X' then
      let digits := rest.takeWhile isHexDigit
      if digits.isEmpty then none else scaled (valueInBase 16 digits) (rest.drop digits.length)
    else
      let digits := (x :: rest).takeWhile isOctalDigit
      scaled (valueInBase 8 digits) ((x :: rest).drop digits.length)
  | all =>
    let digits := all.takeWhile isDigit
    if digits.isEmpty then none else scaled (valueOf digits) (all.drop digits.length)
where
  sizeFactorOf : Chars -> Option Nat
    | [] => some 1
    | ['K'] => some 1024
    | ['M'] => some 1048576
    | ['G'] => some 1073741824
    | ['k', 'B'] => some 1000
    | ['K', 'B'] => some 1000
    | ['M', 'B'] => some 1000000
    | ['K', 'i', 'B'] => some 1024
    | ['M', 'i', 'B'] => some 1048576
    | _ => none

def dumpOptions : OptionTable where
  letters := "A:abcdefFhHiIj:lLN:oOsS:t:vw::xXα:βγ::"
  words := [("skip-bytes", 'j'), ("address-radix", 'A'), ("read-bytes", 'N'), ("format", 't'),
    ("output-duplicates", 'v'), ("strings", 'γ'), ("traditional", 'β'), ("width", 'w'),
    ("endian", 'α')]

def dumpLetter? (letter : Char) : Option String :=
  [('a', "a"), ('b', "o1"), ('c', "c"), ('d', "u2"), ('e', "f8"), ('f', "f4"), ('F', "f8"),
    ('h', "x2"), ('H', "x4"), ('i', "d4"), ('I', "d8"), ('l', "d8"), ('L', "d8"), ('o', "o2"),
    ('O', "o4"), ('s', "d2"), ('x', "x2"), ('X', "x4")].lookup letter

def oldPlace? (text : String) : Option Nat :=
  let digits := if text.startsWith "+" then (text.drop 1).toString else text
  let body := digits.toList
  match body.head? with
  | none => none
  | some first =>
    if !(text.startsWith "+" || isDigit first) then none
    else if body.all isOctalDigit then some (valueInBase 8 body)
    else if body.getLast? == some '.' && body.dropLast.all isDigit then some (valueOf body.dropLast)
    else none

def readAllOperands (program : String) (names : List String) : Act (ByteArray × Nat) :=
  (operandsOrInput names).foldlM
    (fun (all, worst) name => do
      match <- readOperand name with
      | .ok bytes => return (all ++ bytes, worst)
      | .error fault => return (all, max worst (<- complain program s!"{quotedIfNeeded name}: {fault}")))
    (.empty, success)

def stringLines (request : DumpRequest) (least start : Nat) (bytes : ByteArray) : List String :=
  let step (state : List String × Chars × Nat) (c : Char) : List String × Chars × Nat :=
    let (said, current, place) := state
    if isVisible c then (said, c :: current, place + 1)
    else
      let first := place - current.length
      let text := .ofList current.reverse
      let isString := c = Char.ofNat 0 && least <= current.length
      let front := if request.base.isSome then request.placeText first ++ " " else ""
      (if isString then (front ++ text) :: said else said, [], place + 1)
  ((octetsOf bytes).foldl step ([], [], start)).1.reverse

def od : Utility :=
  withOptions dumpOptions fun program call => do
    let types : Except String (List DumpForm) :=
      call.options.foldlM
        (fun forms option => do
          if option.1 = 't' then
            let text := option.2
            return forms ++ (<- dumpForms text (text.length + 1) text.toList)
          else match dumpLetter? option.1 with
            | some text => return forms ++ (<- dumpForms text 3 text.toList)
            | none => return forms)
        []
    let count (letter : Char) : Except String (Option Nat) := match call.argument? letter with
      | none => .ok none
      | some text => match byteCount? text with
        | some value => .ok (some value)
        | none => .error s!"invalid -{String.singleton letter} argument {quoted text}"
    let base : Except String (Option (Nat × Nat)) := match call.argument? 'A' with
      | none => .ok (some (8, 7))
      | some text => match text.toList.head? with
        | some 'o' => .ok (some (8, 7))
        | some 'd' => .ok (some (10, 7))
        | some 'x' => .ok (some (16, 6))
        | some 'n' => .ok none
        | _ =>
          .error (s!"invalid output address radix {quoted text}; it must be one character " ++
            "from [doxn]")
    match types, base, count 'j', count 'N' with
    | .error fault, _, _, _ => complain program fault
    | _, .error fault, _, _ => complain program fault
    | _, _, .error fault, _ => complain program fault
    | _, _, _, .error fault => complain program fault
    | .ok forms, .ok base, .ok skip, .ok most => do
      let isOld := call.options.isEmpty || call.has 'β'
      let (names, skip) : List String × Option Nat := match call.operands with
        | [only] =>
          if isOld && only.startsWith "+" && (oldPlace? only).isSome then ([], oldPlace? only)
          else ([only], skip)
        | [name, place] =>
          if isOld && (oldPlace? place).isSome then ([name], oldPlace? place)
          else ([name, place], skip)
        | names => (names, skip)
      let forms := if forms.isEmpty then [⟨.octal, 2, false⟩] else forms
      let unit := (forms.map DumpForm.size).foldl Nat.lcm 1
      let width : Nat × Option String <-
        match call.argument? 'w' with
        | none => pure (if unit <= 16 then 16 / unit * unit else unit, none)
        | some text =>
          let value := if text.isEmpty then 32 else (byteCount? text).getD 0
          if value ≠ 0 && value % unit = 0 then pure (value, none)
          else
            pure (unit, some s!"warning: invalid width {numberText value}; using {numberText unit} instead")
      if let some warning := width.2 then discard <| complain program warning
      let (bytes, status) <- readAllOperands program names
      let start := skip.getD 0
      if bytes.size < start then complain program "cannot skip past end of combined input"
      else
        let last := (most.map (start + ·)).getD bytes.size
        let bytes := bytes.extract start last
        let request : DumpRequest :=
          { forms, base, lineBytes := width.1, big := (call.argument? 'α').any (·.startsWith "b"),
            repeats := call.has 'v' }
        if call.has 'S' || call.has 'γ' then
          let text := ((call.argument? 'S').orElse fun _ => call.argument? 'γ').getD ""
          let least := if text.isEmpty then 3 else (byteCount? text).getD 3
          return max status (<- answerLines program (stringLines request least start bytes))
        else
          let all := bytes.size = 0 && names.all (· != "-") && status ≠ success
          if all then return status
          else return max status (<- answerLines program (request.lines start bytes))

end BaseLanguage.Shell
