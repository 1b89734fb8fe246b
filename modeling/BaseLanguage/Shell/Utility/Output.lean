import BaseLanguage.Shell.Quotation
import BaseLanguage.Shell.Stream
import BaseLanguage.Text.Binary

namespace BaseLanguage.Shell

open Text

/-!
# Programs that say something

`echo` says its arguments, `printf` fits its arguments into a format as often as it takes to use
them up.  The shells have their own, which differ from the programs in what escapes they know and in
how they complain.
-/

/-- The `echo` of the plain shell: escapes count, and a first argument `-n` leaves out the end of
the line.  -/
def echoWithEscapes : Utility
  | program, arguments => do
    let (ends, arguments) := match arguments with
      | "-n" :: rest => (false, rest)
      | _ => (true, arguments)
    let (octets, goesOn) := unescape .plainShell (" ".intercalate arguments).toList
    let said := if ends && goesOn then octets ++ ['\n'] else octets
    if <- putOctets standardOutput said then return success else complain program "echo: I/O error"

def isEchoOption (argument : String) : Bool := match argument.toList with
  | '-' :: letters => !letters.isEmpty && letters.all (fun c => c = 'n' || c = 'e' || c = 'E')
  | _ => false

variable (speaker : Speaker)

def echoPlain : Utility
  | program, arguments => do
    let letters := (arguments.takeWhile isEchoOption).flatMap String.toList
    let text := (" ".intercalate (arguments.dropWhile isEchoOption)).toList
    let escapes := (letters.filter (fun c => c = 'e' || c = 'E')).getLast? == some 'e'
    let (octets, goesOn) := if escapes then unescape speaker text else (text, true)
    let ends := !letters.contains 'n' && goesOn
    answerText program (if ends then octets ++ ['\n'] else octets)

inductive FormatSize where
  | number (value : Nat)
  | argument

structure Directive where
  flags : Chars
  width : FormatSize
  precision : Option FormatSize
  letter : Char
  form : String := ""

inductive FormatPiece where
  | octet (value : Char)
  | place (directive : Directive)
  | stop
  | invalid (text : Chars)
  | unfinished (text : Chars)

def isFlag (c : Char) : Bool := c = '#' || c = '-' || c = '+' || c = ' ' || c = '0'

def knownLetters : Chars :=
  ['s', 'b', 'c', 'd', 'i', 'u', 'o', 'x', 'X', 'e', 'E', 'f', 'F', 'g', 'G', 'a', 'A'] ++
    (if speaker = .plainShell then [] else ['q'])

def sizeAt (text : Chars) : FormatSize × Chars := match text with
  | '*' :: rest => (.argument, rest)
  | _ => (.number (valueOf (text.takeWhile isDigit)), text.dropWhile isDigit)

def placeAt (text : Chars) : FormatPiece × Chars :=
  let flags := text.takeWhile isFlag
  let (width, behindWidth) := sizeAt (text.dropWhile isFlag)
  let (precision, behind) := match behindWidth with
    | '.' :: rest =>
      let (size, rest) := sizeAt rest
      (some size, rest)
    | _ => (none, behindWidth)
  let behind :=
    if speaker = .plainShell then behind
    else behind.dropWhile (['h', 'l', 'L', 'j', 't', 'z'].contains ·)
  let front (rest : Chars) : Chars := '%' :: text.take (text.length - rest.length)
  match behind with
  | [] => (.unfinished (front []), [])
  | '(' :: inside =>
    let form := inside.takeWhile (· != ')')
    match speaker, inside.drop form.length with
    | .extendedShell, ')' :: 'T' :: rest =>
      (.place ⟨flags, width, precision, 'T', .ofList form⟩, rest)
    | _, _ => (.invalid (front inside), [])
  | letter :: rest =>
    if (knownLetters speaker).contains letter then
      (.place { flags, width, precision, letter }, rest)
    else (.invalid (front rest), [])

def formatEscape (text : Chars) : List FormatPiece × Chars :=
  match text with
  | 'c' :: rest => if speaker = .program then ([.stop], []) else ([.octet '\\', .octet 'c'], rest)
  | '"' :: rest => (if speaker = .plainShell then [.octet '\\', .octet '"'] else [.octet '"'], rest)
  | '\'' :: rest =>
    (if speaker = .extendedShell then [.octet '\''] else [.octet '\\', .octet '\''], rest)
  | _ =>
    let (octets, rest) := escape speaker text
    (octets.map .octet, rest)

def formatPieces (speaker : Speaker) : Nat -> Chars -> List FormatPiece
  | 0, _ => []
  | _, [] => []
  | limit + 1, '\\' :: rest =>
    let (pieces, rest) := formatEscape speaker rest
    pieces ++ formatPieces speaker limit rest
  | limit + 1, '%' :: '%' :: rest => .octet '%' :: formatPieces speaker limit rest
  | limit + 1, '%' :: rest =>
    let (piece, rest) := placeAt speaker rest
    piece :: formatPieces speaker limit rest
  | limit + 1, c :: rest => .octet c :: formatPieces speaker limit rest

structure Formatting where
  said : Chars := []
  arguments : List String
  now : Timestamp := ⟨0, 0⟩
  faults : List String := []
  ended : Bool := false
  broken : Option String := none

def numberFault (argument : String) (isStart : Bool) : String :=
  match speaker, isStart with
  | .plainShell, true => s!"{argument}: expected numeric value"
  | .plainShell, false => s!"{argument}: not completely converted"
  | .extendedShell, _ => s!"{argument}: invalid number"
  | .program, true => s!"'{argument}': expected a numeric value"
  | .program, false => s!"'{argument}': value not completely converted"

def rangeFault (argument : String) : String := match speaker with
  | .plainShell => s!"{argument}: Numerical result out of range"
  | .extendedShell => s!"warning: {argument}: Numerical result out of range"
  | .program => s!"'{argument}': Numerical result out of range"

def signOf (text : Chars) : Bool × Chars := match text with
  | '-' :: rest => (true, rest)
  | '+' :: rest => (false, rest)
  | _ => (false, text)

def digitsOf (text : Chars) : Nat × Chars × Chars := match text with
  | '0' :: x :: rest =>
    let digits := rest.takeWhile isHexDigit
    if (x = 'x' || x = 'X') && !digits.isEmpty then (16, digits, rest.drop digits.length)
    else (8, text.takeWhile isOctalDigit, text.dropWhile isOctalDigit)
  | _ => (10, text.takeWhile isDigit, text.dropWhile isDigit)

def quotedCode? (argument : String) : Option Nat := match argument.toList with
  | [quote] => if quote = '\'' || quote = '"' then some 0 else none
  | quote :: c :: _ => if quote = '\'' || quote = '"' then some c.toNat else none
  | [] => none

def integerOf (isSigned : Bool) (argument : String) : Int × List String :=
  match quotedCode? argument with
  | some code => (code, [])
  | none =>
    let text := argument.toList.dropWhile isSpace
    let (negative, unsigned) := signOf text
    let (base, digits, rest) := digitsOf unsigned
    let size : Int := valueInBase base digits
    let value := if negative then -size else size
    let least : Int := if isSigned then longLeast else -(wordBound : Int)
    let limit : Int := if isSigned then longBound else wordBound
    let bounded := max least (min value (limit - 1))
    let faults :=
      if argument.isEmpty then []
      else if digits.isEmpty then [numberFault speaker argument true]
      else if value ≠ bounded then [rangeFault speaker argument]
      else if !rest.isEmpty then [numberFault speaker argument false]
      else []
    (bounded, faults)

def realOf (argument : String) : Text.Real × List String :=
  let places := if speaker = .plainShell then 53 else 64
  match quotedCode? argument with
  | some code => (.finite false (.ofNat code), [])
  | none =>
    let text := argument.toList.dropWhile isSpace
    let (negative, unsigned) := signOf text
    let lower := .ofList (unsigned.map Char.toLower)
    if lower = "inf" || lower = "infinity" then (.infinite negative, [])
    else if lower = "nan" then (.undefined, [])
    else match unsigned with
      | '0' :: x :: rest =>
        if x = 'x' || x = 'X' then
          match hexadecimalFraction? rest with
          | some found => kept places negative found
          | none => decimal places negative unsigned
        else decimal places negative unsigned
      | _ => decimal places negative unsigned
where
  decimal (places : Nat) (negative : Bool) (unsigned : Chars) : Text.Real × List String :=
    match fraction? unsigned with
    | none =>
      (.finite false (.ofNat 0),
        if argument.isEmpty then [] else [numberFault speaker argument true])
    | some found => kept places negative found
  kept (places : Nat) (negative : Bool) (found : Fraction × Chars) : Text.Real × List String :=
    let top := if places = 53 then 1024 else 16384
    let size := found.1.toBinary places
    if size.numerator ≠ 0 && top <= size.magnitude 2 then
      (.infinite negative, [rangeFault speaker argument])
    else
      (.finite negative size, if found.2.isEmpty then [] else [numberFault speaker argument false])

def fillTo (flags : Chars) (width : Nat) (octets : Chars) : Chars :=
  let missing := width - octets.length
  if flags.contains '-' then octets ++ List.replicate missing ' '
  else List.replicate missing ' ' ++ octets

def digitsFor (letter : Char) (value : Nat) : Chars := match letter with
  | 'o' => Nat.toDigits 8 value
  | 'x' => Nat.toDigits 16 value
  | 'X' => (Nat.toDigits 16 value).map Char.toUpper
  | _ => decimal value

def fillNumber (flags : Chars) (width : Nat) (zeros : Bool) (sign digits : Chars) : Chars :=
  if zeros && flags.contains '0' && !flags.contains '-' then
    sign ++ List.replicate (width - sign.length - digits.length) '0' ++ digits
  else fillTo flags width (sign ++ digits)

def signText (flags : Chars) (negative : Bool) : Chars :=
  if negative then ['-']
  else if flags.contains '+' then ['+']
  else if flags.contains ' ' then [' ']
  else []

def integerAt (flags : Chars) (width : Nat) (precision : Option Nat) (letter : Char)
    (value : Int) : Chars :=
  let isSigned := letter = 'd' || letter = 'i'
  let size := if isSigned then value.natAbs else (value % (wordBound : Int)).toNat
  let digits := if size = 0 && precision == some 0 then [] else digitsFor letter size
  let digits := withZeros (precision.getD 0) digits
  let alternate := flags.contains '#' && size ≠ 0
  let digits :=
    if alternate && letter = 'o' && digits.head? ≠ some '0' then '0' :: digits else digits
  let sign :=
    if isSigned then signText flags (value < 0)
    else if alternate && letter = 'x' then ['0', 'x']
    else if alternate && letter = 'X' then ['0', 'X']
    else []
  fillNumber flags width precision.isNone sign digits

def realAt (flags : Chars) (width : Nat) (precision : Option Nat)
    (letter : Char) (value : Text.Real) : Chars :=
  let capital := letter.isUpper
  let cased (text : Chars) : Chars := if capital then text.map Char.toUpper else text
  match value with
  | .infinite negative => fillTo flags width (signText flags negative ++ cased ['i', 'n', 'f'])
  | .undefined => fillTo flags width (signText flags false ++ cased ['n', 'a', 'n'])
  | .finite negative size =>
    let places := precision.getD 6
    let point := flags.contains '#'
    let digits := match letter.toLower with
      | 'e' => size.scientific places point
      | 'g' => size.general places point
      | 'a' =>
        if speaker = Speaker.plainShell then
          (BinaryForm.long.nearest size).hexadecimal 1 (-1022) precision point
        else size.hexadecimal 4 (-16385) precision point
      | _ => size.fixed places point
    let isMarked := letter.toLower = 'a'
    let mark := if isMarked then digits.take 2 else []
    fillNumber flags width true (signText flags negative ++ cased mark)
      (cased (digits.drop mark.length))

/-- A text with a backslash in front of each character that means something to a shell; some mean
something at the front of a word, or behind a colon or an equals sign. -/
def withBackslashes (before : Option Char) : Chars -> Chars
  | [] => []
  | c :: rest =>
    let isStart := before.isNone
    let isBehind := before == some ':' || before == some '='
    let isSpecial := isShellSign c || c = ',' || (c = '#' && isStart) ||
      (c = '~' && (isStart || isBehind))
    (if isSpecial then ['\\', c] else [c]) ++ withBackslashes (some c) rest

def quoteWord (text : Chars) : Chars :=
  if speaker = .program then (quotedIfNeeded (.ofList text)).toList
  else if text.isEmpty then ['\'', '\'']
  else if text.any isHidden then (quoteWithEscapes (.ofList text)).toList
  else withBackslashes none text

def Formatting.size (state : Formatting) (speaker : Speaker) (size : FormatSize) :
    Int × Formatting :=
  match size with
  | .number value => (value, state)
  | .argument =>
    let (value, faults) := integerOf speaker true (state.arguments.headD "")
    (value, { state with
      arguments := state.arguments.tail
      faults := state.faults ++ faults })

def Formatting.say (state : Formatting) (octets : Chars) : Formatting :=
  { state with said := octets.reverse ++ state.said }

def Formatting.fill (state : Formatting) (directive : Directive) : Formatting :=
  let (width, state) := state.size speaker directive.width
  let (precision, state) : Option Int × Formatting := match directive.precision with
    | none => (none, state)
    | some size =>
      let (value, state) := state.size speaker size
      (some value, state)
  let flags := if width < 0 then '-' :: directive.flags else directive.flags
  let width := width.natAbs
  let precision : Option Nat :=
    precision.bind (fun value => if value < 0 then none else some value.toNat)
  let argument := state.arguments.headD ""
  let state := { state with arguments := state.arguments.tail }
  let cut (octets : Chars) : Chars := octets.take (precision.getD octets.length)
  match directive.letter with
  | 's' => state.say (fillTo flags width (cut argument.toList))
  | 'q' => state.say (fillTo flags width (quoteWord speaker argument.toList))
  | 'T' =>
    let (seconds, faults) := integerOf speaker true argument
    let time := if argument.isEmpty || seconds < 0 then state.now else ⟨seconds, 0⟩
    let form := if directive.form.isEmpty then "%H:%M:%S" else directive.form
    { state.say (fillTo flags width (cut (dateText form time).toList)) with
      faults := state.faults ++ faults }
  | 'b' =>
    let (octets, goesOn) := unescape speaker argument.toList
    { state.say (fillTo flags width (cut octets)) with ended := !goesOn }
  | 'c' =>
    let octets := match argument.toList.head?, speaker with
      | some c, _ => [c]
      | none, .plainShell => [Char.ofNat 0]
      | none, _ => []
    state.say (fillTo flags width octets)
  | letter =>
    if letter = 'd' || letter = 'i' || letter = 'u' || letter = 'o' || letter = 'x' ||
        letter = 'X' then
      let isSigned := letter = 'd' || letter = 'i'
      let (value, faults) := integerOf speaker isSigned argument
      { state.say (integerAt flags width precision letter value) with
        faults := state.faults ++ faults }
    else
      let (value, faults) := realOf speaker argument
      { state.say (realAt speaker flags width precision letter value) with
        faults := state.faults ++ faults }

def Formatting.take (state : Formatting) (piece : FormatPiece) : Formatting :=
  if state.ended || state.broken.isSome then state
  else match piece with
    | .octet value => state.say [value]
    | .stop => { state with ended := true }
    | .place directive => state.fill speaker directive
    | .invalid text =>
      let shown := String.ofList text
      let letter := String.ofList (text.getLast?.toList)
      { state with
        broken := some
          (match speaker with
          | .plainShell => s!"{shown}: invalid directive"
          | .extendedShell => s!"\x60{letter}': invalid format character"
          | .program => s!"{shown}: invalid conversion specification") }
    | .unfinished text =>
      let shown := String.ofList text
      { state with
        broken := some
          (match speaker with
          | .plainShell => "missing format character"
          | .extendedShell => s!"\x60{shown}': missing format character"
          | .program => s!"{shown}: invalid conversion specification") }

def formatWith (speaker : Speaker) (pieces : List FormatPiece) : Nat -> Formatting -> Formatting
  | 0, state => state
  | limit + 1, state =>
    let next := pieces.foldl (.take speaker) state
    if next.ended || next.broken.isSome || next.arguments.isEmpty ||
        next.arguments.length == state.arguments.length then next
    else formatWith speaker pieces limit next

def format (now : Timestamp) (text : String) (values : List String) : Formatting :=
  let pieces := formatPieces speaker (text.length + 1) text.toList
  formatWith speaker pieces (values.length + 1) { arguments := values, now }

def formatStatus (program : String) (result : Formatting) (status : Nat) : Act Nat := do
  result.faults.forM (fun fault => discard (complain program fault))
  match result.broken with
  | some fault =>
    discard <| complain program fault
    return if speaker = .plainShell then misuse else failure
  | none => match speaker, result.ended, result.arguments with
    | .program, false, excess :: _ =>
      discard <| complain program s!"warning: ignoring excess arguments, starting with '{excess}'"
      return if result.faults.isEmpty then status else failure
    | _, _, _ => return if result.faults.isEmpty then status else failure

def printf (speaker : Speaker) : Utility
  | program, arguments => do
    let operands := match arguments with
      | "--" :: rest => rest
      | _ => arguments
    match speaker, operands, arguments.head? with
    | .plainShell, _, some first => match first.toList with
      | '-' :: c :: _ =>
        if first ≠ "--" then
          return <- complainWith misuse program s!"Illegal option -{String.singleton c}"
      | _ => pure ()
    | _, _, _ => pure ()
    match operands with
    | [] => match speaker with
      | .plainShell => complainWith misuse program "usage: printf format [arg ...]"
      | .extendedShell => complainWith misuse "printf" "usage: printf [-v var] format [arguments]"
      | .program =>
        complain program s!"missing operand\nTry '{program} --help' for more information."
    | text :: values =>
      let result := format speaker (<- get).files.clock text values
      formatStatus speaker program result (<- answerText program result.said.reverse)

end BaseLanguage.Shell
