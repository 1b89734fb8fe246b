import BaseLanguage.Shell.Utility.Output
import BaseLanguage.Shell.Utility.Running

namespace BaseLanguage.Shell

open Text

/-!
# Sequences of numbers

`seq` says numbers from a first to a last one with equal steps.  Numbers are decimal, and computed
exactly; they are said with as many digits behind the point as the first one or the step has.
-/

structure Decimal where
  units : Int
  places : Nat

namespace Decimal

def read? (text : String) : Option Decimal := do
  let (negative, unsigned) : Bool × Chars := match text.toList with
    | '-' :: rest => (true, rest)
    | '+' :: rest => (false, rest)
    | rest => (false, rest)
  let lower := unsigned.map Char.toLower
  let signed (size : Int) : Int := if negative then -size else size
  if lower == "inf".toList || lower == "infinity".toList then
    return ⟨signed (Nat.pow 10 18 : Nat), 0⟩
  if ['0', 'x'].isPrefixOf lower && 2 < lower.length then
    let digits := lower.drop 2
    if digits.all isHexDigit then return ⟨signed (valueInBase 16 digits : Nat), 0⟩
  let mantissa := unsigned.takeWhile (fun c => c != 'e' && c != 'E')
  let exponent? : Option Int := match unsigned.drop mantissa.length with
    | [] => some 0
    | _ :: rest =>
      let (isBelow, digits) := signOf rest
      if digits.isEmpty || !digits.all isDigit then none
      else
        let size : Int := valueOf digits
        some (if isBelow then -size else size)
  let whole := mantissa.takeWhile isDigit
  let part? : Option Chars := match mantissa.drop whole.length with
    | [] => some []
    | '.' :: part => if part.all isDigit then some part else none
    | _ => none
  match part?, exponent? with
  | some part, some exponent =>
    if whole.isEmpty && part.isEmpty then none
    else
      let units := signed (valueOf (whole ++ part))
      let places : Int := part.length - exponent
      if places < 0 then some ⟨units * (Nat.pow 10 places.natAbs : Nat), 0⟩
      else some ⟨units, places.toNat⟩
  | _, _ => none

def unitsAt (number : Decimal) (places : Nat) : Int :=
  number.units * (Nat.pow 10 (places - number.places) : Nat)

def text (units : Int) (places width : Nat) : Chars :=
  let digits := decimal units.natAbs
  let digits := List.replicate (places + 1 - digits.length) '0' ++ digits
  let whole := digits.take (digits.length - places)
  let part := digits.drop (digits.length - places)
  let size := if part.isEmpty then whole else whole ++ '.' :: part
  let sign := if units < 0 then ['-'] else []
  sign ++ List.replicate (width - sign.length - size.length) '0' ++ size

end Decimal

def stepsFrom (last step : Int) : Nat -> Int -> List Int
  | 0, _ => []
  | limit + 1, current =>
    if (0 < step && last < current) || (step < 0 && current < last) then []
    else current :: stepsFrom last step limit (current + step)

def longestSequence : Nat := 1000000

def splitNumbers : List String -> List String × List String
  | [] => ([], [])
  | argument :: rest => match argument.toList with
    | '-' :: c :: _ =>
      if isDigit c || c = '.' then ([], argument :: rest)
      else if argument = "-s" || argument = "-f" then
        match rest with
        | value :: others =>
          let (options, numbers) := splitNumbers others
          (argument :: value :: options, numbers)
        | [] => ([argument], [])
      else if argument = "--" then ([], rest)
      else
        let (options, numbers) := splitNumbers rest
        (argument :: options, numbers)
    | _ => ([], argument :: rest)

def seqOptions : OptionTable where
  letters := "f:s:w"
  words := [("format", 'f'), ("separator", 's'), ("equal-width", 'w')]

def numberFormatFault? (format : String) : Option String :=
  let pieces := formatPieces .program (format.length + 1) format.toList
  let isPlace (piece : FormatPiece) : Bool := match piece with
    | .octet _ => false
    | _ => true
  match pieces.filter isPlace with
  | [] => some s!"format {plainlyQuoted format} has no % directive"
  | [.place directive] =>
    let letter := directive.letter
    if ['e', 'E', 'f', 'F', 'g', 'G', 'a', 'A'].contains letter then none
    else
      let shown := String.singleton letter
      some s!"format {plainlyQuoted format} has unknown %{shown} directive"
  | [.invalid text] =>
    let shown := String.ofList text.getLast?.toList
    some s!"format {plainlyQuoted format} has unknown %{shown} directive"
  | [.unfinished _] => some s!"format {plainlyQuoted format} ends in %"
  | _ => some s!"format {plainlyQuoted format} has too many % directives"

def sequence (program : String) (call : ProgramCall) (first step last : Decimal) : Act Nat := do
  let places := max first.places step.places
  let scale := max places last.places
  let values := stepsFrom (last.unitsAt scale) (step.unitsAt scale) longestSequence
    (first.unitsAt scale)
  let shorten (value : Int) : Int := value / (Nat.pow 10 (scale - places) : Nat)
  let plain := values.map (fun value => Decimal.text (shorten value) places 0)
  let width :=
    if call.has 'w' then
      let ends := [Decimal.text (first.unitsAt places) places 0,
        Decimal.text (shorten (last.unitsAt scale)) places 0]
      (ends ++ plain).foldl (fun width text => max width text.length) 0
    else 0
  let texts := match call.argument? 'f' with
    | some format =>
      plain.map fun text => (Shell.format .program ⟨0, 0⟩ format [.ofList text]).said.reverse
    | none => values.map (fun value => Decimal.text (shorten value) places width)
  let gap := ((call.argument? 's').getD "\n").toList
  match texts with
  | [] => return success
  | texts => answerText program (List.intercalate gap texts ++ ['\n'])

def seq : Utility := fun program arguments => do
  let (options, numbers) := splitNumbers arguments
  withOptions seqOptions
    (fun program call => do
      let operands := call.operands ++ numbers
      let values := operands.map (fun text => (text, Decimal.read? text))
      if let some fault := (call.argument? 'f').bind numberFormatFault? then
        return <- complain program fault
      match operands.drop 3, values.find? (·.2.isNone) with
      | extra :: _, _ => complainOfExtra program extra
      | [], some (text, _) =>
        let kind :=
          if ["nan", "-nan", "+nan"].contains text.toLower then "'not-a-number'"
          else "floating point"
        complainOfCall program s!"invalid {kind} argument: {plainlyQuoted text}"
      | [], none => match values.filterMap Prod.snd with
        | [last] => sequence program call ⟨1, 0⟩ ⟨1, 0⟩ last
        | [first, last] => sequence program call first ⟨1, 0⟩ last
        | [first, step, last] =>
          if step.units = 0 then
            let shown := plainlyQuoted (operands.getD 1 "")
            complainOfCall program s!"invalid Zero increment value: {shown}"
          else sequence program call first step last
        | _ => complainOfCall program "missing operand")
    program options

def factorsFrom : Nat -> Nat -> Nat -> List Nat
  | 0, _, value => [value]
  | limit + 1, divisor, value =>
    if value < 2 then []
    else if value < divisor * divisor then [value]
    else if value % divisor = 0 then divisor :: factorsFrom limit divisor (value / divisor)
    else factorsFrom limit (divisor + 1) value

def factor : Utility := fun program arguments => do
  let words <-
    if arguments.isEmpty then do
      let text := octetsOf ((<- takeAll standardInput).getD .empty)
      let spaced := text.map (fun c => if isSpace c then ' ' else c)
      pure (((pieces ' ' spaced).filter (!·.isEmpty)).map .ofList)
    else pure arguments
  allOf <| words.map fun word => do
    match digitsValue? word with
    | some value =>
      let factors := factorsFrom 100000 2 value
      let shown := factors.map (" " ++ numberText ·)
      answerLines program [s!"{numberText value}:{String.join shown}"]
    | none => complain program s!"{plainlyQuoted word} is not a valid positive integer"

/-!
## Programs for which time passes

`sleep` waits, `timeout` runs a program that ends by a signal if it takes too long, and `yes` says
something until nobody hears it.
-/

def second : Nat := 1000000000

def interval? (text : String) : Option Nat :=
  let letters := text.toList
  let unit? : Option Nat := match letters.getLast? with
    | some 's' => some 1
    | some 'm' => some 60
    | some 'h' => some 3600
    | some 'd' => some 86400
    | _ => none
  let number := if unit?.isSome then letters.dropLast else letters
  if ["inf", "infinity"].contains (.ofList (number.map Char.toLower)) then
    some (second * 1000000000)
  else match Decimal.read? (.ofList number) with
    | some ⟨units, places⟩ =>
      if units < 0 then none else some (units.toNat * (unit?.getD 1) * second / Nat.pow 10 places)
    | none => none

def sleep : Utility :=
  withOptions { letters := "" } fun program call => do
    if call.operands.isEmpty then complainOfCall program "missing operand"
    else
      let wrong := call.operands.filter (fun operand => (interval? operand).isNone)
      if !wrong.isEmpty then
        let lines := wrong.map fun text =>
          s!"{program}: invalid time interval {plainlyQuoted text}\n"
        discard <| putText standardError (.join lines)
        discard <| putText standardError (helpHint program ++ "\n")
        return failure
      else
        let total := (call.operands.filterMap interval?).foldl (· + ·) 0
        await (.moment ((<- get).time + total))
        return success

def affirmationBlock : Nat := 1024

def sayForever (program : String) (bytes : ByteArray) : Nat -> Act Nat
  | 0 => return success
  | limit + 1 => do
    let status <- answer program bytes
    if status ≠ success then return status
    else
      takeTurn
      sayForever program bytes limit

def yes : Utility := fun program arguments => do
  let arguments := match arguments with
    | "--" :: rest => rest
    | arguments => arguments
  match arguments.head? with
  | some option =>
    if option.startsWith "-" && option != "-" then
      let fault :=
        if option.startsWith "--" then s!"unrecognized option '{option}'"
        else s!"invalid option -- '{String.ofList ((option.toList.drop 1).take 1)}'"
      return <- complainOfCall program fault
  | none => pure ()
  let line := if arguments.isEmpty then "y" else " ".intercalate arguments
  let block := String.join (List.replicate affirmationBlock (line ++ "\n"))
  sayForever program (bytesOf block.toList) mostWaits

/-! ## Limits -/

def timeoutOptions : OptionTable where
  letters := "k:s:vpf"
  words := [("kill-after", 'k'), ("signal", 's'), ("verbose", 'v'), ("foreground", 'f'),
    ("preserve-status", 'p')]
  mixes := false
  status := 125

def namedSignal? (text : String) : Option String := match digitsValue? text with
  | some number => signalNames[number]?
  | none =>
    let name := String.ofList (text.toList.map Char.toUpper)
    let name := if name.startsWith "SIG" then String.ofList (name.toList.drop 3) else name
    if signalNames.contains name then some name else none

def endLate (program command : String) (call : ProgramCall) (target : Nat) (name : String) :
    Act Unit := do
  if call.has 'v' then
    discard <| complain program s!"sending signal {name} to command {quoted command}"
  send { target, name, family := !call.has 'f' }

def timeout : Program := fun services =>
  withOptions timeoutOptions fun program call => do
    let name := (call.argument? 's').getD "TERM"
    let unclear : Act Nat := do
      discard <| putText standardError (helpHint program ++ "\n")
      return 125
    let wrongTime (text : String) : Act Nat :=
      complainOfCall program s!"invalid time interval {plainlyQuoted text}" 125
    match call.operands, namedSignal? name with
    | [], _ => unclear
    | [_], _ => unclear
    | _, none => complainOfCall program s!"{quoted name}: invalid signal" 125
    | limit :: command :: arguments, some signal =>
      match interval? limit, (call.argument? 'k').map interval? with
      | none, _ => wrongTime limit
      | _, some none => wrongTime ((call.argument? 'k').getD "")
      | some limit, late? => match (<- get).lookUp (<- environmentFolders) command with
        | .error fault =>
          let (status, reason) := programFault fault
          complainWith status program s!"failed to run command {quoted command}: {reason}"
        | .ok path =>
          let child <- startProcess (services.start path command arguments)
          let start := (<- get).time
          await (.oneEnded [child] (if limit = 0 then none else some (start + limit)))
          match (<- get).statuses.lookup child with
          | some status => return status
          | none =>
            endLate program command call child signal
            if let some (some late) := late? then
              await (.oneEnded [child] (some (start + limit + late)))
              if ((<- get).statuses.lookup child).isNone then
                endLate program command call child "KILL"
            let status := (<- awaitAll [child]).headD success
            let raw := ((<- get).statuses.lookup child).getD success
            if raw = signalStatus "KILL" then return raw
            else return if call.has 'p' then status else 124

end BaseLanguage.Shell
