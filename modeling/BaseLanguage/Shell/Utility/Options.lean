import BaseLanguage.Shell.Redirection
import BaseLanguage.Storage.Archive

namespace BaseLanguage.Shell

/-!
# Options of programs

Options are letters behind a minus sign, or words behind two of them, which may be cut short as long
as one word is meant.  Some take an argument.  Where options may stand between operands, two minus
signs end them; elsewhere the first operand does.
-/

structure OptionTable where
  letters : String
  words : List (String × Char) := []
  mixes : Bool := true
  status : Nat := 1

inductive OptionNeed where
  | nothing
  | optional
  | argument
  deriving DecidableEq

structure ProgramCall where
  options : List (Char × String) := []
  operands : List String := []

namespace ProgramCall

variable (call : ProgramCall)

def has (letter : Char) : Bool := call.options.any (·.1 == letter)

def argument? (letter : Char) : Option String := call.options.reverse.lookup letter

def allArguments (letter : Char) : List String := (call.options.filter (·.1 == letter)).map Prod.snd

def lastOf (letters : Chars) : Option Char :=
  ((call.options.map Prod.fst).filter letters.contains).getLast?

def add (letter : Char) (argument : String := "") : ProgramCall :=
  { call with options := (letter, argument) :: call.options }

end ProgramCall

namespace OptionTable

def need? (letter : Char) : Chars -> Option OptionNeed
  | [] => none
  | c :: ':' :: ':' :: rest => if c = letter then some .optional else need? letter rest
  | c :: ':' :: rest => if c = letter then some .argument else need? letter rest
  | c :: rest => if c = letter then some .nothing else need? letter rest

def readLetters (table : OptionTable) (next : Option String) :
    ProgramCall -> Chars -> Except String (ProgramCall × Bool)
  | call, [] => .ok (call, false)
  | call, letter :: rest =>
    let shown := String.singleton letter
    match need? letter table.letters.toList with
    | none => .error s!"invalid option -- '{shown}'"
    | some .nothing => readLetters table next (call.add letter) rest
    | some .optional => .ok (call.add letter (.ofList rest), false)
    | some .argument =>
      if !rest.isEmpty then .ok (call.add letter (.ofList rest), false)
      else match next with
        | some argument => .ok (call.add letter argument, true)
        | none => .error s!"option requires an argument -- '{shown}'"

variable (table : OptionTable)

def word? (text : String) : Except String (String × Char) :=
  match table.words.find? (·.1 == text) with
  | some word => .ok word
  | none => match table.words.filter (·.1.startsWith text) with
    | [] => .error s!"unrecognized option '--{text}'"
    | first :: others =>
      if others.all (·.2 == first.2) then .ok first
      else
        let shown := (first :: others).map (fun word => s!" '--{word.1}'")
        .error s!"option '--{text}' is ambiguous; possibilities:{String.join shown}"

def readWord (next : Option String) (call : ProgramCall)
    (text : Chars) : Except String (ProgramCall × Bool) := do
  let name := text.takeWhile (· != '=')
  let value : Option String := match text.drop name.length with
    | _ :: value => some (.ofList value)
    | [] => none
  let (word, letter) <-
    match table.word? (.ofList name) with
    | .ok found => pure found
    | .error fault =>
      if value.isSome && fault.startsWith "unrecognized" then
        throw s!"unrecognized option '--{String.ofList text}'"
      else throw fault
  match need? letter table.letters.toList, value with
  | some .argument, some value => return (call.add letter value, false)
  | some .argument, none => match next with
    | some argument => return (call.add letter argument, true)
    | none => throw s!"option '--{word}' requires an argument"
  | some .optional, value => return (call.add letter (value.getD ""), false)
  | _, some _ => throw s!"option '--{word}' doesn't allow an argument"
  | _, none => return (call.add letter, false)

def readFrom (table : OptionTable) : ProgramCall -> List String -> Except String ProgramCall
  | call, [] => .ok call
  | call, argument :: rest => do
    let operands (all : List String) : ProgramCall :=
      { call with operands := all.reverse ++ call.operands }
    let goOn (found : ProgramCall × Bool) : Except String ProgramCall := match found.2, rest with
      | true, _ :: rest => readFrom table found.1 rest
      | _, rest => readFrom table found.1 rest
    match argument.toList with
    | ['-', '-'] => return operands rest
    | '-' :: '-' :: text => goOn (<- table.readWord rest.head? call text)
    | '-' :: letter :: letters => goOn (<- table.readLetters rest.head? call (letter :: letters))
    | _ =>
      if table.mixes then readFrom table { call with operands := argument :: call.operands } rest
      else return operands (argument :: rest)

def read (arguments : List String) : Except String ProgramCall :=
  (table.readFrom {} arguments).map fun call =>
    { options := call.options.reverse, operands := call.operands.reverse }

end OptionTable

def helpHint (program : String) : String := s!"Try '{program} --help' for more information."

def complainOfCall (program message : String) (status : Nat := 1) : Act Nat :=
  complainWith status program s!"{message}\n{helpHint program}"

def withOptions (table : OptionTable) (work : String -> ProgramCall -> Act Nat) : Utility :=
  fun program arguments => do
    match table.read arguments with
    | .error message => complainOfCall program message table.status
    | .ok call => work program call

def choiceOf [BEq α] (option text : String) (words : List (String × α)) : Except String α :=
  match words.lookup text with
  | some value => .ok value
  | none =>
    let step (shown : List String × Option α) (word : String × α) : List String × Option α :=
      let front := if shown.2 == some word.2 then ", " else "\n  - "
      (s!"{front}'{word.1}'" :: shown.1, some word.2)
    let all := String.join (words.foldl step ([], none)).1.reverse
    match words.filter (·.1.startsWith text) with
    | [] => .error s!"invalid argument {quoted text} for '{option}'\nValid arguments are:{all}"
    | first :: others =>
      if others.all (·.2 == first.2) then .ok first.2
      else .error s!"ambiguous argument {quoted text} for '{option}'\nValid arguments are:{all}"

def complainOfMissing (program : String) (operands : List String) (status : Nat := 1) : Act Nat :=
  match operands.getLast? with
  | none => complainOfCall program "missing operand" status
  | some last => complainOfCall program s!"missing operand after {plainlyQuoted last}" status

def complainOfExtra (program operand : String) (status : Nat := 1) : Act Nat :=
  complainOfCall program s!"extra operand {plainlyQuoted operand}" status

def operandsOrInput (operands : List String) : List String :=
  if operands.isEmpty then ["-"] else operands

def readOperand (name : String) : Act (Except String ByteArray) := do
  if name = "-" then
    match <- readingFault? standardInput with
    | some fault => return .error (wording fault)
    | none => return .ok ((<- takeAll standardInput).getD .empty)
  else match <- readNamed name with
    | .ok bytes => return .ok bytes
    | .error fault => return .error (wording fault)

def readOrComplain (program name : String) : Act (Option Chars) := do
  match <- readOperand name with
  | .ok bytes => return some (Text.octetsOf bytes)
  | .error fault =>
    discard <| complain program s!"{quotedIfNeeded name}: {fault}"
    return none

def filterFiles (program : String) (names : List String) (change : Chars -> Chars) : Act Nat :=
  allOf <| (operandsOrInput names).map fun name => do
    match <- readOrComplain program name with
    | some octets => answerText program (change octets)
    | none => return failure

def linesWithEnds (ending : Char) (text : Chars) : List Chars :=
  let (current, lines) := text.foldl
    (fun ((current, lines) : Chars × List Chars) c =>
      if c = ending then ([], (c :: current).reverse :: lines) else (c :: current, lines))
    ([], [])
  (if current.isEmpty then lines else current.reverse :: lines).reverse

def linesOf (ending : Char) (text : Chars) : List Chars :=
  (linesWithEnds ending text).map fun line =>
    if line.getLast? == some ending then line.dropLast else line

/-!
## Sizes

A size is said as a number of units, of which the last one may be filled in part only, or with a
letter for the greatest unit of which there is one.
-/

inductive SizeManner where
  | units (bytes : Nat) (suffix : String)
  | letters (base : Nat)

def unitLetters : Chars := ['K', 'M', 'G', 'T', 'P', 'E', 'Z', 'Y']

/-- A size with the letter of the greatest unit of which there is one.  It is rounded up, to one
digit behind the point if there is only one in front of it. -/
def sizeInLetters (base size : Nat) : Nat -> Chars -> String
  | _, [] => numberText size
  | power, letter :: rest =>
    let unit := power * base
    let tenths := (size * 10 + unit - 1) / unit
    let whole := (size + unit - 1) / unit
    if whole < base || rest.isEmpty then
      let shown := if base = 1000 && letter = 'K' then 'k' else letter
      let digits :=
        if tenths < 100 then
          let front := numberText (tenths / 10)
          let behind := numberText (tenths % 10)
          s!"{front}.{behind}"
        else numberText whole
      digits.push shown
    else sizeInLetters base size unit rest

def SizeManner.written (manner : SizeManner) (size : Nat) : String := match manner with
  | .units bytes suffix => numberText ((size + bytes - 1) / bytes) ++ suffix
  | .letters base => if size < base then numberText size else sizeInLetters base size 1 unitLetters

def unitFactor? (text : Chars) : Option Nat :=
  let power (letter : Char) : Option Nat :=
    let place := unitLetters.idxOf letter.toUpper
    if place < unitLetters.length then some (place + 1) else none
  match text with
  | [] => some 1
  | ['b'] => some 512
  | ['c'] => some 1
  | ['w'] => some 2
  | [letter] => (power letter).map (Nat.pow 1024)
  | [letter, 'i', 'B'] => (power letter).map (Nat.pow 1024)
  | [letter, 'B'] => (power letter).map (Nat.pow 1000)
  | [letter, 'D'] => (power letter).map (Nat.pow 1000)
  | _ => none

def sizeManner? : String -> Option SizeManner
  | "human-readable" => some (.letters 1024)
  | "si" => some (.letters 1000)
  | text =>
    let digits := text.toList.takeWhile Text.isDigit
    let suffix := text.toList.drop digits.length
    match unitFactor? suffix with
    | none => none
    | some factor =>
      if digits.isEmpty then
        if suffix.isEmpty then none else some (.units factor (.ofList suffix))
      else match Text.valueOf digits * factor with
        | 0 => none
        | bytes => some (.units bytes "")

def atRight (width : Nat) (text : String) : String :=
  .ofList (List.replicate (width - text.length) ' ') ++ text

def atLeft (width : Nat) (text : String) : String :=
  text ++ .ofList (List.replicate (width - text.length) ' ')

def widestOf (texts : List String) : Nat := (texts.map String.length).foldl max 0

end BaseLanguage.Shell
