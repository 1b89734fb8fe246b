import BaseLanguage.Shell.Utility.Options

namespace BaseLanguage.Shell

open Text

/-!
# Calls in order

`getopt` reads the arguments of some program and says them in an order that scripts can take apart:
options in front, each with its argument, and operands behind two minus signs.
-/

structure CallManner where
  letters : Chars := []
  words : List (String × OptionNeed) := []
  stops : Bool := false
  keepsPlaces : Bool := false
  isLoose : Bool := false
  quotes : Bool := true
  marksSigns : Bool := false

def CallManner.quoted (manner : CallManner) (text : String) : String :=
  if !manner.quotes then text
  else
    let inside := text.toList.flatMap fun c =>
      if c = '\'' then ['\'', '\\', '\'', '\'']
      else if manner.marksSigns && c = '!' then ['\'', '\\', '!', '\'']
      else if manner.marksSigns && c = '\n' then ['\\', 'n']
      else [c]
    "'" ++ .ofList inside ++ "'"

structure WrittenCall where
  said : List String := []
  operands : List String := []
  complaints : List String := []

namespace WrittenCall

def add (call : WrittenCall) (manner : CallManner) (name : String) (argument : Option String) :
    WrittenCall :=
  let said := name :: call.said
  { call with
    said := match argument with
      | some argument => manner.quoted argument :: said
      | none => said }

def complaining (call : WrittenCall) (message : String) : WrittenCall :=
  { call with complaints := message :: call.complaints }

def letters (manner : CallManner) (next : Option String) :
    WrittenCall -> Chars -> WrittenCall × Bool
  | call, [] => (call, false)
  | call, letter :: rest =>
    let name := .ofList ['-', letter]
    let shown := String.singleton letter
    match (if letter = ':' then none else OptionTable.need? letter manner.letters) with
    | none => letters manner next (call.complaining s!"invalid option -- '{shown}'") rest
    | some .nothing => letters manner next (call.add manner name none) rest
    | some .optional => (call.add manner name (some (.ofList rest)), false)
    | some .argument =>
      if !rest.isEmpty then (call.add manner name (some (.ofList rest)), false)
      else match next with
        | some argument => (call.add manner name (some argument), true)
        | none => (call.complaining s!"option requires an argument -- '{shown}'", false)

def word (manner : CallManner) (next : Option String) (signs : String) (call : WrittenCall)
    (text : Chars) : WrittenCall × Bool :=
  let front := text.takeWhile (· != '=')
  let name := .ofList front
  let value : Option String := match text.drop front.length with
    | _ :: value => some (.ofList value)
    | [] => none
  let found := match manner.words.find? (·.1 = name) with
    | some word => [word]
    | none => manner.words.filter (·.1.startsWith name)
  let isOne := found.all ((found.head?.map Prod.snd) == some ·.2) && found.length <= 1
  match found with
  | [] => (call.complaining s!"unrecognized option '{signs}{String.ofList text}'", false)
  | (word, need) :: _ =>
    if !isOne then
      let shown := String.join (found.map fun word => s!" '--{word.1}'")
      (call.complaining s!"option '{signs}{name}' is ambiguous; possibilities:{shown}", false)
    else
      let said := s!"--{word}"
      match need, value, next with
      | .nothing, some _, _ =>
        (call.complaining s!"option '{said}' doesn't allow an argument", false)
      | .nothing, none, _ => (call.add manner said none, false)
      | .optional, value, _ => (call.add manner said (some (value.getD "")), false)
      | .argument, some value, _ => (call.add manner said (some value), false)
      | .argument, none, some argument => (call.add manner said (some argument), true)
      | .argument, none, none => (call.complaining s!"option '{said}' requires an argument", false)

def readAll (manner : CallManner) : WrittenCall -> List String -> WrittenCall
  | call, [] => call
  | call, argument :: rest =>
    let goOn (found : WrittenCall × Bool) : WrittenCall := match found.2, rest with
      | true, _ :: rest => readAll manner found.1 rest
      | _, rest => readAll manner found.1 rest
    match argument.toList with
    | ['-', '-'] => { call with operands := call.operands ++ rest }
    | '-' :: '-' :: text => goOn (call.word manner rest.head? "--" text)
    | '-' :: letter :: more =>
      let front := String.ofList ((letter :: more).takeWhile (· != '='))
      let isWord := manner.isLoose && (manner.words.any (·.1.startsWith front)) &&
        !(more.isEmpty && (OptionTable.need? letter manner.letters).isSome)
      if isWord then goOn (call.word manner rest.head? "-" (letter :: more))
      else goOn (call.letters manner rest.head? (letter :: more))
    | _ =>
      if manner.stops then { call with operands := call.operands ++ argument :: rest }
      else if manner.keepsPlaces then
        readAll manner { call with said := manner.quoted argument :: call.said } rest
      else readAll manner { call with operands := call.operands ++ [argument] } rest

end WrittenCall

def getoptOptions : OptionTable where
  letters := "ao:l:n:qQs:TuhV"
  words := [("alternative", 'a'), ("options", 'o'), ("longoptions", 'l'), ("name", 'n'),
    ("quiet", 'q'), ("quiet-output", 'Q'), ("shell", 's'), ("test", 'T'), ("unquoted", 'u'),
    ("help", 'h'), ("version", 'V')]
  mixes := false
  status := misuse

def optionWords (text : String) : List (String × OptionNeed) :=
  let isGap (c : Char) : Bool := c = ',' || c = ' ' || c = '\t' || c = '\n'
  let words := (pieces ',' (text.toList.map fun c => if isGap c then ',' else c)).filter
    (!·.isEmpty)
  words.map fun word =>
    let name := dropTrailing (· = ':') word
    let need : OptionNeed := match word.length - name.length with
      | 0 => .nothing
      | 1 => .argument
      | _ => .optional
    (.ofList name, need)

def writeCall (program : String) (manner : CallManner) (letters : String) (isQuiet isSilent : Bool)
    (arguments : List String) : Act Nat := do
  let (front, letters) : Option Char × Chars := match letters.toList with
    | '+' :: rest => (some '+', rest)
    | '-' :: rest => (some '-', rest)
    | rest => (none, rest)
  let isPosix := ((<- get).environment.lookup "POSIXLY_CORRECT").isSome
  let manner := { manner with
    letters
    stops := front == some '+' || (isPosix && front.isNone)
    keepsPlaces := front == some '-' }
  let call := ({} : WrittenCall).readAll manner arguments
  if !isQuiet then
    call.complaints.reverse.forM fun complaint => discard (complain program complaint)
  if !isSilent then
    let words := call.said.reverse ++ "--" :: call.operands.map manner.quoted
    discard <| answerText program (words.flatMap (fun word => ' ' :: word.toList) ++ ['\n'])
  return if call.complaints.isEmpty then success else failure

def getopt : Utility := fun program arguments => do
  let hint := helpHint program
  let isOld := (arguments.head?.map (!·.startsWith "-")).getD false ||
    ((<- get).environment.lookup "GETOPT_COMPATIBLE").isSome
  match arguments with
  | [] => complainWith misuse program s!"missing optstring argument\n{hint}"
  | first :: rest =>
    if isOld then
      let letters := .ofList (first.toList.dropWhile (fun c => c = '-' || c = '+'))
      writeCall program { quotes := false } letters false false rest
    else match getoptOptions.read arguments with
      | .error message => complainWith misuse program s!"{message}\n{hint}"
      | .ok call =>
        if call.has 'T' then return 4
        let manner : CallManner := {
          words := (call.allArguments 'l').flatMap optionWords
          isLoose := call.has 'a'
          quotes := !call.has 'u' }
        let name := (call.argument? 'n').getD program
        let shell := (call.argument? 's').getD "bash"
        if !(["sh", "bash", "csh", "tcsh"].contains shell) then
          return <- complainWith misuse program
            s!"unknown shell after -s or --shell argument\n{hint}"
        let manner := { manner with marksSigns := shell = "csh" || shell = "tcsh" }
        match call.argument? 'o', call.operands with
        | some letters, operands =>
          writeCall name manner letters (call.has 'q') (call.has 'Q') operands
        | none, letters :: operands =>
          writeCall name manner letters (call.has 'q') (call.has 'Q') operands
        | none, [] => complainWith misuse program s!"missing optstring argument\n{hint}"

/-! ## Texts in bytes -/

def stringsOptions : OptionTable where
  letters := "0123456789adfn:ot:we:T:U:s:"
  words := [("all", 'a'), ("data", 'd'), ("print-file-name", 'f'), ("bytes", 'n'),
    ("radix", 't'), ("include-all-whitespace", 'w'), ("encoding", 'e'), ("target", 'T'),
    ("output-separator", 's'), ("unicode", 'U')]

def longRuns (least : Nat) (holds : Char -> Bool) (text : Chars) : List (Nat × Chars) :=
  let finish (runs : List (Nat × Chars)) (start : Nat) (current : Chars) :
      List (Nat × Chars) :=
    if least <= current.length then (start, current.reverse) :: runs else runs
  let (runs, start, current, _) := text.foldl
    (fun ((runs, start, current, place) : List (Nat × Chars) × Nat × Chars × Nat) c =>
      if holds c then (runs, if current.isEmpty then place else start, c :: current, place + 1)
      else (finish runs start current, start, [], place + 1))
    ([], 0, [], 0)
  (finish runs start current).reverse

def strings : Utility :=
  withOptions stringsOptions fun program call => do
    let digits := (call.options.map Prod.fst).filter isDigit
    let text := (call.argument? 'n').getD (if digits.isEmpty then "4" else .ofList digits)
    match digitsValue? text with
    | none => complain program s!"invalid integer argument {text}"
    | some 0 => complain program "minimum string length is too small: 0"
    | some least =>
      let holds (c : Char) : Bool := (' ' <= c && c <= '~') || c = '\t' || (call.has 'w' && isSpace c)
      let radix := if call.has 'o' then "o" else (call.argument? 't').getD ""
      let separator := ((call.argument? 's').getD "\n").toList
      let place (number : Nat) : Chars :=
        let written : Chars := match radix with
          | "o" => Nat.toDigits 8 number
          | "x" => Nat.toDigits 16 number
          | "d" => decimal number
          | _ => []
        if radix.isEmpty then [] else List.replicate (7 - written.length) ' ' ++ written ++ [' ']
      let say (name : String) (bytes : ByteArray) : Act Nat :=
        answerText program ((longRuns least holds (octetsOf bytes)).flatMap fun run =>
          (if call.has 'f' then name.toList ++ [':', ' '] else []) ++ place run.1 ++ run.2 ++
            separator)
      match call.operands with
      | [] => say "\x7bstandard input\x7d" ((<- takeAll standardInput).getD .empty)
      | names =>
        allOf <| names.map fun name => do
          match <- readNamed name with
          | .ok bytes => say name bytes
          | .error .missing => complain program s!"'{name}': No such file"
          | .error .isFolder => complain program s!"Warning: '{name}' is a directory"
          | .error fault => complain program s!"{name}: {wording fault}"

end BaseLanguage.Shell
