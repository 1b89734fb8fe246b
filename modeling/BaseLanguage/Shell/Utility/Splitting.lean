import BaseLanguage.Shell.Utility.Running
import BaseLanguage.Shell.Utility.Output
import BaseLanguage.Text.Regex.Reader

namespace BaseLanguage.Shell

open Text

/-!
# Files in pieces

`split` cuts a file into pieces of a size, `csplit` cuts it at lines that are named or matched.  The
pieces are files with names in a row.
-/

/-! ## Names in a row -/

structure PieceNames where
  front : String
  digits : Chars
  width : Nat
  first : Nat := 0
  grows : Bool := true
  ending : String := ""

namespace PieceNames

def digitsOf (digits : Chars) : Nat -> Nat -> Chars
  | 0, _ => []
  | width + 1, number =>
    digitsOf digits width (number / digits.length) ++ [digits.getD (number % digits.length) '0']

def name? (names : PieceNames) (number : Nat) : Option String :=
  let base := names.digits.length
  if names.grows then go base 64 "" names.width number
  else
    let number := names.first + number
    if number < Nat.pow base names.width then
      some (names.front ++ .ofList (digitsOf names.digits names.width number) ++ names.ending)
    else none
where
  go (base : Nat) : Nat -> String -> Nat -> Nat -> Option String
    | 0, _, _, _ => none
    | limit + 1, before, width, number =>
      let room := (base - 1) * Nat.pow base (width - 1)
      if number < room then
        some (names.front ++ before ++ .ofList (digitsOf names.digits width number) ++ names.ending)
      else
        let last := .ofList (names.digits.drop (base - 1))
        go base limit (before ++ last) (width + 1) (number - room)

end PieceNames

/-! ## Pieces of a size -/

inductive FileCutting where
  | lines (count : Nat)
  | bytes (count : Nat)
  | lineBytes (count : Nat)
  | chunks (count : Nat) (only : Option Nat)
  | lineChunks (count : Nat) (only : Option Nat)
  | turns (count : Nat) (only : Option Nat)

namespace FileCutting

def inGroups (count : Nat) : Nat -> List α -> List (List α)
  | 0, _ => []
  | _, [] => []
  | limit + 1, items => items.take count :: inGroups count limit (items.drop count)

def lineGroups (size : Nat) (lines : List Chars) : List Chars :=
  let step (state : List Chars × Chars) (line : Chars) :
      List Chars × Chars :=
    let (done, current) := state
    if current.length + line.length <= size then (done, current ++ line)
    else
      let done := if current.isEmpty then done else current :: done
      let parts := inGroups size (line.length + 1) line
      (parts.dropLast.reverse ++ done, parts.getLastD [])
  let (done, current) := lines.foldl step ([], [])
  (if current.isEmpty then done else current :: done).reverse

def lineShares (count size : Nat) (lines : List Chars) : List Chars :=
  let share := max size count / count
  let placed := (lines.foldl
    (fun ((placed, start) : List (Nat × Chars) × Nat) line =>
      let number := min (start / share) (count - 1)
      ((number, line) :: placed, start + line.length))
    ([], 0)).1.reverse
  (List.range count).map fun number => (placed.filter (·.1 = number)).flatMap Prod.snd

def pieces (cutting : FileCutting) (ending : Char) (text : Chars) : List Chars :=
  let lines := linesWithEnds ending text
  match cutting with
  | .lines count => (inGroups count (lines.length + 1) lines).map List.flatten
  | .bytes count => inGroups count (text.length + 1) text
  | .lineBytes count => lineGroups count lines
  | .chunks count _ =>
    let share := max text.length count / count
    (List.range count).map fun number =>
      let rest := text.drop (number * share)
      if number + 1 = count then rest else rest.take share
  | .lineChunks count _ => lineShares count text.length lines
  | .turns count _ =>
    let placed := lines.zipIdx
    (List.range count).map fun number => (placed.filter (·.2 % count = number)).flatMap Prod.fst

def only? : FileCutting -> Option Nat
  | .chunks _ only => only
  | .lineChunks _ only => only
  | .turns _ only => only
  | _ => none

def count? : FileCutting -> Option Nat
  | .chunks count _ => some count
  | .lineChunks count _ => some count
  | .turns count _ => some count
  | _ => none

def size? (text : String) : Option Nat :=
  let digits := text.toList.takeWhile isDigit
  if digits.isEmpty then none
  else match unitFactor? (text.toList.drop digits.length) with
    | some factor =>
      let value := valueOf digits * factor
      if value = 0 then none else some value
    | none => none

def shares (text : String) : Except String FileCutting :=
  let words := Text.pieces '/' text.toList
  let (kind, numbers) : String × List Chars := match words with
    | ['l'] :: rest => ("l", rest)
    | ['r'] :: rest => ("r", rest)
    | words => ("", words)
  let invalid (word : Chars) : Except String Nat :=
    .error s!"invalid number of chunks: {quoted (String.ofList word)}"
  let count (word : Chars) : Except String Nat := match digitsValue? (.ofList word) with
    | some (value + 1) => .ok (value + 1)
    | _ => invalid word
  let make (total : Nat) (only : Option Nat) : FileCutting := match kind with
    | "l" => .lineChunks total only
    | "r" => .turns total only
    | _ => .chunks total only
  match numbers with
  | [total] => do return make (<- count total) none
  | [number, total] => do
    let total <- count total
    match digitsValue? (.ofList number) with
    | some (value + 1) =>
      if value < total then return make total (some value)
      else throw s!"invalid chunk number: {quoted (String.ofList number)}"
    | _ => throw s!"invalid chunk number: {quoted (String.ofList number)}"
  | _ => (invalid (text.toList)).map (make · none)

end FileCutting

def splitOptions : OptionTable where
  letters := "0123456789a:b:C:del:n:t:uxα::β::γ:δ:ε"
  words := [("suffix-length", 'a'), ("additional-suffix", 'γ'), ("bytes", 'b'),
    ("line-bytes", 'C'), ("numeric-suffixes", 'α'), ("hex-suffixes", 'β'),
    ("elide-empty-files", 'e'), ("filter", 'δ'), ("lines", 'l'), ("number", 'n'),
    ("separator", 't'), ("unbuffered", 'u'), ("verbose", 'ε')]

def cuttingOf (call : ProgramCall) : Except String FileCutting := do
  let digits := (call.options.map Prod.fst).filter isDigit
  let given := call.options.filter ("bCln".toList.contains ·.1)
  let asked <- given.mapM fun (letter, text) => do
    match letter with
    | 'n' => FileCutting.shares text
    | 'b' => match FileCutting.size? text with
      | some size => return .bytes size
      | none => throw s!"invalid number of bytes: {quoted text}"
    | 'C' => match FileCutting.size? text with
      | some size => return .lineBytes size
      | none => throw s!"invalid number of lines: {quoted text}"
    | _ => match FileCutting.size? text with
      | some size => return .lines size
      | none => throw s!"invalid number of lines: {quoted text}"
  match asked, digits with
  | [], [] => return .lines 1000
  | [], digits => return .lines (valueOf digits)
  | [only], [] => return only
  | _, _ => throw ("cannot split in more than one way\n" ++ helpHint "split")

def pieceNames (call : ProgramCall) (front : String) (count : Option Nat) :
    Except String PieceNames := do
  let width <-
    match call.argument? 'a' with
    | none => pure 0
    | some text => match digitsValue? text with
      | some value => pure value
      | none => throw s!"invalid suffix length: {quoted text}"
  let ending := (call.argument? 'γ').getD ""
  if ending.contains '/' then
    throw (s!"invalid suffix {quoted ending}, contains directory separator\n" ++ helpHint "split")
  let kind := (call.lastOf ['d', 'x', 'α', 'β']).getD ' '
  let isHex := kind = 'x' || kind = 'β'
  let digits : Chars :=
    if kind = ' ' then (List.range 26).map (fun index => Char.ofNat ('a'.toNat + index))
    else "0123456789abcdef".toList.take (if isHex then 16 else 10)
  let start := (call.argument? kind).getD ""
  let isStart (c : Char) : Bool := if isHex then isHexDigit c else isDigit c
  if !start.toList.all isStart then
    let word := if isHex then "hexadecimal" else "numerical"
    throw (s!"{quoted start}: invalid start value for {word} suffix\n" ++ helpHint "split")
  let first := valueInBase digits.length start.toList
  let needed := (count.map fun count =>
    let last := if start.isEmpty || count <= first then count - 1 else first + count - 1
    (((List.range 64).find? (last < Nat.pow digits.length ·)).getD 64)).getD 0
  if width ≠ 0 && width < needed then
    throw s!"the suffix length needs to be at least {numberText needed}"
  return {
    front, digits, first, ending
    width := if width ≠ 0 then width else max needed (max 2 start.length)
    grows := width = 0 && count.isNone && start.isEmpty }

def putPiece (services : Services) (program : String) (filter : Option String) (name : String)
    (text : Chars) : Act Nat := do
  match filter with
  | none => match <- writeNamed .writing name (bytesOf text) with
    | .ok () => return success
    | .error fault => complain program s!"{quotedIfNeeded name}: {wording fault}"
  | some command =>
    asideFully do
      modify fun session =>
        let (session, channel) := session.addChannel { content := bytesOf text }
        { session.turn standardInput (some (.reading channel)) with
          environment := withEntry "FILE" name session.environment }
      services.start "/bin/sh" "sh" ["-c", command]

def split : Program := fun services =>
  withOptions splitOptions fun program call => do
    match cuttingOf call with
    | .error fault => complain program fault
    | .ok cutting =>
      let front := call.operands.getD 1 "x"
      let separator := ((call.argument? 't').getD "\n").toList
      let ending : Option Char := match separator with
        | [c] => some c
        | ['\\', '0'] => some (Char.ofNat 0)
        | _ => none
      match pieceNames call front cutting.count?, ending, call.operands.drop 2 with
      | _, _, extra :: _ => complainOfExtra program extra
      | .error fault, _, _ => complain program fault
      | _, none, _ =>
        let shown := (call.argument? 't').getD ""
        complain program s!"multi-character separator {quoted shown}"
      | .ok names, some ending, [] =>
        let name := call.operands.headD "-"
        match <- readOperand name with
        | .error fault => complain program s!"cannot open {quoted name} for reading: {fault}"
        | .ok bytes =>
          let pieces := cutting.pieces ending (octetsOf bytes)
          match cutting.only? with
          | some only => answerText program (pieces.getD only [])
          | none =>
            let pieces := if call.has 'e' then pieces.filter (!·.isEmpty) else pieces
            let putAll : Nat × Bool -> Chars × Nat -> Act (Nat × Bool) :=
              fun (worst, stopped) (piece, number) => do
                if stopped then return (worst, stopped)
                match names.name? number with
                | none => return (<- complain program "output file suffixes exhausted", true)
                | some name =>
                  if call.has 'ε' then
                    discard <| answerLines program [s!"creating file {quoted name}"]
                  let filter := call.argument? 'δ'
                  return (max worst (<- putPiece services program filter name piece), false)
            return (<- pieces.zipIdx.foldlM putAll (success, false)).1

/-! ## Pieces between lines -/

inductive PieceEnd where
  | line (number : Nat)
  | found (regex : Regex) (offset : Int) (leftOut : Bool)

structure PieceRule where
  text : String
  ending : PieceEnd
  again : Option Nat := some 0

def signedOffset? (text : Chars) : Option Int :=
  let (negative, digits) := signOf text
  if text.isEmpty then some 0
  else if digits.isEmpty || !digits.all isDigit then none
  else some (if negative then -(valueOf digits : Int) else valueOf digits)

def pieceRules (before : Nat) : List PieceRule -> List String -> Except String (List PieceRule)
  | rules, [] => .ok rules.reverse
  | rules, text :: rest => do
    match text.toList with
    | '\x7b' :: inside => match rules with
      | [] => throw s!"{quoted text}: invalid pattern"
      | rule :: others =>
        if inside.getLast? != some '\x7d' then
          throw s!"{quoted text}: '\x7d' is required in repeat count"
        let inner := inside.dropLast
        let shownOpen := "'\x7b'"
        let shownClose := "'\x7d'"
        let again <-
          if inner == ['*'] then pure none
          else match digitsValue? (.ofList inner) with
            | some value => pure (some value)
            | none =>
              let shown := quoted (.ofList text.toList.dropLast) ++ "\x7d"
              throw s!"{shown}: integer required between {shownOpen} and {shownClose}"
        pieceRules before ({ rule with again } :: others) rest
    | sign :: inside =>
      if sign = '/' || sign = '%' then
        let (front, behind) <- closing sign text inside []
        let offset <-
          match signedOffset? behind with
          | some offset => pure offset
          | none => throw s!"{quoted text}: integer expected after delimiter"
        let regex <-
          match Regex.parse { extended := false, lenient := true } front with
          | .ok (regex, _) => pure regex
          | .error fault => throw s!"{quoted text}: invalid regular expression: {fault.message}"
        pieceRules before (⟨text, .found regex offset (sign = '%'), some 0⟩ :: rules) rest
      else match digitsValue? text with
        | none => throw s!"{quoted text}: invalid pattern"
        | some 0 => throw s!"{text}: line number must be greater than zero"
        | some value =>
          if value < before then
            throw (s!"line number {quoted text} is smaller than preceding line number, " ++
              numberText before)
          pieceRules value (⟨text, .line value, some 0⟩ :: rules) rest
    | [] => throw s!"{quoted text}: invalid pattern"
where
  closing (sign : Char) (text : String) : Chars -> Chars ->
      Except String (Chars × Chars)
    | [], _ =>
      let shown := String.singleton sign
      .error s!"{text}: closing delimiter '{shown}' missing"
    | c :: rest, found =>
      if c = sign && found.head? != some '\\' then .ok (found.reverse, rest)
      else closing sign text rest (c :: found)

def repeatedLines : List PieceRule -> List String
  | first :: second :: rest =>
    let others := repeatedLines (second :: rest)
    match first.ending, second.ending with
    | .line left, .line right => if left = right then second.text :: others else others
    | _, _ => others
  | _ => []

structure PieceState where
  lines : List Chars
  first : Nat := 1
  current : Nat := 0
  pieces : List Chars := []
  fault : Option (String × Option Chars) := none
  isDone : Bool := false

namespace PieceState

def take (state : PieceState) (count : Nat) : Chars × PieceState :=
  let count := min count state.lines.length
  (((state.lines.take count).flatten), { state with
    lines := state.lines.drop count
    first := state.first + count
    current := if count = 0 then state.current else max state.current (state.first + count - 1) })

def endAtLine (drops : Bool) (number round : Nat) (state : PieceState) : PieceState :=
  let last := number * (round + 1)
  let ending := if round = 0 then "" else s!" on repetition {numberText round}"
  let message := s!"{quoted (numberText number)}: line number out of range{ending}"
  if drops && state.lines.isEmpty then { state with fault := some (message, some []) }
  else
    let wanted := last - state.first
    let isShort := state.lines.length < wanted
    let (piece, state) := state.take wanted
    if isShort then { state with fault := some (message, some piece) }
    else
      let state := { state with pieces := piece :: state.pieces }
      let state := if drops then (state.take 1).2 else state
      if state.lines.isEmpty && !drops then { state with fault := some (message, none) } else state

def endAtMatch (drops : Bool) (rule : PieceRule) (regex : Regex) (offset : Int)
    (leftOut : Bool) (round : Nat) (state : PieceState) : PieceState :=
  let start := state.current + 1
  let candidates := (state.lines.drop (start - state.first)).zipIdx start
  let isMatch (line : Chars) : Bool :=
    let text := if line.getLast? == some '\n' then line.dropLast else line
    (regex.search? { text := text.toArray } 0).isSome
  match candidates.find? (isMatch ·.1) with
  | none =>
    let (piece, rest) := state.take state.lines.length
    if rule.again.isNone then
      { rest with isDone := true, pieces := if leftOut then state.pieces else piece :: state.pieces }
    else
      let ending := if round = 0 then "" else s!" on repetition {numberText round}"
      { rest with
        fault := some (s!"{quoted rule.text}: match not found{ending}",
          if leftOut then none else some piece) }
  | some (_, found) =>
    let stop : Int := found + offset
    let message := s!"{quoted rule.text}: line number out of range"
    if stop < state.first then
      { state with fault := some (message, if leftOut then none else some []) }
    else
      let wanted := (stop - state.first).toNat
      let isShort := state.lines.length < wanted
      let before := { state with current := found }
      let (piece, rest) := before.take wanted
      if isShort then { rest with fault := some (message, if leftOut then none else some piece) }
      else
        let rest := if leftOut then rest else { rest with pieces := piece :: rest.pieces }
        let rest := { rest with current := if 0 < offset then stop.toNat else found }
        if drops then (rest.take 1).2 else rest

def follow (drops : Bool) (rule : PieceRule) (round : Nat) (state : PieceState) : PieceState :=
  match rule.ending with
  | .line number => state.endAtLine drops number round
  | .found regex offset leftOut => state.endAtMatch drops rule regex offset leftOut round

def followOften (drops : Bool) (rule : PieceRule) : Nat -> Nat -> PieceState -> PieceState
  | 0, _, state => state
  | limit + 1, round, state =>
    if state.fault.isSome || state.isDone then state
    else followOften drops rule limit (round + 1) (state.follow drops rule round)

def followAll (drops : Bool) (rules : List PieceRule) (state : PieceState) : PieceState :=
  let state := rules.foldl
    (fun state rule =>
      let limit := (rule.again.map (· + 1)).getD (state.lines.length + 2)
      followOften drops rule limit 0 state)
    state
  if state.fault.isSome || state.isDone then state
  else { state with pieces := state.lines.flatten :: state.pieces, lines := [] }

end PieceState

def csplitOptions : OptionTable where
  letters := "b:f:kn:qszα"
  words := [("digits", 'n'), ("quiet", 'q'), ("silent", 's'), ("keep-files", 'k'),
    ("elide-empty-files", 'z'), ("prefix", 'f'), ("suffix-format", 'b'),
    ("suppress-matched", 'α')]

def pieceFormatFault? (text : String) : Option String :=
  let places := (formatPieces .program (text.length + 1) text.toList).filter fun piece =>
    match piece with
    | .octet _ => false
    | _ => true
  match places with
  | [] => some "missing % conversion specification in suffix"
  | [.place directive] =>
    if "diuoxX".toList.contains directive.letter then none
    else
      let shown := String.singleton directive.letter
      some s!"invalid conversion specifier in suffix: {shown}"
  | [.invalid bad] =>
    let shown := String.ofList bad.getLast?.toList
    some s!"invalid conversion specifier in suffix: {shown}"
  | [.unfinished _] => some "missing conversion specifier in suffix"
  | _ => some "too many % conversion specifications in suffix"

def csplit : Utility :=
  withOptions csplitOptions fun program call => do
    let numberOf (text : String) : Option Nat := digitsValue? text
    if let some text := (call.argument? 'n').filter (fun text => (numberOf text).isNone) then
      return <- complain program s!"invalid number: {quoted text}"
    if let some fault := (call.argument? 'b').bind pieceFormatFault? then
      return <- complain program fault
    match call.operands with
    | [] => complainOfMissing program []
    | [only] => complainOfMissing program [only]
    | name :: texts => match pieceRules 0 [] texts with
      | .error fault => complain program fault
      | .ok rules =>
        (repeatedLines rules).forM fun text => discard <| complain program
          s!"warning: line number {quoted text} is the same as preceding line number"
        match <- readOperand name with
        | .error fault => complain program s!"cannot open {quoted name} for reading: {fault}"
        | .ok bytes =>
          let start : PieceState := { lines := linesWithEnds '\n' (octetsOf bytes) }
          let state := start.followAll (call.has 'α') rules
          let broken := state.fault.bind Prod.snd
          let all := state.pieces.reverse ++ broken.toList
          let shown := if call.has 'z' then all.filter (!·.isEmpty) else all
          let front := (call.argument? 'f').getD "xx"
          let width := ((call.argument? 'n').bind numberOf).getD 2
          let format := (call.argument? 'b').getD s!"%0{numberText width}d"
          let written (number : Nat) : String :=
            front ++ .ofList (Shell.format .program ⟨0, 0⟩ format [numberText number]).said.reverse
          let sizes := shown.map (numberText ·.length)
          if let some (message, _) := state.fault then discard <| complain program message
          if !(call.has 's' || call.has 'q') then discard <| answerLines program sizes
          if state.fault.isNone || call.has 'k' then
            let statuses <- shown.zipIdx.mapM fun (piece, number) => do
              match <- writeNamed .writing (written number) (bytesOf piece) with
              | .ok () => return success
              | .error fault =>
                complain program s!"{quotedIfNeeded (written number)}: {wording fault}"
            return max (statuses.foldl max success) (statusOf state.fault.isNone)
          else return failure

end BaseLanguage.Shell
