import BaseLanguage.Shell.Utility.Options

namespace BaseLanguage.Shell

open Text

/-!
# Columns

`cut` says some columns of each line: bytes or the fields between separators.  `paste` puts the
lines of several files side by side, or all lines of a file into one.
-/

structure Span where
  first : Nat
  last : Option Nat

namespace Span

def holds (span : Span) (number : Nat) : Bool := span.first <= number && span.last.all (number <= ·)

def read (what : String) (text : Chars) : Except String Span :=
  let first := text.takeWhile isDigit
  let number (digits : Chars) : Except String Nat :=
    if valueOf digits = 0 then .error s!"{what}s are numbered from 1" else .ok (valueOf digits)
  let invalid : String :=
    if what = "field" then s!"invalid field value {plainlyQuoted (String.ofList text)}"
    else s!"invalid byte/character position {plainlyQuoted (String.ofList text)}"
  match text.drop first.length with
  | [] => do
    if first.isEmpty then throw s!"{what}s are numbered from 1"
    let value <- number first
    return ⟨value, some value⟩
  | '-' :: last =>
    if !last.all isDigit then
      if last.contains '-' then .error s!"invalid {what} range" else .error invalid
    else if first.isEmpty && last.isEmpty then .error "invalid range with no endpoint: -"
    else do
      let start <- if first.isEmpty then pure 1 else number first
      if last.isEmpty then return ⟨start, none⟩
      else if valueOf last < start then throw "invalid decreasing range"
      else return ⟨start, some (valueOf last)⟩
  | _ => .error invalid

end Span

def readSpans (what : String) (text : String) : Except String (List Span) :=
  let isGap (c : Char) : Bool := c = ',' || c = ' ' || c = '\t'
  let texts := pieces ',' (text.toList.map (fun c => if isGap c then ',' else c))
  texts.mapM (Span.read what)

def cutOptions : OptionTable where
  letters := "b:c:d:f:nsz!O:"
  words := [("bytes", 'b'), ("characters", 'c'), ("delimiter", 'd'), ("fields", 'f'),
    ("only-delimited", 's'), ("zero-terminated", 'z'), ("complement", '!'),
    ("output-delimiter", 'O')]

/-- The runs of chosen positions of a line; between two runs stands the separator, if one is
asked for. -/
def chosenChars (chosen : Nat -> Bool) (joint : Chars) (line : Chars) : Chars :=
  let numbered := line.zipIdx.filter (fun entry => chosen (entry.2 + 1))
  (numbered.foldl
    (fun ((found, before) : Chars × Option Nat) (c, index) =>
      let gap := before.any (· + 1 < index)
      (c :: ((if gap then joint.reverse else []) ++ found), some index))
    ([], none)).1.reverse

/-- The chosen fields of a line.  A line without separators stays as it is, unless it is dropped. -/
def chosenFields (chosen : Nat -> Bool) (separator : Char) (joint : Chars) (drops : Bool)
    (line : Chars) : Option Chars :=
  if !line.contains separator then if drops then none else some line
  else
    let fields := (pieces separator line).zipIdx.filter (fun entry => chosen (entry.2 + 1))
    some (List.intercalate joint (fields.map Prod.fst))

def cut : Utility :=
  withOptions cutOptions fun program call => do
    let lists := call.options.filter ("bcf".toList.contains ·.1)
    let ending := if call.has 'z' then Char.ofNat 0 else '\n'
    let separator := (call.argument? 'd').getD "\t"
    match lists with
    | [] => complainOfCall program "you must specify a list of bytes, characters, or fields"
    | _ :: _ :: _ => complainOfCall program "only one list may be specified"
    | [(kind, list)] =>
      let byFields := kind = 'f'
      if 1 < separator.length then complainOfCall program "the delimiter must be a single character"
      else if !byFields && call.has 'd' then
        complainOfCall program "an input delimiter may be specified only when operating on fields"
      else if !byFields && call.has 's' then
        complainOfCall program
          "suppressing non-delimited lines makes sense\n\tonly when operating on fields"
      else
        let what := if byFields then "field" else "byte/character position"
        match readSpans what list with
        | .error fault => complainOfCall program fault
        | .ok spans =>
          let chosen (number : Nat) : Bool := (spans.any (·.holds number)) != call.has '!'
          let sign := separator.toList.headD (Char.ofNat 0)
          let joint := ((call.argument? 'O').map String.toList).getD
            (if byFields then [sign] else [])
          filterFiles program call.operands fun text =>
            (linesOf ending text).flatMap fun line =>
              if byFields then
                match chosenFields chosen sign joint (call.has 's') line with
                | some line => line ++ [ending]
                | none => []
              else chosenChars chosen joint line ++ [ending]

/-! ## Side by side -/

def pasteSeparators : Chars -> List Chars
  | [] => []
  | '\\' :: c :: rest =>
    let separator : Chars := match c with
      | 'n' => ['\n']
      | 't' => ['\t']
      | '0' => []
      | c => [c]
    separator :: pasteSeparators rest
  | c :: rest => [c] :: pasteSeparators rest

def joinInTurn (separators : List Chars) (texts : List Chars) : Chars :=
  let count := separators.length
  (texts.zipIdx.map fun (text, index) =>
    if index = 0 || count = 0 then text
    else separators.getD ((index - 1) % count) [] ++ text).flatten

def pasteRows : Nat -> List (List Chars) -> List (List Chars)
  | 0, _ => []
  | limit + 1, columns =>
    if columns.all List.isEmpty then []
    else columns.map (·.headD []) :: pasteRows limit (columns.map List.tail)

def pasteColumns (program : String) (ending : Char) (names : List String) :
    Act (Option (List (List Chars))) := do
  let inputs := (names.filter (· == "-")).length
  let input <-
    if inputs = 0 then pure [] else do
      let bytes := (<- takeAll standardInput).getD .empty
      pure (linesOf ending (octetsOf bytes))
  let step (found : Option (List (List Chars) × Nat)) (name : String) :
      Act (Option (List (List Chars) × Nat)) := do
    match found with
    | none => return none
    | some (columns, place) =>
      if name = "-" then
        let own := (input.zipIdx.filter (·.2 % inputs == place)).map Prod.fst
        return some (own :: columns, place + 1)
      else match <- readOrComplain program name with
        | some text => return some (linesOf ending text :: columns, place)
        | none => return none
  return (<- names.foldlM step (some ([], 0))).map (·.1.reverse)

def pasteOptions : OptionTable where
  letters := "d:sz"
  words := [("delimiters", 'd'), ("serial", 's'), ("zero-terminated", 'z')]

def paste : Utility :=
  withOptions pasteOptions fun program call => do
    let ending := if call.has 'z' then Char.ofNat 0 else '\n'
    let separators := pasteSeparators ((call.argument? 'd').getD "\t").toList
    let names := operandsOrInput call.operands
    let list := (call.argument? 'd').getD "\t"
    let openSlashes := (list.toList.reverse.takeWhile (· = '\\')).length
    if openSlashes % 2 = 1 then
      complain program s!"delimiter list ends with an unescaped backslash: {list}"
    else if call.has 's' then
      filterFiles program names fun text => joinInTurn separators (linesOf ending text) ++ [ending]
    else match <- pasteColumns program ending names with
      | none => return failure
      | some columns =>
        let bound := columns.foldl (fun sum column => sum + column.length) 1
        let rows := pasteRows bound columns
        answerText program (rows.flatMap (joinInTurn separators · ++ [ending]))

/-!
## Joined lines

`join` puts lines of two files side by side whose fields are the same.  Both files are in the order
of these fields; lines without a partner may be said too.
-/

def joinOptions : OptionTable where
  letters := "a:e:ij:1:2:o:t:v:zαβγ"
  words := [("ignore-case", 'i'), ("check-order", 'α'), ("nocheck-order", 'β'), ("header", 'γ'),
    ("zero-terminated", 'z')]

inductive JoinedField where
  | shared
  | own (isSecond : Bool) (number : Nat)

structure FieldLine where
  text : Chars
  fields : Array Chars

namespace FieldLine

def blank : FieldLine := ⟨[], #[]⟩

def field? (line : FieldLine) (number : Nat) : Option Chars := line.fields[number]?

end FieldLine

structure JoinManner where
  separator : Option Char := none
  isWhole : Bool := false
  ignoresCase : Bool := false
  first : Nat := 0
  second : Nat := 0
  filler : Option Chars := none
  format : Option (List JoinedField) := none
  counts : Option (Nat × Nat) := none
  saysPairs : Bool := true
  saysFirst : Bool := false
  saysSecond : Bool := false
  ending : Char := '\n'
  checks : Option Bool := none
  heads : Bool := false

namespace JoinManner

def blankFields : Nat -> Chars -> List Chars
  | 0, _ => []
  | limit + 1, text =>
    let isGap (c : Char) : Bool := c = ' ' || c = '\t' || c = '\n'
    let behind := text.dropWhile isGap
    if behind.isEmpty then []
    else
      let field := behind.takeWhile (!isGap ·)
      field :: blankFields limit (behind.drop field.length)

variable (manner : JoinManner)

def read (text : Chars) : FieldLine :=
  let fields :=
    if manner.isWhole then [text]
    else match manner.separator with
      | some separator => if text.isEmpty then [] else pieces separator text
      | none => blankFields (text.length + 1) text
  ⟨text, fields.toArray⟩

def compare (left right : FieldLine) (first second : Nat) : Ordering :=
  let key (line : FieldLine) (number : Nat) : Chars :=
    let field := (line.field? number).getD []
    if manner.ignoresCase then field.map Char.toUpper else field
  compareOfLessAndEq (key left first) (key right second)

def fieldText (line : FieldLine) (number : Nat) : Chars :=
  match line.field? number with
  | some [] => manner.filler.getD []
  | some field => field
  | none => manner.filler.getD []

def pairText (left right : Option FieldLine) : Chars :=
  let gap := [manner.separator.getD ' ']
  let first := left.getD .blank
  let second := right.getD .blank
  let shared : Chars :=
    if left.isNone then manner.fieldText second manner.second
    else manner.fieldText first manner.first
  let texts : List Chars := match manner.format with
    | some fields =>
      fields.map fun
        | .shared => shared
        | .own isSecond number => manner.fieldText (if isSecond then second else first) number
    | none =>
      let others (line : FieldLine) (own : Nat) (count : Nat) : List Chars :=
        ((List.range count).filter (· != own)).map (manner.fieldText line)
      let (leftCount, rightCount) := manner.counts.getD (first.fields.size, second.fields.size)
      shared :: others first manner.first leftCount ++ others second manner.second rightCount
  List.intercalate gap texts ++ [manner.ending]

end JoinManner

structure Joining where
  said : List Chars := []
  complaints : List String := []
  hasLone : Bool := false
  disordered : List Bool := []
  isBroken : Bool := false

namespace Joining

def say (state : Joining) (manner : JoinManner) (left right : Option FieldLine) : Joining :=
  { state with said := manner.pairText left right :: state.said }

def check (manner : JoinManner) (names : String × String) (isSecond : Bool) (before : Option FieldLine)
    (line : FieldLine) (number : Nat) (state : Joining) : Joining :=
  let own := if isSecond then manner.second else manner.first
  match before with
  | none => state
  | some before =>
    let applies := manner.checks.getD state.hasLone
    if !applies || state.disordered.contains isSecond || state.isBroken then state
    else if manner.compare before line own own = .gt then
      let name := if isSecond then names.2 else names.1
      { state with
        complaints := s!"{name}:{numberText number}: is not sorted: {String.ofList line.text}" ::
          state.complaints
        disordered := isSecond :: state.disordered
        isBroken := manner.checks == some true }
    else state

structure Rest where
  before : Option FieldLine
  lines : List FieldLine
  number : Nat

namespace Rest

def next (rest : Rest) : Rest := match rest.lines with
  | line :: lines => ⟨some line, lines, rest.number + 1⟩
  | [] => rest

end Rest

def advance (manner : JoinManner) (names : String × String) (isSecond : Bool) (rest : Rest)
    (state : Joining) : Joining × Rest :=
  let next := rest.next
  match next.lines with
  | line :: _ => (state.check manner names isSecond next.before line (next.number + 1), next)
  | [] => (state, next)

def advanceWhile (manner : JoinManner) (names : String × String) (isSecond : Bool)
    (isSame : FieldLine -> Bool) : Nat -> List FieldLine -> Rest -> Joining ->
    List FieldLine × Rest × Joining
  | 0, taken, rest, state => (taken.reverse, rest, state)
  | limit + 1, taken, rest, state => match rest.lines with
    | line :: _ =>
      if isSame line then
        let (state, rest) := state.advance manner names isSecond rest
        advanceWhile manner names isSecond isSame limit (line :: taken) rest state
      else (taken.reverse, rest, state)
    | [] => (taken.reverse, rest, state)

def join (manner : JoinManner) (names : String × String) : Nat -> Rest -> Rest -> Joining ->
    Rest × Rest × Joining
  | 0, left, right, state => (left, right, state)
  | limit + 1, left, right, state =>
    if state.isBroken then (left, right, state)
    else match left.lines, right.lines with
      | first :: _, second :: _ =>
        match (manner.compare first second manner.first manner.second : Ordering) with
        | .lt =>
          let state := if manner.saysFirst then state.say manner (some first) none else state
          let (state, left) := state.advance manner names false left
          join manner names limit left right { state with hasLone := true }
        | .gt =>
          let state := if manner.saysSecond then state.say manner none (some second) else state
          let (state, right) := state.advance manner names true right
          join manner names limit left right { state with hasLone := true }
        | .eq =>
          let (ours, left, state) := state |> advanceWhile manner names false
            (manner.compare · second manner.first manner.second == .eq)
            (left.lines.length + 1) [] left
          let (theirs, right, state) := state |> advanceWhile manner names true
            (manner.compare first · manner.first manner.second == .eq)
            (right.lines.length + 1) [] right
          let state :=
            if manner.saysPairs && !state.isBroken then
              ours.foldl
                (fun state line => theirs.foldl
                  (fun state other => state.say manner (some line) (some other)) state)
                state
            else state
          join manner names limit left right state
      | _, _ => (left, right, state)

def finish (manner : JoinManner) (names : String × String) (isSecond shows : Bool) :
    Nat -> Rest -> Joining -> Joining
  | 0, _, state => state
  | limit + 1, rest, state => match rest.lines with
    | [] => state
    | line :: _ =>
      if state.isBroken then state
      else
        let state :=
          if !shows then state
          else if isSecond then state.say manner none (some line)
          else state.say manner (some line) none
        let (state, rest) := state.advance manner names isSecond rest
        finish manner names isSecond shows limit rest state

end Joining

def fieldNumber? (text : String) : Except String Nat := match digitsValue? text with
  | some (value + 1) => .ok value
  | _ => .error s!"invalid field number: {quoted text}"

def joinedFields (text : String) : Except String (List JoinedField) :=
  let isGap (c : Char) : Bool := c = ',' || c = ' ' || c = '\t'
  let words := pieces ' ' (text.toList.map fun c => if isGap c then ' ' else c)
  words.mapM fun word => match word with
    | ['0'] => .ok .shared
    | '0' :: _ => .error s!"invalid field specifier: {quoted (String.ofList word)}"
    | side :: '.' :: digits =>
      if side = '1' || side = '2' then (fieldNumber? (.ofList digits)).map (.own (side = '2'))
      else .error s!"invalid file number in field spec: {quoted (String.ofList word)}"
    | side :: _ =>
      if side = '1' || side = '2' then
        .error s!"invalid field specifier: {quoted (String.ofList word)}"
      else .error s!"invalid file number in field spec: {quoted (String.ofList word)}"
    | [] => .error "invalid file number in field spec: ''"

def joinManner (call : ProgramCall) : Except String JoinManner :=
  call.options.foldlM
    (fun (manner : JoinManner) (letter, text) => do
      match letter with
      | 'i' => return { manner with ignoresCase := true }
      | 'z' => return { manner with ending := Char.ofNat 0 }
      | 'α' => return { manner with checks := some true }
      | 'β' => return { manner with checks := some false }
      | 'γ' => return { manner with heads := true }
      | '1' => return { manner with first := <- fieldNumber? text }
      | '2' => return { manner with second := <- fieldNumber? text }
      | 'j' =>
        let number <- fieldNumber? text
        return { manner with first := number, second := number }
      | 'e' =>
        if manner.filler.any (· != text.toList) then
          throw "conflicting empty-field replacement strings"
        return { manner with filler := some text.toList }
      | 'o' =>
        if text = "auto" then return { manner with counts := some (0, 0) }
        return { manner with format := some (manner.format.getD [] ++ (<- joinedFields text)) }
      | 't' => match text.toList with
        | [] => return { manner with isWhole := true, separator := some '\n' }
        | [c] => return { manner with separator := some c }
        | ['\\', '0'] => return { manner with separator := some (Char.ofNat 0) }
        | _ => throw s!"multi-character tab {quoted text}"
      | _ =>
        let manner := if letter = 'v' then { manner with saysPairs := false } else manner
        match text with
        | "1" => return { manner with saysFirst := true }
        | "2" => return { manner with saysSecond := true }
        | _ => throw s!"invalid field number: {quoted text}")
    {}

def join : Utility :=
  withOptions joinOptions fun program call => do
    match joinManner call with
    | .error fault => complain program fault
    | .ok manner => match call.operands with
      | [left, right] =>
        if left = "-" && right = "-" then
          return <- complain program "both files cannot be standard input"
        match <- readOrComplain program left with
        | none => return failure
        | some first => match <- readOrComplain program right with
          | none => return failure
          | some second =>
            let rest (text : Chars) : Joining.Rest :=
              ⟨none, (linesOf manner.ending text).map manner.read, 0⟩
            let a := rest first
            let b := rest second
            let size (rest : Joining.Rest) : Nat := (rest.lines.head?.map (·.fields.size)).getD 0
            let manner :=
              if manner.counts.isSome then { manner with counts := some (size a, size b) }
              else manner
            let hasHeads := manner.heads && !(a.lines.isEmpty && b.lines.isEmpty)
            let state : Joining := {}
            let state :=
              if hasHeads then
                state.say manner (some (a.lines.headD .blank)) (some (b.lines.headD .blank))
              else state
            let drop (rest : Joining.Rest) : Joining.Rest :=
              if hasHeads then ⟨none, rest.lines.drop 1, min 1 rest.lines.length⟩ else rest
            let names := (left, right)
            let limit := a.lines.length + b.lines.length + 2
            let (a, b, state) := state |> Joining.join manner names limit (drop a) (drop b)
            let isLone := !(a.lines.isEmpty && b.lines.isEmpty)
            let both := !a.lines.isEmpty && !b.lines.isEmpty
            let state := if isLone && both then { state with hasLone := true } else state
            let state := state |> Joining.finish manner names false manner.saysFirst limit a
            let state := state |> Joining.finish manner names true manner.saysSecond limit b
            state.complaints.reverse.forM fun complaint => discard (complain program complaint)
            let status <- answerText program state.said.reverse.flatten
            if !state.disordered.isEmpty && !state.isBroken then
              complain program "input is not in sorted order"
            else return if state.complaints.isEmpty then status else failure
      | [] => complainOfMissing program []
      | [only] => complainOfMissing program [only]
      | _ :: _ :: extra :: _ => complainOfExtra program extra

end BaseLanguage.Shell
