import BaseLanguage.Shell.Utility.Filter
import BaseLanguage.Text.Regex.Reader

namespace BaseLanguage.Shell

open Text

/-!
# Numbered lines

`nl` says lines with numbers in front of them.  A file may have pages, each with a head, a body and a
foot, whose lines are numbered in ways of their own.
-/

inductive NumberedLines where
  | all
  | filled
  | none
  | matching (regex : Regex)

inductive PagePart where
  | head
  | body
  | foot
  deriving DecidableEq

structure NumberManner where
  head : NumberedLines := .none
  body : NumberedLines := .filled
  foot : NumberedLines := .none
  first : Int := 1
  step : Int := 1
  blanks : Nat := 1
  width : Nat := 6
  separator : Chars := ['\t']
  mark : Chars := ['\\', ':']
  format : String := "rn"
  restarts : Bool := true

namespace NumberManner

def linesOf (manner : NumberManner) : PagePart -> NumberedLines
  | .head => manner.head
  | .body => manner.body
  | .foot => manner.foot

def column (manner : NumberManner) (number : Int) : Chars :=
  let sign : Chars := if number < 0 then ['-'] else []
  let digits := decimal number.natAbs
  let gap (c : Char) : Chars := List.replicate (manner.width - sign.length - digits.length) c
  if manner.format = "ln" then sign ++ digits ++ gap ' '
  else if manner.format = "rz" then sign ++ gap '0' ++ digits
  else gap ' ' ++ sign ++ digits

def part? (manner : NumberManner) (line : Chars) : Option PagePart :=
  let mark := manner.mark
  if mark.isEmpty then .none
  else if line == mark ++ mark ++ mark then some .head
  else if line == mark ++ mark then some .body
  else if line == mark then some .foot
  else .none

end NumberManner

structure NumberState where
  part : PagePart := .body
  next : Int := 1
  blanks : Nat := 0

def NumberManner.line (manner : NumberManner) (state : NumberState) (line : Chars) :
    Chars × NumberState :=
  match manner.part? line with
  | some part =>
    (['\n'], { state with
      part
      next :=
        if manner.restarts && (part = .head || part = .body || part = .foot) then manner.first
        else state.next })
  | none =>
    let numbered : Chars × NumberState :=
      (manner.column state.next ++ manner.separator ++ line ++ ['\n'],
        { state with next := state.next + manner.step })
    let plain : Chars × NumberState :=
      (List.replicate (manner.width + manner.separator.length) ' ' ++ line ++ ['\n'], state)
    match manner.linesOf state.part with
    | .all =>
      if manner.blanks <= 1 then numbered
      else if !line.isEmpty || state.blanks + 1 = manner.blanks then
        (numbered.1, { numbered.2 with blanks := 0 })
      else (plain.1, { state with blanks := state.blanks + 1 })
    | .filled => if line.isEmpty then plain else numbered
    | .none => plain
    | .matching regex =>
      if (regex.search? { text := line.toArray } 0).isSome then numbered else plain

def nlOptions : OptionTable where
  letters := "b:d:f:h:i:l:n:ps:v:w:"
  words := [("header-numbering", 'h'), ("body-numbering", 'b'), ("footer-numbering", 'f'),
    ("starting-line-number", 'v'), ("line-increment", 'i'), ("no-renumber", 'p'),
    ("join-blank-lines", 'l'), ("number-separator", 's'), ("number-width", 'w'),
    ("number-format", 'n'), ("section-delimiter", 'd')]

def numberedLines (what text : String) : Except String NumberedLines := match text.toList with
  | 'a' :: _ => .ok .all
  | 't' :: _ => .ok .filled
  | 'n' :: _ => .ok .none
  | 'p' :: pattern => match Regex.parse { extended := false, lenient := true } pattern with
    | .ok (regex, _) => .ok (.matching regex)
    | .error fault => .error fault.message
  | _ => .error s!"invalid {what} numbering style: {quoted text}\n{helpHint program}"
where
  program : String := "nl"

def wholeNumber? (text : String) : Option Int := match text.toList with
  | '-' :: digits => (digitsValue? (.ofList digits)).map fun value => -(value : Int)
  | '+' :: digits => (digitsValue? (.ofList digits)).map fun value => (value : Int)
  | _ => (digitsValue? text).map fun value => (value : Int)

def numberManner (call : ProgramCall) : Except String NumberManner :=
  call.options.foldlM
    (fun (manner : NumberManner) (letter, text) => do
      let whole (what : String) : Except String Int := match wholeNumber? text with
        | some value => .ok value
        | none => .error s!"invalid {what}: {quoted text}"
      let positive (what : String) : Except String Nat := match wholeNumber? text with
        | some value =>
          if 0 < value then .ok value.toNat
          else .error s!"invalid {what}: {quoted text}: Numerical result out of range"
        | none => .error s!"invalid {what}: {quoted text}"
      match letter with
      | 'h' => return { manner with head := <- numberedLines "header" text }
      | 'b' => return { manner with body := <- numberedLines "body" text }
      | 'f' => return { manner with foot := <- numberedLines "footer" text }
      | 'v' => return { manner with first := <- whole "starting line number" }
      | 'i' => return { manner with step := <- whole "line number increment" }
      | 'p' => return { manner with restarts := false }
      | 'l' => return { manner with blanks := <- positive "line number of blank lines" }
      | 's' => return { manner with separator := text.toList }
      | 'w' => return { manner with width := <- positive "line number field width" }
      | 'n' =>
        if ["ln", "rn", "rz"].contains text then return { manner with format := text }
        else
          let hint := helpHint "nl"
          throw s!"invalid line numbering format: {quoted text}\n{hint}"
      | _ => match text.toList with
        | [c] => return { manner with mark := [c, ':'] }
        | mark => return { manner with mark })
    {}

def nl : Utility :=
  withOptions nlOptions fun program call => do
    match numberManner call with
    | .error fault => complain program fault
    | .ok manner =>
      let contents <- (operandsOrInput call.operands).mapM (readOrComplain program)
      let lines := (contents.filterMap id).flatMap (linesOf '\n')
      let (said, _) := lines.foldl
        (fun ((said, state) : List Chars × NumberState) line =>
          let (text, state) := manner.line state line
          (text :: said, state))
        ([], { next := manner.first })
      let status <- answerText program said.reverse.flatten
      return if contents.all Option.isSome then status else failure

/-!
## Lines

These work line by line: lines that repeat are left out, and their order or that of their characters
is turned around.
-/

/-! ## Repeated lines -/

inductive GroupGap where
  | none
  | before
  | behind
  | between
  | around
  deriving DecidableEq

def uniqOptions : OptionTable where
  letters := "0123456789cdDf:is:uw:zα::β::γ:"
  words := [("count", 'c'), ("repeated", 'd'), ("all-repeated", 'α'), ("skip-fields", 'f'),
    ("group", 'β'), ("ignore-case", 'i'), ("skip-chars", 's'), ("unique", 'u'),
    ("check-chars", 'w'), ("zero-terminated", 'z')]

def withoutFields : Nat -> Chars -> Chars
  | 0, line => line
  | count + 1, line =>
    let behind := line.dropWhile (fun c => c = ' ' || c = '\t')
    withoutFields count (behind.dropWhile (fun c => c ≠ ' ' && c ≠ '\t'))

def groupsBy (key : Chars -> Chars) (lines : List Chars) : List (List Chars) :=
  lines.foldr
    (fun line groups => match groups with
      | (first :: group) :: others =>
        if key line == key first then (line :: first :: group) :: others else [line] :: groups
      | groups => [line] :: groups)
    []

structure UniqManner where
  fields : Nat := 0
  chars : Nat := 0
  most : Option Nat := none
  ignoresCase : Bool := false
  counts : Bool := false
  showsSingle : Bool := true
  showsRepeated : Bool := true
  showsAll : Bool := false
  gap : GroupGap := .none
  ending : Char := '\n'

namespace UniqManner

def key (manner : UniqManner) (line : Chars) : Chars :=
  let line := (withoutFields manner.fields line).drop manner.chars
  let line := (manner.most.map line.take).getD line
  if manner.ignoresCase then line.map Char.toLower else line

def written (manner : UniqManner) (groups : List (List Chars)) : Chars :=
  let chosen := groups.filter fun group =>
    if group.length = 1 then manner.showsSingle else manner.showsRepeated
  let empty := [manner.ending]
  let texts := chosen.map fun group =>
    let digits := decimal group.length
    let front :=
      if manner.counts then List.replicate (7 - digits.length) ' ' ++ digits ++ [' '] else []
    let shown := if manner.showsAll then group else group.take 1
    shown.flatMap (front ++ · ++ [manner.ending])
  match manner.gap with
  | .none => texts.flatten
  | .before => texts.flatMap (empty ++ ·)
  | .behind => texts.flatMap (· ++ empty)
  | .between => List.intercalate empty texts
  | .around => texts.flatMap (empty ++ ·) ++ (if texts.isEmpty then [] else empty)

end UniqManner

def uniqManner (call : ProgramCall) : Except String UniqManner := do
  let number (letter : Char) (what : String) : Except String (Option Nat) :=
    match call.argument? letter with
    | none => .ok none
    | some text => match digitsValue? text with
      | some value => .ok (some value)
      | none => .error s!"{text}: invalid number of {what}"
  let fields <- number 'f' "fields to skip"
  let chars <- number 's' "bytes to skip"
  let most <- number 'w' "bytes to compare"
  let digits := (call.options.map Prod.fst).filter isDigit
  let fields := fields.getD (if digits.isEmpty then 0 else valueOf digits)
  let repeatedGap <-
    match call.argument? 'α' with
    | none => pure .none
    | some "" => pure .none
    | some text =>
      choiceOf "--all-repeated" text [("none", .none), ("prepend", .before), ("separate", .between)]
  let groupGap <-
    match call.argument? 'β' with
    | none => pure none
    | some "" => pure (some .between)
    | some text =>
      (choiceOf "--group" text [("prepend", .before), ("append", .behind),
        ("separate", .between), ("both", .around)]).map some
  let all := call.has 'D' || call.has 'α'
  if groupGap.isSome && (call.has 'c' || call.has 'd' || all || call.has 'u') then
    throw "--group is mutually exclusive with -c/-d/-D/-u"
  if all && call.has 'c' then throw "printing all duplicated lines and repeat counts is meaningless"
  return {
    fields, chars := chars.getD 0, most
    ignoresCase := call.has 'i'
    counts := call.has 'c'
    showsSingle := !(call.has 'd' || all)
    showsRepeated := !call.has 'u'
    showsAll := all || groupGap.isSome
    gap := groupGap.getD repeatedGap
    ending := if call.has 'z' then Char.ofNat 0 else '\n' }

def uniq : Utility := fun program arguments => do
  let isSkip (argument : String) : Bool := match argument.toList with
    | '+' :: digits => !digits.isEmpty && digits.all isDigit
    | _ => false
  let arguments := arguments.map fun argument =>
    if isSkip argument then "-s" ++ .ofList (argument.toList.drop 1) else argument
  withOptions uniqOptions
    (fun program call => do
      match uniqManner call, call.operands with
      | .error fault, _ =>
        if fault.contains ':' && !fault.startsWith "invalid" then complain program fault
        else complainOfCall program fault
      | _, _ :: _ :: extra :: _ => complainOfExtra program extra
      | .ok manner, operands => match <- readOrComplain program (operands.headD "-") with
        | none => return failure
        | some text =>
          let said := manner.written (groupsBy manner.key (linesOf manner.ending text))
          match operands with
          | [_, target] =>
            if target = "-" then answerText program said
            else match <- writeNamed .writing target (bytesOf said) with
              | .ok () => return success
              | .error fault => complain program s!"{quotedIfNeeded target}: {wording fault}"
          | _ => answerText program said)
    program arguments

/-! ## Other orders -/

/-- The places of separators in a text, the last one first, with their lengths.  No two of them
overlap, and a later one counts before an earlier one. -/
def separatorsFromEnd (lengthAt : Nat -> Nat -> Option Nat) (limit : Nat) : Nat -> List (Nat × Nat)
  | 0 => []
  | place + 1 => match lengthAt place limit with
    | some (length + 1) => (place, length + 1) :: separatorsFromEnd lengthAt place place
    | _ => separatorsFromEnd lengthAt limit place

def literalAt (text : Array Char) (separator : Chars) (place limit : Nat) : Option Nat :=
  if limit < place + separator.length then none
  else if (text.extract place (place + separator.length)).toList == separator then
    some separator.length
  else none

def piecesFromEnd (text : Array Char) (before : Bool) (separators : List (Nat × Nat)) :
    List Chars :=
  let cuts := separators.map fun (place, length) => if before then place else place + length
  let (pieces, last) := cuts.foldl
    (fun ((pieces, limit) : List Chars × Nat) cut =>
      ((text.extract cut limit).toList :: pieces, cut))
    ([], text.size)
  ((text.extract 0 last).toList :: pieces).reverse

def tac : Utility :=
  withOptions
    { letters := "brs:", words := [("before", 'b'), ("regex", 'r'), ("separator", 's')] }
    fun program call => do
      let given := ((call.argument? 's').getD "\n").toList
      let separator := if given.isEmpty then [Char.ofNat 0] else given
      let lengthAt? : Except String (Array Char -> Nat -> Nat -> Option Nat) :=
        if call.has 'r' then
          let written := extendedText (separator.length + 1) separator
          match Regex.parse { extended := true, lenient := true } written with
          | .ok (regex, _) =>
            .ok fun text place limit =>
              (regex.matchAt? { text := text.extract 0 limit } place).map fun found =>
                found.ending - place
          | .error fault => .error fault.message
        else .ok (literalAt · separator)
      match lengthAt? with
      | .error fault => complain program fault
      | .ok lengthAt =>
        allOf <| (operandsOrInput call.operands).map fun name => do
          match <- readOperand name with
          | .ok bytes =>
            let text := (octetsOf bytes).toArray
            let separators := separatorsFromEnd (lengthAt text) text.size text.size
            answerText program (piecesFromEnd text (call.has 'b') separators).flatten
          | .error fault =>
            if fault = wording .isFolder then complain program s!"{name}: read error: {fault}"
            else complain program s!"failed to open {quoted name} for reading: {fault}"

def rev : Utility :=
  withOptions { letters := "" } fun program call =>
    allOf <| (operandsOrInput call.operands).map fun name => do
      match <- readOperand name with
      | .ok bytes =>
        answerText program <|
          (linesWithEnds '\n' (octetsOf bytes)).flatMap fun line =>
            if line.getLast? == some '\n' then line.dropLast.reverse ++ ['\n'] else line.reverse
      | .error fault => complain program s!"cannot open {name}: {fault}"

end BaseLanguage.Shell
