import BaseLanguage.Shell.Utility.Options

namespace BaseLanguage.Shell

open Text

/-!
# Filled paragraphs

`fmt` breaks paragraphs into lines of about one length.  Where a paragraph is broken has a price: for
lines that are too short, for neighbours that differ, for the ends of sentences.  The breaks with
the lowest price are chosen.
-/

structure FillManner where
  width : Nat := 75
  goal : Nat := 70
  isCrown : Bool := false
  isTagged : Bool := false
  onlySplits : Bool := false
  isUniform : Bool := false
  mark : Chars := []
  markIndent : Nat := 0
  markLength : Nat := 0

structure FillWord where
  text : Chars
  space : Nat
  opens : Bool
  hasPoint : Bool
  hasSign : Bool
  isFinal : Bool

namespace FillWord

def length (word : FillWord) : Nat := word.text.length

def of (text : Chars) (space : Nat) (endsLine : Bool) (uniform : Bool) : FillWord :=
  let isClosing (c : Char) : Bool := [')', ']', '\'', '"'].contains c
  let last := text.getLastD ' '
  let inner := text.take 1 ++ (((text.drop 1).reverse.dropWhile isClosing).reverse)
  let hasPoint := ['.', '?', '!'].contains (inner.getLastD ' ')
  let isFinal := hasPoint && (endsLine || 1 < space)
  { text
    space := if endsLine || uniform then (if isFinal then 2 else 1) else space
    opens := ['(', '[', '\'', '\x60', '"'].contains (text.headD ' ')
    hasPoint
    hasSign := isGraphic last && last ≠ ' ' && !isAlphanumeric last
    isFinal }

end FillWord

/-! ## Prices -/

structure FillChoice where
  price : Int := 0
  next : Nat := 0
  length : Nat := 0

def squareOf (value : Int) : Int := value * value

def startPrice (words : Array FillWord) (start : Nat) : Int :=
  let price : Int := squareOf 70
  let before : Option FillWord := if start = 0 then none else words[start - 1]?
  let second : Option FillWord := if start <= 1 then none else words[start - 2]?
  let price := match before with
    | none => price
    | some word =>
      if word.hasPoint then
        if word.isFinal then price - squareOf 50 else price + squareOf 600
      else if word.hasSign then price - squareOf 40
      else if second.any (·.isFinal) then price + squareOf 200 / (word.length + 2)
      else price
  match words[start]? with
  | none => price
  | some word =>
    if word.opens then price - squareOf 40
    else if word.isFinal then price + squareOf 150 / (word.length + 2)
    else price

def linePrice (goal count : Nat) (choices : Array FillChoice) (next length : Nat) : Int :=
  if next = count then 0
  else
    let short : Int := (goal : Int) - length
    let price := squareOf (short * 10)
    let following := choices.getD next {}
    if following.next = count then price
    else
      let ragged : Int := (length : Int) - following.length
      price + squareOf (ragged * 10) / 2

def bestBreak (manner : FillManner) (words : Array FillWord) (choices : Array FillChoice)
    (lastLength : Nat) (start : Nat) : Nat -> Nat -> Nat -> Option FillChoice -> Option FillChoice
  | 0, _, _, best => best
  | limit + 1, next, length, best =>
    let count := words.size
    let price := linePrice manner.goal count choices next length + (choices.getD next {}).price
    let price :=
      if start = 0 && 0 < lastLength then
        let ragged : Int := (length : Int) - lastLength
        price + squareOf (ragged * 10) / 2
      else price
    let best := match best with
      | some found => if price < found.price then some ⟨price, next, length⟩ else best
      | none => some ⟨price, next, length⟩
    if next = count then best
    else
      let gap := (words[next - 1]?.map (·.space)).getD 0
      let size := (words[next]?.map (·.length)).getD 0
      let length := length + gap + size
      if length < manner.width then
        bestBreak manner words choices lastLength start limit (next + 1) length best
      else best

variable (manner : FillManner)

def bestBreaks (words : Array FillWord) (first other : Nat) : Array FillChoice :=
  let count := words.size
  (List.range count).foldl
    (fun choices index =>
      let start := count - 1 - index
      let indent := if start = 0 then first else other
      let size := (words[start]?.map (·.length)).getD 0
      let best := bestBreak manner words choices 0 start (count + 1) (start + 1) (indent + size)
        none
      match best with
      | some choice =>
        choices.set! start { choice with price := choice.price + startPrice words start }
      | none => choices)
    (Array.replicate (count + 1) {})

/-! ## Lines -/

def fillGap (tabs : Bool) (column space : Nat) : Chars :=
  let target := column + space
  let tabTarget := target / 8 * 8
  if tabs && column + 1 < tabTarget then
    let count := (tabTarget - column + 7) / 8
    List.replicate count '\t' ++ List.replicate (target - tabTarget) ' '
  else List.replicate space ' '

def filledLines (manner : FillManner) (tabs : Bool) (markIndent : Nat) (words : Array FillWord)
    (choices : Array FillChoice) (other : Nat) : Nat -> Nat -> Nat -> Chars
  | 0, _, _ => []
  | limit + 1, start, indent =>
    if words.size <= start then []
    else
      let next := max (start + 1) (choices.getD start {}).next
      let front := fillGap tabs 0 markIndent ++ manner.mark
      let reached := markIndent + manner.mark.length
      let front := front ++ fillGap tabs reached (indent - reached)
      let (text, _) := (List.range (next - start)).foldl
        (fun ((text, column) : Chars × Nat) index => match words[start + index]? with
          | some word =>
            let column := column + word.length
            let gap := if start + index + 1 = next then [] else fillGap tabs column word.space
            (text ++ word.text ++ gap, column + word.space)
          | none => (text, column))
        ([], max reached indent)
      front ++ text ++ '\n' ::
        filledLines manner tabs markIndent words choices other limit next other

/-! ## Paragraphs -/

structure FillLine where
  markIndent : Nat
  column : Nat
  isMarked : Bool
  rest : Chars
  whole : Chars
  isEnded : Bool

def frontBlanks : Nat -> Chars -> Nat × Chars
  | column, ' ' :: rest => frontBlanks (column + 1) rest
  | column, '\t' :: rest => frontBlanks (column / 8 * 8 + 8) rest
  | column, rest => (column, rest)

def FillLine.of (line : Chars) : FillLine :=
  let isEnded := line.getLast? == some '\n'
  let whole := if isEnded then line.dropLast else line
  let (column, rest) := frontBlanks 0 whole
  if manner.mark.isEmpty then ⟨min manner.markIndent column, column, true, rest, whole, isEnded⟩
  else if manner.mark.isPrefixOf rest then
    let (behind, rest) := frontBlanks (column + manner.mark.length) (rest.drop manner.mark.length)
    ⟨column, behind, true, rest, whole, isEnded⟩
  else ⟨column, column, false, rest, whole, isEnded⟩

namespace FillLine

def fills (line : FillLine) : Bool :=
  line.isMarked && !line.rest.isEmpty && manner.markIndent <= line.markIndent &&
    line.markIndent + manner.markLength <= line.column

def words (manner : FillManner) (line : FillLine) : Nat -> Nat -> Chars -> List FillWord
  | 0, _, _ => []
  | limit + 1, column, text =>
    if text.isEmpty then []
    else
      let isGap (c : Char) : Bool := isSpace c
      let word := text.takeWhile (!isGap ·)
      let word := if word.isEmpty then text.take 1 else word
      let behind := text.drop word.length
      let reached := column + word.length
      let (next, rest) := frontBlanks reached behind
      .of word (next - reached) rest.isEmpty manner.isUniform :: line.words manner limit next rest

def allWords (line : FillLine) : List FillWord :=
  line.words manner (line.rest.length + 1) line.column line.rest

end FillLine

structure FillState where
  said : List Chars := []
  other : Nat := 0

def paragraphOf (state : FillState) (first : FillLine)
    (rest : List FillLine) : List FillLine × Nat × List FillLine :=
  let isSame (line : FillLine) : Bool :=
    line.markIndent = first.markIndent && line.isMarked && !line.rest.isEmpty &&
      line.markIndent + manner.markLength <= line.column
  let same := rest.head?.any isSame
  let second := (rest.head?.map FillLine.column).getD 0
  let other :=
    if manner.onlySplits then first.column
    else if manner.isCrown then if same then second else first.column
    else if manner.isTagged then
      if same && second ≠ first.column then second
      else if state.other = first.column then (if first.column = 0 then 3 else 0)
      else state.other
    else first.column
  let goesOn (line : FillLine) : Bool := isSame line && line.column = other
  let taken : List FillLine :=
    if manner.onlySplits then []
    else if manner.isCrown then
      if same then rest.take 1 ++ (rest.drop 1).takeWhile goesOn else []
    else if manner.isTagged then
      if same && second ≠ first.column then rest.take 1 ++ (rest.drop 1).takeWhile goesOn else []
    else rest.takeWhile goesOn
  (first :: taken, other, rest.drop taken.length)

def fillLines (manner : FillManner) (tabs : Bool) : Nat -> List FillLine -> FillState -> FillState
  | 0, _, state => state
  | _, [], state => state
  | limit + 1, line :: rest, state =>
    if !line.fills manner then
      let text : Chars :=
        if line.rest.isEmpty && (manner.mark.isEmpty || !line.isMarked) then []
        else if !line.isMarked then line.whole
        else if line.rest.isEmpty then fillGap tabs 0 line.markIndent ++ manner.mark
        else line.whole
      fillLines manner tabs limit rest { state with said := (text ++ ['\n']) :: state.said }
    else
      let (lines, other, rest) := paragraphOf manner state line rest
      let words := (lines.flatMap (FillLine.allWords manner)).toArray
      let last := words.size - 1
      let words := words.modify last ({ · with hasPoint := true, isFinal := true })
      let choices := bestBreaks manner words line.column other
      let text := filledLines manner tabs line.markIndent words choices other
        (words.size + 1) 0 line.column
      fillLines manner tabs limit rest { said := text :: state.said, other }

def fmtOptions : OptionTable where
  letters := "0123456789cg:p:stuw:"
  words := [("crown-margin", 'c'), ("prefix", 'p'), ("split-only", 's'),
    ("tagged-paragraph", 't'), ("uniform-spacing", 'u'), ("width", 'w'), ("goal", 'g')]

def fillManner (call : ProgramCall) : Except String FillManner := do
  let digits := (call.options.map Prod.fst).filter isDigit
  let given := (call.argument? 'w').orElse fun _ =>
    if digits.isEmpty then none else some (.ofList digits)
  let number (text : String) (most : Nat) : Except String Nat := match digitsValue? text with
    | some value =>
      if value <= most then .ok value
      else .error s!"invalid width: {quoted text}: Numerical result out of range"
    | none => .error s!"invalid width: {quoted text}"
  let width <- (given.mapM (number · 2500))
  let goal <- (call.argument? 'g').mapM (number · (width.getD 75))
  let width := (width.orElse fun _ => goal.map (· + 10)).getD 75
  let goal := goal.getD (width * 187 / 200)
  let mark := ((call.argument? 'p').getD "").toList
  let bare := mark.dropWhile (· = ' ')
  let trimmed := dropTrailing (· = ' ') bare
  return {
    width, goal
    isCrown := call.has 'c'
    isTagged := call.has 't'
    onlySplits := call.has 's'
    isUniform := call.has 'u'
    mark := trimmed
    markIndent := mark.length - bare.length
    markLength := bare.length }

def fmt : Utility :=
  withOptions fmtOptions fun program call => do
    match fillManner call with
    | .error fault => complain program fault
    | .ok manner =>
      allOf <| (operandsOrInput call.operands).map fun name => do
        match <- readOperand name with
        | .error fault => complain program s!"cannot open {quoted name} for reading: {fault}"
        | .ok bytes =>
          let text := octetsOf bytes
          let lines := (linesWithEnds '\n' text).map (.of manner)
          let state := fillLines manner (text.contains '\t') (lines.length + 1) lines {}
          answerText program state.said.reverse.flatten

/-!
## Widths

Long lines are broken, and tabs and blanks stand for each other.
-/

/-! ## Long lines -/

def columnBehind (bytes : Bool) (column : Nat) (c : Char) : Nat :=
  if bytes then column + 1
  else if c = '\t' then column + 8 - column % 8
  else if c = '\x08' then column - 1
  else if c = '\r' then 0
  else column + 1

def splitAtBlank (current : Chars) : Chars × Chars :=
  let behind := current.takeWhile (fun c => c ≠ ' ' && c ≠ '\t')
  (current.drop behind.length, behind)

def foldLine (bytes spaces : Bool) (width : Nat) (line : Chars) : List Chars :=
  let columnOf (text : Chars) : Nat := text.reverse.foldl (columnBehind bytes) 0
  let (found, current, _) := line.foldl
    (fun ((found, current, column) : List Chars × Chars × Nat) c =>
      let next := columnBehind bytes column c
      if next <= width || current.isEmpty then (found, c :: current, next)
      else
        let (front, behind) := if spaces then splitAtBlank current else ([], [])
        if front.isEmpty then (current.reverse :: found, [c], columnBehind bytes 0 c)
        else
          let current := c :: behind
          (front.reverse :: found, current, columnOf current))
    ([], [], 0)
  (current.reverse :: found).reverse

def foldOptions : OptionTable where
  letters := "0123456789bsw:"
  words := [("bytes", 'b'), ("spaces", 's'), ("width", 'w')]

def fold : Utility :=
  withOptions foldOptions fun program call => do
    let digits := (call.options.map Prod.fst).filter isDigit
    let text := (call.argument? 'w').getD (if digits.isEmpty then "80" else .ofList digits)
    match digitsValue? text with
    | none => complain program s!"invalid number of columns: {plainlyQuoted text}"
    | some 0 =>
      complain program
        s!"invalid number of columns: {plainlyQuoted text}: Numerical result out of range"
    | some width =>
      filterFiles program call.operands fun octets =>
        (linesWithEnds '\n' octets).flatMap fun line =>
          let ended := line.getLast? == some '\n'
          let inside := if ended then line.dropLast else line
          List.intercalate ['\n'] (foldLine (call.has 'b') (call.has 's') width inside) ++
            (if ended then ['\n'] else [])

/-! ## Tabs -/

structure TabStops where
  stops : List Nat := []
  multiples : Option Nat := none
  steps : Option Nat := none

namespace TabStops

def next? (tabs : TabStops) (column : Nat) : Option Nat :=
  match tabs.stops.find? (column < ·) with
  | some stop => some stop
  | none => match tabs.multiples, tabs.steps with
    | some width, _ => some (column + width - column % width)
    | none, some width =>
      let last := tabs.stops.getLastD 0
      some (column + width - (column - last) % width)
    | none, none => none

def ofLists (texts : List String) : Except String TabStops := do
  let words := texts.flatMap fun text =>
    (pieces ',' (text.toList.map fun c => if c = ' ' || c = '\t' then ',' else c)).filter
      (!·.isEmpty)
  let tabs <- words.foldlM
    (fun (tabs : TabStops) word => do
      let (sign, digits) : Option Char × Chars := match word with
        | '/' :: digits => (some '/', digits)
        | '+' :: digits => (some '+', digits)
        | digits => (none, digits)
      let bad := digits.dropWhile isDigit
      if !bad.isEmpty then
        throw s!"tab size contains invalid character(s): {quoted (String.ofList bad)}"
      let value := valueOf digits
      match sign with
      | some '/' => return { tabs with multiples := if value = 0 then none else some value }
      | some _ => return { tabs with steps := if value = 0 then none else some value }
      | none => return { tabs with stops := tabs.stops ++ [value] })
    ({} : TabStops)
  if tabs.stops.contains 0 then throw "tab size cannot be 0"
  if !(tabs.stops.zip (tabs.stops.drop 1)).all (fun pair => pair.1 < pair.2) then
    throw "tab sizes must be ascending"
  if tabs.multiples.isSome && tabs.steps.isSome then
    throw "'/' specifier is mutually exclusive with '+'"
  match tabs.stops, tabs.multiples, tabs.steps with
  | [], none, none => return { multiples := some 8 }
  | [width], none, none => return { multiples := some width }
  | _, _, _ => return tabs

def ofCall (call : ProgramCall) : Except String TabStops :=
  let letters := (call.options.filter fun option => isDigit option.1 || option.1 = ',').map Prod.fst
  ofLists (call.allArguments 't' ++ (if letters.isEmpty then [] else [.ofList letters]))

end TabStops

def expandTabs (tabs : TabStops) (onlyFront : Bool) (line : Chars) : Chars :=
  (line.foldl
    (fun ((found, column, front) : Chars × Nat × Bool) c =>
      if !front && onlyFront then (c :: found, column, front)
      else if c = '\t' then
        let next := (tabs.next? column).getD (column + 1)
        (List.replicate (next - column) ' ' ++ found, next, front)
      else if c = '\x08' then (c :: found, column - 1, false)
      else (c :: found, column + 1, front && c = ' '))
    ([], 0, true)).1.reverse

def expand : Utility :=
  withOptions
    { letters := "0123456789,it:", words := [("initial", 'i'), ("tabs", 't')] }
    fun program call => do
      match TabStops.ofCall call with
      | .error fault => complain program fault
      | .ok tabs =>
        filterFiles program call.operands fun text =>
          (linesWithEnds '\n' text).flatMap (expandTabs tabs (call.has 'i'))

structure Unexpanding where
  said : Chars := []
  column : Nat := 0
  replaces : Bool := true
  pending : Chars := []
  afterBlank : Bool := true
  isSingle : Bool := false

namespace Unexpanding

def settle (all isBlank : Bool) (c : Char) (state : Unexpanding) : Unexpanding :=
  let pending :=
    if state.pending.isEmpty then []
    else if 1 < state.pending.length && state.isSingle then state.pending.dropLast ++ ['\t']
    else state.pending
  { state with
    said := c :: (pending ++ state.said)
    pending := []
    isSingle := if state.pending.isEmpty then state.isSingle else false
    afterBlank := isBlank
    replaces := state.replaces && (all || isBlank) }

def take (tabs : TabStops) (all : Bool) (state : Unexpanding) (c : Char) : Unexpanding :=
  if !state.replaces then { state with said := c :: state.said }
  else if c = ' ' || c = '\t' then
    match tabs.next? state.column with
    | none => { state with replaces := false } |> settle all true c
    | some next =>
      if c = '\t' then
        let kept := if state.isSingle then ['\t'] else []
        { state with column := next, pending := kept } |> settle all true c
      else
        let column := state.column + 1
        if state.afterBlank && column = next then
          let kept := if state.isSingle then ['\t'] else []
          { state with column, pending := kept } |> settle all true '\t'
        else
          { state with
            column
            isSingle := state.isSingle || column = next
            pending := c :: state.pending
            afterBlank := true }
  else if c = '\x08' then { state with column := state.column - 1 } |> settle all false c
  else { state with column := state.column + 1 } |> settle all false c

end Unexpanding

def unexpandLine (tabs : TabStops) (all : Bool) (line : Chars) : Chars :=
  let state := line.foldl (Unexpanding.take tabs all) {}
  (state.pending ++ state.said).reverse

def unexpand : Utility :=
  withOptions
    { letters := "0123456789,at:α", words := [("tabs", 't'), ("all", 'a'), ("first-only", 'α')] }
    fun program call => do
      match TabStops.ofCall call with
      | .error fault => complain program fault
      | .ok tabs =>
        let all := (call.has 'a' || call.has 't') && !call.has 'α'
        filterFiles program call.operands fun text =>
          (linesWithEnds '\n' text).flatMap (unexpandLine tabs all)

end BaseLanguage.Shell
