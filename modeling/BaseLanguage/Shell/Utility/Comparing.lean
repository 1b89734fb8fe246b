import BaseLanguage.Text.Difference
import BaseLanguage.Shell.Utility.FileLists
import BaseLanguage.Text.Regex.Reader

namespace BaseLanguage.Shell

open Text

/-!
# Texts that are compared

A text is a row of lines, of which the last one may lack its end.  Lines may count as the same
although they differ in blanks or in the size of letters.
-/

structure ComparedText where
  lines : Array Chars
  isOpen : Bool

namespace ComparedText

def ofOctets (octets : Chars) : ComparedText where
  lines := (linesOf '\n' octets).toArray
  isOpen := !octets.isEmpty && octets.getLast? != some '\n'

def size (text : ComparedText) : Nat := text.lines.size

def line (text : ComparedText) (number : Nat) : Chars := text.lines.getD number []

def isOpenAt (text : ComparedText) (number : Nat) : Bool := text.isOpen && number + 1 = text.size

end ComparedText

structure LineManner where
  ignoresCase : Bool := false
  ignoresBlanks : Bool := false
  ignoresAmounts : Bool := false
  ignoresEnds : Bool := false
  ignoresTabs : Bool := false
  dropsReturns : Bool := false
  ignoresLastEnd : Bool := false
  deriving DecidableEq

namespace LineManner

def withoutTabs (line : Chars) : Chars :=
  (line.foldl
    (fun (said, column) c =>
      if c = '\t' then
        let count := 8 - column % 8
        (List.replicate count ' ' ++ said, column + count)
      else (c :: said, column + 1))
    (([] : Chars), 0)).1.reverse

def withFewBlanks : Chars -> Chars
  | [] => []
  | c :: rest =>
    let others := withFewBlanks rest
    if isSpace c then
      match others with
      | [] => []
      | ' ' :: _ => others
      | _ => ' ' :: others
    else c :: others

variable (manner : LineManner)

def key (line : Chars) : Chars :=
  let line := if manner.dropsReturns && line.getLast? == some '\r' then line.dropLast else line
  let line := if manner.ignoresTabs then withoutTabs line else line
  let line :=
    if manner.ignoresBlanks then line.filter (!isSpace ·)
    else if manner.ignoresAmounts then withFewBlanks line
    else if manner.ignoresEnds then dropTrailing isSpace line
    else line
  if manner.ignoresCase then line.map Char.toLower else line

def countsEnds : Bool :=
  !(manner.ignoresBlanks || manner.ignoresAmounts || manner.ignoresEnds || manner.ignoresLastEnd)

def keys (text : ComparedText) : Array (Chars × Bool) :=
  text.lines.mapIdx fun index line => (manner.key line, manner.countsEnds && text.isOpenAt index)

end LineManner

def keyNumbers (left right : Array (Chars × Bool)) : Array Nat × Array Nat :=
  let step (state : List ((Chars × Bool) × Nat) × Array Nat) (key : Chars × Bool) :
      List ((Chars × Bool) × Nat) × Array Nat :=
    match state.1.lookup key with
    | some number => (state.1, state.2.push number)
    | none => ((key, state.1.length) :: state.1, state.2.push state.1.length)
  let (known, first) := left.foldl step ([], #[])
  let (_, second) := right.foldl step (known, #[])
  (first, second)

def sameFront (left right : Array Nat) (horizon : Nat) : Nat :=
  let same := ((left.toList.zip right.toList).takeWhile (fun (x, y) => x == y)).length
  same - horizon

def textChanges (manner : LineManner) (minimal : Bool) (horizon : Nat)
    (left right : ComparedText) : List Change :=
  let (first, second) := keyNumbers (manner.keys left) (manner.keys right)
  let front := sameFront first second horizon
  let first := first.extract front first.size
  let second := second.extract front second.size
  let back := min (sameFront first.reverse second.reverse horizon) (min first.size second.size)
  let rows : Comparison :=
    ⟨first.extract 0 (first.size - back), second.extract 0 (second.size - back)⟩
  (rows.changes minimal).map fun change =>
    { change with left := change.left + front, right := change.right + front }

structure ChangeFilter where
  ignoresEmpty : Bool := false
  ignored : List Regex := []

namespace ChangeFilter

def ignores (filter : ChangeFilter) (line : Chars) : Bool :=
  (filter.ignoresEmpty && line.isEmpty) ||
    filter.ignored.any fun regex => (regex.search? { text := line.toArray } 0).isSome

def counts (filter : ChangeFilter) (left right : ComparedText) (change : Change) : Bool :=
  let removed := (List.range change.removed).map fun index => left.line (change.left + index)
  let added := (List.range change.added).map fun index => right.line (change.right + index)
  !(removed ++ added).all filter.ignores

end ChangeFilter

/-!
## How differences are said

Changes are said one by one, or in pieces with lines around them, as commands for an editor, or with
both texts side by side.
-/

structure TextPair where
  left : ComparedText
  right : ComparedText
  changes : List Change

inductive DiffForm where
  | plain
  | unified (context : Nat)
  | context (context : Nat)
  | editor
  | numbered
  | beside
  | brief
  | merged (name : String)
  deriving DecidableEq

structure DiffLook where
  expandsTabs : Bool := false
  tabInFront : Bool := false
  width : Nat := 130
  onlyLeft : Bool := false
  onlyChanges : Bool := false
  heading : Option Regex := none

namespace TextPair

variable (look : DiffLook)

def markedLine (mark : String) (text : ComparedText) (number : Nat) : Chars :=
  let line := text.line number
  let shown := if look.expandsTabs then LineManner.withoutTabs line else line
  let front :=
    if look.tabInFront then (dropTrailing (· = ' ') mark.toList) ++ ['\t']
    else mark.toList
  let ending := if text.isOpenAt number then "\n\\ No newline at end of file\n" else "\n"
  front ++ shown ++ ending.toList

def markedLines (mark : String) (text : ComparedText) (first count : Nat) : Chars :=
  (List.range count).flatMap fun index => markedLine look mark text (first + index)

def rangeText (first count : Nat) : String :=
  if count <= 1 then numberText (first + count)
  else s!"{numberText (first + 1)},{numberText (first + count)}"

def letterOf (change : Change) : String :=
  if change.removed = 0 then "a" else if change.added = 0 then "d" else "c"

def plainText (pair : TextPair) : Chars :=
  pair.changes.flatMap fun change =>
    let left := rangeText change.left change.removed
    let right := rangeText change.right change.added
    let between := if change.removed = 0 || change.added = 0 then "" else "---\n"
    s!"{left}{letterOf change}{right}\n".toList ++
      markedLines look "< " pair.left change.left change.removed ++ between.toList ++
      markedLines look "> " pair.right change.right change.added

def pieces (gap : Nat) : List Change -> List (List Change)
  | [] => []
  | change :: rest => match pieces gap rest with
    | (next :: more) :: others =>
      if next.left <= change.left + change.removed + gap then (change :: next :: more) :: others
      else [change] :: (next :: more) :: others
    | others => [change] :: others

structure PieceRange where
  left : Nat
  leftCount : Nat
  right : Nat
  rightCount : Nat

def pieceRange (pair : TextPair) (context : Nat) (piece : List Change) : PieceRange :=
  match piece.head?, piece.getLast? with
  | some first, some last =>
    let left := first.left - context
    let right := first.right - context
    let leftEnd := min pair.left.size (last.left + last.removed + context)
    let rightEnd := min pair.right.size (last.right + last.added + context)
    ⟨left, leftEnd - left, right, rightEnd - right⟩
  | _, _ => ⟨0, 0, 0, 0⟩

def headingText (text : ComparedText) (before : Nat) : String :=
  match look.heading with
  | none => ""
  | some regex =>
    let found := ((List.range before).reverse).find? fun number =>
      (regex.search? { text := (text.line number).toArray } 0).isSome
    match found with
    | some number =>
      let line := ((text.line number).dropWhile isSpace).take 40
      " " ++ .ofList (dropTrailing isSpace line)
    | none => ""

def unifiedRange (first count : Nat) : String :=
  if count = 0 then s!"{numberText first},0"
  else if count = 1 then numberText (first + 1)
  else s!"{numberText (first + 1)},{numberText count}"

def unifiedLines (look : DiffLook) (pair : TextPair) (last : Nat) : Nat -> List Change -> Chars
  | start, [] => markedLines look " " pair.left start (last - start)
  | start, change :: rest =>
    markedLines look " " pair.left start (change.left - start) ++
      markedLines look "-" pair.left change.left change.removed ++
      markedLines look "+" pair.right change.right change.added ++
      unifiedLines look pair last (change.left + change.removed) rest

def unifiedText (context : Nat) (pair : TextPair) : Chars :=
  (pieces (2 * context) pair.changes).flatMap fun piece =>
    let range := pair.pieceRange context piece
    let left := unifiedRange range.left range.leftCount
    let right := unifiedRange range.right range.rightCount
    let heading := headingText look pair.left range.left
    s!"@@ -{left} +{right} @@{heading}\n".toList ++
      unifiedLines look pair (range.left + range.leftCount) range.left piece

/-- The lines of one text of a piece, from one of its lines on; the changes are given by their first
lines, the number of their lines, and a mark. -/
def contextLines (look : DiffLook) (text : ComparedText) (last : Nat) :
    Nat -> List (Nat × Nat × String) -> Chars
  | start, [] => markedLines look "  " text start (last - start)
  | start, (first, count, mark) :: rest =>
    markedLines look "  " text start (first - start) ++ markedLines look mark text first count ++
      contextLines look text last (first + count) rest

def contextRange (first count : Nat) : String :=
  if count <= 1 then numberText (first + count)
  else s!"{numberText (first + 1)},{numberText (first + count)}"

def contextText (context : Nat) (pair : TextPair) : Chars :=
  (pieces (2 * context) pair.changes).flatMap fun piece =>
    let range := pair.pieceRange context piece
    let mark (change : Change) (alone : String) : String :=
      if change.removed = 0 || change.added = 0 then alone else "! "
    let removed := piece.map fun change => (change.left, change.removed, mark change "- ")
    let added := piece.map fun change => (change.right, change.added, mark change "+ ")
    let changes (marks : List (Nat × Nat × String)) : Bool := marks.any (·.2.1 ≠ 0)
    let left := contextRange range.left range.leftCount
    let right := contextRange range.right range.rightCount
    let heading := headingText look pair.left range.left
    s!"***************{heading}\n*** {left} ****\n".toList ++
      (if changes removed then
        contextLines look pair.left (range.left + range.leftCount) range.left removed
      else []) ++
      s!"--- {right} ----\n".toList ++
      (if changes added then
        contextLines look pair.right (range.right + range.rightCount) range.right added
      else [])

def editorLines (text : ComparedText) : Bool -> List Nat -> Chars
  | isInside, [] => if isInside then ".\n".toList else []
  | isInside, number :: rest =>
    let line := text.line number
    if line = ['.'] then
      "..\n.\ns/.//\n".toList ++
        (if rest.isEmpty then [] else "a\n".toList ++ editorLines text true rest)
    else line ++ '\n' :: editorLines text (isInside || true) rest

def editorText (pair : TextPair) : Chars :=
  pair.changes.reverse.flatMap fun change =>
    let front := s!"{rangeText change.left change.removed}{letterOf change}\n".toList
    if change.added = 0 then front
    else front ++ editorLines pair.right true ((List.range change.added).map (change.right + ·))

def numberedText (pair : TextPair) : Chars :=
  pair.changes.flatMap fun change =>
    let removal :=
      if change.removed = 0 then ""
      else s!"d{numberText (change.left + 1)} {numberText change.removed}\n"
    let addition :=
      if change.added = 0 then ""
      else s!"a{numberText (change.left + change.removed)} {numberText change.added}\n"
    let lines := (List.range change.added).flatMap fun index =>
      let number := change.right + index
      pair.right.line number ++ (if pair.right.isOpenAt number then [] else ['\n'])
    removal.toList ++ addition.toList ++ lines

/-! ## Side by side -/

def columnGap (expands : Bool) : Nat -> Nat -> Nat -> Chars
  | 0, _, _ => []
  | limit + 1, first, last =>
    let next := first + 8 - first % 8
    if last <= first then []
    else if !expands && next <= last then '\t' :: columnGap expands limit next last
    else ' ' :: columnGap expands limit (first + 1) last

/-- The part of a line that fits into a width, and the column that it reaches.  A tab that reaches
beyond the width is left out. -/
def halfLine (expands : Bool) (width : Nat) : Nat -> Chars -> Chars × Nat
  | column, [] => ([], column)
  | column, c :: rest =>
    if c = '\t' then
      let next := column + 8 - column % 8
      if width <= next then ([], column)
      else
        let (said, reached) := halfLine expands width next rest
        ((if expands then List.replicate (next - column) ' ' else ['\t']) ++ said, reached)
    else if column < width then
      let (said, reached) := halfLine expands width (column + 1) rest
      (c :: said, reached)
    else ([], column)

def besideLine (pair : TextPair) (left right : Option Nat) (sign : Char) : Chars :=
  let tab := if look.expandsTabs then 1 else 8
  let middle := look.width / 2 + (tab + 3) / 2 +
    (if look.width % 2 = 1 && (tab + 3) % 2 = 1 then 1 else 0)
  let start := middle - middle % tab
  let half := if start <= 3 || look.width <= start then 0 else min (start - 3) (look.width - start)
  let start := if half = 0 then look.width else start
  let ends (text : ComparedText) (line : Option Nat) : Bool := line.any (!text.isOpenAt ·)
  let (first, column) := match left with
    | some number => halfLine look.expandsTabs half 0 (pair.left.line number)
    | none => ([], 0)
  let leftEnds := ends pair.left left
  let rightEnds := ends pair.right right
  let sign := if sign = '|' && leftEnds ≠ rightEnds then (if leftEnds then '/' else '\\') else sign
  let (between, column) : Chars × Nat :=
    if sign = ' ' then ([], column)
    else
      let place := (half + start - 1) / 2
      (columnGap look.expandsTabs (place + 1) column place ++ [sign], max column place + 1)
  let second := match right with
    | some number =>
      let line := pair.right.line number
      if line.isEmpty then []
      else
        columnGap look.expandsTabs (start + 1) column start ++
          (halfLine look.expandsTabs half 0 line).1
    | none => []
  first ++ between ++ second ++ (if leftEnds || rightEnds then ['\n'] else [])

def sameLines (pair : TextPair) (left right count : Nat) : Chars :=
  if look.onlyChanges then []
  else
    (List.range count).flatMap fun index =>
      if look.onlyLeft then pair.besideLine look (some (left + index)) none '('
      else pair.besideLine look (some (left + index)) (some (right + index)) ' '

def besideFrom (look : DiffLook) (pair : TextPair) : Nat -> Nat -> List Change -> Chars
  | left, right, [] => pair.sameLines look left right (pair.left.size - left)
  | left, right, change :: rest =>
    let both := min change.removed change.added
    let front := pair.sameLines look left right (change.left - left)
    let changed := (List.range both).flatMap fun index =>
      pair.besideLine look (some (change.left + index)) (some (change.right + index)) '|'
    let removed := (List.range (change.removed - both)).flatMap fun index =>
      pair.besideLine look (some (change.left + both + index)) none '<'
    let added := (List.range (change.added - both)).flatMap fun index =>
      pair.besideLine look none (some (change.right + both + index)) '>'
    front ++ changed ++ removed ++ added ++
      besideFrom look pair (change.left + change.removed) (change.right + change.added) rest

/-! ## Both as one -/

def bareLines (text : ComparedText) (first count : Nat) : Chars :=
  (List.range count).flatMap fun index =>
    let number := first + index
    text.line number ++ (if text.isOpenAt number then [] else ['\n'])

def mergedFrom (name : String) (pair : TextPair) : Nat -> List Change -> Chars
  | start, [] => bareLines pair.left start (pair.left.size - start)
  | start, change :: rest =>
    let removed := bareLines pair.left change.left change.removed
    let added := bareLines pair.right change.right change.added
    let piece :=
      if change.removed = 0 then
        s!"#ifdef {name}\n".toList ++ added ++ s!"#endif /* {name} */\n".toList
      else if change.added = 0 then
        s!"#ifndef {name}\n".toList ++ removed ++ s!"#endif /* ! {name} */\n".toList
      else
        s!"#ifndef {name}\n".toList ++ removed ++ s!"#else /* {name} */\n".toList ++ added ++
          s!"#endif /* {name} */\n".toList
    bareLines pair.left start (change.left - start) ++ piece ++
      mergedFrom name pair (change.left + change.removed) rest

def written (form : DiffForm) (pair : TextPair) : Chars := match form with
  | .plain => pair.plainText look
  | .unified context => pair.unifiedText look context
  | .context context => pair.contextText look context
  | .editor => pair.editorText
  | .numbered => pair.numberedText
  | .beside => pair.besideFrom look 0 0 pair.changes
  | .brief => []
  | .merged name => pair.mergedFrom name 0 pair.changes

end TextPair

/-!
## Comparing files

`diff` says the differences between two texts, or between the files of two folders; `cmp` says where
two files begin to differ.
-/

def trouble : Nat := 2

def diffOptions : OptionTable where
  letters := "0123456789abBC:cdD:eEfF:hHiI:lL:nNpPqrsS:tTuU:vwW:x:X:yZαβ::γ::δ:εζηθ:ικ:λμνξ:"
  words := [("text", 'a'), ("binary", 'h'), ("brief", 'q'), ("context", 'β'), ("ed", 'e'),
    ("exclude", 'x'), ("expand-tabs", 't'), ("from-file", 'θ'), ("horizon-lines", 'δ'),
    ("ifdef", 'D'), ("ignore-all-space", 'w'), ("ignore-blank-lines", 'B'), ("ignore-case", 'i'),
    ("ignore-matching-lines", 'I'), ("ignore-space-change", 'b'), ("ignore-tab-expansion", 'E'),
    ("ignore-trailing-space", 'Z'), ("initial-tab", 'T'), ("label", 'L'), ("left-column", 'ζ'),
    ("line-format", 'κ'), ("minimal", 'd'), ("new-file", 'N'), ("no-dereference", 'μ'),
    ("normal", 'λ'), ("paginate", 'l'), ("rcs", 'n'), ("recursive", 'r'),
    ("report-identical-files", 's'), ("show-c-function", 'p'), ("show-function-line", 'F'),
    ("side-by-side", 'y'), ("speed-large-files", 'H'), ("starting-file", 'S'),
    ("strip-trailing-cr", 'η'), ("suppress-common-lines", 'ε'), ("tabsize", 'ξ'),
    ("unidirectional-new-file", 'P'), ("unified", 'γ'), ("width", 'W'), ("color", 'ν')]
  status := trouble

structure DiffRequest where
  program : String
  call : ProgramCall
  form : DiffForm
  look : DiffLook
  manner : LineManner
  filter : ChangeFilter
  options : String

namespace DiffRequest

def contextOf (call : ProgramCall) (text : String) : Except String Nat :=
  if text.isEmpty then
    let digits := (call.options.map Prod.fst).filter isDigit
    .ok (if digits.isEmpty then 3 else valueOf digits)
  else match digitsValue? text with
    | some value => .ok value
    | none => .error s!"invalid context length {quoted text}"

def formOf (call : ProgramCall) : Except String DiffForm := do
  let around <- contextOf call ""
  let usual : DiffForm := if call.has 'p' || call.has 'F' then .context around else .plain
  call.options.foldlM
    (fun form option =>
      let context (text : String) (make : Nat -> DiffForm) : Except String DiffForm :=
        (contextOf call text).map make
      match option.1 with
      | 'u' => context "" .unified
      | 'U' => context option.2 .unified
      | 'γ' => context option.2 .unified
      | 'c' => context "" .context
      | 'C' => context option.2 .context
      | 'β' => context option.2 .context
      | 'e' => .ok .editor
      | 'n' => .ok .numbered
      | 'y' => .ok .beside
      | 'q' => .ok .brief
      | 'λ' => .ok .plain
      | 'D' => .ok (.merged option.2)
      | _ => .ok form)
    usual

def regexOf (text : String) : Except String Regex :=
  match Regex.parse { extended := false, lenient := true } text.toList with
  | .ok (regex, _) => .ok regex
  | .error fault => .error s!"{text}: {fault.message}"

def ofCall (program : String) (arguments : List String) (call : ProgramCall) :
    Except String DiffRequest := do
  let form <- formOf call
  let ignored <- (call.allArguments 'I').mapM regexOf
  let heading <-
    match call.argument? 'F' with
    | some text => (regexOf text).map some
    | none => if call.has 'p' then (regexOf "^[[:alpha:]$_]").map some else .ok none
  let width <-
    match call.argument? 'W' with
    | none => .ok 130
    | some text => match digitsValue? text with
      | some value => if value = 0 then .error s!"invalid width {quoted text}" else .ok value
      | none => .error s!"invalid width {quoted text}"
  let options := (arguments.filter (!call.operands.contains ·)).map fun word =>
    " " ++ quotedIfNeeded word
  return {
    program, call, form
    look := {
      expandsTabs := call.has 't', tabInFront := call.has 'T', width, onlyLeft := call.has 'ζ',
      onlyChanges := call.has 'ε', heading }
    manner := {
      ignoresCase := call.has 'i', ignoresBlanks := call.has 'w', ignoresAmounts := call.has 'b',
      ignoresEnds := call.has 'Z', ignoresTabs := call.has 'E', dropsReturns := call.has 'η'
      ignoresLastEnd := form == .editor }
    filter := { ignoresEmpty := call.has 'B', ignored }
    options := .join options }

inductive Side where
  | file (bytes : ByteArray) (time : Timestamp)
  | folder
  | missing

def Side.isFolder : Side -> Bool
  | .folder => true
  | _ => false

def sideOf (name : String) : Act (Except FileFault Side) := do
  let session <- get
  if name = "-" then return .ok (.file ((<- takeAll standardInput).getD .empty) session.files.clock)
  else
    let known := (session.files.find (pathOf name)).toOption
    if known.any FileEntry.isFolder then return .ok .folder
    else
      let time := (known.map FileEntry.modified).getD session.files.clock
      match <- readNamed name with
      | .ok bytes => return .ok (.file bytes time)
      | .error fault => return .error fault

variable (request : DiffRequest)

def heads (left right : String) (times : Timestamp × Timestamp) : String :=
  let labels := request.call.allArguments 'L'
  let head (mark name : String) (label : Option String) (time : Timestamp) : String :=
    match label with
    | some label => s!"{mark} {label}\n"
    | none => s!"{mark} {name}\t{dateText fullDateForm time}\n"
  match request.form with
  | .unified _ => head "---" left labels[0]? times.1 ++ head "+++" right labels[1]? times.2
  | .context _ => head "***" left labels[0]? times.1 ++ head "---" right labels[1]? times.2
  | _ => ""
where
  fullDateForm : String := "%Y-%m-%d %H:%M:%S.%N %z"

def isBinary (bytes : ByteArray) : Bool := (bytes.extract 0 4096).data.contains 0

def isBinaryPair (first second : ByteArray) : Bool :=
  !request.call.has 'a' && (isBinary first || isBinary second)

def compareTexts (request : DiffRequest) (inFolder : Bool) (left right : String)
    (first second : ByteArray) (times : Timestamp × Timestamp) : Act Nat := do
  let program := request.program
  let call := request.call
  let labels := call.allArguments 'L'
  let shownLeft := labels.headD left
  let shownRight := labels.getD 1 right
  let same : Act Nat := do
    if call.has 's' then
      discard <| answerLines program [s!"Files {shownLeft} and {shownRight} are identical"]
    return success
  let differ : Act Nat := do
    discard <| answerLines program [s!"Files {shownLeft} and {shownRight} differ"]
    return failure
  let isPlain := request.manner == {} && request.filter.ignored.isEmpty &&
    !request.filter.ignoresEmpty
  let onlyEqual := first.data == second.data
  let isMerged : Bool := match request.form with
    | .merged _ => true
    | _ => false
  if onlyEqual && request.form != .beside && !isMerged then same
  else if isBinaryPair request first second then
    if onlyEqual then same
    else if request.form = .brief then differ
    else
      discard <| answerLines program [s!"Binary files {shownLeft} and {shownRight} differ"]
      return failure
  else if request.form = .brief && isPlain then differ
  else
    let a := .ofOctets (octetsOf first)
    let b := .ofOctets (octetsOf second)
    let horizon := match request.form with
      | .unified context => context
      | .context context => context
      | _ => 0
    let all := textChanges request.manner (call.has 'd') horizon a b
    let counts := request.filter.counts a b
    let saysAll : Bool := match request.form with
      | .beside => true
      | .merged _ => true
      | _ => false
    if saysAll then
      let pair : TextPair := ⟨a, b, all⟩
      discard <| answerText program (pair.written request.look request.form)
      if all.any counts then return failure else same
    else if !all.any counts then same
    else if request.form = .brief then differ
    else
      let changes := match request.form with
        | .unified context => ((TextPair.pieces (2 * context) all).filter (·.any counts)).flatten
        | .context context => ((TextPair.pieces (2 * context) all).filter (·.any counts)).flatten
        | _ => all.filter counts
      let pair : TextPair := ⟨a, b, changes⟩
      let command :=
        if inFolder then s!"diff{request.options} {quotedIfNeeded left} {quotedIfNeeded right}\n"
        else ""
      let text := pair.written request.look request.form
      discard <| answerText program ((command ++ request.heads left right times).toList ++ text)
      return failure

def compareFiles (inFolder : Bool) (left right : String)
    (first second : ByteArray) (times : Timestamp × Timestamp) : Act Nat := do
  let status <- request.compareTexts inFolder left right first second times
  let lacksEnd (bytes : ByteArray) : Bool :=
    !bytes.isEmpty && bytes.data.back? != some 10 && request.form == .editor &&
      !isBinaryPair request first second
  let complaints := ([(left, first), (right, second)].filter (lacksEnd ·.2))
  complaints.forM fun (name, _) =>
    discard <| complain request.program s!"{name}: No newline at end of file\n"
  return if complaints.isEmpty then status else trouble

def kindWords (entry : FileEntry) : String := entry.kind

def namesIn (tree : FileTree) (folder : String) : List String :=
  match tree.locate (pathOf folder) with
  | .error _ => []
  | .ok place =>
    let excluded (name : String) : Bool :=
      (request.call.allArguments 'x').any fun pattern =>
        Pattern.holds (Pattern.ofText pattern) name.toList
    ((tree.children place).map toOctets).filter (!excluded ·)

def compareWithin (request : DiffRequest) : Nat -> String -> String -> Act Nat
  | 0, _, _ => return trouble
  | limit + 1, left, right => do
    let program := request.program
    let call := request.call
    let tree := (<- get).files
    let names := ((namesIn request tree left) ++ (namesIn request tree right)).mergeSort
      (fun x y => x <= y)
    allOf <| names.eraseDups.map fun name => do
      let session <- get
      let first := ListManner.within left name
      let second := ListManner.within right name
      let found (path : String) : Option FileEntry := (session.files.find (pathOf path)).toOption
      let read (path : String) : Act ByteArray := do
        match <- readNamed path with
        | .ok bytes => return bytes
        | .error _ => return .empty
      let only (folder : String) : Act Nat := do
        discard <| answerLines program [s!"Only in {folder}: {name}"]
        return failure
      let alone (entry : FileEntry) (isLeft : Bool) : Act Nat := do
        let counts := call.has 'N' || (call.has 'P' && !isLeft)
        if !counts then only (if isLeft then left else right)
        else if entry.isFolder then
          if call.has 'r' then compareWithin request limit first second
          else
            discard <| answerLines program [s!"Common subdirectories: {first} and {second}"]
            return success
        else
          let bytes <- read (if isLeft then first else second)
          let none : Timestamp := ⟨0, 0⟩
          if isLeft then compareFiles request true first second bytes .empty (entry.modified, none)
          else compareFiles request true first second .empty bytes (none, entry.modified)
      match found first, found second with
      | none, none => return success
      | some entry, none => alone entry true
      | none, some entry => alone entry false
      | some one, some two =>
        if one.isFolder && two.isFolder then
          if call.has 'r' then compareWithin request limit first second
          else
            discard <| answerLines program [s!"Common subdirectories: {first} and {second}"]
            return success
        else if one.isFolder || two.isFolder || one.kindBits != two.kindBits then
          discard <| answerLines program
            [s!"File {first} is a {kindWords one} while file {second} is a {kindWords two}"]
          return failure
        else
          compareFiles request true first second (<- read first) (<- read second)
            (one.modified, two.modified)

def compareNamed (left right : String) : Act Nat := do
  let program := request.program
  let session <- get
  let tree := session.files
  let isFolder (name : String) : Bool := name != "-" && tree.hasFolder (pathOf name)
  let lastOf (name : String) : String := lastName "" name
  let (left, right) : String × String :=
    if isFolder left && !isFolder right && right != "-" then
      (ListManner.within left (lastOf right), right)
    else if isFolder right && !isFolder left && left != "-" then
      (left, ListManner.within right (lastOf left))
    else (left, right)
  if isFolder left && isFolder right then compareWithin request 1000 left right
  else if request.form != .beside && !request.call.has 'D' && session.isSame left right && left != "-" then
    if request.call.has 's' then
      discard <| answerLines program [s!"Files {left} and {right} are identical"]
    return success
  else
    let first <- sideOf left
    let second <- if left = "-" && right = "-" then pure first else sideOf right
    let missing (outcome : Except FileFault Side) : Bool := match outcome with
      | .error .missing => request.call.has 'N'
      | _ => false
    let settle (name : String) (outcome : Except FileFault Side) : Act (Option Side) := do
      match outcome with
      | .ok side => return some side
      | .error fault =>
        if missing outcome then return some .missing
        discard <| complain program s!"{quotedIfNeeded name}: {wording fault}"
        return none
    let one <- settle left first
    let two <- settle right second
    let bytesOf : Side -> ByteArray × Timestamp
      | .file bytes time => (bytes, time)
      | _ => (.empty, ⟨0, 0⟩)
    match one, two with
    | some one, some two =>
      if one.isFolder || two.isFolder then
        discard <| complain program "cannot compare '-' to a directory"
        return trouble
      let (a, timeA) := bytesOf one
      let (b, timeB) := bytesOf two
      compareFiles request false left right a b (timeA, timeB)
    | _, _ => return trouble

end DiffRequest

def complainOfComparing (program message : String) : Act Nat := do
  discard <| complain program message
  discard <| complain program (helpHint program)
  return trouble

def diff : Utility := fun program arguments => do
  match diffOptions.read arguments with
  | .error message => complainOfComparing program message
  | .ok call => match DiffRequest.ofCall program arguments call with
    | .error message => complainOfComparing program message
    | .ok request => match call.operands with
      | [] => complainOfComparing program s!"missing operand after {quoted program}"
      | [only] => complainOfComparing program s!"missing operand after {quoted only}"
      | [left, right] => request.compareNamed left right
      | _ :: _ :: extra :: _ => complainOfComparing program s!"extra operand {quoted extra}"

/-! ## Bytes -/

def cmpOptions : OptionTable where
  letters := "bi:ln:sv"
  words := [("print-bytes", 'b'), ("ignore-initial", 'i'), ("verbose", 'l'), ("bytes", 'n'),
    ("silent", 's'), ("quiet", 's')]
  status := trouble

def shownByte (byte : UInt8) : String :=
  let low := byte.toNat % 128
  let front := if 128 <= byte.toNat then "M-" else ""
  let shown :=
    if low < 32 then .ofList ['^', Char.ofNat (low + 64)]
    else if low = 127 then "^?"
    else .singleton (Char.ofNat low)
  front ++ shown

def octalByte (byte : UInt8) : String :=
  let digits := Nat.toDigits 8 byte.toNat
  .ofList (List.replicate (3 - digits.length) ' ' ++ digits)

def differingPlaces (left right : ByteArray) : List (Nat × UInt8 × UInt8) :=
  (List.range (min left.size right.size)).filterMap fun index =>
    let first := left.get! index
    let second := right.get! index
    if first = second then none else some (index, first, second)

def compareBytes (program : String) (call : ProgramCall) (names : String × String)
    (left right : ByteArray) : Act Nat := do
  let places := differingPlaces left right
  let linesBefore (place : Nat) : Nat := (left.extract 0 place).data.count 10
  let shorter : Option (String × Nat) :=
    if left.size = right.size then none
    else if left.size < right.size then some (names.1, left.size)
    else some (names.2, right.size)
  let endOf : Act Nat := do
    let some (name, size) := shorter | return success
    if !call.has 's' then
      let text :=
        if size = 0 then s!"EOF on {name} which is empty"
        else if call.has 'l' then s!"EOF on {name} after byte {numberText size}"
        else
          let lines := linesBefore size
          let ends := left.get! (size - 1) == 10
          let line := numberText (if ends then lines else lines + 1)
          let word := if ends then "line" else "in line"
          s!"EOF on {name} after byte {numberText size}, {word} {line}"
      discard <| complain program text
    return failure
  if call.has 's' then
    if places.isEmpty then endOf else return failure
  else if call.has 'l' then
    let width := (numberText (min left.size right.size)).length
    let lines := places.map fun (place, first, second) =>
      let number := atRight width (numberText (place + 1))
      if call.has 'b' then
        s!"{number} {octalByte first} {atLeft 4 (shownByte first)} {octalByte second} " ++
          shownByte second
      else s!"{number} {octalByte first} {octalByte second}"
    let status <- endOf
    discard <| answerLines program lines
    return if places.isEmpty then status else failure
  else match places.head? with
    | none => endOf
    | some (place, first, second) =>
      let line := numberText (linesBefore place + 1)
      let place := numberText (place + 1)
      let text :=
        if call.has 'b' then
          s!"{names.1} {names.2} differ: byte {place}, line {line} is {octalByte first} " ++
            s!"{shownByte first} {octalByte second} {shownByte second}"
        else s!"{names.1} {names.2} differ: char {place}, line {line}"
      discard <| answerLines program [text]
      return failure

def cmp : Utility := fun program arguments => do
  match cmpOptions.read arguments with
  | .error message => complainOfComparing program message
  | .ok call =>
    let skips : Except String (Nat × Nat) := match call.argument? 'i' with
      | none => .ok (0, 0)
      | some text => match (pieces ':' text.toList).map sizeNumber? with
        | [some both] => .ok (both, both)
        | [some first, some second] => .ok (first, second)
        | _ => .error s!"invalid --ignore-initial value {quoted text}"
    let most : Except String (Option Nat) := match call.argument? 'n' with
      | none => .ok none
      | some text => match sizeNumber? text.toList with
        | some value => .ok (some value)
        | none => .error s!"invalid --bytes value {quoted text}"
    match skips, most, call.operands with
    | .error message, _, _ => complainOfComparing program message
    | _, .error message, _ => complainOfComparing program message
    | _, _, [] => complainOfComparing program s!"missing operand after {quoted program}"
    | .ok (first, second), .ok most, operands =>
      if call.has 's' && call.has 'l' then
        complainOfComparing program "options -l and -s are incompatible"
      else if 4 < operands.length then
        let extra := operands.getD 4 ""
        complainOfComparing program s!"extra operand {quoted extra}"
      else
        let left := operands.headD "-"
        let right := operands.getD 1 "-"
        let more (index : Nat) : Nat := ((operands[index]?).bind (sizeNumber? ·.toList)).getD 0
        let read (name : String) (skip : Nat) : Act (Option ByteArray) := do
          match <- readOperand name with
          | .ok bytes =>
            let bytes := bytes.extract skip bytes.size
            return some (match most with
              | some most => bytes.extract 0 most
              | none => bytes)
          | .error fault =>
            if !(call.has 's' && fault = wording .missing) then
              discard <| complain program s!"{quotedIfNeeded name}: {fault}"
            return none
        match <- read left (first + more 2) with
        | none => return trouble
        | some a => match <- read right (second + more 3) with
          | none => return trouble
          | some b => compareBytes program call (left, right) a b
where
  sizeNumber? (text : Chars) : Option Nat :=
    let digits := text.takeWhile isDigit
    if digits.isEmpty then none
    else (unitFactor? (text.drop digits.length)).map (valueOf digits * ·)

end BaseLanguage.Shell
