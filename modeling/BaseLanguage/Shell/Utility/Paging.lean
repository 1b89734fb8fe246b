import BaseLanguage.Shell.Utility.Dates

namespace BaseLanguage.Shell

open Text

/-!
# Pages

`pr` says files in pages, each with a head and a foot, and in columns: one behind the other, line by
line, or each for a file of its own.  Blanks between columns are written as tabs as far as possible.
-/

inductive ColumnOrder where
  | down
  | across
  | beside
  deriving DecidableEq

structure LineNumbering where
  separator : Char := '\t'
  digits : Nat := 5
  first : Nat := 1

structure PageLook where
  columns : Nat := 1
  order : ColumnOrder := .down
  length : Nat := 66
  width : Nat := 72
  margin : Nat := 0
  hasHeads : Bool := true
  keepsFeeds : Bool := true
  feeds : Bool := false
  title : Option String := none
  timeForm : String := "%Y-%m-%d %H:%M"
  numbering : Option LineNumbering := none
  isDouble : Bool := false
  separator : Option Chars := none
  joins : Bool := false
  cuts : Bool := false
  expands : Option (Char × Nat) := none
  tabs : Option (Char × Nat) := none
  carets : Bool := false
  octals : Bool := false
  firstPage : Nat := 1
  lastPage : Option Nat := none

namespace PageLook

variable (look : PageLook)

def hasColumns : Bool := 1 < look.columns

def gap (look : PageLook) : Chars := match look.separator with
  | some gap => if look.hasColumns && !look.joins && gap.head? == some '\t' then [' '] else gap
  | none => if !look.hasColumns then [] else if look.joins then ['\t'] else [' ']

def hasGap : Bool := look.hasColumns || look.separator.isSome

def isCut : Bool := (look.cuts || look.hasColumns) && !look.joins

def inputTab? : Option (Char × Nat) := match look.expands with
  | some tab => some tab
  | none => if look.hasColumns && look.gap != ['\t'] then some ('\t', 8) else none

def outputTab? : Option (Char × Nat) := match look.tabs with
  | some tab => some tab
  | none => if look.hasColumns then some ('\t', 8) else none

def numberWidth (numbering : LineNumbering) : Nat :=
  if numbering.separator = '\t' then numbering.digits + 8 - numbering.digits % 8
  else numbering.digits + 1

def columnWidth? : Option Nat :=
  let number := match look.numbering, look.order with
    | some numbering, .beside => numberWidth numbering
    | _, _ => 0
  let useful := look.width - number - (look.columns - 1) * look.gap.length
  let width := useful / look.columns
  if width = 0 then none else some width

def bodyLength : Nat :=
  let lines := if look.hasHeads && 10 < look.length then look.length - 10 else look.length
  if look.isDouble then lines / 2 else lines

def showsHeads : Bool := look.hasHeads && 10 < look.length

end PageLook

/-! ## Cells -/

structure RowState where
  said : Chars := []
  column : Nat := 0
  blanks : Nat := 0
  gaps : Nat := 0

namespace RowState

def put (state : RowState) (text : Chars) : RowState :=
  { state with said := text.reverse ++ state.said, column := state.column + text.length }

def gapText (tab : Char × Nat) : Nat -> Nat -> Nat -> Chars
  | 0, _, _ => []
  | limit + 1, first, last =>
    let next := first + tab.2 - first % tab.2
    if last <= first then []
    else if first + 1 < last && next <= last then tab.1 :: gapText tab limit next last
    else List.replicate (last - first) ' '

def settle (look : PageLook) (state : RowState) : RowState :=
  let goal := state.column + state.blanks
  let text := match look.outputTab? with
    | some tab => gapText tab (state.blanks + 1) state.column goal
    | none => List.replicate state.blanks ' '
  { state with said := text.reverse ++ state.said, column := goal, blanks := 0 }

def moveTo (look : PageLook) (column : Nat) (state : RowState) : RowState :=
  if look.outputTab?.isSome then { state with blanks := column - state.column }
  else
    let text := List.replicate (column - state.column) ' '
    { state with said := text ++ state.said, column := max state.column column }

def putChar (look : PageLook) (state : RowState) (c : Char) : RowState :=
  if look.outputTab?.isNone then { state with said := c :: state.said }
  else if c = ' ' then { state with blanks := state.blanks + 1 }
  else
    let state := if 0 < state.blanks then state.settle look else state
    let column :=
      if ' ' <= c && c < '\x7f' then state.column + 1
      else if c = '\x08' then state.column - 1
      else state.column
    { state with said := c :: state.said, column }

def putGaps (look : PageLook) (state : RowState) : RowState :=
  if state.gaps = 0 then if 0 < state.blanks then state.settle look else state
  else
    let gap (state : RowState) (isFirst : Bool) : RowState :=
      let text := if isFirst then look.gap else []
      let state := text.foldl
        (fun state c =>
          if c = ' ' then { state with blanks := state.blanks + 1 }
          else
            let state := if 0 < state.blanks then state.settle look else state
            state.put [c])
        state
      if 0 < state.blanks then state.settle look else state
    let state := (List.range state.gaps).foldl (fun state index => gap state (index = 0)) state
    { state with gaps := 0 }

end RowState

structure PageCell where
  text : Chars
  number : Option Nat := none

namespace PageCell

def clump (look : PageLook) (column : Nat) (c : Char) : Chars × Nat := match look.inputTab? with
  | some (sign, width) =>
    if c = sign || c = '\t' then
      let width := if c = sign then width else 8
      let count := width - column % width
      (List.replicate count ' ', column + count)
    else plain column c
  | none => if c = '\t' then ([c], column + 8 - column % 8) else plain column c
where
  plain (column : Nat) (c : Char) : Chars × Nat :=
    if ' ' <= c && c < '\x7f' then ([c], column + 1)
    else if look.octals || (look.carets && 128 <= c.toNat) then
      ('\\' :: octalTriple c.toNat, column + 4)
    else if look.carets then
      (['^', if c = '\x7f' then '?' else Char.ofNat (c.toNat + 64)], column + 2)
    else if c = '\x08' then (if column = 0 then ([], 0) else ([c], column - 1))
    else ([c], column)

def fit (look : PageLook) (width : Nat) : Nat -> Chars -> Chars × Nat
  | column, [] => ([], column)
  | column, c :: rest =>
    let (text, next) := clump look column c
    if look.isCut && width < next then ([], column)
    else
      let (others, last) := fit look width next rest
      (text ++ others, last)

def numberText (look : PageLook) (numbering : LineNumbering) (number : Nat) : Chars :=
  let digits := decimal number
  let digits := digits.drop (digits.length - numbering.digits)
  let front := List.replicate (numbering.digits - digits.length) ' ' ++ digits
  if look.hasColumns && numbering.separator = '\t' then
    front ++ List.replicate (PageLook.numberWidth numbering - numbering.digits) ' '
  else front ++ [numbering.separator]

end PageCell

/-! ## Rows and pages -/

def PageLook.startOf (look : PageLook) (width index : Nat) : Nat :=
  let number := match look.numbering, look.order with
    | some numbering, .beside => PageLook.numberWidth numbering
    | _, _ => 0
  if index = 0 then look.margin + look.gap.length
  else if !look.isCut then 0
  else look.margin + number + index * (width + look.gap.length)

def PageLook.row (look : PageLook) (width : Nat) (cells : List (Option PageCell)) : Chars :=
  let aligned (state : RowState) (index : Nat) : RowState :=
    let start := look.startOf width index
    let state := if look.gap.length < start then state.moveTo look (start - look.gap.length) else state
    if look.hasGap then state.putGaps look else state
  let step (found : RowState × Bool) (entry : Option PageCell × Nat) : RowState × Bool :=
    let (state, isEmpty) := found
    let (cell, index) := entry
    let (state, isEmpty) : RowState × Bool := match cell with
      | none =>
        if look.order = .beside && !isEmpty then (aligned state index, isEmpty)
        else (state, isEmpty)
      | some cell =>
        let state :=
          if look.order = .beside && isEmpty && 0 < index then
            (List.range index).foldl
              (fun state before =>
                let state := { state with gaps := if before = 0 then 0 else 1 }
                aligned state before)
              state
          else state
        let state :=
          if look.order = .beside && isEmpty && 0 < index then { state with gaps := 1 } else state
        let state := aligned state index
        let number := match cell.number, look.numbering with
          | some number, some numbering => PageCell.numberText look numbering number
          | _, _ => []
        let used := if look.order = .beside then 0 else number.length
        let used := match look.numbering with
          | some numbering =>
            if look.order = .beside || cell.number.isNone then 0 else PageLook.numberWidth numbering
          | none => used
        let (text, _) := PageCell.fit look width used cell.text
        ((number ++ text).foldl (.putChar look) state, false)
    let state := if look.hasGap then { state with gaps := state.gaps + 1 } else state
    (state, isEmpty)
  (cells.zipIdx.foldl step ({}, true)).1.said.reverse

def PageLook.rowsDown (look : PageLook) (cells : List PageCell) : List (List (Option PageCell)) :=
  let total := cells.length
  let sizes := (List.range look.columns).map fun index =>
    total / look.columns + (if index < total % look.columns then 1 else 0)
  let (columns, _) := sizes.foldl
    (fun ((columns, rest) : List (List PageCell) × List PageCell) size =>
      (columns ++ [rest.take size], rest.drop size))
    ([], cells)
  (List.range (sizes.headD 0)).map fun index => columns.map (·[index]?)

structure PageText where
  rows : List (List (Option PageCell))
  hasFeed : Bool := false

def itemsBy (count : Nat) : Nat -> List α -> List (List α)
  | 0, _ => []
  | _, [] => []
  | limit + 1, items => items.take count :: itemsBy count limit (items.drop count)

def PageLook.cells (look : PageLook) (first : Nat) (lines : List Chars) : List PageCell :=
  lines.zipIdx.map fun (text, index) =>
    { text, number := look.numbering.map (·.first + first + index) }

def PageLook.pages (look : PageLook) (text : Chars) : List PageText :=
  let parts := pieces '\x0c' text
  let count := parts.length
  let body := max 1 look.bodyLength
  let step (state : List PageText × Nat) (entry : Chars × Nat) : List PageText × Nat :=
    let (pages, number) := state
    let (part, index) := entry
    let lines := linesOf '\n' part
    let cells := look.cells number lines
    let groups := itemsBy (body * look.columns) (lines.length + 1) cells
    let isEnded := index + 1 < count
    let groups := if groups.isEmpty && isEnded then [[]] else groups
    let made := groups.zipIdx.map fun (group, place) =>
      let rows := match look.order with
        | .across => (itemsBy look.columns (group.length + 1) group).map (·.map some)
        | _ => look.rowsDown group
      { rows, hasFeed := isEnded && place + 1 = groups.length : PageText }
    (pages ++ made, number + lines.length)
  (parts.zipIdx.foldl step ([], 0)).1

def PageLook.pagesBeside (look : PageLook) (texts : List Chars) : List PageText :=
  let columns := texts.map fun text => linesOf '\n' (text.filter (· != '\x0c'))
  let longest := columns.foldl (fun size column => max size column.length) 0
  let rows := (List.range longest).map fun index =>
    columns.zipIdx.map fun (column, place) =>
      column[index]?.map fun text =>
        { text, number :=
            if place = 0 then look.numbering.map (·.first + index) else none : PageCell }
  (itemsBy (max 1 look.bodyLength) (longest + 1) rows).map fun rows => { rows }

def PageLook.head (look : PageLook) (date title : String) (number : Nat) : Chars :=
  let page := s!"Page {numberText number}"
  let room := look.width - date.length - title.length - page.length
  let left := room / 2
  let blanks (count : Nat) : Chars := List.replicate (max 1 count) ' '
  ['\n', '\n'] ++ List.replicate look.margin ' ' ++ date.toList ++ blanks left ++ title.toList ++
    blanks (room - left) ++ page.toList ++ ['\n', '\n', '\n']

def PageLook.written (look : PageLook) (width : Nat) (date title : String) (isLastPage : Bool)
    (page : PageText) (number : Nat) : Chars :=
  let ends : Chars := if look.isDouble then ['\n', '\n'] else ['\n']
  let isFull (row : List (Option PageCell)) : Bool :=
    !look.hasColumns || (look.order != .down && row.length = look.columns)
  let body := page.rows.zipIdx.flatMap fun (row, index) =>
    let isLast := isLastPage && index + 1 = page.rows.length && !look.showsHeads
    look.row width row ++ (if isLast && !isFull row then ['\n'] else ends)
  let perRow := if look.isDouble then 2 else 1
  let room := (if look.isDouble then 2 * look.bodyLength else look.bodyLength)
  let left := room - perRow * page.rows.length
  if look.showsHeads then
    let foot := if look.feeds then ['\x0c'] else List.replicate (left + 5) '\n'
    look.head date title number ++ body ++ foot
  else body ++ (if page.hasFeed && look.keepsFeeds then ['\x0c'] else [])

def prOptions : OptionTable where
  letters := "0123456789acdD:e::fFh:i::Jl:mn::N:o:rs::S::tTvw:W:α:"
  words := [("pages", 'α'), ("columns", 'β'), ("across", 'a'), ("show-control-chars", 'c'),
    ("double-space", 'd'), ("date-format", 'D'), ("expand-tabs", 'e'), ("form-feed", 'f'),
    ("header", 'h'), ("output-tabs", 'i'), ("join-lines", 'J'), ("length", 'l'), ("merge", 'm'),
    ("number-lines", 'n'), ("first-line-number", 'N'), ("indent", 'o'),
    ("no-file-warnings", 'r'), ("separator", 's'), ("sep-string", 'S'), ("omit-header", 't'),
    ("omit-pagination", 'T'), ("show-nonprinting", 'v'), ("width", 'w'), ("page-width", 'W')]

def pageNumber (what text : String) (least : Nat) : Except String Nat :=
  match digitsValue? text with
  | some value =>
    if least <= value then .ok value else .error s!"{what}: '{text}': Numerical result out of range"
  | none => .error s!"{what}: '{text}'"

def signAndNumber (option : String) (text : String) : Except String (Option Char × Option Nat) :=
  let (sign, digits) : Option Char × Chars := match text.toList with
    | c :: rest => if isDigit c then (none, text.toList) else (some c, rest)
    | [] => (none, [])
  if digits.isEmpty then .ok (sign, none)
  else match digitsValue? (.ofList digits) with
    | some value => .ok (sign, some value)
    | none =>
      .error (s!"'-{option}' extra characters or invalid number in the argument: " ++
        s!"{quoted (String.ofList digits)}\n{helpHint program}")
where
  program : String := "pr"

def PageLook.withOption (look : PageLook) (letter : Char) (text : String) :
    Except String PageLook := do
  match letter with
  | 'a' => return { look with order := if look.order = .beside then look.order else .across }
  | 'm' => return { look with order := .beside }
  | 'c' => return { look with carets := true }
  | 'v' => return { look with octals := true }
  | 'd' => return { look with isDouble := true }
  | 'D' => return { look with timeForm := text }
  | 'e' =>
    let (sign, width) <- signAndNumber "e" text
    return { look with expands := some (sign.getD '\t', max 1 (width.getD 8)) }
  | 'i' =>
    let (sign, width) <- signAndNumber "i" text
    return { look with tabs := some (sign.getD '\t', max 1 (width.getD 8)) }
  | 'f' => return { look with feeds := true }
  | 'F' => return { look with feeds := true }
  | 'h' => return { look with title := some text }
  | 'J' => return { look with joins := true }
  | 'l' =>
    return { look with length := <- pageNumber "'-l PAGE_LENGTH' invalid number of lines" text 1 }
  | 'n' =>
    let (sign, digits) <- signAndNumber "n" text
    let old := look.numbering.getD {}
    return { look with
      numbering := some { old with separator := sign.getD '\t', digits := max 1 (digits.getD 5) } }
  | 'o' => return { look with margin := <- pageNumber "'-o MARGIN' invalid line offset" text 0 }
  | 's' =>
    return { look with
      separator := some (if text.isEmpty then ['\t'] else text.toList.take 1)
      joins := look.joins }
  | 'S' => return { look with separator := some text.toList }
  | 't' => return { look with hasHeads := false }
  | 'T' => return { look with hasHeads := false, keepsFeeds := false }
  | 'w' =>
    return { look with
      width := <- pageNumber "'-w PAGE_WIDTH' invalid number of characters" text 1 }
  | 'W' =>
    return { look with
      width := <- pageNumber "'-W PAGE_WIDTH' invalid number of characters" text 1
      cuts := true }
  | _ => return look

def pageLook (call : ProgramCall) (files : Nat) : Except String PageLook := do
  let look <- call.options.foldlM
    (fun look (letter, text) => PageLook.withOption look letter text) ({} : PageLook)
  let first <-
    match call.argument? 'N' with
    | none => pure none
    | some text => (pageNumber "'-N NUMBER' invalid starting line number" text 0).map some
  let numbering := look.numbering.map fun numbering =>
    { numbering with first := first.getD numbering.first }
  let digits := (call.options.map Prod.fst).filter isDigit
  let columns : Option Nat := if digits.isEmpty then none else some (valueOf digits)
  if look.order = .beside && columns.isSome then
    throw "cannot specify number of columns when printing in parallel"
  if look.order = .beside && call.has 'a' then
    throw "cannot specify both printing across and printing in parallel"
  if columns == some 0 then throw "invalid number of columns: '0': Numerical result out of range"
  let order := if look.order = .beside && files = 0 then .down else look.order
  let count := if order = .beside then files else columns.getD 1
  -- A single sign between columns keeps lines as they are unless a width is given.
  let joins := look.joins || (call.has 's' && !call.has 'w' && !call.has 'W')
  return { look with numbering, order, columns := max 1 count, joins }

def pr : Utility := fun program arguments => do
  let isPage (argument : String) : Bool := match argument.toList with
    | '+' :: c :: _ => isDigit c
    | _ => false
  let (ranges, others) := arguments.partition isPage
  let range := (ranges.getLast?.map fun text => (pieces ':' (text.toList.drop 1))).getD []
  withOptions prOptions
    (fun program call => do
      match pageLook call call.operands.length with
      | .error fault => complain program fault
      | .ok look =>
        let look := { look with
          firstPage := ((range.head?).map valueOf).getD 1
          lastPage := (range[1]?).map valueOf }
        match look.columnWidth? with
        | none => complain program "page width too narrow"
        | some width =>
          let session <- get
          let chosen (pages : List PageText) : List (PageText × Nat) :=
            (pages.zipIdx 1).filter fun (_, number) =>
              look.firstPage <= number && look.lastPage.all (number <= ·)
          let say (pages : List PageText) (title : String) (time : Timestamp) : Act Nat :=
            let date := dateText look.timeForm time
            answerText program ((chosen pages).flatMap fun (page, number) =>
              look.written width date (look.title.getD title) (number = pages.length) page number)
          let readFile (name : String) : Act (Option Chars) := do
            match <- readOperand name with
            | .ok bytes => return some (octetsOf bytes)
            | .error fault =>
              if !call.has 'r' then discard <| complain program s!"{quotedIfNeeded name}: {fault}"
              return none
          if look.order = .beside then
            let texts <- call.operands.mapM readFile
            let found := texts.filterMap id
            let look := { look with columns := max 1 found.length }
            let status <- say (look.pagesBeside found) "" session.files.clock
            return if texts.all Option.isSome then status else failure
          else
            allOf <| (operandsOrInput call.operands).map fun name => do
              let some text <- readFile name | return failure
              let entry := (session.files.find (pathOf name)).toOption
              let isFile := name != "-"
              let time :=
                if isFile then (entry.map FileEntry.modified).getD session.files.clock
                else session.files.clock
              say (look.pages text) (if isFile then name else "") time)
    program others

end BaseLanguage.Shell
