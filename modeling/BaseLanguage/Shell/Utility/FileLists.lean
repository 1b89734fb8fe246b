import BaseLanguage.Shell.Utility.Dates
import BaseLanguage.Shell.Utility.Sorting
import BaseLanguage.Shell.Utility.Transfer

namespace BaseLanguage.Shell

open Text

/-!
# Lists of files

`ls` says what lies in folders: names alone, side by side, or each on a line of its own with what is
known of the file.  Files that are named come first, then the folders, each under its name if there
are several.  Words for options that have no letter have a Greek one, which no argument can hold.
-/

/-! ## What is listed -/

structure ListedFile where
  name : String
  path : String
  entry : Option FileEntry
  number : Nat := 0
  links : Nat := 0
  leadsToFolder : Bool := false
  last : Option FileEntry := none

namespace ListedFile

def isFolder (file : ListedFile) : Bool := file.entry.any FileEntry.isFolder

def ending (file : ListedFile) : Chars :=
  let name := file.name.toList
  let behind := name.reverse.takeWhile (· != '.')
  if behind.length = name.length then [] else '.' :: behind.reverse

def size (file : ListedFile) : Nat := (file.entry.map FileEntry.size).getD 0

def room (file : ListedFile) : Nat := (file.entry.map (·.sectors * sectorBytes)).getD 0

def time (file : ListedFile) : Timestamp := (file.entry.map FileEntry.modified).getD ⟨0, 0⟩

end ListedFile

def Session.listed (session : Session) (follows : Bool) (name path : String) :
    Except FileFault ListedFile := do
  let tree := session.files
  let path' := pathOf path
  let place <- if follows then tree.locate path' else tree.locateName path'
  let entry <- tree.entryAt path' place
  let last := (tree.find path').toOption
  return {
    name, path, last
    entry := some entry
    number := (tree.number? place).getD 0
    links := tree.linkCount place
    leadsToFolder := last.any FileEntry.isFolder }

/-! ## How it is listed -/

inductive ListForm where
  | lines
  | columns
  | rows
  | commas
  | facts
  deriving DecidableEq

inductive ListMarks where
  | nothing
  | folders
  | kinds
  | everything
  deriving DecidableEq

inductive NameStyle where
  | plain
  | words
  | allWords
  | escapedWords
  | allEscapedWords
  | doubleQuotes
  | maybeDoubleQuotes
  | escapes
  | singleQuotes
  deriving DecidableEq

inductive ListOrder where
  | byName
  | unordered
  | byTime
  | bySize
  | byEnding
  | byVersion
  | byWidth
  deriving DecidableEq

inductive LinkView where
  | never
  | always
  | named
  | namedFolders
  deriving DecidableEq

structure ListManner where
  form : ListForm
  marks : ListMarks
  style : NameStyle
  order : ListOrder
  view : LinkView
  width : Nat
  tab : Nat
  ending : Char
  sizes : SizeManner
  rooms : SizeManner
  colors : Bool
  times : String × String
  call : ProgramCall

def listWords : List (String × Char) :=
  [("all", 'a'), ("escape", 'b'), ("directory", 'd'), ("dired", 'D'), ("full-time", 'α'),
    ("group-directories-first", 'β'), ("human-readable", 'h'), ("inode", 'i'), ("kibibytes", 'k'),
    ("numeric-uid-gid", 'n'), ("no-group", 'G'), ("hide-control-chars", 'q'), ("reverse", 'r'),
    ("size", 's'), ("width", 'w'), ("almost-all", 'A'), ("ignore-backups", 'B'), ("classify", 'γ'),
    ("file-type", 'δ'), ("si", 'ε'), ("dereference-command-line", 'H'),
    ("dereference-command-line-symlink-to-dir", 'ζ'), ("hide", 'η'), ("ignore", 'I'),
    ("indicator-style", 'θ'), ("dereference", 'L'), ("literal", 'N'), ("quote-name", 'Q'),
    ("quoting-style", 'ι'), ("recursive", 'R'), ("format", 'κ'), ("show-control-chars", 'λ'),
    ("sort", 'μ'), ("tabsize", 'T'), ("time", 'ν'), ("time-style", 'ξ'), ("zero", 'ο'),
    ("color", 'π'), ("hyperlink", 'ρ'), ("block-size", 'σ'), ("context", 'Z'), ("author", 'τ')]

def listOptions : OptionTable where
  letters := "aAbBcCdDfFgGhHiI:klLmnNopqQrRsStT:uUvw:xXZ1αβγ::δεζη:θ:ι:κ:λμ:ν:ξ:οπ::ρ::σ:τ"
  words := listWords
  status := 2

def formNames : List (String × ListForm) :=
  [("verbose", .facts), ("long", .facts), ("commas", .commas), ("horizontal", .rows),
    ("across", .rows), ("vertical", .columns), ("single-column", .lines)]

def orderNames : List (String × ListOrder) :=
  [("none", .unordered), ("time", .byTime), ("size", .bySize), ("extension", .byEnding),
    ("version", .byVersion), ("width", .byWidth)]

def markNames : List (String × ListMarks) :=
  [("none", .nothing), ("slash", .folders), ("file-type", .kinds), ("classify", .everything)]

def styleNames : List (String × NameStyle) :=
  [("literal", .plain), ("shell", .words), ("shell-always", .allWords),
    ("shell-escape", .escapedWords), ("shell-escape-always", .allEscapedWords),
    ("c", .doubleQuotes), ("c-maybe", .maybeDoubleQuotes), ("escape", .escapes),
    ("locale", .singleQuotes), ("clocale", .doubleQuotes)]

def occasionNames : List (String × Nat) :=
  [("always", 1), ("yes", 1), ("force", 1), ("never", 0), ("no", 0), ("none", 0), ("auto", 2),
    ("tty", 2), ("if-tty", 2)]

namespace ListManner

variable (call : ProgramCall)

def formOf (usual : ListForm) : Except String ListForm :=
  call.options.foldlM
    (fun form option => match option.1 with
      | 'l' => .ok .facts
      | 'g' => .ok .facts
      | 'o' => .ok .facts
      | 'n' => .ok .facts
      | 'α' => .ok .facts
      | 'C' => .ok .columns
      | 'x' => .ok .rows
      | 'm' => .ok .commas
      | '1' => .ok (if form = .facts then .facts else .lines)
      | 'ο' => .ok (if form = .facts then .facts else .lines)
      | 'κ' => choiceOf "--format" option.2 formNames
      | _ => .ok form)
    usual

def orderOf : Except String ListOrder :=
  call.options.foldlM
    (fun order option => match option.1 with
      | 't' => .ok .byTime
      | 'S' => .ok .bySize
      | 'X' => .ok .byEnding
      | 'v' => .ok .byVersion
      | 'U' => .ok .unordered
      | 'f' => .ok .unordered
      | 'μ' => choiceOf "--sort" option.2 orderNames
      | _ => .ok order)
    .byName

def marksOf : Except String ListMarks :=
  call.options.foldlM
    (fun marks option => match option.1 with
      | 'p' => .ok .folders
      | 'F' => .ok .everything
      | 'δ' => .ok .kinds
      | 'γ' => do
        if option.2.isEmpty then return .everything
        else
          return if (<- choiceOf "--classify" option.2 occasionNames) = 1 then .everything else marks
      | 'θ' => choiceOf "--indicator-style" option.2 markNames
      | _ => .ok marks)
    .nothing

def styleOf (usual : NameStyle) : Except String NameStyle :=
  call.options.foldlM
    (fun style option => match option.1 with
      | 'b' => .ok .escapes
      | 'N' => .ok .plain
      | 'Q' => .ok .doubleQuotes
      | 'ι' => choiceOf "--quoting-style" option.2 styleNames
      | _ => .ok style)
    usual

def sizesOf (usual : SizeManner) : Except String SizeManner :=
  call.options.foldlM
    (fun sizes option => match option.1 with
      | 'h' => .ok (.letters 1024)
      | 'ε' => .ok (.letters 1000)
      | 'σ' => match sizeManner? option.2 with
        | some manner => .ok manner
        | none => .error s!"invalid --block-size argument {quoted option.2}"
      | _ => .ok sizes)
    usual

def timesOf : Except String (String × String) :=
  let style := if call.has 'α' then "full-iso" else (call.argument? 'ξ').getD "locale"
  let name := if style.startsWith "posix-" then "locale" else style
  let both (format : String) : Except String (String × String) := .ok (format, format)
  match name.toList with
  | '+' :: format => match pieces '\n' format with
    | [early, late] => .ok (.ofList late, .ofList early)
    | _ => both (.ofList format)
  | _ =>
    match ["full-iso", "long-iso", "iso", "locale"].find? (·.startsWith name) with
    | some "full-iso" => both "%Y-%m-%d %H:%M:%S.%N %z"
    | some "long-iso" => both "%Y-%m-%d %H:%M"
    | some "iso" => .ok ("%m-%d %H:%M", "%Y-%m-%d ")
    | some _ => .ok ("%b %e %H:%M", "%b %e  %Y")
    | none =>
      let words := "\n  - [posix-]full-iso\n  - [posix-]long-iso\n  - [posix-]iso" ++
        "\n  - [posix-]locale\n  - +FORMAT (e.g., +%H:%M) for a 'date'-style format"
      .error s!"invalid argument {quoted name} for 'time style'\nValid arguments are:{words}"

def viewOf (form : ListForm) (marks : ListMarks) : LinkView :=
  match call.lastOf ['L', 'H', 'ζ'] with
  | some 'L' => .always
  | some 'H' => .named
  | some _ => .namedFolders
  | none => if call.has 'd' || marks = .everything || form = .facts then .never else .namedFolders

def columnsOf (what : String) (text : Option String) (usual : Nat) : Except String Nat :=
  match text with
  | none => .ok usual
  | some text => match digitsValue? text with
    | some value => .ok value
    | none => .error s!"invalid {what}: {quoted text}"

def asCall (value : Except String α) : Except (Bool × String) α := value.mapError (true, ·)

def asFault (value : Except String α) : Except (Bool × String) α := value.mapError (false, ·)

def ofCall (form : ListForm) (style : NameStyle) (lineWidth : Option String)
    (call : ProgramCall) : Except (Bool × String) ListManner := do
  let form <- asCall (formOf call form)
  let marks <- asCall (marksOf call)
  let order <- asCall (orderOf call)
  let style <- asCall (styleOf call style)
  let sizes <- asFault (sizesOf call (.units 1 ""))
  let rooms <- asFault (sizesOf call (.units 1024 ""))
  let usual := (lineWidth.bind digitsValue?).getD 80
  let width <- asFault (columnsOf "line width" (call.argument? 'w') usual)
  let tab <- asFault (columnsOf "tab size" (call.argument? 'T') 8)
  let times <- asCall (if form = .facts then timesOf call else .ok ("", ""))
  let colors <-
    match call.argument? 'π' with
    | none => pure 0
    | some "" => pure 1
    | some occasion => asCall (choiceOf "--color" occasion occasionNames)
  return {
    form, marks, order, style, sizes, rooms, width, tab, times, call
    view := viewOf call form marks
    colors := colors == 1 && !call.has 'f'
    ending := if call.has 'ο' then Char.ofNat 0 else '\n' }

/-! ## Order -/

variable (manner : ListManner)

def compareFiles (left right : ListedFile) : Ordering :=
  let names := compareTexts left.name.toList right.name.toList
  let first : Ordering := match manner.order with
    | .byName => .eq
    | .unordered => .eq
    | .byTime => Ord.compare right.time.total left.time.total
    | .bySize => Ord.compare right.size left.size
    | .byEnding => compareTexts left.ending right.ending
    | .byVersion => compareVersionNames left.name.toList right.name.toList
    | .byWidth => Ord.compare left.name.length right.name.length
  first.then names

def ordered (files : List ListedFile) : List ListedFile :=
  let reverses := manner.call.has 'r' && manner.order != .unordered
  let foldersFirst := manner.call.has 'β'
  files.mergeSort fun left right =>
    if foldersFirst && left.leadsToFolder != right.leadsToFolder then left.leadsToFolder
    else
      let order := manner.compareFiles left right
      (if reverses then order.swap else order) != .gt

/-! ## Names -/

def escapedName (blanks quotes : Chars) (name : String) : Chars :=
  name.toList.flatMap fun c =>
    if c = '\\' || blanks.contains c || quotes.contains c then ['\\', c]
    else if isVisible c then [c]
    else hiddenEscape c

def doubleQuotedName (name : String) : String := .ofList ('"' :: escapedName [] ['"'] name ++ ['"'])

def wordName (always : Bool) (name : String) : String :=
  let text := name.toList
  let special := (text.zipIdx.any fun (c, index) => needsQuotes (index == 0) c) ||
    text.any (['\n', '\t', '\r'].contains ·) || text.isEmpty
  if !always && !special then name
  else if text.contains '\'' && text.all isSameInQuotes then s!"\"{name}\""
  else
    let inside := text.flatMap fun c => if c = '\'' then ['\'', '\\', '\'', '\''] else [c]
    .ofList ('\'' :: inside ++ ['\''])

def nameText (name : String) : String :=
  let name := match manner.call.lastOf ['q', 'λ'] with
    | some 'q' =>
      if manner.style = .plain || manner.style = .words || manner.style = .allWords then
        name.map (fun c => if isVisible c then c else '?')
      else name
    | _ => name
  match manner.style with
  | .plain => name
  | .words => wordName false name
  | .allWords => wordName true name
  | .escapedWords => quotedIfNeeded name
  | .allEscapedWords => quoted name
  | .doubleQuotes => doubleQuotedName name
  | .maybeDoubleQuotes =>
    let shown := doubleQuotedName name
    if shown.length = name.length + 2 then name else shown
  | .escapes => .ofList (escapedName [' '] [] name)
  | .singleQuotes => plainlyQuoted name

def mark : Option FileEntry -> String
  | none => ""
  | some entry => match manner.marks, entry.node with
    | .nothing, _ => ""
    | _, .folder => "/"
    | .folders, _ => ""
    | _, .link _ => "@"
    | _, .queue _ => "|"
    | .everything, .file _ => if entry.permissions &&& 0o111 ≠ 0 then "*" else ""
    | _, _ => ""

def colorOf? (entry : FileEntry) : Option String := match entry.node with
  | .folder =>
    let isOpen := entry.permissions &&& 0o002 ≠ 0
    let isSticky := entry.permissions &&& 0o1000 ≠ 0
    if isOpen && isSticky then some "30;42"
    else if isOpen then some "34;42"
    else if isSticky then some "37;44"
    else some "01;34"
  | .link _ => some "01;36"
  | .queue _ => some "33"
  | .device _ => some "01;33"
  | .file _ =>
    if entry.permissions &&& 0o4000 ≠ 0 then some "37;41"
    else if entry.permissions &&& 0o2000 ≠ 0 then some "30;43"
    else if entry.permissions &&& 0o111 ≠ 0 then some "01;32"
    else none

def coloredName (entry : Option FileEntry) (name : String) : String :=
  match if manner.colors then entry.bind colorOf? else none with
  | some color => s!"\x1b[{color}m{name}\x1b[0m"
  | none => name

def frontText (numberWidth roomWidth : Nat) (file : ListedFile) : String :=
  let number := if manner.call.has 'i' then
    atRight numberWidth (if file.entry.isSome then numberText file.number else "?") ++ " " else ""
  let room := if manner.call.has 's' then
    atRight roomWidth
      (if file.entry.isSome then manner.rooms.written file.room else "?") ++ " " else ""
  number ++ room

def frontWidths (files : List ListedFile) : Nat × Nat :=
  if manner.form = .commas then (0, 0)
  else
    (widestOf (files.map (numberText ·.number)), widestOf (files.map (manner.rooms.written ·.room)))

def names (files : List ListedFile) : List (String × Nat) :=
  let (numberWidth, roomWidth) := manner.frontWidths files
  files.map fun file =>
    let front := manner.frontText numberWidth roomWidth file
    let name := manner.nameText file.name
    let mark := manner.mark file.entry
    (front ++ manner.coloredName file.entry name ++ mark, front.length + name.length + mark.length)

/-! ## Side by side -/

def leastColumn : Nat := 3

def columnWidths (byColumns : Bool) (columns : Nat) (lengths : Array Nat) : Array Nat :=
  let rows := (lengths.size + columns - 1) / columns
  lengths.zipIdx.foldl
    (fun widths (length, index) =>
      let column := if byColumns then index / rows else index % columns
      let length := if column + 1 = columns then length else length + 2
      widths.modify column (max length))
    (Array.replicate columns leastColumn)

def columnCount (byColumns : Bool) (lengths : Array Nat) : Nat :=
  let most :=
    if manner.width = 0 then lengths.size
    else min lengths.size ((manner.width + leastColumn - 1) / leastColumn)
  let fits (columns : Nat) : Bool :=
    manner.width = 0 || (columnWidths byColumns columns lengths).foldl (· + ·) 0 < manner.width
  (((List.range most).map (most - ·)).find? fits).getD 1

def gap (tab : Nat) : Nat -> Nat -> Nat -> Chars
  | 0, _, _ => []
  | limit + 1, first, last =>
    if last <= first then []
    else if tab ≠ 0 && (first + 1) / tab < last / tab then
      '\t' :: gap tab limit (first + tab - first % tab) last
    else ' ' :: gap tab limit (first + 1) last

def columnLine (tab : Nat) : Nat -> Nat -> List ((String × Nat) × Nat) -> Chars
  | _, _, [] => []
  | reached, start, ((name, length), width) :: rest =>
    gap tab (start - reached) reached start ++ name.toList ++
      columnLine tab (start + length) (start + width) rest

def besideLines (byColumns : Bool) (names : List (String × Nat)) : List Chars :=
  let all := names.toArray
  let columns := manner.columnCount byColumns (all.map Prod.snd)
  let widths := columnWidths byColumns columns (all.map Prod.snd)
  let rows := (all.size + columns - 1) / columns
  (List.range rows).map fun row =>
    columnLine manner.tab 0 0 <| (List.range columns).filterMap fun column =>
      let index := if byColumns then column * rows + row else row * columns + column
      all[index]?.map (fun name => (name, widths.getD column 0))

def commaText (width : Nat) : Nat -> List (String × Nat) -> Chars
  | _, [] => []
  | reached, [(name, length)] =>
    let fits := reached = 0 || width = 0 || reached + length + 2 < width
    let front : Chars := if reached = 0 then [] else if fits then [' '] else ['\n']
    front ++ name.toList
  | reached, (name, length) :: rest =>
    let fits := reached = 0 || width = 0 || reached + length + 2 < width
    let front : Chars := if reached = 0 then [] else if fits then [' '] else ['\n']
    let start := if reached = 0 then 0 else if fits then reached + 2 else 0
    front ++ name.toList ++ [','] ++ commaText width (start + length) rest

/-! ## With what is known -/

def modeText (entry : FileEntry) : String :=
  .ofList (entry.letter :: (permissionText entry.permissions).toList)

def halfYear : Int := 15778476

def timeText (now time : Timestamp) : String :=
  let recent := !now.before time && now.total - time.total < halfYear * Timestamp.nanosPerSecond
  dateText (if recent then manner.times.1 else manner.times.2) time

def sizeField (file : ListedFile) : String ⊕ (String × String) :=
  match file.entry.bind FileEntry.numbers? with
  | some (major, minor) => .inr (numberText major, numberText minor)
  | none => .inl (if file.entry.isSome then manner.sizes.written file.size else "?")

def ownerText : String := if manner.call.has 'n' then "0" else "root"

structure FactWidths where
  links : Nat
  owner : Nat
  size : Nat
  major : Nat
  minor : Nat
  time : Nat

def factWidths (now : Timestamp) (files : List ListedFile) : FactWidths :=
  let fields := files.map manner.sizeField
  let major := widestOf (fields.filterMap fun field => (field.getRight?).map Prod.fst)
  let minor := widestOf (fields.filterMap fun field => (field.getRight?).map Prod.snd)
  let whole := widestOf (fields.filterMap Sum.getLeft?)
  { links := widestOf (files.map fun file =>
    if file.entry.isSome then numberText file.links else "?")
    owner := if files.all (·.entry.isNone) then 1 else manner.ownerText.length
    size := max whole (if major + minor = 0 then 0 else major + 2 + minor)
    major, minor
    time := (manner.timeText now now).length }

def factLine (now : Timestamp) (widths : FactWidths)
    (front : String) (file : ListedFile) : String :=
  let call := manner.call
  let size := match manner.sizeField file with
    | .inl size => atRight widths.size size
    | .inr (major, minor) =>
      let left := atRight (widths.size - 2 - widths.minor) major
      s!"{left}, {atRight widths.minor minor}"
  let mode := (file.entry.map modeText).getD "l?????????"
  let links := if file.entry.isSome then numberText file.links else "?"
  let owner := atLeft widths.owner (if file.entry.isSome then manner.ownerText else "?")
  let owners :=
    (if call.has 'g' then [] else [owner]) ++
      (if call.has 'G' || call.has 'o' then [] else [owner]) ++
      (if call.has 'τ' then [owner] else [])
  let time := if file.entry.isSome then manner.timeText now file.time else atRight widths.time "?"
  let name := manner.coloredName file.entry (manner.nameText file.name)
  let behind := match file.entry.bind FileEntry.target? with
    | some target =>
      let target := manner.nameText (toOctets target)
      let mark := manner.mark file.last
      s!" -> {target}{mark}"
    | none => manner.mark file.entry
  front ++ " ".intercalate ([mode, atRight widths.links links] ++ owners ++ [size, time]) ++ " " ++
    name ++ behind

def listText (now : Timestamp) (files : List ListedFile) : Chars :=
  let endLine (line : Chars) : Chars := line ++ [manner.ending]
  if files.isEmpty then []
  else match manner.form with
    | .lines => (manner.names files).flatMap (endLine ·.1.toList)
    | .columns => (manner.besideLines true (manner.names files)).flatMap endLine
    | .rows => (manner.besideLines false (manner.names files)).flatMap endLine
    | .commas => endLine (commaText manner.width 0 (manner.names files))
    | .facts =>
      let widths := manner.factWidths now files
      let (numberWidth, roomWidth) := manner.frontWidths files
      files.flatMap fun file =>
        let front := manner.frontText numberWidth roomWidth file
        endLine (manner.factLine now widths front file).toList

/-! ## Folders -/

def patternHolds (pattern name : String) : Bool :=
  let items := Pattern.ofText pattern
  if name.startsWith "." && !pattern.startsWith "." then false else items.holds name.toList

def isListed (name : String) : Bool :=
  let call := manner.call
  let level := call.lastOf ['a', 'A', 'f']
  let isHidden := match level with
    | some 'A' => name = "." || name = ".."
    | some _ => false
    | none => name.startsWith "." || (call.allArguments 'η').any (patternHolds · name)
  let isBackup := call.has 'B' && name.endsWith "~"
  !isHidden && !isBackup && !(call.allArguments 'I').any (patternHolds · name)

def within (folder name : String) : String :=
  if folder.endsWith "/" then folder ++ name else s!"{folder}/{name}"

def folderFiles (session : Session) (folder : String) : List (ListedFile × Option FileFault) :=
  let tree := session.files
  match tree.locate (pathOf folder) with
  | .error _ => []
  | .ok place =>
    let names := ["." , ".."] ++ (tree.children place).map toOctets
    (names.filter manner.isListed).map fun name =>
      match session.listed (manner.view = .always) name (within folder name) with
      | .ok file => (file, none)
      | .error fault => ({ name, path := within folder name, entry := none }, some fault)

def folderText (now : Timestamp) (files : List ListedFile) : Chars :=
  let total := (files.map ListedFile.room).foldl (· + ·) 0
  let front :=
    if manner.form = .facts || manner.call.has 's' then
      s!"total {manner.rooms.written total}".toList ++ [manner.ending]
    else []
  front ++ manner.listText now files

def deepestList : Nat := 1000

/-- Lists folders, and with the option `-R` those in them, behind each other.  Whether something was
listed in front of them is known. -/
def listFolders (manner : ListManner) (program : String) (headed : Bool) :
    Nat -> Bool × Nat -> List String -> Act (Bool × Nat)
  | 0, state, _ => return state
  | depth + 1, state, folders =>
    folders.foldlM
      (fun (said, worst) folder => do
        let session <- get
        match session.files.find (pathOf folder) with
        | .error fault =>
          discard <| complain program s!"cannot open directory {quoted folder}: {wording fault}"
          return (said, max worst failure)
        | .ok _ =>
          let found := manner.folderFiles session folder
          let complaints <- found.filterMapM fun (file, fault) => do
            let some fault := fault | return none
            return some (<- complain program s!"cannot access {quoted file.path}: {wording fault}")
          let files := manner.ordered (found.map Prod.fst)
          let gap := if said then "\n" else ""
          let front := if headed then s!"{gap}{manner.nameText folder}:\n" else ""
          let text := front.toList ++ manner.folderText session.files.clock files
          let worst := max (max worst (<- answerText program text)) (complaints.foldl max success)
          if manner.call.has 'R' then
            let inner := files.filter fun file =>
              file.isFolder && file.name != "." && file.name != ".."
            listFolders manner program headed depth (true, worst) (inner.map (·.path))
          else return (true, worst))
      state

def namedFile (session : Session) (name : String) : Except FileFault ListedFile :=
  match manner.view with
  | .never => session.listed false name name
  | .namedFolders => match session.listed true name name with
    | .ok file => if file.isFolder then .ok file else session.listed false name name
    | .error .missing => session.listed false name name
    | .error .tooManyLinks => session.listed false name name
    | .error fault => .error fault
  | _ => session.listed true name name

def withFirstColor (text : Chars) : Chars :=
  let start := "\x1b[".toList
  let rec go : Chars -> Chars
    | [] => []
    | c :: rest =>
      if start.isPrefixOf (c :: rest) then "\x1b[0m".toList ++ c :: rest else c :: go rest
  go text

end ListManner

def listNamed (program : String) (manner : ListManner) (names : List String) : Act Nat := do
  let session <- get
  let found := names.map (fun name => (name, manner.namedFile session name))
  let complaints <- found.mapM fun (name, file) => do
    match file with
    | .ok _ => return success
    | .error fault => complainWith misuse program s!"cannot access {quoted name}: {wording fault}"
  let all := manner.ordered (found.filterMap (·.2.toOption))
  let opens (file : ListedFile) : Bool := file.isFolder && !manner.call.has 'd'
  let files := all.filter (!opens ·)
  let folders := (all.filter opens).map (·.path)
  let status <- answerText program (manner.listText session.files.clock files)
  let worst := complaints.foldl max status
  let headed := manner.call.has 'R' || 1 < names.length
  return (<- manner.listFolders program headed ListManner.deepestList (!files.isEmpty, worst)
    folders).2

def colorTerminals : List String :=
  wordsIn "Eterm ansi con cons25 cygwin dtterm gnome hurd jfbterm konsole kterm linux mlterm putty
  rxvt screen st terminator tmux vt xterm"

def showsColors (environment : List (String × String)) : Bool :=
  let told (name : String) : String := (environment.lookup name).getD ""
  !(told "COLORTERM").isEmpty || !(told "LS_COLORS").isEmpty ||
    colorTerminals.any ((told "TERM").startsWith ·)

def listIn (form : ListForm) (style : NameStyle) : Utility :=
  withOptions listOptions fun program call => do
    let session <- get
    match ListManner.ofCall form style (session.environment.lookup "COLUMNS") call with
    | .error (true, message) => complainOfCall program message
    | .error (false, message) => complainWith misuse program message
    | .ok manner =>
      let names := if call.operands.isEmpty then ["."] else call.operands
      let manner := { manner with colors := manner.colors && showsColors session.environment }
      if manner.colors then
        let (said, status) <- collect (listNamed program manner names)
        let text := ListManner.withFirstColor (octetsOf said)
        return max status (<- answerText program text)
      else listNamed program manner names

def ls : Utility := listIn .lines .plain

def dir : Utility := listIn .columns .escapes

def vdir : Utility := listIn .facts .escapes

end BaseLanguage.Shell
