import BaseLanguage.Shell.Utility.FileLists
import BaseLanguage.Shell.Utility.Output

namespace BaseLanguage.Shell

open Text

/-!
# What is known of single files

`stat` says what is known of files, in a form with places for each fact; `du` says how much room
files and folders take, with all that lies in them.
-/

/-! ## Facts in a form -/

inductive FileFact where
  | text (value : String)
  | number (value : Nat) (base : Nat)
  | seconds (time : Timestamp)
  | unknown

def fullDate : String := "%Y-%m-%d %H:%M:%S.%N %z"

def fileFact (quotes : Bool) (file : ListedFile) (entry : FileEntry) (letters : String) :
    FileFact :=
  let shown (name : String) : String := if quotes then quoted name else name
  let device := entry.numbers?.getD (0, 0)
  let isDate := ["x", "y", "z", "w"].contains letters
  let isTime := ["X", "Y", "Z", "W"].contains letters
  if isDate then .text (dateText fullDate entry.modified)
  else if isTime then .seconds entry.modified
  else match letters with
    | "a" => .number entry.permissions 8
    | "A" => .text (ListManner.modeText entry)
    | "b" => .number entry.sectors 10
    | "B" => .number sectorBytes 10
    | "C" => .text "?"
    | "d" => .number 64 10
    | "D" => .number 64 16
    | "Hd" => .number 0 10
    | "Ld" => .number 64 10
    | "f" => .number (entry.kindBits + entry.permissions) 16
    | "F" => .text entry.kind
    | "g" => .number 0 10
    | "G" => .text "root"
    | "h" => .number file.links 10
    | "i" => .number file.number 10
    | "m" => .text "/"
    | "n" => .text file.name
    | "N" => match entry.target? with
      | some target => .text s!"{shown file.name} -> {shown (Text.toOctets target)}"
      | none => .text (shown file.name)
    | "o" => .number blockBytes 10
    | "s" => .number entry.size 10
    | "t" => .number device.1 16
    | "T" => .number device.2 16
    | "r" => .number (device.1 * 256 + device.2) 10
    | "R" => .number (device.1 * 256 + device.2) 16
    | "Hr" => .number device.1 10
    | "Lr" => .number device.2 10
    | "u" => .number 0 10
    | "U" => .text "root"
    | _ => .unknown

def secondsText (places : Nat) (time : Timestamp) : Chars :=
  let nanos := withZeros 9 (decimal time.nanos)
  let behind := (nanos ++ List.replicate places '0').take places
  signedDecimal time.seconds ++ (if behind.isEmpty then [] else '.' :: behind)

def FileFact.written (fact : FileFact) (flags : Chars) (width : Nat)
    (precision : Option Nat) : Chars :=
  match fact with
  | .text value =>
    let text := value.toList
    fillTo flags width (match precision with
      | some count => text.take count
      | none => text)
  | .number value base =>
    let letter := if base = 8 then 'o' else if base = 16 then 'x' else 'd'
    let flags := flags.filter (fun flag => flag != '+' && flag != ' ')
    integerAt flags width precision letter value
  | .seconds time => fillNumber flags width true [] (secondsText (precision.getD 0) time)
  | .unknown => ['?']

/-- What a form says of a file; a fault ends it.  Where escapes count, their faults are gathered. -/
def statText (escapes quotes : Bool) (file : ListedFile) (entry : FileEntry) :
    Nat -> Chars -> List String × Except String Chars
  | 0, _ => ([], .ok [])
  | _, [] => ([], .ok [])
  | limit + 1, '%' :: rest =>
    let goOn (said : Chars) (rest : Chars) : List String × Except String Chars :=
      let (faults, outcome) := statText escapes quotes file entry limit rest
      (faults, outcome.map (said ++ ·))
    let flags := rest.takeWhile ['\'', '-', '+', ' ', '#', '0', 'I'].contains
    let behind := rest.drop flags.length
    let digits := behind.takeWhile isDigit
    let behind := behind.drop digits.length
    let (precision, behind) : Option Nat × Chars := match behind with
      | '.' :: behind =>
        let places := behind.takeWhile isDigit
        (some (if places.isEmpty then 9 else valueOf places), behind.drop places.length)
      | behind => (none, behind)
    let written (letters : String) : Chars :=
      (fileFact quotes file entry letters).written flags (valueOf digits) precision
    let front := '%' :: rest.take (rest.length - behind.length)
    match behind with
    | [] =>
      if front.length = 1 then ([], .ok ['%'])
      else
        let shown := String.ofList front
        ([], .error s!"'{shown}': invalid directive")
    | '%' :: rest =>
      if front.length = 1 then goOn ['%'] rest
      else
        let shown := String.ofList (front ++ ['%'])
        ([], .error s!"'{shown}': invalid directive")
    | 'H' :: letter :: rest =>
      if letter = 'd' || letter = 'r' then goOn (written (.ofList ['H', letter])) rest
      else goOn ['?'] (letter :: rest)
    | 'L' :: letter :: rest =>
      if letter = 'd' || letter = 'r' then goOn (written (.ofList ['L', letter])) rest
      else goOn ['?'] (letter :: rest)
    | letter :: rest => goOn (written (.singleton letter)) rest
  | limit + 1, '\\' :: rest =>
    let goOn (said : Chars) (rest : Chars) : List String × Except String Chars :=
      let (faults, outcome) := statText escapes quotes file entry limit rest
      (faults, outcome.map (said ++ ·))
    if !escapes then goOn ['\\'] rest
    else match rest with
      | [] => (["warning: backslash at end of format"], .ok ['\\'])
      | c :: after =>
        if '0' <= c && c <= '7' then
          let digits := (rest.take 3).takeWhile isOctalDigit
          goOn [Char.ofNat (valueInBase 8 digits % 256)] (rest.drop digits.length)
        else if c = 'x' && after.head?.any isHexDigit then
          let digits := (after.take 2).takeWhile isHexDigit
          goOn [Char.ofNat (valueInBase 16 digits)] (after.drop digits.length)
        else if c = '\\' || c = '"' then goOn [c] after
        else match letterOctet? c with
          | some octet => goOn [octet] after
          | none =>
            let shown := String.singleton c
            let (faults, outcome) := goOn [c] after
            (s!"warning: unrecognized escape '\\{shown}'" :: faults, outcome)
  | limit + 1, c :: rest =>
    let (faults, outcome) := statText escapes quotes file entry limit rest
    (faults, outcome.map (c :: ·))

def statForm (entry : FileEntry) : String :=
  let links :=
    if entry.numbers?.isSome then "Inode: %-10i  Links: %-5h Device type: %Hr,%Lr\n"
    else "Inode: %-10i  Links: %h\n"
  "  File: %N\n  Size: %-10s\tBlocks: %-10b IO Block: %-6o %F\nDevice: %Hd,%Ld\t" ++ links ++
    "Access: (%04a/%10.10A)  Uid: (%5u/%8U)   Gid: (%5g/%8G)\n" ++
    "Access: %x\nModify: %y\nChange: %z\n Birth: %w\n"

def terseForm : String := "%n %s %b %f %u %g %D %i %h %t %T %X %Y %Z %W %o\n"

def systemForm : String := "  File: \"%n\"\n"

def stat : Utility :=
  withOptions
    { letters := "Lfc:tα:", words := [("dereference", 'L'), ("file-system", 'f'), ("format", 'c'),
      ("printf", 'α'), ("terse", 't')] }
    fun program call => do
      if call.operands.isEmpty then complainOfCall program "missing operand"
      else
        allOf <| call.operands.map fun name => do
          match (<- get).listed (call.has 'L') name name with
          | .error fault => complain program s!"cannot statx {quoted name}: {wording fault}"
          | .ok file => match file.entry with
            | none => return failure
            | some entry =>
              let manner := call.lastOf ['c', 'α']
              let form := match manner with
                | some letter => (call.argument? letter).getD ""
                | none =>
                  if call.has 't' then terseForm
                  else if call.has 'f' then systemForm
                  else statForm entry
              let (faults, outcome) :=
                statText (manner == some 'α') manner.isSome file entry (form.length + 1) form.toList
              faults.forM (discard <| complain program ·)
              match outcome with
              | .ok text => answerText program (if manner == some 'c' then text ++ ['\n'] else text)
              | .error fault =>
                discard <| complain program fault
                endProcess failure

/-! ## Room -/

def roomOptions : OptionTable where
  letters := "0aB:bcd:DHhklLmPSst:xX:αβγ::"
  words := [("all", 'a'), ("apparent-size", 'α'), ("block-size", 'B'), ("bytes", 'b'),
    ("count-links", 'l'), ("dereference", 'L'), ("dereference-args", 'D'), ("human-readable", 'h'),
    ("inodes", 'β'), ("si", 'γ'), ("max-depth", 'd'), ("null", '0'), ("no-dereference", 'P'),
    ("one-file-system", 'x'), ("separate-dirs", 'S'), ("summarize", 's'), ("total", 'c'),
    ("threshold", 't')]

structure RoomRequest where
  program : String
  call : ProgramCall
  manner : SizeManner
  depth : Nat

namespace RoomRequest

def roomOf (request : RoomRequest) (entry : FileEntry) : Nat :=
  if request.call.has 'β' then 1
  else if request.call.has 'b' || request.call.has 'α' then entry.size
  else entry.sectors * sectorBytes

def line (request : RoomRequest) (room : Nat) (name : String) : Chars :=
  let ending := if request.call.has '0' then Char.ofNat 0 else '\n'
  let shown := if request.call.has 'β' then numberText room else request.manner.written room
  shown.toList ++ '\t' :: name.toList ++ [ending]

structure Measuring where
  seen : List Nat := []
  lines : List Chars := []

/-- The room that what stands at a location takes, with all that lies in it; nothing if it was
counted before. -/
def measure (request : RoomRequest) (tree : FileTree) :
    Nat -> Nat -> String -> Location -> Measuring -> Nat × Measuring
  | 0, _, _, _, state => (0, state)
  | limit + 1, depth, name, place, state => match tree.number? place, tree.get? place with
    | some number, some entry =>
      if state.seen.contains number && !request.call.has 'l' then (0, state)
      else
        let state := { state with seen := number :: state.seen }
        let own := request.roomOf entry
        if entry.isFolder then
          let (inside, folders, state) := (tree.children place).foldl
            (fun (inside, folders, state) child =>
              let childPlace := place ++ [child]
              let childName := ListManner.within name (toOctets child)
              let (room, state) := measure request tree limit (depth + 1) childName childPlace state
              if tree.isFolder childPlace then (inside, folders + room, state)
              else (inside + room, folders, state))
            (0, 0, state)
          let all := own + inside + folders
          let said := if request.call.has 'S' then own + inside else all
          let state :=
            if depth <= request.depth then
              { state with lines := request.line said name :: state.lines }
            else state
          (all, state)
        else
          let isSaid := depth <= request.depth && (request.call.has 'a' || depth = 0)
          let state :=
            if isSaid then { state with lines := request.line own name :: state.lines } else state
          (own, state)
    | _, _ => (0, state)

end RoomRequest

def du : Utility :=
  withOptions roomOptions fun program call => do
    let manner : Except String SizeManner :=
      call.options.foldlM
        (fun manner option => match option.1 with
          | 'b' => .ok (.units 1 "")
          | 'k' => .ok (.units 1024 "")
          | 'm' => .ok (.units 1048576 "")
          | 'h' => .ok (.letters 1024)
          | 'γ' => .ok (.letters 1000)
          | 'B' => match sizeManner? option.2 with
            | some manner => .ok manner
            | none => .error s!"invalid -B argument {quoted option.2}"
          | _ => .ok manner)
        (.units 1024 "")
    let depth : Except String Nat := match call.argument? 'd' with
      | none => .ok (if call.has 's' then 0 else 100000)
      | some text => match digitsValue? text with
        | some value => .ok (if call.has 's' then 0 else value)
        | none => .error s!"invalid maximum depth {quoted text}"
    match manner, depth with
    | .error message, _ => complain program message
    | _, .error message => complainOfCall program message
    | .ok manner, .ok depth =>
      if call.has 'a' && call.has 's' then
        complainOfCall program "cannot both summarize and show all entries"
      else
        let request : RoomRequest := { program, call, manner, depth }
        let names := if call.operands.isEmpty then ["."] else call.operands
        let follows := call.has 'L' || call.has 'D' || call.has 'H'
        let (total, state, status) <- names.foldlM
          (fun (total, state, status) name => do
            let tree := (<- get).files
            let path := pathOf name
            let found := do
              let place <- if follows then tree.locate path else tree.locateName path
              let _ <- tree.entryAt path place
              return place
            match found with
            | .error fault =>
              discard <| complain program s!"cannot access {quoted name}: {wording fault}"
              return (total, state, failure)
            | .ok place =>
              let (room, measured) := request.measure tree
                FileTree.longestPath 0 name place { state with lines := [] }
              discard <| answerText program measured.lines.reverse.flatten
              return (total + room, measured, status))
          (0, ({} : RoomRequest.Measuring), success)
        if call.has 'c' then discard <| answerText program (request.line total "total")
        let _ := state
        return status

end BaseLanguage.Shell
