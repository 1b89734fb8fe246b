import BaseLanguage.Shell.Utility.Options

namespace BaseLanguage.Shell

open Text

/-!
# Counting

`wc` counts the lines, words, characters and bytes of files, and how long the longest line is.
-/

inductive Countable where
  | lines
  | words
  | characters
  | bytes
  | width

namespace Countable

def letter : Countable -> Char
  | lines => 'l'
  | words => 'w'
  | characters => 'm'
  | bytes => 'c'
  | width => 'L'

def all : List Countable := [lines, words, characters, bytes, width]

def countWords (text : Chars) : Nat :=
  (text.foldl
    (fun ((count, inside) : Nat × Bool) c =>
      if isSpace c then (count, false)
      else if isGraphic c then (if inside then count else count + 1, true)
      else (count, inside))
    (0, false)).1

def widest (text : Chars) : Nat :=
  let (widest, current) := text.foldl
    (fun ((widest, current) : Nat × Nat) c =>
      if c = '\n' || c = '\r' || c = '\x0c' then (max widest current, 0)
      else if c = '\t' then (widest, current + 8 - current % 8)
      else if isGraphic c || c = ' ' then (widest, current + 1)
      else (widest, current))
    (0, 0)
  max widest current

def count (kind : Countable) (text : Chars) : Nat := match kind with
  | lines => text.count '\n'
  | words => countWords text
  | characters => text.length
  | bytes => text.length
  | width => widest text

def total (kind : Countable) (counts : List Nat) : Nat := match kind with
  | width => counts.foldl max 0
  | _ => counts.foldl (· + ·) 0

end Countable

def padded (width value : Nat) : String :=
  let digits := decimal value
  .ofList (List.replicate (width - digits.length) ' ' ++ digits)

def countLine (width : Nat) (counts : List Nat) (name : Option String) : String :=
  " ".intercalate (counts.map (padded width) ++ name.toList)

def wcOptions : OptionTable where
  letters := "clLmw"
  words := [("bytes", 'c'), ("chars", 'm'), ("lines", 'l'), ("words", 'w'),
    ("max-line-length", 'L')]

def countWidth (chosen names : Nat) (fromInput : Bool) (size : Nat) : Nat :=
  if names <= 1 && chosen = 1 then 1
  else if fromInput then 7
  else (decimal size).length

def wc : Utility :=
  withOptions wcOptions fun program call => do
    let asked := Countable.all.filter (call.has ·.letter)
    let chosen := if asked.isEmpty then [.lines, .words, .bytes] else asked
    let names := call.operands
    let readOne (name : String) : Act (Except String Chars) := do
      return (<- readOperand name).map octetsOf
    let contents <- (operandsOrInput names).mapM readOne
    let texts := contents.map (·.toOption.getD [])
    let folders <- names.filterM (fun name => return (<- get).files.hasFolder (pathOf name))
    let size := texts.foldl (fun sum text => sum + text.length) 0
    let fromInput := names.isEmpty || names.contains "-" || !folders.isEmpty
    let width := countWidth chosen.length names.length fromInput size
    let counts := texts.map (fun text => chosen.map (·.count text))
    let entries := (operandsOrInput names).zip (contents.zip counts)
    let status <- allOf <| entries.map fun (name, content, counts) => do
      let shown := if names.isEmpty then none else some name
      match content with
      | .ok _ => answerLines program [countLine width counts shown]
      | .error fault =>
        discard <| complain program s!"{quotedIfNeeded name}: {fault}"
        if folders.contains name then discard <| answerLines program [countLine width counts shown]
        return failure
    if names.length <= 1 then return status
    else
      let totals := chosen.zipIdx.map fun (kind, index) => kind.total (counts.map (·.getD index 0))
      return max status (<- answerLines program [countLine width totals (some "total")])

/-!
## Programs that pass bytes on

These read files or the standard input, and say what they read: all of it, its beginning or its end.
-/

/-! ## All of it -/

structure Showing where
  numbers : Bool := false
  numbersFilled : Bool := false
  squeezes : Bool := false
  ends : Bool := false
  tabs : Bool := false
  hidden : Bool := false

namespace Showing

def caret (c : Char) : Chars :=
  if c < ' ' then ['^', Char.ofNat (c.toNat + 64)]
  else if c = '\x7f' then ['^', '?']
  else [c]

def shown (showing : Showing) (c : Char) : Chars :=
  if c = '\t' then if showing.tabs then ['^', 'I'] else [c]
  else if c = '\n' then [c]
  else if !showing.hidden then [c]
  else if c.toNat < 128 then caret c
  else 'M' :: '-' :: caret (Char.ofNat (c.toNat - 128))

def numberFront (number : Nat) : Chars :=
  let digits := decimal number
  List.replicate (6 - digits.length) ' ' ++ digits ++ ['\t']

def apply (showing : Showing) : Nat -> Bool -> List Chars -> List Chars
  | _, _, [] => []
  | number, emptyBefore, line :: rest =>
    let empty := line == ['\n']
    if showing.squeezes && empty && emptyBefore then showing.apply number true rest
    else
      let counts := showing.numbers && !(showing.numbersFilled && empty)
      let front := if counts then numberFront number else []
      let ended := line.getLast? == some '\n'
      let inside := (if ended then line.dropLast else line).flatMap showing.shown
      let marked := if ended && showing.ends then inside ++ ['$'] else inside
      (front ++ marked ++ (if ended then ['\n'] else [])) ::
        showing.apply (if counts then number + 1 else number) empty rest

def isPlain (showing : Showing) : Bool :=
  !(showing.numbers || showing.squeezes || showing.ends || showing.tabs || showing.hidden)

end Showing

def catOptions : OptionTable where
  letters := "benstuvAET"
  words := [("number-nonblank", 'b'), ("number", 'n'), ("squeeze-blank", 's'),
    ("show-nonprinting", 'v'), ("show-ends", 'E'), ("show-tabs", 'T'), ("show-all", 'A'),
    ("help", 'u'), ("version", 'u')]

def isOutput (stream : Nat) : Act Bool := do
  let session <- get
  match session.stream? stream, session.stream? standardOutput with
  | some (.opened number), some (.opened output) =>
    match session.opened[number]?, session.opened[output]? with
    | some left, some right => match session.files.node? left.node with
      | some ⟨.file content, _, _⟩ => return left.node == right.node && left.offset < content.size
      | _ => return false
    | _, _ => return false
  | _, _ => return false

def sayOperand (program name : String) : Act Nat := do
  let say (stream : Nat) : Act Nat := do
    if <- isOutput stream then complain program s!"{quotedIfNeeded name}: input file is output file"
    else passFrom stream (answer program) mostWaits success
  if name = "-" then
    match <- readingFault? standardInput with
    | none => say standardInput
    | some fault =>
      let status <- complain program s!"-: {wording fault}"
      if fault = .notOpen then complain program s!"closing standard input: {wording fault}"
      else return status
  else match <- readingNamed name say with
    | .ok status => return status
    | .error fault => complain program s!"{quotedIfNeeded name}: {wording fault}"

def cat : Utility :=
  withOptions catOptions fun program call => do
    let any (letters : Chars) : Bool := letters.any call.has
    let showing : Showing := {
      numbers := any ['n', 'b']
      numbersFilled := any ['b']
      squeezes := any ['s']
      ends := any ['e', 'E', 'A']
      tabs := any ['t', 'T', 'A']
      hidden := any ['v', 'e', 't', 'A'] }
    if showing.isPlain then allOf ((operandsOrInput call.operands).map (sayOperand program))
    else
      let contents <- (operandsOrInput call.operands).mapM (readOrComplain program)
      let octets := (contents.filterMap id).flatten
      let shown := (showing.apply 1 false (linesWithEnds '\n' octets)).flatten
      let status <- answerText program shown
      return if contents.all Option.isSome then status else failure

def tee : Utility :=
  withOptions { letters := "aip", words := [("append", 'a'), ("ignore-interrupts", 'i')] }
    fun program call => do
      let start (name : String) : Act (Option Nat) := do
        match <- openStream (if call.has 'a' then .appending else .writing) name with
        | .ok stream => return some stream
        | .error fault =>
          discard <| complain program s!"{quotedIfNeeded name}: {wording fault}"
          return none
      let started <- call.operands.mapM start
      let streams := started.filterMap id
      let status <- passOn fun bytes => do
        let status <- answer program bytes
        streams.forM (discard <| put · bytes)
        return status
      streams.forM close
      return if started.all Option.isSome then status else failure

/-! ## Beginnings and ends -/

structure Portion where
  inBytes : Bool := false
  opposite : Bool := false
  count : Nat := 10

def sizeFactor? : String -> Option Nat
  | "" => some 1
  | "b" => some 512
  | "kB" => some 1000
  | "K" => some 1024
  | "k" => some 1024
  | "KiB" => some 1024
  | "MB" => some 1000000
  | "M" => some 1048576
  | "m" => some 1048576
  | "MiB" => some 1048576
  | "G" => some 1073741824
  | _ => none

def sizeValue? (text : Chars) : Option Nat :=
  let digits := text.takeWhile isDigit
  if digits.isEmpty then none
  else (sizeFactor? (.ofList (text.drop digits.length))).map (valueOf digits * ·)

def portion? (inBytes : Bool) (sign : Char) (text : String) : Option Portion :=
  match text.toList with
  | c :: digits =>
    if c = sign then (sizeValue? digits).map (fun count => ⟨inBytes, true, count⟩)
    else if c = '-' || c = '+' then (sizeValue? digits).map (fun count => ⟨inBytes, false, count⟩)
    else (sizeValue? (c :: digits)).map (fun count => ⟨inBytes, false, count⟩)
  | [] => none

def withOldNumber (signs : Chars) (arguments : List String) : List String :=
  match arguments with
  | argument :: rest => match argument.toList with
    | sign :: c :: more =>
      if signs.contains sign && isDigit c then
        let digits := (c :: more).takeWhile isDigit
        let letters := (c :: more).drop digits.length
        let text := .ofList (if sign = '+' then sign :: digits else digits)
        let unit := if letters.contains 'c' then "-c" else "-n"
        let quiet := if letters.contains 'q' then ["-q"] else []
        unit :: text :: quiet ++ rest
      else arguments
    | _ => arguments
  | [] => []

def headOptions : OptionTable where
  letters := "c:n:qvz"
  words := [("bytes", 'c'), ("lines", 'n'), ("quiet", 'q'), ("silent", 'q'), ("verbose", 'v'),
    ("zero-terminated", 'z')]

def tailOptions : OptionTable where
  letters := "c:n:qvzfF"
  words := headOptions.words

def portionOf (sign : Char) (call : ProgramCall) : Except String Portion :=
  match call.lastOf ['c', 'n'] with
  | none => .ok {}
  | some letter =>
    let text := (call.argument? letter).getD ""
    match portion? (letter == 'c') sign text with
    | some portion => .ok portion
    | none => .error (if letter = 'c' then "bytes: " ++ plainlyQuoted text
        else "lines: " ++ plainlyQuoted text)

variable (portion : Portion)

def Portion.units (ending : Char) (text : Chars) : List Chars :=
  if portion.inBytes then text.map ([·]) else linesWithEnds ending text

def Portion.front (ending : Char) (text : Chars) : Chars :=
  let units := portion.units ending text
  (units.take (if portion.opposite then units.length - portion.count else portion.count)).flatten

def Portion.back (ending : Char) (text : Chars) : Chars :=
  let units := portion.units ending text
  let left := if portion.opposite then portion.count - 1 else units.length - portion.count
  (units.drop left).flatten

def blockSize : Nat := 8192

/-- The beginning of a stream.  Lines are looked for block by block; what was read of a file behind
them is given back, but not what was read of a channel. -/
def takeFront (ending : Char) (stream : Nat) : Act Chars := do
  let octet := UInt8.ofNat ending.toNat
  let isEnough (bytes : ByteArray) : Bool :=
    if portion.opposite then false
    else if portion.inBytes then portion.count <= bytes.size
    else portion.count <= bytes.data.count octet
  let isFile := match (<- get).stream? stream with
    | some (.opened _) => true
    | _ => false
  if portion.inBytes && !portion.opposite then
    return octetsOf ((<- takeBytes portion.count stream).getD .empty)
  else match <- lookAhead isEnough stream with
    | none => return []
    | some bytes =>
      let front := portion.front ending (octetsOf bytes)
      let blocks := (front.length + blockSize - 1) / blockSize * blockSize
      drop (if isFile then front.length else min blocks bytes.size) stream
      return front

def sayPortions (program : String) (call : ProgramCall)
    (part : String -> Act (Except String Chars)) : Act Nat := do
  let names := operandsOrInput call.operands
  let heads := (1 < names.length && call.lastOf ['q', 'v'] != some 'q') || call.has 'v'
  let step (said : Bool × Nat) (name : String) : Act (Bool × Nat) := do
    match <- part name with
    | .error fault =>
      discard <| complain program fault
      return (said.1, failure)
    | .ok octets =>
      let shown := if name = "-" then "standard input" else name
      let gap := if said.1 then "\n" else ""
      let front := if heads then s!"{gap}==> {shown} <==\n" else ""
      return (true, max said.2 (<- answerText program (front.toList ++ octets)))
  return (<- names.foldlM step (false, success)).2

def partFault (name : String) (fault : FileFault) : String :=
  if fault = .isFolder then s!"error reading {quoted name}: {wording fault}"
  else s!"cannot open {quoted name} for reading: {wording fault}"

def head : Utility := fun program arguments =>
  withOptions headOptions
    (fun program call => do
      let ending := if call.has 'z' then Char.ofNat 0 else '\n'
      match portionOf '-' call with
      | .error text => complain program s!"invalid number of {text}"
      | .ok portion =>
        sayPortions program call fun name => do
          if name = "-" then
            match <- readingFault? standardInput with
            | some fault => return .error (partFault "standard input" fault)
            | none => return .ok (<- takeFront portion ending standardInput)
          else match <- readingNamed name (takeFront portion ending) with
            | .ok octets => return .ok octets
            | .error fault => return .error (partFault name fault))
    program (withOldNumber ['-'] arguments)

def tail : Utility := fun program arguments =>
  withOptions tailOptions
    (fun program call => do
      let ending := if call.has 'z' then Char.ofNat 0 else '\n'
      match portionOf '+' call with
      | .error text => complain program s!"invalid number of {text}"
      | .ok portion =>
        sayPortions program call fun name => do
          if name = "-" then
            let bytes := (<- takeAll standardInput).getD .empty
            return .ok (portion.back ending (octetsOf bytes))
          else match <- readNamed name with
            | .ok bytes => return .ok (portion.back ending (octetsOf bytes))
            | .error fault => return .error (partFault name fault))
    program (withOldNumber ['-', '+'] arguments)

end BaseLanguage.Shell
