import BaseLanguage.Deflate.Packing
import BaseLanguage.Digest.Rounds
import BaseLanguage.Shell.Utility.Output
import BaseLanguage.Shell.Utility.Transfer

namespace BaseLanguage.Shell

/-!
# Compressed files

A compressed file tells the name and the time of a file, its packed text, the remainder of the text
and its size.  Several of them may follow each other.
-/

namespace Compressed

def numberAt (octets : ByteArray) (place count : Nat) : Nat :=
  (List.range count).foldr
    (fun index value => 256 * value + Deflate.byteAt octets (place + index)) 0

def octetsOfNumber (value count : Nat) : ByteArray :=
  ⟨((List.range count).map fun index => UInt8.ofNat (value / Nat.pow 256 index % 256)).toArray⟩

def front (name : Option String) (seconds level : Nat) : ByteArray :=
  let effort : UInt8 := if level = 9 then 2 else if level = 1 then 4 else 0
  let flags : UInt8 := if name.isSome then 8 else 0
  let tail := match name with
    | some name => Text.bytesOf name.toList ++ ⟨#[0]⟩
    | none => .empty
  ⟨#[0x1f, 0x8b, 8, flags]⟩ ++ octetsOfNumber seconds 4 ++ ⟨#[effort, 3]⟩ ++ tail

def ofText (text : ByteArray) (name : Option String) (seconds level : Nat) : ByteArray :=
  front name seconds level ++ Deflate.packed (Deflate.Effort.ofLevel level) text ++
    octetsOfNumber (Digest.reflectedCrc text) 4 ++ octetsOfNumber text.size 4

def isMarked (octets : ByteArray) (place : Nat) : Bool := numberAt octets place 2 = 0x8b1f

def behindText (octets : ByteArray) : Nat -> Nat -> Nat
  | 0, place => place
  | limit + 1, place =>
    if octets.size <= place then place + 1
    else if Deflate.byteAt octets place = 0 then place + 1
    else behindText octets limit (place + 1)

def textStart (octets : ByteArray) (place : Nat) : Nat :=
  let flags := Deflate.byteAt octets (place + 3)
  let has (bit : Nat) : Bool := flags / bit % 2 = 1
  let start := place + 10
  let start := if has 4 then start + 2 + numberAt octets start 2 else start
  let start := if has 8 then behindText octets octets.size start else start
  let start := if has 16 then behindText octets octets.size start else start
  if has 2 then start + 2 else start

inductive Ending where
  | whole
  | notCompressed
  | ended
  | damaged
  | wrongRemainder
  | wrongSize
  | followed
  deriving DecidableEq

def writtenPart (text : ByteArray) : ByteArray := text.extract 0 (text.size / 32768 * 32768)

def textFrom (octets : ByteArray) : Nat -> Nat -> ByteArray -> ByteArray × Ending
  | 0, _, text => (text, .whole)
  | limit + 1, place, text =>
    let isFirst := place = 0
    let rest := octets.extract place octets.size
    if !isFirst && rest.data.all (· == 0) then (text, .whole)
    else if rest.size < 2 then (text, if isFirst then .ended else .followed)
    else if !isMarked octets place then (text, if isFirst then .notCompressed else .followed)
    else
      let start := textStart octets place
      if octets.size < start then (text, .ended)
      else
        let found := Deflate.unpacked octets start
        match found.damage with
        | some .ended => (text ++ writtenPart found.text, .ended)
        | some .wrong => (text ++ writtenPart found.text, .damaged)
        | none =>
          let text := text ++ found.text
          if octets.size < found.last + 8 then (text, .ended)
          else if numberAt octets found.last 4 ≠ Digest.reflectedCrc found.text then
            (text, .wrongRemainder)
          else if numberAt octets (found.last + 4) 4 ≠ found.text.size % Nat.pow 2 32 then
            (text, .wrongSize)
          else textFrom octets limit (found.last + 8) text

def text (octets : ByteArray) : ByteArray × Ending := textFrom octets (octets.size + 1) 0 .empty

def Ending.wording (name : String) : Ending -> String
  | .whole => ""
  | .notCompressed => s!"\ngzip: {name}: not in gzip format\n"
  | .ended => s!"\ngzip: {name}: unexpected end of file\n"
  | .damaged => s!"\ngzip: {name}: invalid compressed data--format violated\n"
  | .wrongRemainder => s!"\ngzip: {name}: invalid compressed data--crc error\n"
  | .wrongSize => s!"\ngzip: {name}: invalid compressed data--length error\n"
  | .followed => s!"\ngzip: {name}: decompression OK, trailing garbage ignored\n"

def Ending.status : Ending -> Nat
  | .whole => 0
  | .followed => 2
  | _ => 1

def savedText (saved : Int) (whole : Nat) : String :=
  let value := Text.Fraction.ratio (100 * saved.natAbs) whole
  let sign := if saved < 0 && whole ≠ 0 then ['-'] else []
  let digits := if whole = 0 then ['0', '.', '0'] else (value.toBinary 53).fixed 1 false
  .ofList (fillTo [] 5 (sign ++ digits)) ++ "%"

end Compressed

/-! ## The program -/

structure CompressionCall where
  call : ProgramCall
  level : Nat := 6
  uncompresses : Bool := false
  suffix : String := ".gz"

namespace CompressionCall

def has (request : CompressionCall) (letter : Char) : Bool := request.call.has letter

variable (request : CompressionCall)

def tell (text : String) : Act Unit := do
  if request.has 'v' then discard <| putText standardError text

def warn (message : String) : Act Nat := do
  if !request.has 'q' then discard <| putText standardError s!"gzip: {message}\n"
  return 2

def listLine (compressed uncompressed : Nat) (saved : Int) (name : String) : String :=
  let number (value : Nat) : String := .ofList (fillTo [] 19 (numberText value).toList)
  s!"{number compressed} {number uncompressed} {Compressed.savedText saved uncompressed} {name}\n"

def sizes (octets : ByteArray) : Nat × Nat × Int :=
  let (text, _) := Compressed.text octets
  let front := Compressed.textStart octets 0 + 8
  (octets.size, text.size, (text.size : Int) - ((octets.size : Int) - front))

/-- Lists compressed files.  What all of them have saved is told as if they had one front together,
that of the last one. -/
def list (names : List String) : Act Nat := do
  if !request.has 'q' then
    discard <| putText standardOutput
      "         compressed        uncompressed  ratio uncompressed_name\n"
  let step (found : Nat × Nat × Int × Nat) (name : String) : Act (Nat × Nat × Int × Nat) := do
    let (all, plain, front, status) := found
    let content <- if name = "-" then do pure (.ok ((<- takeAll standardInput).getD .empty))
      else readNamed name
    match content with
    | .error fault =>
      let status' <- complain "gzip" s!"{name}: {wording fault}"
      return (all, plain, front, max status status')
    | .ok octets =>
      if !Compressed.isMarked octets 0 then
        let shown := if name = "-" then "stdin" else name
        discard <| putText standardError (Compressed.Ending.notCompressed.wording shown)
        return (all, plain, front, 1)
      else
        let (compressed, uncompressed, here) := sizes octets
        let shown :=
          if name = "-" then "stdout"
          else if name.endsWith request.suffix then
            .ofList (name.toList.take (name.length - request.suffix.length))
          else name
        discard <| putText standardOutput (listLine compressed uncompressed here shown)
        let front := here - uncompressed + compressed
        return (all + compressed, plain + uncompressed, front, status)
  let (all, plain, front, status) <- names.foldlM step (0, 0, 0, 0)
  if 1 < names.length then
    let saved := (plain : Int) - all + front
    discard <| putText standardOutput (listLine all plain saved "(totals)")
  return status

def deliver (name : String) (octets : ByteArray) : Act Nat := do
  if request.has 'f' && request.has 'c' && !Compressed.isMarked octets 0 then answer "gzip" octets
  else
    let (text, ending) := Compressed.text octets
    if !request.has 't' then discard <| answer "gzip" text
    if ending ≠ .whole then discard <| putText standardError (ending.wording name)
    else if request.has 't' then request.tell " OK\n"
    return ending.status

def throughInput : Act Nat := do
  let octets := (<- takeAll standardInput).getD .empty
  if request.uncompresses then
    if request.has 't' then request.tell "stdin:\t"
    request.deliver "stdin" octets
  else answer "gzip" (Compressed.ofText octets none 0 request.level)

def knownSuffixes : List (String × String) :=
  [(".tgz", ".tar"), (".taz", ".tar"), (".gz", ""), ("-gz", ""), (".z", ""), ("-z", ""), ("_z", ""),
    (".Z", "")]

def bareName? (name : String) : Option String :=
  ((request.suffix, "") :: knownSuffixes).findSome? fun (suffix, new) =>
    if name.endsWith suffix && suffix.length < name.length then
      some (.ofList (name.toList.take (name.length - suffix.length)) ++ new)
    else none

def thereName (name : String) : Act (Option String) := do
  let session <- get
  let isThere (name : String) : Bool := (session.entry name).isOk
  if isThere name then return some name
  else
    let names := (request.suffix :: [".gz", "-gz", ".z", "-z", "_z", ".Z"]).map (name ++ ·)
    return names.find? isThere

def replace (source target : String) (bytes : ByteArray) : Act (Option Nat) := do
  let session <- get
  let entry := (session.entry source).toOption
  if (session.entry target).isOk && !request.has 'f' then
    if !request.has 'q' then
      discard <| putText standardError s!"gzip: {target} already exists;\tnot overwritten\n"
    return some 2
  else match <- writeNamed .writing target bytes with
    | .error fault => return some (<- complain "gzip" s!"{target}: {wording fault}")
    | .ok _ =>
      match entry with
      | some entry =>
        discard <| filing do
          FileTree.setModified (pathOf target) entry.modified
          FileTree.setPermissions (pathOf target) entry.permissions
      | none => pure ()
      if !request.has 'k' then discard <| filing (FileTree.remove (pathOf source))
      return none

def replacedText (target : String) : String :=
  let word := if request.has 'k' then "created" else "replaced with"
  s!" -- {word} {target}\n"

def compressFile (name : String) (entry : FileEntry) (octets : ByteArray) : Act Nat := do
  let isPlain := request.has 'n'
  let last := lastName "" name
  let seconds := if isPlain then 0 else entry.modified.seconds.toNat
  let compressed := Compressed.ofText octets (if isPlain then none else some last) seconds
    request.level
  let front := (Compressed.front (if isPlain then none else some last) seconds request.level).size
  let saved := Compressed.savedText
    ((octets.size : Int) - ((compressed.size : Int) - (front + 8))) octets.size
  if request.has 'c' then
    let status <- answer "gzip" compressed
    request.tell s!"{name}:\t{saved}\n"
    return status
  else if (request.bareName? name).isSome && !request.has 'f' then
    let suffix := ((request.suffix :: knownSuffixes.map Prod.fst).find? (name.endsWith ·)).getD ""
    discard <| request.warn s!"{name} already has {suffix} suffix -- unchanged"
    return success
  else
    let target := name ++ request.suffix
    match <- request.replace name target compressed with
    | some status => return status
    | none =>
      request.tell s!"{name}:\t{saved}{request.replacedText target}"
      return success

def uncompressFile (name : String) (octets : ByteArray) : Act (Nat × Bool) := do
  if request.has 't' then
    request.tell s!"{name}:\t"
    return (<- request.deliver name octets, false)
  else if request.has 'c' then
    let status <- request.deliver name octets
    return (status, status = failure)
  else match request.bareName? name with
    | none => return (<- request.warn s!"{name}: unknown suffix -- ignored", false)
    | some target =>
      let (text, ending) := Compressed.text octets
      if ending.status = failure then
        request.tell s!"{name}:\t"
        discard <| putText standardError (ending.wording name)
        return (failure, true)
      else
        if ending ≠ .whole then discard <| putText standardError (ending.wording name)
        match <- request.replace name target text with
        | some status => return (status, false)
        | none =>
          let (_, _, saved) := sizes octets
          let told := Compressed.savedText saved text.size
          request.tell s!"{name}:\t{told}{request.replacedText target}"
          return (ending.status, false)

def throughFile (given : String) : Act (Nat × Bool) := do
  let found <- if request.uncompresses then request.thereName given else pure (some given)
  let missing := if request.uncompresses then given ++ request.suffix else given
  let name := found.getD missing
  match (<- get).entry name with
  | .error fault => return (<- complain "gzip" s!"{name}: {wording fault}", false)
  | .ok entry =>
    if entry.node = .folder then
      return (<- request.warn s!"{name} is a directory -- ignored", false)
    else match <- readNamed name with
      | .error fault => return (<- complain "gzip" s!"{name}: {wording fault}", false)
      | .ok octets =>
        if request.uncompresses then request.uncompressFile name octets
        else return (<- request.compressFile name entry octets, false)

def filesWithin (session : Session) : Nat -> String -> List String
  | 0, name => [name]
  | limit + 1, name =>
    if session.hasFolder name then
      match session.files.locate (pathOf name) with
      | .ok place =>
        (session.files.children place).flatMap fun child =>
          filesWithin session limit (nameWithin name (Text.toOctets child))
      | .error _ => [name]
    else [name]

def throughAll : Act Nat := do
  let session <- get
  let names := operandsOrInput request.call.operands
  let names := if request.has 'r' then names.flatMap (filesWithin session 50) else names
  if request.has 'l' then request.list names
  else
    let step (found : Nat × Bool) (name : String) : Act (Nat × Bool) := do
      if found.2 then return found
      else if name = "-" then
        let status <- request.throughInput
        return (if found.1 = 1 then 1 else max found.1 status, status = failure)
      else
        let (status, stops) <- request.throughFile name
        let worse := if found.1 = 1 || status = 1 then 1 else max found.1 status
        return (worse, stops)
    return (<- names.foldlM step (0, false)).1

end CompressionCall

def compressionOptions : OptionTable where
  letters := "abcdfhHklLmMnNqrS:tvVZ123456789"
  words := [("ascii", 'a'), ("to-stdout", 'c'), ("stdout", 'c'), ("decompress", 'd'),
    ("uncompress", 'd'), ("force", 'f'), ("help", 'h'), ("keep", 'k'), ("list", 'l'),
    ("license", 'L'), ("no-name", 'n'), ("name", 'N'), ("quiet", 'q'), ("silent", 'q'),
    ("synchronous", 'a'), ("recursive", 'r'), ("suffix", 'S'), ("test", 't'), ("verbose", 'v'),
    ("version", 'V'), ("fast", '1'), ("best", '9'), ("rsyncable", 'a')]

def compressing (uncompresses writes : Bool) : Utility := fun _ arguments => do
  match compressionOptions.read arguments with
  | .error message =>
    discard <| putText standardError
      s!"gzip: {message}\nTry \x60gzip --help' for more information.\n"
    return failure
  | .ok call =>
    if call.has 'V' then
      discard <| putText standardOutput "gzip 1.12\n"
      return success
    else
      let call := if writes || call.has 't' then call.add 'c' else call
      let digits := ['1', '2', '3', '4', '5', '6', '7', '8', '9']
      let level := ((call.lastOf digits).map (·.toNat - 48)).getD 6
      let given := (call.argument? 'S').getD ".gz"
      let request : CompressionCall :=
        { call, level, suffix := given
          uncompresses := uncompresses || call.has 'd' || call.has 't' || call.has 'l' }
      request.throughAll

end BaseLanguage.Shell
