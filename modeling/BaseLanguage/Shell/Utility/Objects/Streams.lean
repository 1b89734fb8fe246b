import BaseLanguage.Shell.Utility.Objects.Form

namespace BaseLanguage.Shell.Objects

/-!
# What a program reads and writes

What is written to a stream is held until there is enough of it, or until the stream is flushed.  What
is read is taken in blocks.  A text says each end of a line by one character.
-/

def inputAddress : Nat := nativeTypes.length

def outputAddress : Nat := nativeTypes.length + 1

def complaintAddress : Nat := nativeTypes.length + 2

def blockSize : Nat := 8192

def streamAt (address : Nat) : Machine StreamFacts := do
  match <- thingAt address with
  | .stream facts => return facts
  | _ => return default

def changeStream (address : Nat) (change : StreamFacts -> StreamFacts) : Machine Unit :=
  changeThing address fun
    | .stream facts => .stream (change facts)
    | thing => thing

/-! ## Faults of the system -/

def systemFaultType : Nat -> String
  | 1 => "PermissionError"
  | 2 => "FileNotFoundError"
  | 3 => "ProcessLookupError"
  | 10 => "ChildProcessError"
  | 11 => "BlockingIOError"
  | 13 => "PermissionError"
  | 17 => "FileExistsError"
  | 20 => "NotADirectoryError"
  | 21 => "IsADirectoryError"
  | 32 => "BrokenPipeError"
  | _ => "OSError"

def systemFaultText : Nat -> String
  | 1 => "Operation not permitted"
  | 2 => "No such file or directory"
  | 3 => "No such process"
  | 6 => "No such device or address"
  | 9 => "Bad file descriptor"
  | 10 => "No child processes"
  | 11 => "Resource temporarily unavailable"
  | 13 => "Permission denied"
  | 16 => "Device or resource busy"
  | 17 => "File exists"
  | 20 => "Not a directory"
  | 21 => "Is a directory"
  | 22 => "Invalid argument"
  | 25 => "Inappropriate ioctl for device"
  | 28 => "No space left on device"
  | 29 => "Illegal seek"
  | 32 => "Broken pipe"
  | 36 => "File name too long"
  | 39 => "Directory not empty"
  | 40 => "Too many levels of symbolic links"
  | number => s!"Unknown error {numberText number}"

def systemNumber : FileFault -> Nat
  | .missing => 2
  | .notFolder => 20
  | .isFolder => 21
  | .alreadyThere => 17
  | .notOpen => 9
  | .noDevice => 6
  | .noRoom => 28
  | .tooManyLinks => 40
  | .badName => 36
  | .notText => 22

def failSystem (number : Nat) (names : List Value) : Machine α := do
  let value <- newFault (nativeType (systemFaultType number))
    [.whole number, .text (systemFaultText number)]
  match value with
  | .object address => match <- thingAt address with
    | .member _ table _ => match names with
      | [name] => setNamedIn table "filename" name
      | [name, other] =>
        setNamedIn table "filename" name
        setNamedIn table "filename2" other
      | _ => pure ()
    | _ => pure ()
  | _ => pure ()
  throw (.raised value)

def failFile (fault : FileFault) (name : Value) : Machine α :=
  failSystem (systemNumber fault) [name]

/-! ## Writing -/

def flush (address : Nat) : Machine Unit := do
  let facts <- streamAt address
  if facts.size ≠ 0 then
    changeStream address ({ · with held := [], size := 0 })
    match facts.stream with
    | some stream =>
      let bytes := facts.held.reverse.foldl (fun all piece => all ++ piece) ByteArray.empty
      match <- tryPut stream bytes with
      | none => pure ()
      | some fault => failFile fault .nothing
    | none => pure ()

def flushAll : Machine Unit := do
  let state <- get
  (List.range state.things.size).forM fun address => do
    if inputAddress <= address then
      match state.things.getD address default with
      | .stream facts => if facts.size ≠ 0 then flush address
      | _ => pure ()

def putInto (bytes : ByteArray) (place : Nat) (more : ByteArray) : ByteArray :=
  let padded :=
    if bytes.size < place then bytes ++ ⟨Array.replicate (place - bytes.size) 0⟩ else bytes
  padded.extract 0 place ++ more ++ padded.extract (place + more.size) padded.size

def sayBytes (address : Nat) (bytes : ByteArray) : Machine Unit := do
  let facts <- streamAt address
  if !facts.isOpen then failValue "I/O operation on closed file."
  if !facts.writes then
    fail "UnsupportedOperation" (if facts.isBinary then "write" else "not writable")
  match facts.memory with
  | some memory =>
    changeStream address fun facts => { facts with
      memory := some (putInto memory facts.place bytes), place := facts.place + bytes.size }
  | none =>
    let size := facts.size + bytes.size
    changeStream address (fun facts => { facts with held := bytes :: facts.held, size })
    if facts.isEager || blockSize < size then flush address

def sayText (address : Nat) (text : String) : Machine Unit := do
  let facts <- streamAt address
  let text := match facts.lineEnd with
    | some "\r\n" => "\r\n".intercalate (text.splitOn "\n")
    | _ => text
  let wide := if facts.encoding = "ascii" then 128 else 256
  if facts.encoding = "ascii" || facts.encoding = "latin-1" then
    match text.toList.findIdx? (wide <= ·.toNat) with
    | some index =>
      let c := quotedChar '\'' true ((text.toList).getD index ' ')
      let bound := numberText wide
      fail "UnicodeEncodeError"
        (s!"'{facts.encoding}' codec can't encode character '{c}' in position " ++
          s!"{numberText index}: ordinal not in range({bound})")
    | none => sayBytes address (Text.bytesOf text.toList)
  else
    match facts.errors, text.toList.findIdx? (fun c => 0x10d800 <= c.toNat && c.toNat < 0x10e000) with
    | "strict", some index =>
      if facts.stream.isSome then
        let c := quotedChar '\'' true ((text.toList).getD index ' ')
        fail "UnicodeEncodeError"
          (s!"'utf-8' codec can't encode character '{c}' in position {numberText index}: " ++
            "surrogates not allowed")
      else sayBytes address (encodedText text)
    | _, _ => sayBytes address (encodedText text)

/-! ## Reading -/

def checkReading (address : Nat) : Machine Unit := do
  let facts <- streamAt address
  if !facts.isOpen then failValue "I/O operation on closed file."
  if !facts.reads then
    fail "UnsupportedOperation" (if facts.isBinary then "read" else "not readable")

def fill (address : Nat) : Machine Unit := do
  let facts <- streamAt address
  match facts.memory, facts.stream with
  | some memory, _ =>
    let rest := memory.extract facts.place memory.size
    changeStream address fun facts =>
      { facts with rest := facts.rest ++ rest, ended := true, place := memory.size }
  | none, none => changeStream address ({ · with ended := true })
  | none, some stream =>
    if facts.size ≠ 0 then flush address
    let bytes := (<- takeBytes blockSize stream).getD ByteArray.empty
    if bytes.isEmpty then changeStream address ({ · with ended := true })
    else changeStream address (fun facts => { facts with rest := facts.rest ++ bytes })

def fillAll (address : Nat) : Nat -> Machine Unit
  | 0 => return ()
  | limit + 1 => do
    if !(<- streamAt address).ended then
      fill address
      fillAll address limit

def withPlainEnds (text : Chars) : Chars :=
  let rec go : Chars -> Chars -> Chars
    | [], done => done.reverse
    | '\r' :: '\n' :: rest, done => go rest ('\n' :: done)
    | '\r' :: rest, done => go rest ('\n' :: done)
    | c :: rest, done => go rest (c :: done)
  go text []

def spellingFault? (bytes : ByteArray) : Option (Nat × String) :=
  let chars := decodedFrom (bytes.size + 1) bytes.toList []
  let step (found : Nat × Option Nat) (c : Char) : Nat × Option Nat := match found.2 with
    | some _ => found
    | none =>
      if 0x10dc80 <= c.toNat && c.toNat <= 0x10dcff then (found.1, some (c.toNat - 0x10dc00))
      else (found.1 + (String.singleton c).utf8ByteSize, none)
  match chars.foldl step (0, none) with
  | (place, some byte) =>
    let count := if byte < 0xc2 then 0 else if byte < 0xe0 then 1 else if byte < 0xf0 then 2
      else if byte < 0xf5 then 3 else 0
    if count = 0 then some (place, "invalid start byte")
    else
      let rest := (bytes.extract (place + 1) bytes.size).toList
      let following := (rest.take count).takeWhile (fun b => 0x80 <= b && b < 0xc0)
      if following.length = rest.length then some (place, "unexpected end of data")
      else some (place, "invalid continuation byte")
  | (_, none) => none

def decodedFor (facts : StreamFacts) (bytes : ByteArray) : Machine String := do
  if facts.encoding = "latin-1" then return .ofList (Text.octetsOf bytes)
  else match String.fromUTF8? bytes with
    | some text => return text
    | none =>
      if facts.errors = "surrogateescape" then return decodedText bytes
      else if facts.errors = "replace" then return .ofList (Text.ofBytesLossy bytes)
      else if facts.errors = "ignore" then
        return .ofList ((decodedText bytes).toList.filter
          (fun c => !(0x10dc80 <= c.toNat && c.toNat <= 0x10dcff)))
      else match spellingFault? bytes with
        | some (place, reason) =>
          let byte := hexDigits 2 ((bytes.toList.getD place 0).toNat)
          fail "UnicodeDecodeError"
            s!"'utf-8' codec can't decode byte 0x{byte} in position {numberText place}: {reason}"
        | none => return decodedText bytes

def readValue (facts : StreamFacts) (bytes : ByteArray) : Machine Value := do
  if facts.isBinary then return .octets bytes
  else
    let text <- decodedFor facts bytes
    if facts.lineEnd.isNone && facts.memory.isNone && text.any (· = '\r') then
      return .text (.ofList (withPlainEnds text.toList))
    else return .text text

def readAll (address : Nat) : Machine Value := do
  checkReading address
  fillAll address mostWaits
  let facts <- streamAt address
  changeStream address ({ · with rest := ByteArray.empty })
  let value <- readValue facts facts.rest
  if facts.memory.isSome then changeStream address ({ · with ended := false })
  return value

def bytesOfChars (bytes : ByteArray) : Nat -> Nat -> Nat -> Option Nat
  | 0, _, place => some place
  | _, 0, place => some place
  | limit + 1, count + 1, place =>
    if bytes.size <= place then none
    else
      let byte := bytes.get! place
      let length := if byte < 0xc2 then 1 else if byte < 0xe0 then 2 else if byte < 0xf0 then 3
        else if byte < 0xf5 then 4 else 1
      if bytes.size < place + length then none else bytesOfChars bytes limit count (place + length)

def readSome (address count : Nat) : Nat -> Machine Value
  | 0 => return .text ""
  | limit + 1 => do
    let facts <- streamAt address
    let found := if facts.isBinary then
        if count <= facts.rest.size then some count else none
      else bytesOfChars facts.rest (facts.rest.size + 1) count 0
    match found with
    | some size =>
      let front := facts.rest.extract 0 size
      changeStream address fun facts =>
        { facts with rest := facts.rest.extract size facts.rest.size }
      readValue facts front
    | none =>
      if facts.ended then
        changeStream address ({ · with rest := ByteArray.empty })
        readValue facts facts.rest
      else
        fill address
        readSome address count limit

def placeOfByte? (bytes : ByteArray) (first second : UInt8) : Nat -> Nat -> Option Nat
  | 0, _ => none
  | limit + 1, place =>
    if bytes.size <= place then none
    else
      let byte := bytes.get! place
      if byte = first || byte = second then some place
      else placeOfByte? bytes first second limit (place + 1)

def readLine (address : Nat) : Nat -> Machine Value
  | 0 => return .text ""
  | limit + 1 => do
    let facts <- streamAt address
    let isPlain := !facts.isBinary && facts.lineEnd.isNone && facts.memory.isNone
    let found := placeOfByte? facts.rest 10 (if isPlain then 13 else 10) (facts.rest.size + 1) 0
    let size : Option Nat := match found with
      | some place =>
        if facts.rest.get! place = 13 then
          if place + 1 < facts.rest.size then
            some (if facts.rest.get! (place + 1) = 10 then place + 2 else place + 1)
          else if facts.ended then some (place + 1)
          else none
        else some (place + 1)
      | none => none
    match size with
    | some size =>
      let front := facts.rest.extract 0 size
      changeStream address fun facts =>
        { facts with rest := facts.rest.extract size facts.rest.size }
      readValue facts front
    | none =>
      if facts.ended then
        changeStream address fun facts =>
          { facts with rest := ByteArray.empty, ended := facts.memory.isNone }
        readValue facts facts.rest
      else
        fill address
        readLine address limit

def nextLine (address : Nat) : Machine (Option Value) := do
  checkReading address
  match <- readLine address mostWaits with
  | .text "" => return none
  | .octets bytes => return if bytes.isEmpty then none else some (.octets bytes)
  | line => return some line

def closeStream (address : Nat) : Machine Unit := do
  let facts <- streamAt address
  if facts.isOpen then
    flush address
    changeStream address ({ · with isOpen := false })
    match facts.stream with
    | some stream => if 2 < stream then close stream
    | none => pure ()

def newStream (facts : StreamFacts) : Machine Value := newObject (.stream facts)

end BaseLanguage.Shell.Objects
