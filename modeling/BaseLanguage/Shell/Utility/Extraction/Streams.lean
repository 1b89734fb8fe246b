import BaseLanguage.Shell.Utility.Extraction.State

namespace BaseLanguage.Shell.Extraction

open Text

/-!
# What a program reads and writes

What is written to a handle is held until there is enough of it, until another process is started, or
until the end.  What is read is taken in blocks, of which records are cut off.
-/

def inputHandle : Nat := 0

def outputHandle : Nat := 1

def complaintHandle : Nat := 2

def operandHandle : Nat := 3

def blockOctets : Nat := 8192

def handleAt (number : Nat) : Machine Handle := do return (<- get).handles.getD number default

def changeHandle (number : Nat) (change : Handle -> Handle) : Machine Unit :=
  modify fun state => { state with handles := state.handles.modify number change }

/-! ## Writing -/

def flush (number : Nat) : Machine Unit := do
  let handle <- handleAt number
  if handle.size ≠ 0 then
    changeHandle number ({ · with held := [], size := 0 })
    match handle.stream with
    | some stream => discard <| putText stream (.join handle.held.reverse)
    | none => return ()

def flushAll : Machine Unit := do
  let count := (<- get).handles.size
  (List.range count).forM flush

def spelled (text : String) : String := toOctets text

def isWideText (text : String) : Bool := text.toList.any (256 <= ·.toNat)

def sayTo (number : Nat) (operation text : String) : Machine Bool := do
  let handle <- handleAt number
  if !handle.isOpen || !handle.writes then return false
  else match handle.memory with
    | some cell =>
      setCell cell (.text ((<- textOf (<- cellAt cell)) ++ text))
      return true
    | none =>
      let octets <-
        if handle.isWide then pure (spelled text)
        else if isWideText text then do
          let told := (<- get).told
          discard <| putText standardError s!"Wide character in {operation}{told}"
          pure (spelled text)
        else pure text
      let size := handle.size + octets.utf8ByteSize
      changeHandle number (fun handle => { handle with held := octets :: handle.held, size })
      let isEager <- isTrue (<- sharedValue "main::|")
      if number = complaintHandle || blockOctets <= size || isEager then flush number
      return true

def complainTo (text : String) : Machine Unit := do discard <| sayTo complaintHandle "warn" text

/-! ## Reading -/

def fillHandle (number : Nat) : Machine Unit := do
  let handle <- handleAt number
  match handle.stream with
  | none => changeHandle number ({ · with ended := true })
  | some stream =>
    let bytes := (<- takeBytes blockOctets stream).getD .empty
    if bytes.isEmpty then changeHandle number ({ · with ended := true })
    else
      let octets := octetsOf bytes
      changeHandle number (fun handle => { handle with rest := handle.rest ++ octets })

def fillAll (number : Nat) : Nat -> Machine Unit
  | 0 => return ()
  | limit + 1 => do
    if !(<- handleAt number).ended then
      fillHandle number
      fillAll number limit

def cutBehind (mark : Chars) : Nat -> Chars -> Chars -> Option (Chars × Chars)
  | 0, _, _ => none
  | _, [], _ => none
  | limit + 1, c :: rest, done =>
    if mark.isPrefixOf (c :: rest) then some (done.reverse ++ mark, (c :: rest).drop mark.length)
    else cutBehind mark limit rest (c :: done)

def recordUpTo (number : Nat) (mark : Chars) : Nat -> Machine (Option Chars)
  | 0 => return none
  | limit + 1 => do
    let handle <- handleAt number
    let found := match mark with
      | [sign] =>
        let front := handle.rest.takeWhile (· != sign)
        match handle.rest.drop front.length with
        | _ :: rest => some (front ++ [sign], rest)
        | [] => none
      | mark => cutBehind mark (handle.rest.length + 1) handle.rest []
    match found with
    | some (record, rest) =>
      changeHandle number ({ · with rest })
      return some record
    | none =>
      if !handle.ended then
        fillHandle number
        recordUpTo number mark limit
      else if handle.rest.isEmpty then return none
      else
        changeHandle number ({ · with rest := [] })
        return some handle.rest

def recordFrom (number : Nat) : Machine (Option String) := do
  let record <-
    match <- sharedValue "main::/" with
    | .undefined => do
      fillAll number mostWaits
      let handle <- handleAt number
      changeHandle number ({ · with rest := [] })
      pure (if handle.rest.isEmpty then none else some handle.rest)
    | .reference _ cell => do
      let size := (<- cellAt cell).int.toNat
      takeSized size mostWaits
    | value => do
      let mark <- textOf value
      if mark.isEmpty then do
        dropLines mostWaits
        let record <- recordUpTo number ['\n', '\n'] mostWaits
        dropLines mostWaits
        pure record
      else recordUpTo number mark.toList mostWaits
  match record with
  | none => return none
  | some record =>
    changeHandle number (fun handle => { handle with lines := handle.lines + 1 })
    modify ({ · with lastRead := some number })
    setShared "main::." (.whole (<- handleAt number).lines)
    let text := .ofList record
    if (<- handleAt number).isWide then return some (.ofList (ofBytesLossy (bytesOf record)))
    else return some text
where
  takeSized (size : Nat) : Nat -> Machine (Option Chars)
    | 0 => return none
    | limit + 1 => do
      let handle <- handleAt number
      if handle.rest.length < size && !handle.ended then
        fillHandle number
        takeSized size limit
      else
        changeHandle number (fun handle => { handle with rest := handle.rest.drop size })
        return if handle.rest.isEmpty then none else some (handle.rest.take size)
  dropLines : Nat -> Machine Unit
    | 0 => return ()
    | limit + 1 => do
      let handle <- handleAt number
      let rest := handle.rest.dropWhile (· == '\n')
      changeHandle number ({ · with rest })
      if rest.isEmpty && !handle.ended then
        fillHandle number
        dropLines limit

def isAtEnd (number : Nat) : Machine Bool := do
  let handle <- handleAt number
  if !handle.isOpen then return true
  else if !handle.rest.isEmpty then return false
  else if handle.ended then return true
  else
    fillHandle number
    return (<- handleAt number).rest.isEmpty

def statusValue (status : Nat) : Int := if status < 256 then 256 * status else status - 256

def closeHandle (number : Nat) : Machine Bool := do
  flush number
  let handle <- handleAt number
  changeHandle number ({ · with
      stream := none, rest := [], ended := false, process := none, memory := none, lines := 0
      writes := false, isOpen := false, isWide := false })
  if !handle.isOpen then
    setFailure 9
    return false
  else
    match handle.stream with
    | some stream => close stream
    | none => pure ()
    match handle.process with
    | some process =>
      let status := statusValue (<- awaitStatus process)
      modify ({ · with childStatus := status })
      return status = 0
    | none => return true

/-! ## Other processes -/

def tellEnvironment : Machine Unit := do
  let some table := (<- get).globals["%main::ENV"]? | return ()
  let pairs <- tablePairs table
  let environment <- pairs.mapM fun (name, value) => do return (name, <- textOf value)
  liftM (m := Act) (modify ({ · with environment }))

def shellSigns : Chars :=
  ['$', '&', '*', '(', ')', '{', '}', '[', ']', '\'', '"', ';', '\\', '|', '?', '<', '>', '~', '\x60',
    '\n']

variable (services : Services)

def programAct? (words : List String) : Machine (Option (Act Nat)) := do
  match words with
  | [] => return none
  | name :: arguments =>
    let session <- liftM (m := Act) get
    match session.lookUp (<- environmentFolders) name with
    | .ok path => return some (services.start path name arguments)
    | .error fault =>
      setFailure (if fault = .missing then 2 else 13)
      return none

def commandAct? (command : String) : Machine (Option (Act Nat)) := do
  tellEnvironment
  let text := command.toList.dropWhile isSpace
  let words := (Records.partsAtBlanks isSpace text).map .ofList
  let first := (words.headD "").toList
  if command.toList.any shellSigns.contains || first.contains '=' || .ofList first = "exec" then
    return some (services.start "/bin/sh" "sh" ["-c", command])
  else programAct? services words

def wordsAct? (words : List String) : Machine (Option (Act Nat)) := do
  match words with
  | [command] => commandAct? services command
  | words => do
    tellEnvironment
    programAct? services words

def runWords (words : List String) : Machine Int := do
  flushAll
  match <- wordsAct? services words with
  | none =>
    modify ({ · with childStatus := -1 })
    return -1
  | some act =>
    let status := statusValue (<- awaitWork act)
    modify ({ · with childStatus := status })
    return status

def outputOfCommand (command : String) : Machine (Option String) := do
  flushAll
  match <- commandAct? services command with
  | none =>
    modify ({ · with childStatus := -1 })
    return none
  | some act =>
    let (stream, process) <- startBeside true act
    let bytes := (<- takeAll stream).getD .empty
    close stream
    let status := statusValue (<- awaitStatus process)
    modify ({ · with childStatus := status })
    return some (.ofList (octetsOf bytes))

/-! ## Opening -/

inductive Way where
  | file (mode : OpeningMode)
  | command (reads : Bool)
  | again

def ways : List (String × Way) :=
  [("+>>", .file { OpeningMode.appending with reads := true }),
    ("+<", .file { OpeningMode.both with creates := false }),
    ("+>", .file { OpeningMode.writing with reads := true }), (">&=", .again), (">&", .again),
    ("<&=", .again), ("<&", .again), (">>", .file .appending), (">", .file .writing),
    ("<", .file .reading), ("-|", .command true), ("|-", .command false)]

def wayOf (text : String) : Option (Way × Bool × String) :=
  let trimmed := text.toList.dropWhile isSpace
  (ways.find? fun (sign, _) => sign.toList.isPrefixOf trimmed).map fun (sign, way) =>
    (way, sign.startsWith ">" || sign.startsWith "+" || sign = "|-",
      .ofList (trimmed.drop sign.length))

def setHandle (number : Nat) (handle : Handle) : Machine Unit := do
  let before <- handleAt number
  if before.isOpen && (before.stream.isSome || before.memory.isSome) then
    discard <| closeHandle number
  changeHandle number fun before => { handle with name := before.name }

def openWay (number : Nat) (way : Way) (writes isWide : Bool)
    (words : List String) : Machine Bool := do
  match way with
  | .file mode =>
    let name := words.headD ""
    if name = "-" && !mode.writes then
      setHandle number { name, stream := some standardInput, isWide }
      return true
    else if name = "-" then
      setHandle number { name, stream := some standardOutput, writes := true, isWide }
      return true
    else match <- openStream mode name with
      | .ok stream =>
        setHandle number { name, stream := some stream, writes, isWide }
        setFailure 25
        return true
      | .error fault =>
        setFailure (faultNumber fault)
        return false
  | .command reads =>
    flushAll
    let act? <-
      match words with
      | [command] => commandAct? services command
      | words => do
        tellEnvironment
        programAct? services words
    match act? with
    | none => return false
    | some act =>
      let (stream, process) <- startBeside reads act
      setHandle number
        { name := "", stream := some stream, process := some process, writes := !reads, isWide }
      setFailure 29
      return true
  | .again =>
    let name := words.headD ""
    let other : Option Nat :=
      if !name.isEmpty && name.toList.all isDigit then some (valueOf name.toList) else none
    let source <-
      match other with
      | some stream => pure (some stream)
      | none => do
        match (<- get).globals[s!"*main::{name}"]? with
        | some address => do
          flush address
          pure (<- handleAt address).stream
        | none => pure none
    let session <- liftM (m := Act) get
    match source.bind session.stream? with
    | some stream =>
      let free <- freeStream 3
      let own := (<- handleAt number).stream
      let place := if number <= 2 then own.getD number else free
      flush number
      liftM (m := Act) (modify (·.turn place (some stream)))
      changeHandle number fun before => { name := before.name, stream := some place, writes }
      return true
    | none =>
      setFailure 9
      return false

def keepStandard (number : Nat) : Machine Unit := do
  if number <= 2 then
    let handle <- handleAt number
    match handle.stream with
    | some stream =>
      if stream ≠ number then
        let session <- liftM (m := Act) get
        let place := session.stream? stream
        liftM (m := Act) (modify fun session => (session.turn number place).turn stream none)
        changeHandle number ({ · with stream := some number })
    | none => return ()

/-! ## The operands -/

def endInPlace : Machine Unit := do
  if (<- get).inPlace.isSome then
    let address <- sharedAddress .stream "main::ARGVOUT"
    if (<- handleAt address).isOpen then discard <| closeHandle address
    modify ({ · with selected := outputHandle })

def beginInPlace (name extension : String) : Machine Unit := do
  fillAll operandHandle mostWaits
  if !extension.isEmpty then
    let copy := if extension.contains '*' then extension.replace "*" name else name ++ extension
    let rest := (<- handleAt operandHandle).rest
    discard <| writeNamed .writing copy (bytesOf rest)
  let address <- sharedAddress .stream "main::ARGVOUT"
  match <- openStream .writing name with
  | .ok stream =>
    setHandle address { name := "ARGVOUT", stream := some stream, writes := true }
    modify ({ · with selected := address })
  | .error _ => return ()

def openOperand : Nat -> Machine Bool
  | 0 => return false
  | limit + 1 => do
    let row <- sharedAddress .row "main::ARGV"
    let items <- rowAt row
    if (<- get).isFresh && items.isEmpty then
      modify ({ · with isFresh := false })
      setShared "main::ARGV" (.text "-")
      changeHandle operandHandle ({ · with stream := some standardInput, isOpen := true, ended := false, rest := [] })
      return true
    else
      modify ({ · with isFresh := false })
      match items[0]? with
      | none => return false
      | some cell =>
        changeRow row (fun items => items.extract 1 items.size)
        let name <- textOf (<- cellAt cell)
        setShared "main::ARGV" (.text name)
        if name = "-" then
          changeHandle operandHandle ({ · with stream := some standardInput, isOpen := true, ended := false, rest := [] })
          return true
        else match <- openStream .reading name with
          | .ok stream =>
            let fault? <- readingFault? stream
            if fault?.isSome && (<- get).inPlace.isSome then
              complainTo s!"Can't do inplace edit: {name} is not a regular file.\n"
              openOperand limit
            else
              changeHandle operandHandle ({ · with stream := some stream, isOpen := true, ended := false, rest := [] })
              setFailure 25
              match (<- get).inPlace with
              | some extension => beginInPlace name extension
              | none => pure ()
              return true
          | .error fault =>
            let number := faultNumber fault
            setFailure number
            let state <- get
            let told := if state.line = 0 then ".\n" else state.told
            complainTo s!"Can't open {name}: {failureText number}{told}"
            openOperand limit

def recordOfOperands : Nat -> Machine (Option String)
  | 0 => return none
  | limit + 1 => do
    let handle <- handleAt operandHandle
    if handle.stream.isSome then
      match <- recordFrom operandHandle with
      | some record => return some record
      | none =>
        match handle.stream with
        | some stream => if stream ≠ standardInput then close stream
        | none => pure ()
        endInPlace
        changeHandle operandHandle ({ · with stream := none })
        recordOfOperands limit
    else if <- openOperand mostWaits then recordOfOperands limit
    else
      modify ({ · with isFresh := true })
      return none

def recordOf (number : Nat) : Machine (Option String) := do
  if number = operandHandle then recordOfOperands mostWaits
  else if (<- handleAt number).isOpen then recordFrom number
  else return none

def recordsOf (number : Nat) : Nat -> List String -> Machine (List String)
  | 0, done => return done.reverse
  | limit + 1, done => do
    match <- recordOf number with
    | some record => recordsOf number limit (record :: done)
    | none => return done.reverse

end BaseLanguage.Shell.Extraction
