import BaseLanguage.Shell.Session
import BaseLanguage.Tool.Basic

namespace BaseLanguage.Shell

open Text

/-!
# Streams

Programs read from streams and write to them.  Whoever reads from a channel waits until there is
something, or until no process may write to it any more; whoever writes to a full one waits until
there is room.  A process that writes to a channel from which nobody will read ends.
-/

def standardInput : Nat := 0

def standardOutput : Nat := 1

def standardError : Nat := 2

def modifySettings (change : Settings -> Settings) : Act Unit :=
  modify (fun session => { session with settings := change session.settings })

def filing (operation : Filing α) : Act (Except FileFault α) := do
  let session <- get
  let (outcome, files) := operation.run.run session.files
  set { session with files }
  return outcome

def mostWaits : Nat := 100000000

/-! ## Reading -/

structure Window where
  bytes : ByteArray := .empty
  start : Nat := 0

namespace Window

def size (window : Window) : Nat := window.bytes.size - window.start

def front (window : Window) (count : Nat) : ByteArray :=
  if window.start = 0 && window.bytes.size <= count then window.bytes
  else window.bytes.extract window.start (window.start + min count window.size)

def left (window : Window) : ByteArray := window.front window.size

def lengthWithEnding? (ending : UInt8) (window : Window) : Option Nat :=
  (window.bytes.findIdx? (· == ending) window.start).map (· + 1 - window.start)

end Window

def channelWindow (isEnough : Window -> Bool) (channel : Nat) : Nat -> Act Window
  | 0 => return {}
  | limit + 1 => do
    let present := (<- get).channel channel
    let window : Window := ⟨present.content, present.start⟩
    if !present.bounded || isEnough window then return window
    else
      await (.readable channel window.size)
      let present := (<- get).channel channel
      if present.size <= window.size then return ⟨present.content, present.start⟩
      else channelWindow isEnough channel limit

def deviceBlock : Nat := 65536

def deviceWindow : Device -> Window
  | .nothing => {}
  | .terminal => {}
  | .noise => ⟨⟨(Array.range deviceBlock).map (fun index => UInt8.ofNat (index * 167 + 89))⟩, 0⟩
  | _ => ⟨⟨Array.replicate deviceBlock 0⟩, 0⟩

def readingFault? (stream : Nat) : Act (Option FileFault) := do
  let session <- get
  match session.stream? stream with
  | some (.reading _) => return none
  | some (.both _) => return none
  | some (.device _) => return none
  | some (.opened number) => match session.opened[number]? with
    | some opening =>
      if !opening.reads then return some .notOpen
      else match session.files.node? opening.node with
        | some ⟨.folder, _, _⟩ => return some .isFolder
        | _ => return none
    | none => return some .notOpen
  | _ => return some .notOpen

/-- What can be read from a stream, once it is enough or no more will come; it stays where it is.
There is nothing to read from a stream that cannot be read. -/
def waitFor (isEnough : Window -> Bool) (stream : Nat) : Act (Option Window) := do
  if (<- readingFault? stream).isSome then return none
  let session <- get
  match session.stream? stream with
  | some (.opened number) => match session.opened[number]? with
    | some opening => match session.files.node? opening.node with
      | some ⟨.file content, _, _⟩ => return some ⟨content, min opening.offset content.size⟩
      | _ => return none
    | none => return none
  | some (.device device) => return some (deviceWindow device)
  | some stream => match stream.source? with
    | some channel => return some (<- channelWindow isEnough channel mostWaits)
    | none => return none
  | none => return none

def lookAhead (isEnough : ByteArray -> Bool) (stream : Nat) : Act (Option ByteArray) := do
  return (<- waitFor (isEnough ·.left) stream).map Window.left

def Session.advance (session : Session) (number count : Nat) : Session :=
  { session with
    opened := session.opened.modify number fun opening =>
      { opening with offset := opening.offset + count } }

def drop (count stream : Nat) : Act Unit := do
  match (<- get).stream? stream with
  | some (.opened number) => modify (·.advance number count)
  | some stream => match stream.source? with
    | some channel => modify (fun session => session.change channel (·.drop count))
    | none => return ()
  | none => return ()

def takeSome (stream : Nat) : Act (Option ByteArray) := do
  let some window <- waitFor (0 < ·.size) stream | return none
  let bytes := window.left
  drop bytes.size stream
  return some bytes

def takeBytesOnto (stream count : Nat) : Nat -> ByteArray -> Act (Option ByteArray)
  | 0, taken => return some taken
  | limit + 1, taken => do
    let missing := count - taken.size
    if missing = 0 then return some taken
    else match <- waitFor (missing <= ·.size) stream with
      | none => return none
      | some window =>
        let bytes := window.front missing
        drop bytes.size stream
        if bytes.isEmpty then return some taken
        else takeBytesOnto stream count limit (taken ++ bytes)

def takeBytes (count stream : Nat) : Act (Option ByteArray) :=
  takeBytesOnto stream count mostWaits .empty

def takeOnto (stream : Nat) : Nat -> ByteArray -> Act (Option ByteArray)
  | 0, taken => return some taken
  | limit + 1, taken => do
    let some bytes <- takeSome stream | return none
    if bytes.isEmpty then return some taken else takeOnto stream limit (taken ++ bytes)

def mostBlocks : Nat := 4096

def takeAll (stream : Nat) : Act (Option ByteArray) := do
  match (<- get).stream? stream with
  | some (.device _) => takeOnto stream mostBlocks .empty
  | _ => takeOnto stream mostWaits .empty

def canRead (stream : Nat) : Act Bool := do return (<- readingFault? stream).isNone

/-- Hands on what comes from a stream, until nothing does.  The worst status is the result. -/
def passFrom (stream : Nat) (use : ByteArray -> Act Nat) : Nat -> Nat -> Act Nat
  | 0, worst => return worst
  | limit + 1, worst => do
    let some bytes <- takeSome stream | return worst
    if bytes.isEmpty then return worst else passFrom stream use limit (max worst (<- use bytes))

def passOn (use : ByteArray -> Act Nat) : Act Nat := passFrom standardInput use mostWaits 0

def takeLine (ending : Char) (stream : Nat) : Act (Option ByteArray) := do
  let ending := UInt8.ofNat ending.toNat
  match <- waitFor (fun window => (window.lengthWithEnding? ending).isSome) stream with
  | some window =>
    let line := window.front ((window.lengthWithEnding? ending).getD window.size)
    drop line.size stream
    return some line
  | none => return none

/-! ## Writing -/

def brokenPipe : Nat := signalledStatus 13

/-- Adds bytes to a channel, as much at a time as it holds.  Behind a wait on a full channel, its reader
wants more than it holds, and gets it. -/
def putOnto (channel : Nat) : Nat -> Bool -> ByteArray -> Act Unit
  | 0, _, _ => return ()
  | limit + 1, hasWaited, bytes => do
    let session <- get
    let present := session.channel channel
    if !present.bounded then modify (fun session => session.change channel (·.add bytes))
    else if !session.isRead channel then endProcess brokenPipe
    else
      let isFull := Channel.capacity <= present.size
      let room := if isFull && hasWaited then Channel.capacity else Channel.capacity - present.size
      if bytes.size <= room then modify (fun session => session.change channel (·.add bytes))
      else
        modify fun session => session.change channel (·.add (bytes.extract 0 room))
        await (.writable channel)
        putOnto channel limit true (bytes.extract room bytes.size)

def Session.writeOpened (session : Session) (number : Nat) (opening : OpenFile)
    (bytes : ByteArray) : Session :=
  let size := match session.files.node? opening.node with
    | some ⟨.file content, _, _⟩ => content.size
    | _ => 0
  let offset := if opening.appends then size else opening.offset
  { session with
    files := session.files.writeAt opening.node offset bytes
    opened := session.opened.set! number { opening with offset := offset + bytes.size } }

def tryPut (stream : Nat) (bytes : ByteArray) : Act (Option FileFault) := do
  match (<- get).stream? stream with
  | some (.opened number) => match (<- get).opened[number]? with
    | some opening =>
      if opening.writes then
        if !bytes.isEmpty then modify (·.writeOpened number opening bytes)
        return none
      else return some .notOpen
    | none => return some .notOpen
  | some (.device .full) => return if bytes.isEmpty then none else some .noRoom
  | some (.device _) => return none
  | some stream => match stream.sink? with
    | some channel =>
      putOnto channel mostWaits false bytes
      return none
    | none => return if bytes.isEmpty then none else some .notOpen
  | none => return if bytes.isEmpty then none else some .notOpen

def put (stream : Nat) (bytes : ByteArray) : Act Bool := do return (<- tryPut stream bytes).isNone

def takeChannel (channel : Nat) : Nat -> ByteArray -> Act ByteArray
  | 0, taken => return taken
  | limit + 1, taken => do
    let bytes := (<- channelWindow (0 < ·.size) channel mostWaits).left
    if bytes.isEmpty then return taken
    else
      modify (fun session => session.change channel (·.drop bytes.size))
      takeChannel channel limit (taken ++ bytes)

/-- Does something in a process of its own, and waits for its end.  What it says and its status are
the result. -/
def collect (act : Act Nat) : Act (ByteArray × Nat) := do
  let before <- get
  let (session, channel) := before.addChannel { bounded := true }
  let session := { session with held := .reading channel :: session.held }
  set (session.turn standardOutput (some (.writing channel)))
  let number <- startProcess act
  modify ({ · with streams := before.streams })
  let said <- takeChannel channel mostWaits .empty
  modify ({ · with held := before.held })
  return (said, (<- awaitAll [number]).headD 0)

def putOctets (stream : Nat) (octets : Chars) : Act Bool := put stream (bytesOf octets)

def putText (stream : Nat) (text : String) : Act Bool := putOctets stream text.toList

def numberText (value : Nat) : String := .ofList (decimal value)

def digitsValue? (argument : String) : Option Nat :=
  if !argument.isEmpty && argument.toList.all isDigit then some (valueOf argument.toList) else none

def success : Nat := 0

def failure : Nat := 1

def misuse : Nat := 2

def statusOf (holds : Bool) : Nat := if holds then success else failure

def complain (program message : String) : Act Nat := do
  discard <| putText standardError s!"{program}: {message}\n"
  return failure

def complainWith (status : Nat) (program message : String) : Act Nat := do
  discard <| complain program message
  return status

def wording : FileFault -> String
  | .missing => "No such file or directory"
  | .notFolder => "Not a directory"
  | .isFolder => "Is a directory"
  | .alreadyThere => "File exists"
  | .badName => "File name too long"
  | .notText => "Invalid or incomplete multibyte or wide character"
  | .tooManyLinks => "Too many levels of symbolic links"
  | .notOpen => "Bad file descriptor"
  | .noDevice => "No such device or address"
  | .noRoom => "No space left on device"

def answer (program : String) (bytes : ByteArray) : Act Nat := do
  match <- tryPut standardOutput bytes with
  | none => return success
  | some fault => complain program s!"write error: {wording fault}"

def answerText (program : String) (octets : Chars) : Act Nat := answer program (bytesOf octets)

def answerLines (program : String) (lines : List String) : Act Nat :=
  answerText program (lines.flatMap (·.toList ++ ['\n']))

def allOf (acts : List (Act Nat)) : Act Nat :=
  acts.foldlM (fun worst act => return max worst (<- act)) success

/-!
## Processes beside one another

Processes take turns: each runs until it pauses, and goes on when what it waits for has come, the one
that has waited longest first.  When all wait, time moves on to the first moment that one of them
waits for.  If there is none, nothing will happen any more.
-/

def signalNames : List String := "EXIT" :: ExitStatus.signalNames

/-- The signals that do nothing to a process that does not ask for them. -/
def harmlessSignals : List String := wordsIn "EXIT CHLD CONT STOP TSTP TTIN TTOU URG WINCH"

def signalStatus (name : String) : Nat := signalledStatus (signalNames.idxOf name)

structure WaitingProcess where
  waiting : Waiting
  own : Session
  resume : Session -> Process

structure Schedule where
  shared : Session
  waiting : List WaitingProcess := []

namespace Schedule

variable (schedule : Schedule)

def hasReader (asking channel : Nat) : Bool :=
  schedule.waiting.any fun process =>
    process.own.process != asking && process.own.ends.any (·.source? == some channel)

def hasWriter (asking channel : Nat) : Bool :=
  schedule.waiting.any fun process =>
    process.own.process != asking && process.own.ends.any (·.sink? == some channel)

def wantsMore (channel size : Nat) : Bool :=
  schedule.waiting.any fun process => match process.waiting with
    | .readable other least => other = channel && size <= least
    | _ => false

def hasEnded (number : Nat) : Bool := (schedule.shared.statuses.lookup number).isSome

def isReady (process : WaitingProcess) : Bool := match process.waiting with
  | .turn => true
  | .moment time => time <= schedule.shared.time
  | .ended numbers => numbers.all schedule.hasEnded
  | .oneEnded numbers moment =>
    numbers.any schedule.hasEnded || numbers.isEmpty || !process.own.signals.isEmpty ||
      moment.any (· <= schedule.shared.time)
  | .readable channel size =>
    size < (schedule.shared.channel channel).size || !schedule.hasWriter process.own.process channel
  | .writable channel =>
    let size := (schedule.shared.channel channel).size
    size < Channel.capacity || !schedule.hasReader process.own.process channel ||
      schedule.wantsMore channel size
  | .partner channel reads openings =>
    let present := schedule.shared.channel channel
    if reads then openings < present.writings else openings < present.readings

def moment? (process : WaitingProcess) : Option Nat := match process.waiting with
  | .moment time => some time
  | .oneEnded _ moment => moment
  | _ => none

def atTime (time : Nat) : Schedule :=
  let shared := schedule.shared
  let clock := shared.files.clock
  let total := clock.total + (time - shared.time : Nat)
  let clock : Timestamp :=
    ⟨total / Timestamp.nanosPerSecond, (total % Timestamp.nanosPerSecond).toNat⟩
  { schedule with shared := { shared with time, files := { shared.files with clock } } }

def withEnded (number status : Nat) : Schedule where
  shared := { schedule.shared with statuses := (number, status) :: schedule.shared.statuses }
  waiting := schedule.waiting.filter (·.own.process != number)

def signalOne (name : String) (schedule : Schedule) (process : WaitingProcess) : Schedule :=
  match process.own.settings.traps.lookup name, name with
  | some "", _ => schedule
  | trap, name =>
    if trap.isSome && name != "KILL" then
      { schedule with
        waiting := schedule.waiting.map fun other =>
          if other.own.process = process.own.process then
            { other with own := { other.own with signals := name :: other.own.signals } }
          else other }
    else if harmlessSignals.contains name then schedule
    else schedule.withEnded process.own.process (signalStatus name)

def signal (schedule : Schedule) (signal : Signal) : Schedule :=
  let targets := schedule.waiting.filter fun process =>
    process.own.process = signal.target ||
      (signal.family && process.own.ancestors.contains signal.target)
  targets.foldl (signalOne signal.name) schedule

def newProcess (session : Session) (number : Nat) (child : Session -> Process) :
    WaitingProcess where
  waiting := .turn
  own :=
    { session.own with
      process := number
      ancestors := session.process :: session.ancestors
      held := session.streams.map Prod.snd
      settings := { session.own.settings with gives := false }
      signals := [] }
  resume := child

def readChannels (streams : List Stream) : List Nat := streams.filterMap Stream.source?

def writtenChannels (streams : List Stream) : List Nat := streams.filterMap Stream.sink?

def endsBeside (asking : Nat) : List Stream :=
  schedule.waiting.flatMap fun process =>
    if process.own.process = asking then [] else process.own.ends

def settle (schedule : Schedule) : Process -> Schedule
  | .ended status session => .withEnded { schedule with shared := session } session.process status
  | .pause waiting session resume =>
    { shared := session, waiting := schedule.waiting ++ [⟨waiting, session.own, resume⟩] }
  | .fork child session resume =>
    let number := session.processes + 1
    let streams := session.streams.map Prod.snd
    let readers := readChannels streams ++ session.readers
    let writers := writtenChannels streams ++ session.writers
    let session := { session with processes := number, readers, writers }
    settle { schedule with waiting := schedule.waiting ++ [newProcess session number child] }
      (resume number session)
  | .sending signal session resume =>
    let schedule := .signal { schedule with shared := session } signal
    settle schedule (resume (session.seeing schedule.shared))

def goOn (process : WaitingProcess) : Schedule :=
  let number := process.own.process
  let others := schedule.waiting.filter (·.own.process != number)
  let schedule := { schedule with waiting := others }
  let ends := schedule.endsBeside number
  let session := process.own.seeing schedule.shared
  schedule.settle (process.resume
    { session with readers := readChannels ends, writers := writtenChannels ends })

def run : Nat -> Schedule -> Schedule
  | 0, schedule => schedule
  | limit + 1, schedule => match schedule.waiting.find? schedule.isReady with
    | some process => run limit (schedule.goOn process)
    | none => match (schedule.waiting.filterMap moment?).min? with
      | some time => run limit (schedule.atTime time)
      | none => schedule

end Schedule

def mostTurns : Nat := 1000000000

/-- Runs an act as a process of its own, with all that it starts, until nothing happens any more.
The result is its status and what is seen then. -/
def runProcess (act : Act Nat) (session : Session) : Nat × Session :=
  let first : WaitingProcess :=
    { waiting := .turn, own := session.own, resume := fun session => (act session).process }
  let schedule := Schedule.run mostTurns { shared := session, waiting := [first] }
  (knownStatus ((schedule.shared.statuses.lookup session.process).getD 0), schedule.shared)

end BaseLanguage.Shell
