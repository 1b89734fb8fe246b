import BaseLanguage.Shell.Utility.Records.State

namespace BaseLanguage.Shell.Records

/-!
# What programs on records read and write

Records are read from the input, from files and from what commands say.  What is written is held
until there is enough of it, until a command is started, or until the end.
-/

structure Manner where
  services : Services
  program : String := "awk"
  script : Script

variable (manner : Manner)

/-! ## Writing -/

def mostHeld : Nat := 4096

def flushSaid : Machine Unit := do
  let state <- get
  if state.size ≠ 0 then
    set { state with said := [], size := 0 }
    discard <| putText standardOutput (.join state.said.reverse)

def sayText (octets : String) : Machine Unit := do
  modify fun state => { state with
    said := octets :: state.said
    size := state.size + octets.utf8ByteSize }
  if mostHeld <= (<- get).size then flushSaid

def flushSink (sink : Sink) : Machine Sink := do
  if !sink.held.isEmpty then discard <| putText sink.stream (.join sink.held.reverse)
  return { sink with held := [] }

def flushAll : Machine Unit := do
  flushSaid
  let sinks <- (<- get).sinks.mapM flushSink
  modify ({ · with sinks })

def closeSink (sink : Sink) : Machine Int := do
  discard <| flushSink sink
  close sink.stream
  let some process := sink.process | return 0
  awaitStatus process

/-- Starts a command, which says what is read or reads what is written.  The results are the stream
for that, and the process. -/
def startCommand (command : String) (reads : Bool) : Machine (Nat × Nat) := do
  flushAll
  startBeside reads (manner.services.start "/bin/sh" "sh" ["-c", command])

def Sink.isAt (sink : Sink) (outlet : Outlet) (name : String) : Bool :=
  (sink.outlet == .command) == (outlet == .command) && sink.name == name

def sinkFor (outlet : Outlet) (name : String) : Machine Sink := do
  match (<- get).sinks.find? (·.isAt outlet name) with
  | some sink => return sink
  | none =>
    let sink : Sink <-
      match outlet with
      | .command =>
        let (stream, process) <- startCommand manner name false
        pure { outlet, name, stream, process := some process }
      | _ =>
        let mode : OpeningMode := if outlet = .file then .writing else .appending
        match <- openStream mode name with
        | .ok stream => pure { outlet, name, stream }
        | .error fault => throw (.fault s!"cannot open \"{name}\" for output ({wording fault})")
    modify (fun state => { state with sinks := sink :: state.sinks })
    return sink

def sayAt (outlet : Outlet) (name octets : String) : Machine Unit := do
  if outlet ≠ .command && (name = "/dev/stdout" || name = "-") then sayText octets
  else if outlet ≠ .command && name = "/dev/stderr" then discard <| putText standardError octets
  else
    let sink <- sinkFor manner outlet name
    let sink := { sink with held := octets :: sink.held }
    let size := sink.held.foldl (fun size text => size + text.utf8ByteSize) 0
    let sink <- if mostHeld <= size then flushSink sink else pure sink
    modify fun state => { state with
      sinks := state.sinks.map fun other => if other.isAt outlet name then sink else other }

/-! ## Reading -/

def fill (inlet : Inlet) : Machine Inlet := do
  let bytes := (<- takeBytes mostHeld inlet.stream).getD .empty
  if bytes.isEmpty then return { inlet with ended := true }
  else return { inlet with rest := inlet.rest ++ Text.octetsOf bytes }

def fillUp : Nat -> Inlet -> Machine Inlet
  | 0, inlet => return inlet
  | limit + 1, inlet => do
    if inlet.ended then return inlet else fillUp limit (<- fill inlet)

def recordUpTo (ending : Char) : Nat -> Inlet -> Machine (Option String × Inlet)
  | 0, inlet => return (none, inlet)
  | limit + 1, inlet => do
    let front := inlet.rest.takeWhile (· != ending)
    match inlet.rest.drop front.length with
    | _ :: rest => return (some (.ofList front), { inlet with rest })
    | [] =>
      if !inlet.ended then recordUpTo ending limit (<- fill inlet)
      else if front.isEmpty then return (none, inlet)
      else return (some (.ofList front), { inlet with rest := [] })

def recordOfLines (inlet : Inlet) : Machine (Option String × Inlet) := do
  let inlet <- fillUp mostWaits inlet
  let text := inlet.rest.dropWhile (· == '\n')
  if text.isEmpty then return (none, { inlet with rest := [] })
  else
    let (front, rest) := upToEmptyLine (text.length + 1) text []
    return (some (.ofList front), { inlet with rest })
where
  upToEmptyLine : Nat -> Chars -> Chars -> Chars × Chars
    | 0, text, done => (done.reverse, text)
    | _, [], done => (done.reverse, [])
    | _, ['\n'], done => (done.reverse, [])
    | limit + 1, '\n' :: '\n' :: rest, done =>
      if limit = 0 then (done.reverse, rest) else (done.reverse, rest.dropWhile (· == '\n'))
    | limit + 1, c :: rest, done => upToEmptyLine limit rest (c :: done)

def recordUpToMatch (matcher : Matcher) (inlet : Inlet) : Machine (Option String × Inlet) := do
  let inlet <- fillUp mostWaits inlet
  if inlet.rest.isEmpty then return (none, inlet)
  else
    let subject : Text.Subject := { text := inlet.rest.toArray }
    match matcher.regex.search? subject 0 with
    | some found =>
      if found.ending = found.start then
        return (some (.ofList inlet.rest), { inlet with rest := [] })
      else
        let front := subject.between 0 found.start
        return (some (.ofList front), { inlet with rest := inlet.rest.drop found.ending })
    | none => return (some (.ofList inlet.rest), { inlet with rest := [] })

def recordFrom (inlet : Inlet) : Machine (Option String × Inlet) := do
  let ending <- globalText "RS"
  match ending.toList with
  | [] => recordOfLines inlet
  | [c] => recordUpTo c mostWaits inlet
  | _ => recordUpToMatch (<- matcherNow ending) inlet

def inletOf (name : String) : Machine (Except FileFault Inlet) := do
  if name = "-" || name = "/dev/stdin" then return .ok { stream := standardInput }
  else match <- openStream .reading name with
    | .ok stream => return .ok { stream }
    | .error fault => return .error fault

def inletFor (isCommand : Bool) (name : String) : Machine (Option Inlet) := do
  match (<- get).inlets.lookup (isCommand, name) with
  | some inlet => return some inlet
  | none =>
    let inlet : Option Inlet <-
      if isCommand then do
        let (stream, process) <- startCommand manner name true
        pure (some { stream, process := some process })
      else do
        match <- inletOf name with
        | .ok inlet => pure (some inlet)
        | .error _ => pure none
    match inlet with
    | some inlet =>
      modify fun state => { state with inlets := ((isCommand, name), inlet) :: state.inlets }
    | none => pure ()
    return inlet

def nextFrom (isCommand : Bool) (name : String) : Machine (Option (Option String)) := do
  let some inlet <- inletFor manner isCommand name | return none
  if !isCommand && (<- readingFault? inlet.stream).isSome then return none
  let (record, inlet) <- recordFrom inlet
  modify fun state => { state with
    inlets := state.inlets.map fun entry =>
      if entry.1 == (isCommand, name) then (entry.1, inlet) else entry }
  return some record

/-- Closes everything with a name.  The result is the status of a process, or tells that there is
nothing. -/
def closeNamed (name : String) : Machine Int := do
  let state <- get
  let sinks := state.sinks.filter (·.name = name)
  let inlets := state.inlets.filter (·.1.2 = name)
  if name = "/dev/stdout" then flushSaid
  set { state with
    sinks := state.sinks.filter (·.name ≠ name)
    inlets := state.inlets.filter (·.1.2 ≠ name) }
  let mut result : Int := -1
  for sink in sinks do result <- closeSink sink
  for (_, inlet) in inlets do
    if inlet.stream ≠ standardInput then close inlet.stream
    let some process := inlet.process | result := 0
    result := (<- awaitStatus process)
  return result

def closeAll : Machine Unit := do
  let state <- get
  set { state with sinks := [], inlets := [] }
  for sink in state.sinks.filter (·.process.isSome) do discard <| closeSink sink
  flushSaid
  for sink in state.sinks.filter (·.process.isNone) do discard <| closeSink sink
  for (_, inlet) in state.inlets do
    if inlet.stream ≠ standardInput then close inlet.stream

/-! ## The input -/

def assignmentOf? (operand : String) : Option (String × String) :=
  let name := operand.toList.takeWhile isNameInside
  match name, operand.toList.drop name.length with
  | first :: _, '=' :: value =>
    if first.isAlpha || first = '_' then some (.ofList name, .ofList (unescaped value)) else none
  | _, _ => none

def openNext : Nat -> Machine (Option Inlet)
  | 0 => return none
  | limit + 1 => do
    let state <- get
    let count := (wholeOf (<- global "ARGC").value).toNat
    if count <= state.operand then
      modify ({ · with mainEnded := true })
      if state.hasRead then return none
      else
        modify ({ · with hasRead := true, mainEnded := false })
        setGlobal "FILENAME" (.cell (.text ""))
        setGlobal "FNR" (.cell (.number 0))
        return some { stream := standardInput }
    else
      set { state with operand := state.operand + 1 }
      let number <- tableNumber (.everywhere "ARGV")
      let octets <- textOf ((<- tableAt number).get (.whole state.operand))
      if octets.isEmpty then openNext limit
      else match assignmentOf? octets with
        | some (name, value) =>
          writeGlobal name (.read value)
          openNext limit
        | none =>
          modify ({ · with hasRead := true })
          setGlobal "FILENAME" (.cell (.text octets))
          setGlobal "FNR" (.cell (.number 0))
          match <- inletOf octets with
          | .error fault => throw (.fault s!"cannot open \"{octets}\" ({wording fault})")
          | .ok inlet => match <- readingFault? inlet.stream with
            | some fault => throw (.fault s!"read error ({wording fault})")
            | none => return some inlet

def nextOfMain : Nat -> Machine (Option String)
  | 0 => return none
  | limit + 1 => do
    let state <- get
    match state.main with
    | some inlet =>
      let (record, inlet) <- recordFrom inlet
      match record with
      | some record =>
        modify ({ · with main := some inlet })
        return some record
      | none =>
        if inlet.stream ≠ standardInput then close inlet.stream
        modify ({ · with main := none })
        nextOfMain limit
    | none =>
      if state.mainEnded then return none
      else match <- openNext mostWaits with
        | none => return none
        | some inlet =>
          modify ({ · with main := some inlet })
          nextOfMain limit

def skipFile : Machine Unit := do
  let some inlet := (<- get).main | return ()
  if inlet.stream ≠ standardInput then
    close inlet.stream
    modify ({ · with main := none })
  else modify ({ · with main := some { inlet with rest := [], ended := true } })

def countUp (name : String) : Machine Unit := do
  setGlobal name (.cell (.number ((<- global name).value + 1)))

end BaseLanguage.Shell.Records
