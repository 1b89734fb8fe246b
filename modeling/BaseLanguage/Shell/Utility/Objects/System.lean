import BaseLanguage.Shell.Utility.Objects.Stepping
import BaseLanguage.Shell.Utility.Timing

namespace BaseLanguage.Shell.Objects

/-!
# Functions about the system

A program asks about itself and its process, changes files and folders, and asks for the time.
-/

section

variable (engine : Engine)

def filingFor (name : Value) (operation : Filing α) : Machine α := do
  match <- filing operation with
  | .ok value => return value
  | .error fault => failFile fault name

def entryFor (value : Value) (name : String) (follows : Bool) : Machine FileEntry := do
  let session <- sessionNow
  match if follows then session.entry name else session.ownEntry name with
  | .ok entry => return entry
  | .error fault => failFile fault value

def nanosOf (value : Value) : Machine Int := do
  match <- heldBy value with
  | .real seconds => return Records.wholeOf (seconds * 1000000000)
  | value => return (<- indexOf engine value) * 1000000000

def argumentAt (given : Arguments) (index : Nat) : Value := given.placed.getD index .nothing

def argumentFor (given : Arguments) (index : Nat) (name : String) : Option Value :=
  match given.placed[index]? with
  | some value => some value
  | none => given.named.lookup name

/-! ## The program itself -/

def programFunction (name : String) (given : Arguments) : Machine Value := do
  match name with
  | "exit" => throw (.raised (<- newFault (nativeType "SystemExit") given.placed))
  | "exc_info" => match (<- get).handled with
    | fault :: _ =>
      let trace := (<- attribute? engine fault "__traceback__").getD .nothing
      return .tuple [.object (<- typeOf fault), fault, trace]
    | [] => return .tuple [.nothing, .nothing, .nothing]
  | "exception" => return (<- get).handled.headD .nothing
  | "getrecursionlimit" => return .whole (<- get).mostDepth
  | "setrecursionlimit" =>
    let most <- indexOf engine (<- given.one)
    if most < 1 then failValue "recursion limit must be greater or equal than 1"
    modify ({ · with mostDepth := most.toNat })
    return .nothing
  | "getsizeof" => match <- heldBy (argumentAt given 0) with
    | .text text => return .whole (49 + text.length)
    | .whole value => return .whole (28 + 4 * ((value.natAbs.log2 + 1) / 30))
    | _ => return .whole 56
  | "intern" => given.one
  | "getdefaultencoding" => return .text "utf-8"
  | "getfilesystemencoding" => return .text "utf-8"
  | "getrefcount" => return .whole 2
  | "is_finalizing" => return .truth false
  | "_exit_soon" =>
    modify fun state => { state with
      endings := (argumentAt given 0, given.placed.drop 1) :: state.endings }
    return argumentAt given 0
  | name => fail "AttributeError" s!"module 'sys' has no attribute '{name}'"

/-! ## Files and processes -/

def fileFactsFor (value : Value) (name : String) (follows : Bool) : Machine Value := do
  let entry <- entryFor value name follows
  let session <- sessionNow
  let place? := (session.files.locate (pathOf name)).toOption
  let number := (place?.bind session.files.number?).getD 0
  let links := (place?.map session.files.linkCount).getD 1
  let mode := entry.kindBits + entry.permissions
  let time := .whole entry.modified.total
  return .tuple (([mode, 1000 + number, 2049, links, 0, 0, entry.size].map fun (found : Nat) =>
    .whole found) ++ [time, time, time, .whole entry.sectors])

def sendSignal (target : Int) (number : Nat) : Machine Unit := do
  let session <- sessionNow
  let name := signalNames.getD number ""
  if number ≠ 0 then
    if target = numberOfProcess session.process then
      let act : Act Unit := endByItself number
      if harmlessSignals.contains name then pure () else liftM act
    else match processWithNumber? target.toNat with
      | some process => liftM (m := Act) (send { target := process, name })
      | none => failSystem 3 []
where
  endByItself (number : Nat) : Act Unit := endProcess (signalledStatus number)

def tellEnvironment (table : Value) : Machine Unit := do
  match <- heldBy table with
  | .object address =>
    let entries := (<- tableAt address).pairs.filterMap fun (name, value) => match name, value with
      | .text name, .text value => some (octetsOfText name, octetsOfText value)
      | _, _ => none
    liftM (m := Act) (modify ({ · with environment := entries }))
  | _ => pure ()

def flagMode (flags : Nat) : OpeningMode where
  reads := flags % 4 ≠ 1
  writes := flags % 4 ≠ 0
  creates := flags &&& 64 ≠ 0
  empties := flags &&& 512 ≠ 0
  appends := flags &&& 1024 ≠ 0

def fileFunction (name : String) (given : Arguments) : Machine Value := do
  let first := argumentAt given 0
  let second := argumentAt given 1
  let path : Machine String := fileNameOf engine name first
  let otherPath : Machine String := fileNameOf engine name second
  let done : Machine Value := return .nothing
  let number (value : Value) : Machine Nat := do return (<- indexOf engine value).toNat
  match name with
  | "getcwd" => return .text (textOfOctets (pathTo (<- sessionNow).files.current))
  | "chdir" =>
    let folder <- path
    let session <- sessionNow
    match session.files.locate (pathOf folder) with
    | .ok place =>
      if session.files.hasFolder (pathOf folder) then
        liftM (m := Act) (modify fun session => { session with
          files := { session.files with current := place } })
        done
      else failSystem 20 [first]
    | .error fault => failFile fault first
  | "listdir" =>
    let folder <- match first with
      | .nothing => pure "."
      | _ => path
    let entry <- entryFor (if folder = "." then .text "." else first) folder true
    if !entry.isFolder then failSystem 20 [first]
    newList ((namesIn (<- sessionNow).files folder).map fun name => .text (textOfOctets name))
  | "mkdir" =>
    filingFor first (FileTree.createFolder (pathOf (<- path)))
    match argumentFor given 1 "mode" with
    | some mode =>
      let session <- sessionNow
      let mode <- number mode
      let kept := (mode &&& 0o1777) - ((mode &&& 0o1777) &&& session.files.mask)
      filingFor first (FileTree.setPermissions (pathOf (<- path)) kept)
    | none => pure ()
    done
  | "rmdir" =>
    let folder <- path
    let entry <- entryFor first folder false
    if !entry.isFolder then failSystem 20 [first]
    if !(namesIn (<- sessionNow).files folder).isEmpty then failSystem 39 [first]
    filingFor first (FileTree.remove (pathOf folder))
    done
  | "remove" =>
    let file <- path
    if (<- entryFor first file false).isFolder then failSystem 21 [first]
    filingFor first (FileTree.remove (pathOf file))
    done
  | "rename" =>
    let source <- path
    let target <- otherPath
    let session <- sessionNow
    match session.ownEntry source, session.ownEntry target with
    | .error fault, _ => failSystem (systemNumber fault) [first, second]
    | .ok _, .error _ => pure ()
    | .ok from_, .ok into =>
      if into.isFolder && !from_.isFolder then failSystem 21 [first, second]
      if from_.isFolder && !into.isFolder then failSystem 20 [first, second]
    match <- filing (FileTree.move (pathOf source) (pathOf target)) with
    | .ok _ => done
    | .error fault => failSystem (systemNumber fault) [first, second]
  | "_stat" => match first with
    | .whole stream =>
      let session <- sessionNow
      match session.stream? stream.toNat with
      | some (.opened opening) =>
        let node := (session.opened[opening]?).bind (session.files.node? ·.node)
        match node with
        | some entry =>
          let time := .whole entry.modified.total
          return .tuple (([entry.kindBits + entry.permissions, 1000, 2049, 1, 0, 0, entry.size].map
            fun (found : Nat) => .whole found) ++ [time, time, time, .whole entry.sectors])
        | none => failSystem 9 []
      | some _ =>
        return .tuple (([0o010600, 10, 13, 1, 0, 0, 0].map fun (found : Nat) => .whole found) ++
          [.whole 0, .whole 0, .whole 0, .whole 0])
      | none => failSystem 9 []
    | _ => fileFactsFor first (<- path) (<- isTrue engine second)
  | "symlink" =>
    let target <- path
    let place <- otherPath
    match <- filing (FileTree.createAt (pathOf place) (.link target)) with
    | .ok _ => done
    | .error fault => failSystem (systemNumber fault) [first, second]
  | "link" => match <- filing (FileTree.link (pathOf (<- path)) (pathOf (<- otherPath))) with
    | .ok _ => done
    | .error fault => failSystem (systemNumber fault) [first, second]
  | "readlink" =>
    let entry <- entryFor first (<- path) false
    match entry.target? with
    | some target => return .text (textOfOctets target)
    | none => failSystem 22 [first]
  | "chmod" =>
    filingFor first (FileTree.setPermissions (pathOf (<- path)) ((<- number second) % 0o10000))
    done
  | "utime" =>
    let nanos <- number second
    let time : Timestamp := ⟨nanos / 1000000000, nanos % 1000000000⟩
    filingFor first (FileTree.setModified (pathOf (<- path)) time)
    done
  | "access" => match (<- sessionNow).entry (<- path) with
    | .error _ => return .truth false
    | .ok entry =>
      let mode <- number second
      return .truth (mode &&& 1 = 0 || entry.isFolder || entry.permissions &&& 0o111 ≠ 0)
  | "umask" =>
    let session <- sessionNow
    let mask <- number first
    liftM (m := Act) (modify fun session => { session with files := { session.files with mask } })
    return .whole session.files.mask
  | "getpid" => return .whole (numberOfProcess (<- sessionNow).process)
  | "getppid" => return .whole 1
  | "getpgrp" => return .whole (numberOfProcess (<- sessionNow).process)
  | "_nobody" => return .whole 0
  | "getlogin" => failSystem 6 []
  | "urandom" =>
    let count <- number first
    let state <- get
    let bytes := (List.range count).foldl (fun (found : ByteArray × Nat) _ =>
      let seed := (found.2 * 6364136223846793005 + 1442695040888963407) % Nat.pow 2 64
      (found.1.push (UInt8.ofNat (seed / Nat.pow 2 33)), seed)) (.empty, state.seed)
    set { state with seed := bytes.2 }
    return .octets bytes.1
  | "_exit" => throw (.exit ((<- number first) % 256))
  | "abort" =>
    let act : Act Unit := endProcess (signalledStatus 6)
    liftM act
    done
  | "kill" =>
    sendSignal (<- indexOf engine first) (<- number second)
    done
  | "isatty" => return .truth false
  | "cpu_count" => return .whole 2
  | "strerror" => return .text (systemFaultText (<- number first))
  | "_system" =>
    tellEnvironment second
    match first with
    | .text command =>
      let status <- awaitWork (engine.services.start "/bin/sh" "sh" ["-c", octetsOfText command])
      return .whole (if 256 <= status then status - 256 else status * 256)
    | _ => failType "system() argument 1 must be str"
  | "write" => match <- heldBy second with
    | .octets bytes => match <- tryPut (<- number first) bytes with
      | none => return .whole bytes.size
      | some fault => failSystem (systemNumber fault) []
    | _ => failType s!"a bytes-like object is required, not '{← typeName second}'"
  | "read" =>
    let stream <- number first
    let count <- number second
    match <- readingFault? stream, <- waitFor (0 < ·.size) stream with
    | some fault, _ => failSystem (systemNumber fault) []
    | none, none => return .octets .empty
    | none, some window =>
      let bytes := window.front (min count window.size)
      liftM (drop bytes.size stream)
      return .octets bytes
  | "open" =>
    let flags <- number second
    let name <- path
    if flags &&& 128 ≠ 0 && ((<- sessionNow).ownEntry name).toOption.isSome then
      failSystem 17 [first]
    match <- openStream (flagMode flags) name with
    | .ok stream => return .whole stream
    | .error fault => failFile fault first
  | "close" =>
    close (<- number first)
    done
  | "dup2" =>
    let session <- sessionNow
    let source <- number first
    let target <- number second
    liftM (m := Act) (set (session.turn target (session.stream? source)))
    return .whole target
  | "pipe" =>
    let (session, channel) := (<- sessionNow).addChannel {}
    liftM (m := Act) (set session)
    let reading <- freeStream 3
    liftM (m := Act) (modify (·.turn reading (some (.reading channel))))
    let writing <- freeStream 3
    liftM (m := Act) (modify (·.turn writing (some (.writing channel))))
    return .tuple [.whole reading, .whole writing]
  | "fspath" => match first with
    | .text _ => return first
    | .octets _ => return first
    | _ => match <- callSpecial? engine first "__fspath__" [] with
      | some found => return found
      | none => failType s!"expected str, bytes or os.PathLike object, not {← typeName first}"
  | "truncate" =>
    let size <- number second
    match <- readNamed (<- path) with
    | .ok bytes =>
      let kept := bytes.extract 0 size
      discard <| writeNamed .writing (<- path) (kept ++ ⟨Array.replicate (size - kept.size) 0⟩)
      done
    | .error fault => failFile fault first
  | "mkfifo" =>
    let (session, channel) := (<- sessionNow).addChannel { bounded := true }
    liftM (m := Act) (set session)
    filingFor first (FileTree.createAt (pathOf (<- path)) (.queue channel))
    done
  | name => fail "AttributeError" s!"module 'os' has no attribute '{name}'"

/-! ## Time -/

def momentNow : Machine Timestamp := do return (<- sessionNow).files.clock

def inSeconds (nanos : Int) : Value := .real (realOf (nanos < 0) nanos.natAbs 1000000000)

def timeFunction (name : String) (given : Arguments) : Machine Value := do
  let first := argumentAt given 0
  match name with
  | "time" => return inSeconds (<- momentNow).total
  | "time_ns" => return .whole (<- momentNow).total
  | "perf_counter" => return inSeconds (<- sessionNow).time
  | "perf_counter_ns" => return .whole (<- sessionNow).time
  | "process_time" => return .real 0.02
  | "sleep" =>
    let nanos <- nanosOf engine (<- given.one)
    if nanos < 0 then failValue "sleep length must be non-negative"
    await (.moment ((<- sessionNow).time + nanos.toNat))
    return .nothing
  | "_parts" =>
    let seconds <- match first with
      | .nothing => do pure (<- momentNow).seconds
      | .real value => pure (Records.wholeOf value.floor)
      | value => indexOf engine value
    let time : Timestamp := ⟨seconds, 0⟩
    let date := time.date
    let dayTime := time.dayTime
    return .tuple ([date.year, (date.month : Int), (date.day : Int), (dayTime.hour : Int),
      (dayTime.minute : Int), (dayTime.second : Int), (((date.weekday + 6) % 7 : Nat) : Int),
      (date.dayOfYear + 1 : Int), 0].map .whole)
  | "_seconds" =>
    let numbers <- given.placed.mapM (indexOf engine)
    match numbers with
    | [year, month, day, hour, minute, second] =>
      let months := year * 12 + (month - 1)
      let first : Date := ⟨months.fdiv 12, (months.fmod 12).toNat + 1, 1⟩
      return .whole ((first.dayNumber + (day - 1)) * 86400 + hour * 3600 + minute * 60 + second)
    | _ => failType "expected six numbers"
  | "_text" => match first with
    | .text format => return .text (dateText format ⟨(<- indexOf engine (argumentAt given 1)), 0⟩)
    | _ => failType s!"strftime() argument 1 must be str, not {← typeName first}"
  | name => fail "AttributeError" s!"module 'time' has no attribute '{name}'"

end

/-!
## Other programs

A program starts others beside itself.  What they read and say goes through channels, or where this
program's own streams go.
-/

inductive ChildStream where
  | own
  | channel
  | nowhere
  | output
  | stream (number : Nat)
  deriving DecidableEq

def childStream (value : Value) : Machine ChildStream := do
  match value with
  | .nothing => return .own
  | .whole number =>
    if number = -1 then return .channel
    else if number = -2 then return .output
    else if number = -3 then return .nowhere
    else return .stream number.toNat
  | .object address => match <- thingAt address with
    | .stream facts =>
      flush address
      return (facts.stream.map .stream).getD .own
    | _ => return .own
  | _ => return .own

/-- A new channel, with the number of the stream of this program at one end; the other end is for
another program. -/
def channelTo (childReads : Bool) : Act (Nat × Stream) := do
  let number <- freeStream 3
  let (session, channel) := (<- get).addChannel {}
  let own : Stream := if childReads then .writing channel else .reading channel
  set (session.turn number (some own))
  return (number, if childReads then .reading channel else .writing channel)

def endFor (isInput : Bool) (kind : ChildStream) (own : Nat) :
    Act (Option Nat × Option Stream) := do
  let session <- get
  match kind with
  | .own => return (none, session.stream? own)
  | .channel =>
    let (number, other) <- channelTo isInput
    return (some number, some other)
  | .nowhere => return (none, some (.device .nothing))
  | .output => return (none, none)
  | .stream number => return (none, session.stream? number)

section

variable (engine : Engine)

def commandWords (value : Value) : Machine (List String) := do
  match <- heldBy value with
  | .text text => return [octetsOfText text]
  | .octets bytes => return [.ofList (Text.octetsOf bytes)]
  | _ => match <- fileName? engine value with
    | some name => return [name]
    | none => (<- itemsOf engine value).mapM (fileNameOf engine "" ·)

def startChild (given : Arguments) : Machine Value := do
  let words <- commandWords engine (argumentAt given 0)
  let isShell <- isTrue engine (argumentAt given 1)
  let input <- childStream (argumentAt given 2)
  let said <- childStream (argumentAt given 3)
  let complaints <- childStream (argumentAt given 4)
  let folder := argumentAt given 5
  let environment := argumentAt given 6
  let before <- sessionNow
  let entries <- match <- heldBy environment with
    | .object address => do
      let pairs := (<- tableAt address).pairs
      pairs.mapM fun (name, value) => do
        match <- fileName? engine name, <- fileName? engine value with
        | some name, some value => return (name, value)
        | _, _ =>
          let wrong := match name with
            | .text _ => value
            | name => name
          failType s!"expected str, bytes or os.PathLike object, not {← typeName wrong}"
    | _ => pure before.environment
  let place <- match folder with
    | .nothing => pure before.files.current
    | folder => do
      let name <- fileNameOf engine "" folder
      match before.files.locate (pathOf name) with
      | .ok place =>
        if before.files.hasFolder (pathOf name) then pure place else failSystem 20 [folder]
      | .error fault => failFile fault folder
  let (path, name, arguments) <- match isShell, words with
    | true, command :: rest => pure ("/bin/sh", "/bin/sh", "-c" :: command :: rest)
    | _, name :: arguments => do
      let inside : Session := { before with files := { before.files with current := place } }
      let folders := (entries.lookup "PATH").getD ((before.environment.lookup "PATH").getD "/bin:/usr/bin")
      match inside.lookUp folders name with
      | .ok path => pure (path, name, arguments)
      | .error fault =>
        failSystem (if fault = .missing then 2 else if fault = .notFolder then 20 else 13)
          [.text (textOfOctets name)]
    | _, [] => fail "IndexError" "list index out of range"
  let work : Act (List Nat) := do
    let (inputEnd, childInput) <- endFor true input standardInput
    let (outputEnd, childOutput) <- endFor false said standardOutput
    let (complaintEnd, childComplaints) <- endFor false complaints standardError
    let childComplaints := if complaints = .output then childOutput else childComplaints
    let number <- startProcess do
      modify fun session =>
        let closed := [inputEnd, outputEnd, complaintEnd].filterMap id
        let session := closed.foldl (fun (session : Session) number => session.turn number none) session
        let session := (session.turn standardInput childInput).turn standardOutput childOutput
        { session.turn standardError childComplaints with
          environment := entries, files := { session.files with current := place } }
      engine.services.start path name arguments
    return [number, inputEnd.getD 0, outputEnd.getD 0, complaintEnd.getD 0]
  return .tuple ((<- liftM work).map fun (number : Nat) => .whole number)

def childFunction (name : String) (given : Arguments) : Machine Value := do
  let first := argumentAt given 0
  match name with
  | "start" => startChild engine given
  | "wait" =>
    let number := (<- indexOf engine first).toNat
    let limit <- match argumentAt given 1 with
      | .nothing => pure none
      | seconds => do pure (some ((<- sessionNow).time + (<- nanosOf engine seconds).toNat))
    await (.oneEnded [number] limit)
    match (<- sessionNow).statuses.lookup number with
    | some status => return .whole (codeOf status)
    | none => return .nothing
  | "poll" =>
    let number := (<- indexOf engine first).toNat
    liftM takeTurn
    match (<- sessionNow).statuses.lookup number with
    | some status => return .whole (codeOf status)
    | none => return .nothing
  | "send" =>
    let number := (<- indexOf engine first).toNat
    let signal := (<- indexOf engine (argumentAt given 1)).toNat
    liftM (m := Act) (send { target := number, name := signalNames.getD signal "" })
    return .nothing
  | "pid" => return .whole (numberOfProcess (<- indexOf engine first).toNat)
  | name => fail "AttributeError" s!"module 'subprocess' has no attribute '{name}'"
where
  codeOf (status : Nat) : Int := if 256 <= status then 256 - (status : Int) else status

end

end BaseLanguage.Shell.Objects
