import BaseLanguage.Shell.Syntax
import BaseLanguage.Storage.FileTree

namespace BaseLanguage.Shell

/-!
# Sessions

A session is what a process works on while a tool runs: the files, and streams by number.  Stream 0
is read, streams 1 and 2 are written; more may be open.  Each leads to one end of a channel, to a
file, or nowhere.  What is written to a channel comes out at its other end; what is read is gone.

Programs say octets, so all texts of a session are texts of octets.  Names of files are spelled by
them.
-/

/-!
## Variables

A variable holds a text, or a row of texts with indices, or texts with keys.  It may be declared
without a value.  Programs are told the exported ones; a fixed one keeps its value.
-/

inductive Value where
  | text (octets : String)
  | row (elements : List (Nat × String))
  | table (entries : List (String × String))
  deriving DecidableEq

namespace Value

def first? : Value -> Option String
  | .text octets => some octets
  | .row elements => elements.lookup 0
  | .table entries => entries.lookup "0"

def all : Value -> List String
  | .text octets => [octets]
  | .row elements => elements.map Prod.snd
  | .table entries => entries.map Prod.snd

def indices : Value -> List String
  | .text _ => ["0"]
  | .row elements => elements.map (fun element => .ofList (Text.decimal element.1))
  | .table entries => entries.map Prod.fst

def insertElement (index : Nat) (octets : String) : List (Nat × String) -> List (Nat × String)
  | [] => [(index, octets)]
  | (other, value) :: rest =>
    if index < other then (index, octets) :: (other, value) :: rest
    else if index = other then (index, octets) :: rest
    else (other, value) :: insertElement index octets rest

def elements : Value -> List (Nat × String)
  | .text octets => [(0, octets)]
  | .row elements => elements
  | .table _ => []

def placeCount : Nat := 1024

/-- The place of a key.  Each octet, counted as a number with a sign, is mixed into the product of
what is there with a fixed factor. -/
def placeOf (key : String) : Nat :=
  key.toList.foldl
    (fun place c =>
      let octet := if c.toNat < 128 then c.toNat else c.toNat % 256 + 768
      Nat.xor (place * 403 % placeCount) octet)
    453

/-- The entries with one more, in front of those with the same place or a later one. -/
def addEntry (key octets : String) : List (String × String) -> List (String × String)
  | [] => [(key, octets)]
  | (other, value) :: rest =>
    if placeOf key <= placeOf other then (key, octets) :: (other, value) :: rest
    else (other, value) :: addEntry key octets rest

def insertEntry (key octets : String) (entries : List (String × String)) : List (String × String) :=
  if (entries.lookup key).isSome then
    entries.map (fun entry => if entry.1 == key then (key, octets) else entry)
  else addEntry key octets entries

end Value

structure Variable where
  value : Option Value := none
  exported : Bool := false
  fixed : Bool := false
  integer : Bool := false
  recasing : Option Recasing := none
  reference : Bool := false
  deriving DecidableEq

abbrev Variables := List (String × Variable)

namespace Variables

variable (bindings : Variables)

def find? (name : String) : Option Variable := bindings.lookup name

def mostReferences : Nat := 8

def targetFrom (bindings : Variables) : Nat -> String -> String
  | 0, name => name
  | limit + 1, name => match bindings.find? name with
    | some held => match held.reference, held.value.bind Value.first? with
      | true, some target => targetFrom bindings limit target
      | _, _ => name
    | none => name

def target (name : String) : String := bindings.targetFrom mostReferences name

def text? (name : String) : Option String := do (<- (<- bindings.find? name).value).first?

def set (bindings : Variables) (name : String) (new : Variable) : Variables := match bindings with
  | [] => [(name, new)]
  | (other, old) :: rest =>
    if other == name then (name, new) :: rest else (other, old) :: set rest name new

def erase (name : String) : Variables := bindings.filter (·.1 != name)

def environment : List (String × String) :=
  bindings.filterMap fun (name, held) =>
    if held.exported then (held.value.bind Value.first?).map (fun octets => (name, octets))
    else none

def names : List String :=
  let set := bindings.filter (·.2.value.isSome)
  (set.map Prod.fst).mergeSort (fun left right => left <= right)

end Variables

/-! ## Streams and files -/

inductive Stream where
  | reading (channel : Nat)
  | writing (channel : Nat)
  | both (channel : Nat)
  | opened (number : Nat)
  | device (device : Device)
  deriving DecidableEq

namespace Stream

def source? : Stream -> Option Nat
  | .reading channel => some channel
  | .both channel => some channel
  | _ => none

def sink? : Stream -> Option Nat
  | .writing channel => some channel
  | .both channel => some channel
  | _ => none

end Stream

structure OpenFile where
  node : Nat
  offset : Nat := 0
  reads : Bool := false
  writes : Bool := false
  appends : Bool := false

structure ShellFunction where
  line : Nat
  body : Command
  source : String := ""

structure FunctionCall where
  name : String
  line : Nat
  source : String

structure Settings where
  kind : ShellKind := .plain
  name : String := "sh"
  arguments : List String := []
  bindings : Variables := []
  functions : List (String × ShellFunction) := []
  aliases : List (String × String) := []
  traps : List (String × String) := []
  options : List String := []
  status : Nat := 0
  outputStatus : Nat := 0
  stageStatuses : List Nat := []
  line : Nat := 1
  linesBefore : Nat := 0
  sourced : Option String := none
  loops : Nat := 0
  hidden : List Variables := []
  callers : List FunctionCall := []
  trapping : Bool := false
  commandText : String := ""
  depth : Nat := 0
  seed : Nat := 1
  drawn : Nat := 0
  seconds : Int := 0
  running : Option String := none
  background : Option Nat := none
  jobs : List Nat := []
  process : Nat := 0
  disabled : List String := []
  borrowed : List Nat := []
  lent : List Nat := []
  gives : Bool := false
  folder : Option Location := none
  visited : List String := []
  letters : Nat := 0

structure Channel where
  content : ByteArray := .empty
  start : Nat := 0
  bounded : Bool := false
  readings : Nat := 0
  writings : Nat := 0

namespace Channel

def capacity : Nat := 65536

def size (channel : Channel) : Nat := channel.content.size - channel.start

def left (channel : Channel) : ByteArray :=
  if channel.start = 0 then channel.content
  else channel.content.extract channel.start channel.content.size

/-- The channel with so many bytes read.  Those are dropped once they are many. -/
def drop (channel : Channel) (count : Nat) : Channel :=
  let start := min (channel.start + count) channel.content.size
  if start = channel.content.size then { channel with content := .empty, start := 0 }
  else if capacity < start && channel.content.size < 2 * start then
    { channel with content := channel.content.extract start channel.content.size, start := 0 }
  else { channel with start }

def add (channel : Channel) (bytes : ByteArray) : Channel :=
  { channel with content := channel.content ++ bytes }

end Channel

/-- What a process sees of the files, the channels and the other processes, and what it has for
itself: its streams, its environment and the settings of the shell. -/
structure Session where
  files : FileTree
  channels : Array Channel := #[]
  opened : Array OpenFile := #[]
  time : Nat := 0
  processes : Nat := 1
  statuses : List (Nat × Nat) := []
  streams : List (Nat × Stream) := []
  held : List Stream := []
  environment : List (String × String) := []
  process : Nat := 1
  ancestors : List Nat := []
  readers : List Nat := []
  writers : List Nat := []
  signals : List String := []
  settings : Settings := {}

namespace Session

variable (session : Session)

def stream? (number : Nat) : Option Stream := session.streams.lookup number

def turn (number : Nat) (stream : Option Stream) : Session :=
  let others := session.streams.filter (·.1 != number)
  { session with
    streams := match stream with
      | some stream => (number, stream) :: others
      | none => others }

def addChannel (channel : Channel) : Session × Nat :=
  ({ session with channels := session.channels.push channel }, session.channels.size)

def channel (number : Nat) : Channel := session.channels.getD number {}

def change (session : Session) (number : Nat) (change : Channel -> Channel) : Session :=
  { session with channels := session.channels.modify number change }

def ends : List Stream := session.streams.map Prod.snd ++ session.held

def isRead (channel : Nat) : Bool :=
  session.readers.contains channel || session.ends.any (·.source? == some channel)

def isWritten (channel : Nat) : Bool :=
  session.writers.contains channel || session.ends.any (·.sink? == some channel)

def addOpening (opening : OpenFile) : Session × Nat :=
  ({ session with opened := session.opened.push opening }, session.opened.size)

def own : Session :=
  { session with
    channels := #[]
    opened := #[]
    statuses := []
    files := { session.files with numbers := ∅, nodes := ∅ } }

def seeing (own shared : Session) : Session :=
  { own with
    files := { shared.files with current := own.files.current, mask := own.files.mask }
    channels := shared.channels
    opened := shared.opened
    time := shared.time
    processes := shared.processes
    statuses := shared.statuses }

end Session

def pathTo (place : Location) : String := "/" ++ "/".intercalate (place.map Text.toOctets)

def pathOf (octets : String) : Path := ⟨Text.ofOctets octets⟩

/-!
## Processes

A process works on its session, step by step.  It may pause until something has happened elsewhere:
until there is something to read, until a moment, or until another process has ended.  Then it goes
on with what all processes see as it is then.  A process may start others, which run beside it, and
send them signals.

What a process does is a function to its first step, so that acts can be put together one behind the
other, wherever the first of them pauses.
-/

inductive Waiting where
  | readable (channel size : Nat)
  | writable (channel : Nat)
  /-- Somebody at the other end of a channel, who may have been there for a while: one more opening of
  that end than so many. -/
  | partner (channel : Nat) (reads : Bool) (openings : Nat)
  | moment (time : Nat)
  | ended (processes : List Nat)
  | oneEnded (processes : List Nat) (moment : Option Nat)
  | turn

structure Signal where
  target : Nat
  name : String
  family : Bool := false

/-- A process: what it does until it pauses, and what it does then. -/
inductive Process where
  | ended (status : Nat) (session : Session)
  | pause (waiting : Waiting) (session : Session) (resume : Session -> Process)
  | fork (child : Session -> Process) (session : Session) (resume : Nat -> Session -> Process)
  | sending (signal : Signal) (session : Session) (resume : Session -> Process)

/-- A step of an act, which comes to a value if the process does not end before. -/
inductive Step (α : Type) where
  | done (value : α) (session : Session)
  | ended (status : Nat) (session : Session)
  | pause (waiting : Waiting) (session : Session) (resume : Session -> Step α)
  | fork (child : Session -> Process) (session : Session) (resume : Nat -> Session -> Step α)
  | sending (signal : Signal) (session : Session) (resume : Session -> Step α)

namespace Step

variable {α β : Type}

def andThen (next : α -> Session -> Step β) : Step α -> Step β
  | .done value session => next value session
  | .ended status session => .ended status session
  | .pause waiting session resume =>
    .pause waiting session (fun session => (resume session).andThen next)
  | .fork child session resume =>
    .fork child session (fun number session => (resume number session).andThen next)
  | .sending signal session resume =>
    .sending signal session (fun session => (resume session).andThen next)

def surviving : Step Nat -> Step Nat
  | .done status session => .done status session
  | .ended status session => .done status session
  | .pause waiting session resume =>
    .pause waiting session (fun session => (resume session).surviving)
  | .fork child session resume =>
    .fork child session (fun number session => (resume number session).surviving)
  | .sending signal session resume =>
    .sending signal session (fun session => (resume session).surviving)

def process : Step Nat -> Process
  | .done status session => .ended status session
  | .ended status session => .ended status session
  | .pause waiting session resume =>
    .pause waiting session (fun session => (resume session).process)
  | .fork child session resume =>
    .fork child session (fun number session => (resume number session).process)
  | .sending signal session resume =>
    .sending signal session (fun session => (resume session).process)

end Step

def Act (α : Type) : Type := Session -> Step α

namespace Act

variable {α β : Type}

@[always_inline, inline]
def andThen (act : Act α) (next : α -> Act β) : Act β := fun session => match act session with
  | .done value session => next value session
  | step => step.andThen next

end Act

@[always_inline]
instance : Monad Act where
  pure value := (.done value ·)
  bind := .andThen

@[always_inline]
instance : MonadStateOf Session Act where
  get := fun session => .done session session
  set session := fun _ => .done () session
  modifyGet change := fun session =>
    let (value, session) := change session
    .done value session

abbrev Utility := String -> List String -> Act Nat

def await (waiting : Waiting) : Act Unit := fun session => .pause waiting session (.done () ·)

def endProcess (status : Nat) : Act α := (.ended status ·)

def surviving (act : Act Nat) : Act Nat := fun session => (act session).surviving

def startProcess (act : Act Nat) : Act Nat := fun session =>
  .fork (fun session => (act session).process) session (fun number session => .done number session)

def send (signal : Signal) : Act Unit := fun session => .sending signal session (.done () ·)

def signalledStatus (number : Nat) : Nat := 256 + number

def knownStatus (status : Nat) : Nat := if status < 256 then status else status - 128

def endStatus? (number : Nat) : Act (Option Nat) := do
  return ((<- get).statuses.lookup number).map knownStatus

def awaitAll (numbers : List Nat) : Act (List Nat) := do
  await (.ended numbers)
  let statuses := (<- get).statuses
  return numbers.map (fun number => knownStatus ((statuses.lookup number).getD 0))

/-- The nanoseconds that something takes which others may run beside. -/
def tick : Nat := 20000

def takeTurn : Act Unit := do
  modify (fun session => { session with time := session.time + tick })
  await .turn

end BaseLanguage.Shell
