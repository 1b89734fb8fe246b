import BaseLanguage.Shell.Expansion

namespace BaseLanguage.Shell

open Text

/-!
# Opening files

A file is opened by its name, for reading, for writing or for both.  What it is written over from its
start is emptied first.  A channel that has a name is opened at both ends: who opens one of them
waits until the other one is open.
-/

structure OpeningMode where
  reads : Bool := false
  writes : Bool := false
  creates : Bool := false
  empties : Bool := false
  appends : Bool := false

namespace OpeningMode

def reading : OpeningMode where
  reads := true

def writing : OpeningMode where
  writes := true
  creates := true
  empties := true

def appending : OpeningMode where
  writes := true
  creates := true
  appends := true

def both : OpeningMode where
  reads := true
  writes := true
  creates := true

def openFile (mode : OpeningMode) (node : Nat) : OpenFile where
  node
  reads := mode.reads
  writes := mode.writes
  appends := mode.appends

end OpeningMode

def streamFolder : Location := ["proc", "self", "fd"]

def streamNumberAt? : Location -> Option Nat
  | ["proc", "self", "fd", name] =>
    if !name.isEmpty && name.toList.all isDigit then some (valueOf name.toList) else none
  | _ => none

def namedStream? (tree : FileTree) (name : String) : Option Nat :=
  match tree.locate (pathOf name) with
  | .ok place => streamNumberAt? place
  | .error _ => none

def openNode (mode : OpeningMode) (node : Nat) : Act Stream := do
  if mode.empties then
    modify (fun session => { session with files := session.files.store node (.file .empty) })
  modifyGet fun session =>
    let (session, number) := session.addOpening (mode.openFile node)
    (.opened number, session)

def openChannel (mode : OpeningMode) (channel : Nat) : Act Stream := do
  let present := (<- get).channel channel
  let counted (channel : Channel) : Channel :=
    { channel with
      readings := channel.readings + (if mode.reads then 1 else 0)
      writings := channel.writings + (if mode.writes then 1 else 0) }
  modify (·.change channel counted)
  if mode.reads && mode.writes then return .both channel
  else
    let stream : Stream := if mode.reads then .reading channel else .writing channel
    let session <- get
    let isThere := if mode.reads then session.isWritten channel else session.isRead channel
    if !isThere then
      set { session with held := stream :: session.held }
      await
        (.partner channel mode.reads (if mode.reads then present.writings else present.readings))
      modify ({ · with held := session.held })
    return stream

def openNamed (mode : OpeningMode) (name : String) : Act (Except FileFault Stream) := do
  let session <- get
  let tree := session.files
  let path := pathOf name
  match tree.locate path with
  | .error fault => return .error fault
  | .ok place => match streamNumberAt? place, tree.number? place, tree.get? place with
    | some number, _, _ => match session.stream? number with
      | none => return .error .missing
      | some (.opened number) => match session.opened[number]? with
        | some opening => return .ok (<- openNode mode opening.node)
        | none => return .error .missing
      | some (.device device) => return .ok (.device device)
      | some stream =>
        let channel := (stream.source?.orElse fun _ => stream.sink?).getD 0
        return .ok
          (if mode.reads && mode.writes then .both channel
          else if mode.reads then .reading channel
          else .writing channel)
    | none, some number, some entry =>
      if FileTree.meansFolder path && entry.node != .folder then return .error .notFolder
      else match entry.node with
        | .folder =>
          if mode.writes then return .error .isFolder else return .ok (<- openNode mode number)
        | .file _ => return .ok (<- openNode mode number)
        | .queue channel => return .ok (<- openChannel mode channel)
        | .device .terminal => return .error .noDevice
        | .device device => return .ok (.device device)
        | .link _ => return .error .tooManyLinks
    | none, _, _ =>
      if !mode.creates then return .error .missing
      else if FileTree.meansFolder path then return .error .isFolder
      else
        let number := tree.nextNumber
        modify (fun session => { session with files := session.files.create place (.file .empty) })
        return .ok (<- openNode { mode with empties := false } number)

def freeStream (first : Nat) : Act Nat := do
  let session <- get
  let numbers := (List.range (session.streams.length + 1)).map (first + ·)
  return (numbers.find? (fun number => (session.stream? number).isNone)).getD first

def openStream (mode : OpeningMode) (name : String) : Act (Except FileFault Nat) := do
  match <- openNamed mode name with
  | .error fault => return .error fault
  | .ok stream =>
    let number <- freeStream 3
    modify (·.turn number (some stream))
    return .ok number

def close (stream : Nat) : Act Unit := modify (·.turn stream none)

def withStream (mode : OpeningMode) (name : String) (work : Nat -> Act α) :
    Act (Except FileFault α) := do
  match <- openStream mode name with
  | .error fault => return .error fault
  | .ok stream =>
    let value <- work stream
    close stream
    return .ok value

def readingNamed (name : String) (work : Nat -> Act α) : Act (Except FileFault α) := do
  match <- withStream .reading name (fun stream => do
    match <- readingFault? stream with
    | some fault => return .error fault
    | none => return .ok (<- work stream)) with
  | .ok outcome => return outcome
  | .error fault => return .error fault

def readNamed (name : String) : Act (Except FileFault ByteArray) :=
  readingNamed name (fun stream => do return (<- takeAll stream).getD .empty)

def writeNamed (mode : OpeningMode) (name : String) (bytes : ByteArray) :
    Act (Except FileFault Unit) := do
  match <- withStream mode name (tryPut · bytes) with
  | .error fault => return .error fault
  | .ok (some fault) => return .error fault
  | .ok none => return .ok ()

def appendTo (name : String) (bytes : ByteArray) : Act (Except FileFault Unit) :=
  writeNamed .appending name bytes

def Session.isSame (session : Session) (first second : String) : Bool :=
  match session.files.locate (pathOf first), session.files.locate (pathOf second) with
  | .ok first, .ok second => match session.files.number? first, session.files.number? second with
    | some left, some right => left == right
    | _, _ => first == second
  | _, _ => false

/-!
## Turning streams

Streams are turned one after the other, up to the first that cannot be turned.  What is wrong with
it is said by the shell, which goes on with the next command.
-/

def turnFault (kind : ShellKind) (creates : Bool) (name : String) (fault : FileFault) : String :=
  match kind with
  | .extended => s!"{name}: {wording fault}"
  | .plain =>
    let action := if creates then "create" else "open"
    let reason :=
      if fault = .missing then (if creates then "Directory nonexistent" else "No such file")
      else wording fault
    s!"cannot {action} {name}: {reason}"

def turnTo (number target : Nat) : Act (Option String) := do
  match (<- get).stream? target with
  | some stream =>
    modify (·.turn number (some stream))
    return none
  | none => return some s!"{numberText target}: Bad file descriptor"

def turnToInput (number : Nat) (content : ByteArray) : Act Unit :=
  modify fun session =>
    let (session, channel) := session.addChannel { content }
    session.turn number (some (.reading channel))

def turnToOpened (mode : OpeningMode) (number : Nat) (name : String) : Act (Option String) := do
  match <- openNamed mode name with
  | .ok stream =>
    modify (·.turn number (some stream))
    return none
  | .error fault => return some (turnFault (<- settings).kind mode.creates name fault)

def turnToWriting (number : Nat) (name : String) (keeps forced : Bool) : Act (Option String) := do
  let isFile := match (<- get).files.find (pathOf name) with
    | .ok ⟨.file _, _, _⟩ => true
    | _ => false
  if isFile && !keeps && !forced && (<- hasOption "noclobber") then
    match (<- settings).kind with
    | .plain => return some s!"cannot create {name}: File exists"
    | .extended => return some s!"{name}: cannot overwrite existing file"
  else turnToOpened (if keeps then .appending else .writing) number name

variable (services : Services)

def targetName (word : Word) : Work (Except String String) := do
  if <- inExtended then
    match <- word.fields services with
    | [name] => return .ok name
    | _ => return .error s!"{String.ofList ((word.literal?).getD [])}: ambiguous redirect"
  else return .ok (<- word.text services)

def turnToNamed (number : Nat) (word : Word) : Work (Option String) := do
  let text <- word.text services
  match text.toList with
  | ['-'] =>
    modify (·.turn number none)
    return none
  | digits =>
    let isNumber := !digits.isEmpty && digits.all isDigit
    match (<- settings).kind with
    | .plain =>
      if isNumber && digits.length = 1 then turnTo number (valueOf digits)
      else shellFault "Syntax error: Bad fd number"
    | .extended =>
      if isNumber then turnTo number (valueOf digits)
      else if number = standardOutput then
        match <- liftM (turnToWriting number text false false) with
        | none => turnTo standardError standardOutput
        | fault => return fault
      else return some s!"{text}: ambiguous redirect"

def elementIndexOf (text : Chars) : Chars × Index × String :=
  let name := text.takeWhile isNameChar
  match text.drop name.length with
  | [] => (name, .only, "")
  | index => (name, .at [], .ofList (index.drop 1).dropLast)

def heldStream (text : Chars) : Work Nat := do
  let (name, index, octets) := elementIndexOf text
  let held := (<- holdingOf name index octets).text none
  return (digitsValue? held).getD 0

def unusedStream : Act Nat := do
  let taken := (<- get).streams.map Prod.fst
  return ((List.range 200).find? (fun number => 10 <= number && !taken.contains number)).getD 200

def streamOf (stream : StreamName) (target : Target) : Work (Nat × Bool) := do
  match stream with
  | .number value => return (value, false)
  | .held text =>
    let closes := match target with
      | .sameAs word => Word.bare? word == some ['-']
      | _ => false
    if closes then return (<- heldStream text, false) else return (<- unusedStream, true)

def lendStream (stream : StreamName) (number : Nat) : Work Unit := do
  match stream with
  | .number _ => return ()
  | .held text =>
    let (name, index, octets) := elementIndexOf text
    modifySettings (fun settings => { settings with lent := number :: settings.lent })
    assignParameter name index octets (numberText number)

def redirect (redirection : Redirection) : Work (Option String) := do
  let ⟨stream, target⟩ := redirection
  let (number, lends) <- streamOf stream target
  let named (word : Word) (turn : String -> Act (Option String)) : Work (Option String) := do
    match <- targetName services word with
    | .ok name => turn name
    | .error fault => return some fault
  let fault <- match target with
  | .readFrom word => named word (turnToOpened .reading number)
  | .writeTo forced word => named word (turnToWriting number · false forced)
  | .appendTo word => named word (turnToWriting number · true false)
  | .readAndWrite word => named word (turnToOpened .both number)
  | .sameAs word => turnToNamed services number word
  | .bothTo append word =>
    named word fun name => do
      match <- turnToWriting standardOutput name append false with
      | none => turnTo standardError standardOutput
      | fault => return fault
  | .here body =>
    turnToInput number (bytesOf (<- Word.text services body).toList)
    pure none
  if lends && fault.isNone then lendStream stream number
  return fault

/-- Turns streams one after the other, up to the first that cannot be turned.  Whether all could be
turned is the result. -/
def redirectAll (services : Services) : List Redirection -> Work Bool
  | [] => return true
  | first :: rest => do
    let some fault <- redirect services first | redirectAll services rest
    complainInShell fault
    return false

def turnStatus : ShellKind -> Nat
  | .plain => misuse
  | .extended => failure

def turnBack (before : List (Nat × Stream)) : Act Unit := do
  let lent := (<- settings).lent
  let isLent (entry : Nat × Stream) : Bool := lent.contains entry.1
  modify fun session => { session with
    streams := session.streams.filter isLent ++ before.filter (!isLent ·) }

/-- Does something with streams turned, and turns them back.  The status says what happens if they
cannot be turned. -/
def withStreams (redirections : List Redirection) (work : Work Nat)
    (otherwise : Work Nat) : Work Nat := do
  let before := (<- get).streams
  let restore : Act Unit := turnBack before
  andFinally (do if <- redirectAll services redirections then work else otherwise) restore

end BaseLanguage.Shell
