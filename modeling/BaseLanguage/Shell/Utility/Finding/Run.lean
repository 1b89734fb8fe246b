import BaseLanguage.Shell.Utility.Finding.Basic
import BaseLanguage.Shell.Utility.Running

namespace BaseLanguage.Shell

/-!
# Searching

Files are visited from the outside in, folders in front of what lies in them or behind it.  The
expression of the search is asked about each; what it does may keep the search out of a folder, or
end it.
-/

structure FindState where
  status : Nat := success
  pruned : Bool := false
  ended : Bool := false
  gathered : List (Nat × Location × String) := []
  streams : List (String × Nat) := []

abbrev Searching := StateT FindState Act

namespace Searching

def faulty (message : String) : Searching Unit := do
  discard <| (complain "find" message : Act Nat)
  modify ({ · with status := failure })

def say (place : Option String) (octets : Chars) : Searching Unit := do
  let some name := place | discard <| (answerText "find" octets : Act Nat)
  match (<- get).streams.lookup name with
  | some stream => discard <| (putOctets stream octets : Act Bool)
  | none => return ()

def filled (words : List String) (name : String) : List String :=
  words.map fun word =>
    .ofList (replaceMark ['\x7b', '\x7d'] name.toList (word.length + 1) word.toList)

def perform (services : Services) (folder : Option Location) (words : List String) : Act Nat := do
  match words with
  | [] => return failure
  | name :: arguments =>
    let before := (<- get).files.current
    let turn (place : Location) : Act Unit :=
      modify fun session => { session with files := { session.files with current := place } }
    if let some place := folder then turn place
    let status <- startNamed services "find" name arguments
    turn before
    return status

def nameInFolder (subject : FindSubject) : String := s!"./{subject.name}"

def asksFor (words : List String) (subject : FindSubject) : Act Bool := do
  let name := words.headD ""
  discard <| putText standardError s!"< {name} ... {subject.path} > ? "
  let line := (<- takeLine '\n' standardInput).getD .empty
  return (Text.octetsOf line).head?.any (fun c => c = 'y' || c = 'Y')

def delete (subject : FindSubject) : Searching Bool := do
  if subject.path = "." then return true
  let session <- (MonadState.get : Act Session)
  let isFull := subject.entry.isFolder && !(session.files.children subject.place).isEmpty
  let outcome : Except FileFault Unit <-
    if isFull then pure (.ok ())
    else (filing (FileTree.remove (pathOf subject.path)) : Act (Except FileFault Unit))
  if isFull then
    faulty s!"cannot delete {quoted subject.path}: Directory not empty"
    return false
  match outcome with
  | .ok () => return true
  | .error fault =>
    faulty s!"cannot delete {quoted subject.path}: {wording fault}"
    return false

def act (services : Services) (subject : FindSubject) : FindAction -> Searching Bool
  | .say ending place => do
    say place (subject.path.toList ++ [ending])
    return true
  | .sayForm pieces place => do
    say place (subject.written pieces)
    return true
  | .list place => do
    say place ((subject.listed (<- (MonadState.get : Act Session)).files.clock).toList ++ ['\n'])
    return true
  | .run words inFolder asks => do
    let name := if inFolder then nameInFolder subject else subject.path
    let folder := if inFolder then some subject.place.dropLast else none
    if asks then
      if !(<- (asksFor words subject : Act Bool)) then return false
    return (<- (perform services folder (filled words name) : Act Nat)) = success
  | .gather number _ inFolder => do
    let name := if inFolder then nameInFolder subject else subject.path
    let folder := if inFolder then subject.place.dropLast else []
    modify fun state => { state with gathered := (number, folder, name) :: state.gathered }
    return true
  | .delete => delete subject
  | .prune => do
    modify ({ · with pruned := true })
    return true
  | .quit => do
    modify ({ · with ended := true })
    return true

def ask (services : Services) (now : Timestamp) (subject : FindSubject) :
    FindExpression -> Searching Bool
  | .test test => do return subject.satisfies (<- (MonadState.get : Act Session)).files now test
  | .action action => act services subject action
  | .not inside => return !(<- ask services now subject inside)
  | .both first second => do
    if <- ask services now subject first then
      if (<- get).ended then return true else ask services now subject second
    else return false
  | .either first second => do
    if <- ask services now subject first then return true else ask services now subject second
  | .list first second => do
    discard <| ask services now subject first
    ask services now subject second

def subject? (session : Session) (view : LinkView) (start path : String) (depth : Nat) :
    Except FileFault FindSubject := do
  let tree := session.files
  let follows := view = .always || (view = .named && depth = 0)
  let leads := pathOf path
  let own <- tree.locateName leads
  let named <- tree.entryAt leads own
  let reached : Option (Location × FileEntry) := match tree.locate leads with
    | .ok place => (tree.get? place).map (fun entry => (place, entry))
    | .error _ => none
  let (place, entry) := if follows then reached.getD (own, named) else (own, named)
  let other := if follows then some named else reached.map Prod.snd
  return {
    start, path, depth, place, entry, other
    number := (tree.number? place).getD 0
    links := tree.linkCount place }

def visit (services : Services) (request : FindRequest) (now : Timestamp) (start : String) :
    Nat -> Nat -> String -> Searching Unit
  | 0, _, _ => return ()
  | limit + 1, depth, path => do
    if (<- get).ended then return ()
    let session <- (MonadState.get : Act Session)
    let settings := request.settings
    match subject? session settings.view start path depth with
    | .error fault => faulty s!"{quoted path}: {wording fault}"
    | .ok subject =>
      let counts := settings.least <= depth
      modify ({ · with pruned := false })
      if counts && !settings.inward then discard <| ask services now subject request.expression
      let state <- get
      let enters := subject.entry.isFolder && settings.most.all (depth < ·) &&
        !state.ended && (settings.inward || !state.pruned)
      if enters then
        for name in (<- (MonadState.get : Act Session)).files.children subject.place do
          visit services request now start limit (depth + 1)
            (ListManner.within path (Text.toOctets name))
      if counts && settings.inward && !(<- get).ended then
        discard <| ask services now subject request.expression

def runGathered (services : Services) (expression : FindExpression) : Searching Unit := do
  for (number, words, inFolder) in expression.gathered do
    let own := (<- get).gathered.reverse.filter (·.1 == number)
    let folders := (own.map (·.2.1)).eraseDups
    for folder in folders do
      let names := (own.filter (·.2.1 == folder)).map (·.2.2)
      let place := if inFolder then some folder else none
      let status <- (perform services place (words ++ names) : Act Nat)
      if status ≠ success then modify ({ · with status := failure })

def openPlaces (names : List String) : ExceptT String Act (List (String × Nat)) := do
  names.mapM fun name => do
    match <- (openStream .writing name : Act (Except FileFault Nat)) with
    | .ok stream => return (name, stream)
    | .error fault => throw s!"{quoted name}: {wording fault}"

end Searching

def deepestVisit : Nat := 2000

def find : Program := fun services program arguments => do
  match <- FindRequest.read arguments with
  | .error fault => complain program fault
  | .ok request => match <- (Searching.openPlaces request.expression.places.eraseDups).run with
    | .error fault => complain program fault
    | .ok streams =>
      let now := (<- get).files.clock
      let expression :=
        if request.expression.acts then request.expression
        else .both request.expression (.action (.say '\n' none))
      let request := { request with expression }
      let work : Searching Unit := do
        for start in request.starts do .visit services request now start deepestVisit 0 start
        .runGathered services expression
      let (_, state) <- work.run { streams }
      state.streams.forM (close ·.2)
      return state.status

end BaseLanguage.Shell
