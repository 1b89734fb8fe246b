import BaseLanguage.Path
import BaseLanguage.Storage.Timestamp
import BaseLanguage.Text.Utf8
import Std.Data.ExtTreeMap

namespace BaseLanguage

/-!
# Trees of files

A tree holds files and folders at locations, which are rows of names from the root down.  Each has
the time of its last change.  The tree has a clock, which moves on with every change, so that later
changes have later times.

A path leads to a location step by step from the root or from the current folder.  Every step but
the last must lead to a folder; what the last one leads to may be missing.  A link leads to where
the path that it holds leads from the folder that the link lies in.

What stands at a location has a number, and a file may stand at several locations: whatever is
written at one of them is written at all.  A file that stands nowhere any more keeps its number, so
that whoever knows it can go on with the file.
-/

/-- A row of names, from the root down. -/
abbrev Location := List String

inductive Device where
  /-- Gives nothing, and takes everything. -/
  | nothing
  /-- Gives zeros, and takes everything. -/
  | zeros
  /-- Gives zeros, and has no room for anything. -/
  | full
  /-- Gives bytes without any rule. -/
  | noise
  /-- Cannot be used, as there is nobody at it. -/
  | terminal
  deriving Repr, DecidableEq

/-- Bytes are compared in one way, also where a library brings another. -/
local instance (priority := 2000) decideBytes : DecidableEq ByteArray :=
  ByteArray.instDecidableEq

/-- What may stand at a location. -/
inductive FileNode where
  /-- A file with its bytes. -/
  | file (content : ByteArray)
  | folder
  /-- A link with the path that it holds. -/
  | link (target : String)
  /-- A channel with a name. -/
  | queue (channel : Nat)
  | device (device : Device)
  deriving DecidableEq

/-- What stands at a location, with the time of its last change and its permissions. -/
structure FileEntry where
  node : FileNode
  modified : Timestamp
  permissions : Nat
  deriving DecidableEq

/-- Why a file or a folder cannot be used. -/
inductive FileFault where
  | missing
  | notFolder
  | isFolder
  | alreadyThere
  /-- A name that is too long or holds a zero character. -/
  | badName
  /-- Bytes that are no text. -/
  | notText
  /-- More links than a path may go through. -/
  | tooManyLinks
  /-- A stream that is not open in the way in which it is used. -/
  | notOpen
  /-- A device at which there is nobody. -/
  | noDevice
  /-- A device without room. -/
  | noRoom
  deriving Repr, DecidableEq

/-- Files and folders by location. -/
structure FileTree where
  /-- The number of what stands at each location. -/
  numbers : Std.ExtTreeMap Location Nat
  /-- What has each number. -/
  nodes : Std.ExtTreeMap Nat FileEntry
  /-- A number that nothing has, and so do all behind it. -/
  nextNumber : Nat
  clock : Timestamp
  current : Location
  /-- The permissions that nothing new gets. -/
  mask : Nat := 0o022

/-- An operation on a tree.  What it changed stays when it fails. -/
abbrev Filing := ExceptT FileFault (StateM FileTree)

namespace FileTree

/-! ## Looking -/

def number? (tree : FileTree) (place : Location) : Option Nat :=
  tree.numbers[place]?

def node? (tree : FileTree) (number : Nat) : Option FileEntry :=
  tree.nodes[number]?

def get? (tree : FileTree) (place : Location) : Option FileEntry :=
  (tree.number? place).bind tree.node?

def isFolder (tree : FileTree) (place : Location) : Bool :=
  match tree.get? place with
  | some entry => entry.node = .folder
  | none => false

/-- The path that a link at a location holds. -/
def linkAt? (tree : FileTree) (place : Location) : Option Path :=
  match tree.get? place with
  | some ⟨.link target, _, _⟩ => some ⟨target⟩
  | _ => none

def all (tree : FileTree) : List (Location × FileEntry) :=
  tree.numbers.toList.filterMap fun (place, number) =>
    (tree.node? number).map (fun entry => (place, entry))

/-- Whether a location is another or lies below it. -/
def isWithin (outer inner : Location) : Bool :=
  outer.isPrefixOf inner

/-- The names of what lies in a folder. -/
def children (tree : FileTree) (folder : Location) : List String :=
  tree.numbers.keys.filterMap fun place =>
    if place.length = folder.length + 1 && isWithin folder place then place.getLast? else none

/-- Everything below a location, each with the names that lead there. -/
def below (tree : FileTree) (folder : Location) : List (Location × FileEntry) :=
  tree.all.filterMap fun (place, entry) =>
    if isWithin folder place && place != folder then some (place.drop folder.length, entry)
    else none

/-- The number of locations that a file stands at, or the number of names of a folder: its own, the
one inside it, and the one inside each folder in it. -/
def linkCount (tree : FileTree) (place : Location) : Nat :=
  match tree.number? place with
  | none => 0
  | some number =>
    if tree.isFolder place then
      2 + ((tree.children place).filter (fun name => tree.isFolder (place ++ [name]))).length
    else (tree.numbers.toList.filter (fun entry => entry.2 == number)).length

/-! ## Paths -/

/-- The greatest length of a name in bytes. -/
def longestName : Nat :=
  255

/-- The greatest length of a path in bytes. -/
def longestPath : Nat :=
  4095

/-- The greatest number of links that a path may go through. -/
def mostLinks : Nat :=
  40

def step (tree : FileTree) (folder : Location) (name : String) : Except FileFault Location :=
  if !tree.isFolder folder then
    .error (if (tree.get? folder).isSome then .notFolder else .missing)
  else if name = "." then .ok folder
  else if name = ".." then .ok folder.dropLast
  else if longestName < name.utf8ByteSize then .error .badName
  else .ok (folder ++ [name])

def steps (path : Path) : List String :=
  ((Text.pieces '/' path.text.toList).filter (fun name => !name.isEmpty)).map String.ofList

/-- Whether a path ends in a slash, and so can only mean a folder. -/
def meansFolder (path : Path) : Bool :=
  path.text.toList.getLast? == some '/'

/-- Where names lead from a folder before a link is followed. -/
inductive Reach where
  /-- All names lead to this location. -/
  | place (place : Location)
  /-- The names go through a link in a folder, and on with those behind it. -/
  | link (folder : Location) (target : Path) (rest : List String)
  deriving DecidableEq

/-- How far names lead from a folder without following a link.  A link that the last name leads to
is followed only if this is asked for. -/
def reach (tree : FileTree) (follows : Bool) :
    Location -> List String -> Except FileFault Reach
  | folder, [] => .ok (.place folder)
  | folder, name :: rest => do
    let place ← tree.step folder name
    match tree.linkAt? place with
    | none => reach tree follows place rest
    | some target =>
      if rest.isEmpty && !follows then return .place place
      else return .link folder target rest

/-- Where names lead from a folder if so many links may be followed. -/
def walk (tree : FileTree) (follows : Bool) :
    Nat -> Location -> List String -> Except FileFault Location
  | 0, folder, names => do
    match ← tree.reach follows folder names with
    | .place place => return place
    | .link _ _ _ => throw .tooManyLinks
  | links + 1, folder, names => do
    match ← tree.reach follows folder names with
    | .place place => return place
    | .link folder target rest =>
      walk tree follows links (if target.isAbsolute then [] else folder)
        (steps target ++ rest)

/-- The location that a path leads to, if links at its end are followed or not. -/
def locateWith (tree : FileTree) (follows : Bool) (path : Path) : Except FileFault Location :=
  if path.text.isEmpty then .error .missing
  else if path.text.toList.contains (Char.ofNat 0) || longestPath < path.text.utf8ByteSize then
    .error .badName
  else
    tree.walk follows mostLinks (if path.isAbsolute then [] else tree.current) (steps path)

/-- The location that a path leads to. -/
def locate (tree : FileTree) (path : Path) : Except FileFault Location :=
  tree.locateWith true path

/-- The location that a path names: a link at its end is not followed. -/
def locateName (tree : FileTree) (path : Path) : Except FileFault Location :=
  tree.locateWith (meansFolder path) path

/-- What stands at the location of a path, which can only be a folder behind a slash. -/
def entryAt (tree : FileTree) (path : Path) (place : Location) : Except FileFault FileEntry := do
  match tree.get? place with
  | none => throw .missing
  | some entry =>
    if meansFolder path && entry.node != .folder then throw .notFolder else return entry

def find (tree : FileTree) (path : Path) : Except FileFault FileEntry := do
  tree.entryAt path (← tree.locate path)

/-- What a path names, which may be a link. -/
def findName (tree : FileTree) (path : Path) : Except FileFault FileEntry := do
  tree.entryAt path (← tree.locateName path)

def exists? (tree : FileTree) (path : Path) : Bool :=
  (tree.find path).isOk

def hasFolder (tree : FileTree) (path : Path) : Bool :=
  match tree.find path with
  | .ok entry => entry.node = .folder
  | .error _ => false

/-- The time of the last change of what a path leads to. -/
def modified (tree : FileTree) (path : Path) : Except FileFault Timestamp := do
  return (← tree.find path).modified

/-- The bytes of a file. -/
def read (tree : FileTree) (path : Path) : Except FileFault ByteArray := do
  match (← tree.find path).node with
  | .file content => return content
  | .folder => throw .isFolder
  | _ => return ByteArray.empty

def readText (tree : FileTree) (path : Path) : Except FileFault String := do
  match Text.ofBytes? (← tree.read path) with
  | some text => return text
  | none => throw .notText

/-! ## Changes -/

def put (tree : FileTree) (number : Nat) (entry : FileEntry) : FileTree :=
  { tree with nodes := tree.nodes.insert number entry }

/-- The tree with something else under a number, changed now. -/
def store (tree : FileTree) (number : Nat) (node : FileNode) : FileTree :=
  let clock := tree.clock
  { tree with
    nodes := tree.nodes.modify number (fun entry => { entry with node, modified := clock })
    clock := clock.next }

/-- Bytes with others in the place of those from an offset on.  What is missing in front of it is
filled up with zeros. -/
def overlay (content : ByteArray) (offset : Nat) (bytes : ByteArray) : ByteArray :=
  if offset = content.size then content ++ bytes
  else
    let front := content.extract 0 offset
    let gap : ByteArray := ⟨Array.replicate (offset - content.size) 0⟩
    front ++ gap ++ bytes ++ content.extract (offset + bytes.size) content.size

/-- The tree with bytes written into the file with a number, from an offset on. -/
def writeAt (tree : FileTree) (number offset : Nat) (bytes : ByteArray) : FileTree :=
  let clock := tree.clock
  { tree with
    nodes := tree.nodes.modify number fun entry =>
      match entry with
      | ⟨.file content, _, permissions⟩ =>
        ⟨.file (overlay content offset bytes), clock, permissions⟩
      | entry => entry
    clock := clock.next }

/-- The tree with a folder changed now. -/
def touch (tree : FileTree) (place : Location) : FileTree :=
  match tree.number? place with
  | some number =>
    let clock := tree.clock
    { tree with
      nodes := tree.nodes.modify number (fun entry => { entry with modified := clock }) }
  | none => tree

/-- The permissions of something new. -/
def newPermissions (tree : FileTree) (node : FileNode) : Nat :=
  let given (most : Nat) : Nat := most - (most &&& tree.mask)
  match node with
  | .folder => given 0o777
  | .link _ => 0o777
  | _ => given 0o666

/-- The tree with something new at a location; its folder changes with it. -/
def create (tree : FileTree) (place : Location) (node : FileNode) : FileTree :=
  let permissions := tree.newPermissions node
  let tree := tree.touch place.dropLast
  { tree with
    numbers := tree.numbers.insert place tree.nextNumber
    nodes := tree.nodes.insert tree.nextNumber ⟨node, tree.clock, permissions⟩
    nextNumber := tree.nextNumber + 1
    clock := tree.clock.next }

/-- Writes a file, which may be there already. -/
def write (path : Path) (content : ByteArray) : Filing Unit := do
  let tree ← get
  let place ← liftM (tree.locate path)
  match tree.number? place, tree.get? place with
  | some number, some entry =>
    match entry.node with
    | .folder => throw .isFolder
    | .file _ =>
      if meansFolder path then throw .notFolder
      set (tree.store number (.file content))
    | _ => return ()
  | _, _ =>
    if meansFolder path then throw .isFolder
    set (tree.create place (.file content))

/-- Puts something new where a path leads. -/
def createAt (path : Path) (node : FileNode) : Filing Unit := do
  let tree ← get
  let place ← liftM (tree.locateName path)
  match tree.get? place with
  | some _ => throw .alreadyThere
  | none =>
    if meansFolder path && node != .folder then throw .missing
    set (tree.create place node)

/-- Creates a folder in a folder that is there. -/
def createFolder (path : Path) : Filing Unit :=
  createAt path .folder

/-- Creates a folder unless it is there, having made sure of those it lies in.  The bound is at
least the number of these. -/
def createFoldersWithin : Nat -> Path -> Filing Unit
  | 0, _ => throw .missing
  | bound + 1, path => do
    if path.components.isEmpty then return ()
    let accept (fault : FileFault) : Filing Unit := do
      if (← get).hasFolder path then return () else throw fault
    tryCatch (createFolder path) fun fault => do
      if fault = .missing then
        match path.parent? with
        | none => throw .missing
        | some parent =>
          createFoldersWithin bound parent
          tryCatch (createFolder path) accept
      else accept fault

def createFolders (path : Path) : Filing Unit :=
  createFoldersWithin (path.text.length + 1) path

def changeEntry (path : Path) (change : FileEntry -> FileEntry) : Filing Unit := do
  let tree ← get
  let place ← liftM (tree.locate path)
  match tree.number? place, tree.get? place with
  | some number, some entry => set (tree.put number (change entry))
  | _, _ => throw .missing

/-- Sets the time of the last change of what a path leads to. -/
def setModified (path : Path) (time : Timestamp) : Filing Unit :=
  changeEntry path (fun entry => { entry with modified := time })

/-- Sets the permissions of what a path leads to. -/
def setPermissions (path : Path) (permissions : Nat) : Filing Unit :=
  changeEntry path (fun entry => { entry with permissions })

/-- Removes a file, or a folder with all that lies in it. -/
def remove (path : Path) : Filing Unit := do
  let tree ← get
  let place ← liftM (tree.locateName path)
  match tree.get? place with
  | none => throw .missing
  | some _ =>
    let tree := tree.touch place.dropLast
    set { tree with
      numbers := tree.numbers.filter (fun other _ => !isWithin place other)
      clock := tree.clock.next }

/-- Gives a file a second location. -/
def link (source target : Path) : Filing Unit := do
  let tree ← get
  let first ← liftM (tree.locateName source)
  let second ← liftM (tree.locateName target)
  match tree.number? first, tree.get? second with
  | none, _ => throw .missing
  | some number, there =>
    if tree.isFolder first then throw .isFolder
    if there.isSome then throw .alreadyThere
    if !tree.isFolder second.dropLast then throw .missing
    let tree := tree.touch second.dropLast
    set { tree with
      numbers := tree.numbers.insert second number
      clock := tree.clock.next }

/-- Where a location lies after what lies at or below another one has moved. -/
def movedTo (old new place : Location) : Location :=
  if isWithin old place then new ++ place.drop old.length else place

/-- Moves a file or a folder, with all that lies in it, to a location that is not below it.  A file
that is there gives way. -/
def move (source target : Path) : Filing Unit := do
  let tree ← get
  let old ← liftM (tree.locateName source)
  let new ← liftM (tree.locateName target)
  if (tree.get? old).isNone then throw .missing
  if !tree.isFolder new.dropLast then throw .missing
  let stays (place : Location) : Bool := !isWithin new place || isWithin old place
  let tree := (tree.touch old.dropLast).touch new.dropLast
  let kept := tree.numbers.filter (fun place _ => stays place)
  set { tree with
    numbers := kept.toList.foldl
      (fun numbers (place, number) => numbers.insert (movedTo old new place) number) ∅
    clock := tree.clock.next }

/-- A tree of empty folders: those that a location goes through, which is the current one. -/
def rooted (place : Location) (clock : Timestamp) : FileTree where
  numbers :=
    (List.range (place.length + 1)).foldl
      (fun numbers count => numbers.insert (place.take count) count) ∅
  nodes :=
    (List.range (place.length + 1)).foldl
      (fun nodes count => nodes.insert count ⟨.folder, clock, 0o755⟩) ∅
  nextNumber := place.length + 1
  clock := clock.next
  current := place

end FileTree
end BaseLanguage
