import BaseLanguage.Shell.Utility.Extraction.Statements
import BaseLanguage.Text.OrderedPattern.Reader

namespace BaseLanguage.Shell.Extraction

open Text

/-!
# The state of a program that takes texts apart

Values stand in cells; rows and tables hold cells, so that two names may mean the same cell.  Names
lead to the numbers of cells, rows and tables.
-/

structure Handle where
  name : String
  stream : Option Nat := none
  rest : Chars := []
  ended : Bool := false
  held : List String := []
  size : Nat := 0
  process : Option Nat := none
  memory : Option Nat := none
  lines : Nat := 0
  writes : Bool := false
  isOpen : Bool := true
  isWide : Bool := false
  entries : List String := []
  deriving Inhabited

abbrev Scope := List (Nat × Nat)

inductive Code where
  | written (name : String) (body : List Statement) (scope : Scope)
  | given (name : String)
  | fixed (values : List Value)

inductive Wish where
  | nothing
  | one
  | all
  deriving DecidableEq

inductive Interrupt where
  | leave (label : Option String)
  | again (label : Option String)
  | anew (label : Option String)
  | giveBack (values : List Value)
  | exit (status : Nat)
  | fault (value : Value)

inductive Saved where
  | name (key : String) (address : Option Nat)
  | cell (address : Nat) (value : Value)
  | entry (table : Nat) (key : String) (address : Option Nat)

structure LastMatch where
  searched : Searched
  found : OrderedFound
  names : List (String × Nat)
  groups : Nat

structure Frame where
  name : String
  package : String
  line : Nat
  wish : Wish
  cells : Array Nat := #[]

structure StoredPattern where
  text : String
  flags : String
  deriving Inhabited

structure State where
  cells : Array Value := #[]
  rows : Array (Array Nat) := #[]
  tables : Array (Ledger String Nat) := #[]
  codes : Array Code := #[]
  handles : Array Handle := #[]
  patterns : Array StoredPattern := #[]
  packages : Std.HashMap (Kind × Nat) String := ∅
  globals : Std.HashMap String Nat := ∅
  scope : Scope := []
  firsts : Std.HashMap Nat (Nat × Bool) := ∅
  stays : Std.HashMap Nat Nat := ∅
  saved : List Saved := []
  file : String := "-e"
  line : Nat := 1
  package : String := "main"
  isStrict : Bool := false
  frames : List Frame := []
  wish : Wish := .nothing
  lastMatch : Option LastMatch := none
  lastRead : Option Nat := none
  selected : Nat := 1
  seed : Nat := 13070
  hasOwnOperators : Bool := false
  failure : Nat := 0
  childStatus : Int := 0
  steps : Std.HashMap Nat (List String) := ∅
  places : Std.HashMap Nat (Nat × Bool) := ∅
  ranges : List (Nat × Nat) := []
  known : Std.HashMap String NamedPattern := ∅
  isFresh : Bool := true
  names : Nat := 0
  rangeCount : Nat := 0
  inPlace : Option String := none
  startTime : Int := 0
  deferred : List (List Statement) := []
  trials : Nat := 0

abbrev Machine := ExceptT Interrupt (StateT State Act)

/-! ## Faults -/

def State.told (state : State) : String :=
  let behind := match state.lastRead.bind (state.handles[·]?) with
    | some handle =>
      if handle.lines = 0 then ""
      else
        let name := if handle.name = "ARGV" then "" else handle.name
        s!", <{name}> line {numberText handle.lines}"
    | none => ""
  s!" at {state.file} line {numberText state.line}{behind}.\n"

def stop (message : String) : Machine α := do
  let told := (<- get).told
  throw (.fault (.text (message ++ told)))

/-! ## Cells, rows and tables -/

def newCell (value : Value) : Machine Nat :=
  modifyGet fun state => (state.cells.size, { state with cells := state.cells.push value })

def newRow (items : Array Nat) : Machine Nat :=
  modifyGet fun state => (state.rows.size, { state with rows := state.rows.push items })

def newTable (entries : Ledger String Nat) : Machine Nat :=
  modifyGet fun state => (state.tables.size, { state with tables := state.tables.push entries })

def newCode (code : Code) : Machine Nat :=
  modifyGet fun state => (state.codes.size, { state with codes := state.codes.push code })

def newHandle (handle : Handle) : Machine Nat :=
  modifyGet fun state => (state.handles.size, { state with handles := state.handles.push handle })

def cellAt (address : Nat) : Machine Value := do return (<- get).cells.getD address .undefined

def setCell (address : Nat) (value : Value) : Machine Unit :=
  modify fun state => { state with
    cells := state.cells.set! address value
    places := if state.places.isEmpty then state.places else state.places.erase address }

def rowAt (address : Nat) : Machine (Array Nat) := do return (<- get).rows.getD address #[]

def changeRow (address : Nat) (change : Array Nat -> Array Nat) : Machine Unit :=
  modify fun state => { state with rows := state.rows.modify address change }

def tableAt (address : Nat) : Machine (Ledger String Nat) := do
  return (<- get).tables.getD address {}

def changeTable (address : Nat) (change : Ledger String Nat -> Ledger String Nat) : Machine Unit :=
  modify fun state => { state with tables := state.tables.modify address change }

def rowValues (address : Nat) : Machine (List Value) := do
  let state <- get
  return (state.rows.getD address #[]).toList.map (state.cells.getD · .undefined)

def tablePairs (address : Nat) : Machine (List (String × Value)) := do
  let state <- get
  return (state.tables.getD address {}).toList.map fun (key, cell) =>
    (key, state.cells.getD cell .undefined)

def newCells (values : List Value) : Machine (Array Nat) :=
  modifyGet fun state =>
    let first := state.cells.size
    let cells := values.foldl Array.push state.cells
    ((Array.range (cells.size - first)).map (first + ·), { state with cells })

def fillRow (address : Nat) (values : List Value) : Machine Unit := do
  let items <- newCells values
  changeRow address (fun _ => items)

def rowOfValues (values : List Value) : Machine Value := do
  return .reference .row (<- newRow (<- newCells values))

def placeInRow (size : Nat) (index : Int) : Option Nat :=
  if 0 <= index then some index.toNat
  else if 0 <= (size : Int) + index then some ((size : Int) + index).toNat
  else none

def itemCell (address : Nat) (index : Int) : Machine Nat := do
  let row <- rowAt address
  match placeInRow row.size index with
  | none => stop s!"Modification of non-creatable array value attempted, subscript {toString index}"
  | some place =>
    if place < row.size then return row.getD place 0
    else
      let more <- newCells (List.replicate (place + 1 - row.size) .undefined)
      changeRow address (· ++ more)
      return more.getD (more.size - 1) 0

def entryCell (address : Nat) (key : String) : Machine Nat := do
  match (<- tableAt address).get? key with
  | some cell => return cell
  | none =>
    let cell <- newCell .undefined
    changeTable address (·.insert key cell)
    return cell

/-! ## Names -/

def newThing (kind : Kind) : Machine Nat := do
  match kind with
  | .row => newRow #[]
  | .table => newTable {}
  | .code => newCode (.given "")
  | .stream => newHandle { name := "", isOpen := false }
  | .cell => newCell .undefined
  | .pattern => newCell .undefined

def keyOf (kind : Kind) (name : String) : String := .singleton kind.sign ++ name

def sharedAddress (kind : Kind) (name : String) : Machine Nat := do
  let key := keyOf kind name
  match (<- get).globals[key]? with
  | some address => return address
  | none =>
    let address <- newThing kind
    if kind = .stream then
      let last := ((name.splitOn "::").getLast?).getD name
      modify fun state => { state with
        handles := state.handles.modify address fun handle => { handle with name := last } }
    modify fun state => { state with globals := state.globals.insert key address }
    return address

def addressOf (kind : Kind) (holder : Holder) : Machine Nat := do
  match holder with
  | .shared name => sharedAddress kind name
  | .own number =>
    let state <- get
    match state.scope.lookup number with
    | some address => return address
    | none => match state.firsts[number]? with
      | some (address, _) => return address
      | none =>
        let address <- newThing kind
        modify fun state => { state with firsts := state.firsts.insert number (address, false) }
        return address

def declare (stays : Bool) (kind : Kind) (number : Nat) : Machine Nat := do
  let state <- get
  if stays then
    let address <-
      match state.stays[number]? with
      | some address => pure address
      | none =>
        let address <- newThing kind
        modify fun state => { state with stays := state.stays.insert number address }
        pure address
    modify fun state => { state with scope := (number, address) :: state.scope }
    return address
  else
    let address <-
      match state.firsts[number]? with
      | some (address, false) => pure address
      | _ => newThing kind
    modify fun state => { state with
      firsts :=
        if state.firsts.contains number && (state.firsts[number]?).any (·.2) then state.firsts
        else state.firsts.insert number (address, true)
      scope := (number, address) :: state.scope }
    return address

def localizeName (key : String) (address : Nat) : Machine Unit :=
  modify fun state => { state with
    saved := .name key state.globals[key]? :: state.saved
    globals := state.globals.insert key address }

def restore (count : Nat) : Machine Unit :=
  modify fun state =>
    let number := state.saved.length - count
    let state := (state.saved.take number).foldl putBack state
    { state with saved := state.saved.drop number }
where
  putBack (state : State) : Saved -> State
    | .name key (some address) => { state with globals := state.globals.insert key address }
    | .name key none => { state with globals := state.globals.erase key }
    | .cell address value => { state with cells := state.cells.set! address value }
    | .entry table key (some cell) =>
      { state with tables := state.tables.modify table (·.insert key cell) }
    | .entry table key none => { state with tables := state.tables.modify table (·.erase key) }

def enclosed (work : Machine α) : Machine α := do
  let before <- get
  let count := before.saved.length
  let scope := before.scope
  let leave : Machine Unit := do
    restore count
    modify ({ · with scope })
  let result <- tryCatch work fun interrupt => do
    leave
    throw interrupt
  leave
  return result

def sharedValue (name : String) : Machine Value := do
  match (<- get).globals[keyOf .cell name]? with
  | some address => cellAt address
  | none => return .undefined

def setShared (name : String) (value : Value) : Machine Unit := do
  setCell (<- sharedAddress .cell name) value

/-! ## Values -/

def placeText (address : Nat) : String := "0x" ++ hexText (94000000000000 + 24 * address)

def StoredPattern.told (pattern : StoredPattern) : String :=
  let flags := String.ofList (['m', 's', 'i', 'x', 'n'].filter (pattern.flags.contains ·))
  s!"(?^{flags}:{pattern.text})"

def textOf (value : Value) : Machine String := do
  match value with
  | .undefined => return ""
  | .whole value => return .ofList (signedDecimal value)
  | .real value => return (Number.real value).text
  | .text octets => return octets
  | .fault _ message => return message
  | .reference kind address =>
    let state <- get
    let package := state.packages[(kind, address)]?
    match kind, package with
    | .pattern, none => return (state.patterns.getD address default).told
    | .stream, none =>
      let name := (state.handles.getD address default).name
      return if name.startsWith "$" then s!"GLOB({placeText address})" else s!"*main::{name}"
    | kind, package =>
      let front := (package.map (fun package => s!"{package}=")).getD ""
      let name := match kind with
        | .cell => match state.cells.getD address .undefined with
          | .reference _ _ => "REF"
          | _ => kind.name
        | kind => kind.name
      return s!"{front}{name}({placeText address})"

def isTrue (value : Value) : Machine Bool := do
  match value with
  | .undefined => return false
  | .whole value => return value ≠ 0
  | .real value => return value != 0
  | .text octets => return !(octets.isEmpty || octets = "0")
  | .fault number _ => return number ≠ 0
  | .reference _ _ => return true

def failureText : Nat -> String
  | 0 => ""
  | 1 => "Operation not permitted"
  | 2 => "No such file or directory"
  | 3 => "No such process"
  | 4 => "Interrupted system call"
  | 5 => "Input/output error"
  | 6 => "No such device or address"
  | 9 => "Bad file descriptor"
  | 10 => "No child processes"
  | 11 => "Resource temporarily unavailable"
  | 12 => "Cannot allocate memory"
  | 13 => "Permission denied"
  | 17 => "File exists"
  | 18 => "Invalid cross-device link"
  | 20 => "Not a directory"
  | 21 => "Is a directory"
  | 22 => "Invalid argument"
  | 25 => "Inappropriate ioctl for device"
  | 26 => "Text file busy"
  | 28 => "No space left on device"
  | 29 => "Illegal seek"
  | 32 => "Broken pipe"
  | 33 => "Numerical argument out of domain"
  | 34 => "Numerical result out of range"
  | 39 => "Directory not empty"
  | 40 => "Too many levels of symbolic links"
  | number => s!"Unknown error {numberText number}"

def faultNumber : FileFault -> Nat
  | .missing => 2
  | .notFolder => 20
  | .isFolder => 21
  | .alreadyThere => 17
  | .notOpen => 9
  | .noDevice => 6
  | .noRoom => 28
  | .tooManyLinks => 40
  | _ => 22

def setFailure (number : Nat) : Machine Unit := modify ({ · with failure := number })

end BaseLanguage.Shell.Extraction
