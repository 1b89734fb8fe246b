import BaseLanguage.Shell.Utility.Extraction.Assigning

namespace BaseLanguage.Shell.Extraction

open Text

/-!
# Functions that are always there

Most functions look at the values of their arguments.  Some look at the places that their arguments
stand for, or at something that goes on outside.
-/

section

variable (engine : Engine)

/-! ## Places -/

/-- The row that a function changes: its argument, or the arguments of the present function, or those of
the program. -/
def usualRow (arguments : List Expression) : Machine Nat := do
  match arguments with
  | place :: _ => container engine .row true place
  | [] =>
    if (<- get).frames.isEmpty then sharedAddress .row "main::ARGV"
    else sharedAddress .row "main::_"

def changedCells (arguments : List Expression) : Machine (List Nat) := do
  match arguments with
  | [] => return [<- engine.place usualPlace]
  | [.assign place value] =>
    discard <| engine.values (.assign place value)
    engine.cells (assignedPlaces place)
  | [.list [.assign place value]] =>
    discard <| engine.values (.assign place value)
    engine.cells (assignedPlaces place)
  | arguments => return (<- arguments.mapM engine.cells).flatten

/-- Removes the separator of records from the end of cells; the result is how much was removed. -/
def cutRecordEnds (cells : List Nat) : Machine Nat := do
  match <- sharedValue "main::/" with
  | .undefined => return 0
  | ending =>
    let ending <- textOf ending
    let counts <- cells.mapM fun cell => do
      let value <- cellAt cell
      match value with
      | .undefined => return 0
      | value =>
        let text <- textOf value
        if ending.isEmpty then
          let kept := dropTrailing (· == '\n') text.toList
          setCell cell (.text (.ofList kept))
          return text.length - kept.length
        else if text.endsWith ending then
          setCell cell (.text (.ofList (text.toList.take (text.length - ending.length))))
          return ending.length
        else return 0
    return counts.foldl (· + ·) 0

def cutLastCharacters (cells : List Nat) : Machine Value := do
  let removed <- cells.mapM fun cell => do
    let text := (<- textOf (<- cellAt cell)).toList
    setCell cell (.text (.ofList text.dropLast))
    return .text (.ofList (text.getLast?).toList)
  return removed.getLastD (.text "")

def isThere (expression : Expression) : Machine Bool := do
  match expression with
  | .entry table key =>
    let address <- container engine .table true table
    return (<- tableAt address).contains (<- keyIn engine key)
  | .item row index =>
    let address <- container engine .row true row
    let size := (<- rowAt address).size
    return (placeInRow size (<- intIn engine index)).any (· < size)
  | expression => return (<- engine.value expression).isDefined

def isDefinedIn (expression : Expression) : Machine Bool := do
  match expression with
  | .named .code (.shared name) => return (<- codeNamed? name).isSome
  | .named .row holder => return !(<- rowAt (<- addressOf .row holder)).isEmpty
  | .named .table holder => return (<- tableAt (<- addressOf .table holder)).size ≠ 0
  | .call (.named .code (.shared name)) none => return (<- codeNamed? name).isSome
  | expression => return (<- engine.value expression).isDefined

def removeElement (expression : Expression) : Machine (List Value) := do
  match expression with
  | .entry table key => removeKey (<- container engine .table true table) (<- keyIn engine key)
  | .entries table keys =>
    let address <- container engine .table true table
    let found <- (<- engine.values keys).mapM fun key => do removeKey address (<- textBy engine key)
    return found.flatten
  | .item row index =>
    let address <- container engine .row true row
    let items <- rowAt address
    match placeInRow items.size (<- intIn engine index) with
    | some place => match items[place]? with
      | some cell =>
        let value <- cellAt cell
        if place + 1 = items.size then changeRow address Array.pop
        else
          let fresh <- newCell .undefined
          changeRow address (·.set! place fresh)
        return [value]
      | none => return [.undefined]
    | none => return [.undefined]
  | .localized inside => do
    discard <| localize engine inside
    match inside with
    | .entry table key => removeKey (<- container engine .table true table) (<- keyIn engine key)
    | _ => return [.undefined]
  | _ => return [.undefined]
where
  removeKey (address : Nat) (key : String) : Machine (List Value) := do
    let some cell := (<- tableAt address).get? key | return [.undefined]
    changeTable address (·.erase key)
    return [<- cellAt cell]

def clear (arguments : List Expression) : Machine Unit := do
  match arguments with
  | [] => return ()
  | .named .row holder :: _ => fillRow (<- addressOf .row holder) []
  | .named .table holder :: _ => changeTable (<- addressOf .table holder) (fun _ => {})
  | .followed .row reference :: _ => fillRow (<- follow engine .row reference true) []
  | .followed .table reference :: _ =>
    changeTable (<- follow engine .table reference true) (fun _ => {})
  | .call (.named .code (.shared name)) none :: _ =>
    modify fun state => { state with globals := state.globals.erase s!"&{name}" }
  | .declared stays _ ((kind, number) :: _) :: _ => discard <| declare stays kind number
  | place :: _ => store engine place .undefined

def cutRow (arguments : List Expression) (wish : Wish) : Machine (List Value) := do
  match arguments with
  | [] => return []
  | place :: rest =>
    let address <- container engine .row true place
    let size := (<- rowAt address).size
    let offset <- match rest with
      | offset :: _ => intIn engine offset
      | [] => pure 0
    let length <- match rest.drop 1 with
      | length :: _ => do
        let value <- engine.value length
        pure (if value.isDefined then some value.int else none)
      | [] => pure none
    let new <- (rest.drop 2).mapM engine.values
    let start := (max 0 (min (if offset < 0 then (size : Int) + offset else offset) size)).toNat
    let count := match length with
      | none => size - start
      | some length =>
        if length < 0 then ((size : Int) + length - start).toNat
        else min length.toNat (size - start)
    let cells <- newCells new.flatten
    let removed := (<- rowAt address).extract start (start + count)
    changeRow address fun row =>
      row.extract 0 start ++ cells ++ row.extract (start + count) row.size
    let values <- removed.toList.mapM cellAt
    return if wish = .one then [values.getLastD .undefined] else values

/-! ## Tables -/

def keysOf (place : Expression) : Machine (List Value) := do
  match <- rowOrTable place with
  | (true, address) =>
    return (List.range (<- rowAt address).size).map fun (index : Nat) => .whole index
  | (false, address) =>
    modify fun state => { state with steps := state.steps.erase address }
    return (<- tableAt address).keys.map .text
where
  rowOrTable (place : Expression) : Machine (Bool × Nat) := do
    match place with
    | .named .row _ => return (true, <- container engine .row true place)
    | .followed .row _ => return (true, <- container engine .row true place)
    | .list [inside] => match inside with
      | .named .row _ => return (true, <- container engine .row true inside)
      | inside => return (false, <- container engine .table true inside)
    | place => return (false, <- container engine .table true place)

def valuesOf (place : Expression) : Machine (List Value) := do
  match place with
  | .named .row _ => rowValues (<- container engine .row true place)
  | .followed .row _ => rowValues (<- container engine .row true place)
  | place => return (<- tablePairs (<- container engine .table true place)).map Prod.snd

def nextPair (place : Expression) (wish : Wish) : Machine (List Value) := do
  match place with
  | .named .row _ => nextOfRow (<- container engine .row true place)
  | .followed .row _ => nextOfRow (<- container engine .row true place)
  | place => do
    let address <- container engine .table true place
    let table <- tableAt address
    let keys := ((<- get).steps[address]?).getD table.keys
    match keys with
    | [] =>
      modify fun state => { state with steps := state.steps.erase address }
      return if wish = .one then [.undefined] else []
    | key :: rest =>
      modify fun state => { state with steps := state.steps.insert address rest }
      let value <- match table.get? key with
        | some cell => cellAt cell
        | none => pure .undefined
      return if wish = .one then [.text key] else [.text key, value]
where
  nextOfRow (address : Nat) : Machine (List Value) := do
    let items <- rowAt address
    let mark := 1000000000 + address
    let place := (((<- get).steps[mark]?).getD []).length
    match items[place]? with
    | none =>
      modify fun state => { state with steps := state.steps.erase mark }
      return []
    | some cell =>
      modify fun state => { state with
        steps := state.steps.insert mark (List.replicate (place + 1) "") }
      return [.whole place, <- cellAt cell]

/-! ## Handles -/

def handleOf? (value : Value) : Machine (Option Nat) := do
  match value with
  | .reference .stream address => return some address
  | .reference .cell address => match <- cellAt address with
    | .reference .stream address => return some address
    | _ => return none
  | .reference .table address => match (<- tableAt address).get? "(handle" with
    | some cell => match <- cellAt cell with
      | .reference .stream address => return some address
      | _ => return none
    | none => return none
  | value =>
    let name <- textOf value
    let name := if name.startsWith "*" then .ofList (name.toList.drop 1) else name
    let state <- get
    let whole :=
      if Reading.commonNames.contains name then s!"main::{name}"
      else Reading.wholeName state.package name
    return state.globals[s!"*{whole}"]?

def handleFor (place : Expression) : Machine Nat := do
  let fresh : Machine Nat := newHandle { name := "$fh", isOpen := false }
  match place with
  | .constant value =>
    let name <- textOf value
    sharedAddress .stream (Reading.wholeName (<- get).package name)
  | place =>
    if isPlace place then
      let cell <- engine.place place
      match <- cellAt cell with
      | .undefined =>
        let handle <- fresh
        setCell cell (.reference .stream handle)
        return handle
      | value => match <- handleOf? value with
        | some handle => return handle
        | none => do
          let name <- textOf value
          sharedAddress .stream (Reading.wholeName (<- get).package name)
    else match <- handleOf? (<- engine.value place) with
      | some handle => return handle
      | none => fresh

def argumentHandle? (arguments : List Expression) : Machine (Option Nat) := do
  match arguments with
  | place :: _ => handleOf? (<- engine.value place)
  | [] => return none

def openHandle (arguments : List Expression) : Machine Bool := do
  match arguments with
  | [] => return false
  | place :: rest =>
    let handle <- handleFor engine place
    let opened <-
      match rest with
      | [] => return false
      | [single] => do
        let text := (<- textIn engine single)
        let trimmed := (text.toList.dropWhile isSpace).reverse.dropWhile isSpace
        match trimmed with
        | '|' :: command =>
          openWay engine.services handle (.command true) false false [.ofList command.reverse]
        | trimmed =>
          let text := .ofList trimmed.reverse
          match trimmed.reverse with
          | '|' :: command =>
            openWay engine.services handle (.command false) true false [.ofList command]
          | _ => match wayOf text with
            | some (way, writes, behind) =>
              let name := .ofList (behind.toList.dropWhile isSpace)
              openWay engine.services handle way writes false [name]
            | none => openWay engine.services handle (.file .reading) false false [text]
      | mode :: target => do
        let mode <- textIn engine mode
        let some (way, writes, layers) := wayOf mode | stop s!"Unknown open() mode '{mode}'"
        let isWide := (layers.splitOn "utf8").length ≠ 1 ||
          (layers.toLower.splitOn "utf-8").length ≠ 1
        let values := (<- target.mapM engine.values).flatten
        match way, values with
        | .file mode, .reference .cell cell :: _ => openMemory handle cell mode isWide
        | .again, value :: _ => match value with
          | .reference .stream other =>
            flush other
            let stream := ((<- handleAt other).stream).getD 0
            openWay engine.services handle .again writes isWide [numberText stream]
          | value => openWay engine.services handle .again writes isWide [<- textOf value]
        | way, values =>
          openWay engine.services handle way writes isWide (<- values.mapM (textBy engine))
    keepStandard handle
    return opened
where
  openMemory (handle cell : Nat) (mode : OpeningMode) (isWide : Bool) : Machine Bool := do
    let before <- handleAt handle
    if mode.writes then
      if !mode.appends then setCell cell (.text "")
      changeHandle handle fun _ =>
        { name := before.name, memory := some cell, writes := true, isWide }
    else
      let text <- textOf (<- cellAt cell)
      changeHandle handle fun _ =>
        { name := before.name, rest := text.toList, ended := true, isWide }
    return true

def readInto (arguments : List Expression) (isSystem : Bool) : Machine Value := do
  match arguments with
  | place :: target :: count :: rest => match <- handleOf? (<- engine.value place) with
    | none => return .undefined
    | some handle =>
      let count := (<- intIn engine count).toNat
      let offset <- match rest with
        | offset :: _ => intIn engine offset
        | [] => pure 0
      let rec fill (limit : Nat) : Machine Unit := do
        match limit with
        | 0 => return ()
        | limit + 1 =>
          let present <- handleAt handle
          let isEnough := count <= present.rest.length || (isSystem && !present.rest.isEmpty)
          if !isEnough && !present.ended then
            fillHandle handle
            fill limit
      fill mostWaits
      let taken := (<- handleAt handle).rest.take count
      changeHandle handle (fun handle => { handle with rest := handle.rest.drop count })
      let cell <- engine.place target
      let before := (<- textOf (<- cellAt cell)).toList
      let front := before.take offset.toNat
      setCell cell (.text (.ofList (front ++ taken)))
      return .whole taken.length
  | _ => return .undefined

/-! ## Complaints -/

/-- The values of a complaint: something that is referred to, or a text that tells where the program
is. -/
def complaint (values : List Value) (usual : String) : Machine Value := do
  match values with
  | [.reference kind address] => return .reference kind address
  | values =>
    let text := .join (<- values.mapM (textBy engine))
    let text <- if text.isEmpty then do
        let earlier <- textBy engine (<- sharedValue "main::@")
        pure (if earlier.isEmpty || usual ≠ "Died" then usual else s!"{earlier}\t...propagated")
      else pure text
    if text.endsWith "\n" then return .text text
    else
      let told := (<- get).told
      return .text (text ++ told)

def signalCode? (name : String) : Machine (Option Nat) := do
  let some table := (<- get).globals["%main::SIG"]? | return none
  let some cell := (<- tableAt table).get? name | return none
  match <- cellAt cell with
  | .reference .code code => return some code
  | _ => return none

def warn (values : List Value) : Machine Unit := do
  let message <- complaint engine values "Warning: something's wrong"
  match <- signalCode? "__WARN__" with
  | some code => discard <| engine.call code #[<- newCell message] .nothing
  | none => complainTo (<- textBy engine message)

def dieWith (values : List Value) : Machine α := do
  let message <- complaint engine values "Died"
  match <- signalCode? "__DIE__" with
  | some code => discard <| engine.call code #[<- newCell message] .nothing
  | none => pure ()
  throw (.fault message)

/-! ## The functions -/

def nextSeed (seed : Nat) : Nat := (seed * 0x5deece66d + 11) % Nat.pow 2 48

def momentValue (wish : Wish) (seconds : Int) : List Value :=
  if wish = .one then [.text (momentText ⟨seconds, 0⟩)] else (momentParts ⟨seconds, 0⟩).map .whole

/-- A function on files for each of several names; the result is for how many of them it could be
done. -/
def countDone (act : String -> Machine Bool) (names : List String) : Machine (List Value) := do
  return [.whole ((<- names.mapM act).filter id).length]

def signalCalled (text : String) : String :=
  let name := if text.startsWith "SIG" then .ofList (text.toList.drop 3) else text
  match name with
  | "0" => "0"
  | "1" => "HUP"
  | "2" => "INT"
  | "3" => "QUIT"
  | "9" => "KILL"
  | "13" => "PIPE"
  | "14" => "ALRM"
  | "15" => "TERM"
  | name => name

def valueFunction (name : String) (wish : Wish) (values : List Value) : Machine (List Value) := do
  let first := values.headD .undefined
  let second := (values.drop 1).headD .undefined
  let text : Machine String := textBy engine first
  let truth (work : Machine Bool) : Machine (List Value) := do return [truthValue (<- work)]
  match name with
  | "reverse" =>
    if wish = .one then
      return [.text (.ofList (String.join (<- values.mapM (textBy engine))).toList.reverse)]
    else return values.reverse
  | "die" => dieWith engine values
  | "warn" =>
    warn engine values
    return [.whole 1]
  | "exit" => throw (.exit (first.int % 256).toNat)
  | "ref" => match first with
    | .reference kind address => match (<- get).packages[(kind, address)]? with
      | some package => return [.text package]
      | none => match kind with
        | .cell => match <- cellAt address with
          | .reference _ _ => return [.text "REF"]
          | _ => return [.text "SCALAR"]
        | kind => return [.text kind.name]
    | _ => return [.text ""]
  | "bless" => match first with
    | .reference kind address =>
      let package <- match second with
        | .reference kind address => pure (((<- get).packages[(kind, address)]?).getD "main")
        | second => textBy engine second
      modify fun state => { state with
        packages := state.packages.insert (kind, address) package
        hasOwnOperators := state.hasOwnOperators ||
          state.globals.toList.any (·.1.endsWith "::(overload") }
      return [first]
    | _ => stop "Can't bless non-reference value"
  | "time" => return [.whole (<- momentNow).seconds]
  | "times" => return [.real 0.01, .whole 0, .whole 0, .whole 0]
  | "localtime" =>
    return momentValue wish (<- if values.isEmpty then do pure (<- momentNow).seconds else pure first.int)
  | "gmtime" =>
    return momentValue wish (<- if values.isEmpty then do pure (<- momentNow).seconds else pure first.int)
  | "rand" =>
    let seed := nextSeed (<- get).seed
    modify ({ · with seed })
    let most := if first.float == 0 then 1 else first.float
    return [.real (Float.ofNat seed / Float.ofNat (Nat.pow 2 48) * most)]
  | "srand" =>
    let number : Int := if values.isEmpty then 42 else first.int
    modify ({ · with seed := (number % 4294967296).toNat * 65536 + 0x330e })
    return [if number = 0 then .text "0 but true" else .whole number]
  | "sleep" =>
    flushAll
    let seconds := first.int.toNat
    let time := (<- sessionNow).time
    await (.moment (time + seconds * Timestamp.nanosPerSecond))
    return [.whole seconds]
  | "system" => return [.whole (<- runWords engine.services (<- values.mapM (textBy engine)))]
  | "outputOf" => match <- outputOfCommand engine.services (<- text) with
    | none => return [.undefined]
    | some octets =>
      if wish = .one then return [.text octets]
      else
        let handle <- newHandle { name := "", rest := octets.toList, ended := true }
        let before := (<- get).lastRead
        let records <- recordsOf handle mostWaits []
        modify ({ · with lastRead := before })
        return records.map .text
  | "exec" =>
    flushAll
    match <- wordsAct? engine.services (<- values.mapM (textBy engine)) with
    | none => return [truthValue false]
    | some act => throw (.exit (knownStatus (<- awaitWork act)))
  | "unlink" => countDone removeFile (<- values.mapM (textBy engine))
  | "mkdir" =>
    let permissions := if second.isDefined then some second.int.toNat else none
    truth (do makeFolder (<- text) permissions)
  | "rmdir" => truth (do removeEmptyFolder (<- text))
  | "rename" => truth (do renameFile (<- text) (<- textBy engine second))
  | "chdir" => truth (do enterFolder (<- if values.isEmpty then pure "/root" else text))
  | "chmod" =>
    let mode := first.int.toNat
    countDone (fun name => tryFiling (FileTree.setPermissions (pathOf name) mode))
      (<- (values.drop 1).mapM (textBy engine))
  | "chown" => return [.whole (values.length - 2)]
  | "utime" =>
    let time : Timestamp <- if second.isDefined then pure ⟨second.int, 0⟩ else momentNow
    countDone (fun name => tryFiling (FileTree.setModified (pathOf name) time))
      (<- (values.drop 2).mapM (textBy engine))
  | "link" =>
    truth (do tryFiling (FileTree.link (pathOf (<- text)) (pathOf (<- textBy engine second))))
  | "symlink" =>
    let target <- text
    let place <- textBy engine second
    truth (tryFiling (FileTree.createAt (pathOf place) (.link (ofOctets target))))
  | "readlink" =>
    let session <- sessionNow
    match (session.ownEntry (<- text)).toOption.bind FileEntry.target? with
    | some target => return [.text target]
    | none =>
      setFailure 22
      return [.undefined]
  | "stat" => statOf true (<- statName first)
  | "lstat" => statOf false (<- statName first)
  | "umask" =>
    let before := (<- sessionNow).files.mask
    if !values.isEmpty then
      liftM (m := Act) (modify fun session =>
        { session with files := { session.files with mask := first.int.toNat } })
    return [.whole before]
  | "glob" => return (<- filesLike (<- text)).map .text
  | "pack" =>
    let template <- text
    let items := packItems (template.length + 1) template.toList
    return [.text (.ofList (<- packed ((items.length + 2) * (values.length + 2)) items (values.drop 1)))]
  | "unpack" =>
    let template <- text
    let items := packItems (template.length + 1) template.toList
    let octets <- if values.length < 2 then textBy engine (<- sharedValue "main::_") else
      textBy engine second
    let found := unpacked ((items.length + 2) * (octets.length + 2)) items octets.toList
    return if wish = .one then [found.headD .undefined] else found
  | "vec" =>
    let octets := (<- text).toList
    let bits := ((values.drop 2).headD .undefined).int.toNat
    let place := second.int.toNat
    if bits < 8 then
      let octet := ((octets[place * bits / 8]?).map Char.toNat).getD 0
      return [.whole (octet / Nat.pow 2 (place * bits % 8) % Nat.pow 2 bits : Nat)]
    else
      let size := bits / 8
      let part := (octets.drop (place * size)).take size
      return [.whole (numberOfOctets true false part)]
  | "caller" =>
    let frames := (<- get).frames
    let depth := first.int.toNat
    match frames[depth]? with
    | none => return if wish = .one then [.undefined] else []
    | some frame =>
      let state <- get
      if wish = .one then return [.text frame.package]
      else
        let plain : List Value := [.text frame.package, .text state.file, .whole frame.line]
        return if values.isEmpty then plain else
          plain ++ [.text frame.name, .whole 1, truthValue (frame.wish == .all)]
  | "kill" =>
    let name := signalCalled (<- text)
    let targets := (values.drop 1).map (·.int.toNat)
    flushAll
    targets.forM fun target => do
      if name ≠ "0" then
        match processWithNumber? target with
        | some process => liftM (m := Act) (send { target := process, name })
        | none => return ()
    return [.whole targets.length]
  | "wait" =>
    modify ({ · with childStatus := -1 })
    return [.whole (-1)]
  | "waitpid" =>
    modify ({ · with childStatus := -1 })
    return [.whole (-1)]
  | "fork" => return [.undefined]
  | "getppid" => return [.whole 1]
  | "getlogin" => return [.text "root"]
  | "getpwuid" => return if wish = .one then [.text "root"] else
      [.text "root", .text "x", .whole 0, .whole 0, .text "", .text "", .text "root", .text "/root",
        .text "/bin/bash"]
  | "getpwnam" => return if wish = .one then [.whole 0] else
      [.text "root", .text "x", .whole 0, .whole 0, .text "", .text "", .text "root", .text "/root",
        .text "/bin/bash"]
  | "require" =>
    let name <- text
    let isNumber := name.all (fun c => isDigit c || c = '.')
    setFailure 2
    if (offers.lookup name).isSome || pragmas.contains name || isNumber then return [.whole 1]
    else if name.endsWith ".pl" || name.contains '/' then
      let folders := " ".intercalate packageFolders
      stop s!"Can't locate {name} in @INC (@INC contains: {folders})"
    else stop (missingPackage name)
  | "lock" => return [first]
  | "study" => return [.whole 1]
  | "alarm" => return [.whole 0]
  | "constant" =>
    let package <- text
    match values.drop 1 with
    | [.reference .table address] =>
      (<- tablePairs address).forM fun (name, value) => define package name [value]
      return []
    | name :: rest =>
      define package (<- textBy engine name) rest
      return []
    | [] => return []
  | _ => return []
where
  define (package name : String) (values : List Value) : Machine Unit := do
    let code <- newCode (.fixed values)
    modify fun state => { state with globals := state.globals.insert s!"&{package}::{name}" code }
  statName (value : Value) : Machine String := do
    match value with
    | .reference .stream address =>
      let stream := ((<- handleAt address).stream).getD 0
      return s!"/dev/fd/{numberText stream}"
    | value => textBy engine value
  statOf (followsLinks : Bool) (name : String) : Machine (List Value) := do
    let numbers <- fileNumbers followsLinks name
    return if wish = .one then [truthValue !numbers.isEmpty] else numbers

def usualFunctions : List String :=
  wordsIn "lc uc fc lcfirst ucfirst quotemeta length ord chr int abs sqrt log exp sin cos hex oct
  ref unlink rmdir mkdir readlink stat lstat glob unpack"

def callFunction (name : String) (wish : Wish) (arguments : List Expression) :
    Machine (List Value) := do
  let row : Machine Nat := usualRow engine arguments
  let rest : Machine (List Value) := do return (<- (arguments.drop 1).mapM engine.values).flatten
  match name, arguments with
  | "push", _ =>
    let address <- row
    let cells <- newCells (<- rest)
    changeRow address (· ++ cells)
    return [.whole (<- rowAt address).size]
  | "unshift", _ =>
    let address <- row
    changeRow address ((<- newCells (<- rest)) ++ ·)
    return [.whole (<- rowAt address).size]
  | "pop", _ =>
    let address <- row
    match (<- rowAt address).back? with
    | some cell =>
      changeRow address Array.pop
      return [<- cellAt cell]
    | none => return [.undefined]
  | "shift", _ =>
    let address <- row
    match (<- rowAt address)[0]? with
    | some cell =>
      changeRow address (fun row => row.extract 1 row.size)
      return [<- cellAt cell]
    | none => return [.undefined]
  | "splice", _ => cutRow engine arguments wish
  | "scalar", argument :: _ => return [<- engine.value argument]
  | "reverse", [] =>
    if wish = .one then valueFunction engine name wish [<- engine.value usualPlace] else return []
  | "defined", [] => return [truthValue (<- sharedValue "main::_").isDefined]
  | "defined", argument :: _ => return [truthValue (<- isDefinedIn engine argument)]
  | "exists", argument :: _ => return [truthValue (<- isThere engine argument)]
  | "delete", argument :: _ =>
    let found <- removeElement engine argument
    return if wish = .one then [found.getLastD .undefined] else found
  | "each", argument :: _ => nextPair engine argument wish
  | "keys", argument :: _ =>
    let found <- keysOf engine argument
    return if wish = .one then [.whole found.length] else found
  | "values", argument :: _ =>
    let found <- valuesOf engine argument
    return if wish = .one then [.whole found.length] else found
  | "undef", _ =>
    clear engine arguments
    return [.undefined]
  | "chomp", _ => return [.whole (<- cutRecordEnds (<- changedCells engine arguments))]
  | "chop", _ => return [<- cutLastCharacters (<- changedCells engine arguments)]
  | "pos", _ =>
    let cell <- engine.place (arguments.headD usualPlace)
    match (<- get).places[cell]? with
    | some (place, _) => return [.whole place]
    | none => return [.undefined]
  | "wantarray", _ => match (<- get).frames.head?.map Frame.wish with
    | some .all => return [.whole 1]
    | some .one => return [.text ""]
    | _ => return [.undefined]
  | "split", _ =>
    let text <- match arguments.drop 1 with
      | text :: _ => textIn engine text
      | [] => textBy engine (<- sharedValue "main::_")
    let most <- match arguments.drop 2 with
      | most :: _ => intIn engine most
      | [] => pure 0
    let parts <-
      match arguments.headD (.ofText " ") with
      | .constant (.text " ") => pure (partsAtSpaces text most)
      | .search pattern flags => do
        let shown <- textIn engine pattern
        let flags := if shown = "^" then flags ++ "m" else flags
        separated (<- compiled shown flags) text most
      | pattern => do
        let shown <- textIn engine pattern
        if shown = " " then pure (partsAtSpaces text most)
        else separated (<- compiled shown "") text most
    return if wish = .one then [.whole parts.length] else parts
  | "open", _ => return [truthValue (<- openHandle engine arguments)]
  | "close", _ => match <- argumentHandle? engine arguments with
    | some handle => return [truthValue (<- closeHandle handle)]
    | none =>
      setFailure 9
      return [truthValue false]
  | "eof", [] => return [truthValue (<- isAtEnd ((<- get).lastRead.getD operandHandle))]
  | "eof", _ => match arguments with
    | [.list []] =>
      let left := (<- rowAt (<- sharedAddress .row "main::ARGV")).size
      return [truthValue ((<- isAtEnd operandHandle) && left = 0)]
    | arguments => match <- argumentHandle? engine arguments with
      | some handle => return [truthValue (<- isAtEnd handle)]
      | none => return [truthValue true]
  | "fileno", _ => match <- argumentHandle? engine arguments with
    | some handle => match (<- handleAt handle).stream with
      | some stream => return [.whole stream]
      | none => return [.undefined]
    | none => return [.undefined]
  | "binmode", _ => match <- argumentHandle? engine arguments with
    | some handle =>
      let layer <- match arguments.drop 1 with
        | layer :: _ => textIn engine layer
        | [] => pure ""
      let isWide := (layer.toLower.splitOn "utf").length ≠ 1
      changeHandle handle ({ · with isWide })
      return [truthValue true]
    | none => return [.undefined]
  | "readline", _ => match arguments with
    | [] => return [.undefined]
    | stream :: _ => engine.values (.readLine stream)
  | "read", _ => return [<- readInto engine arguments false]
  | "sysread", _ => return [<- readInto engine arguments true]
  | "syswrite", _ => match <- argumentHandle? engine arguments with
    | some handle =>
      let octets <- match arguments.drop 1 with
        | text :: _ => textIn engine text
        | [] => pure ""
      flush handle
      discard <| sayTo handle "syswrite" octets
      flush handle
      return [.whole octets.length]
    | none => return [.undefined]
  | "getc", _ =>
    let handle := (<- argumentHandle? engine arguments).getD inputHandle
    if <- isAtEnd handle then return [.undefined]
    else
      let present <- handleAt handle
      changeHandle handle (fun handle => { handle with rest := handle.rest.drop 1 })
      return [.text (.ofList (present.rest.take 1))]
  | "seek", _ => match <- argumentHandle? engine arguments with
    | some handle =>
      let place <- match arguments.drop 1 with
        | place :: _ => intIn engine place
        | [] => pure 0
      seekTo handle place.toNat
      return [truthValue true]
    | none => return [truthValue false]
  | "tell", _ => match <- argumentHandle? engine arguments with
    | some handle => return [.whole (<- placeIn handle)]
    | none => return [.whole (-1)]
  | "truncate", _ => return [truthValue true]
  | "flock", _ => return [truthValue true]
  | "opendir", place :: name :: _ =>
    let name <- textIn engine name
    match <- folderNames name with
    | none => return [truthValue false]
    | some entries =>
      changeHandle (<- handleFor engine place) ({ · with entries, isOpen := true })
      return [truthValue true]
  | "readdir", _ => match <- argumentHandle? engine arguments with
    | none => return [.undefined]
    | some handle =>
      let entries := (<- handleAt handle).entries
      if wish = .one then
        changeHandle handle (fun handle => { handle with entries := handle.entries.drop 1 })
        return [((entries.head?).map .text).getD .undefined]
      else
        changeHandle handle ({ · with entries := [] })
        return entries.map .text
  | "closedir", _ => return [truthValue true]
  | "rewinddir", _ => return [truthValue true]
  | "select", _ => match arguments with
    | [] => selectedName
    | [stream] =>
      let before <- selectedName
      match <- handleOf? (<- engine.value stream) with
      | some handle => modify ({ · with selected := handle })
      | none => pure ()
      return before
    | arguments =>
      let seconds <- match arguments.drop 3 with
        | seconds :: _ => do pure (<- engine.value seconds).float
        | [] => pure 0
      flushAll
      let time := (<- sessionNow).time
      await (.moment (time + (Records.wholeOf (seconds * 1000000000)).toNat))
      return [.whole 0]
  | "substr", target :: offset :: length :: new :: _ =>
    let old <- engine.value (.function "substr" [target, offset, length])
    store engine (.function "substr" [target, offset, length]) (<- engine.value new)
    return [old]
  | "sprintf", form :: _ => match form with
    | .list _ => plain (<- all)
    | form => plain ((<- engine.value form) :: (<- rest))
  | "do", file :: _ =>
    let name <- textIn engine file
    match <- readNamed name with
    | .error fault =>
      setFailure (faultNumber fault)
      return [.undefined]
    | .ok bytes => engine.values (.trialOf [] (<- get).package (.ofText (.ofList (octetsOf bytes))))
  | "require", file :: _ =>
    let name <- textIn engine file
    let isPath := name.startsWith "./" || name.startsWith "../" || name.startsWith "/"
    let content <- if isPath then do pure (some (<- readNamed name)) else pure none
    match content with
    | some (.ok bytes) =>
      engine.values (.trialOf [] (<- get).package (.ofText (.ofList (octetsOf bytes))))
    | some (.error _) =>
      setFailure 2
      stop s!"Can't locate {name}"
    | none => valueFunction engine name wish [.text name]
  | "bless", _ => valueFunction engine name wish (<- arguments.mapM engine.value)
  | name, [] =>
    if usualFunctions.contains name then plain [<- engine.value usualPlace] else plain []
  | name, arguments => match name.splitOn "::" with
    | [_] =>
      if singleFunctions.contains name || scalarFunctions.contains name then
        plain (<- arguments.mapM engine.value)
      else plain (<- all)
    | parts =>
      let last := parts.getLastD ""
      if blockFunctions.contains last then
        match <- engine.value (arguments.headD (.constant .undefined)) with
        | .reference .code code =>
          let cells := (<- (arguments.drop 1).mapM engine.cells).flatten
          givenBlockFunction engine last wish code cells
        | _ => return [.undefined]
      else plain (<- all)
where
  all : Machine (List Value) := do return (<- arguments.mapM engine.values).flatten
  plain (values : List Value) : Machine (List Value) := do
    match <- textFunction? engine name values with
    | some value => return [value]
    | none =>
      if name.contains ':' then givenFunction engine name wish values
      else valueFunction engine name wish values
  separated (pattern : NamedPattern) (text : String) (most : Int) : Machine (List Value) := do
    if text.isEmpty then return [] else return partsBetween pattern (searchedOf text) most
  selectedName : Machine (List Value) := do
    let name := (<- handleAt (<- get).selected).name
    return [.text s!"main::{name}"]
  placeIn (handle : Nat) : Machine Int := do
    flush handle
    let present <- handleAt handle
    let some stream := present.stream | return -1
    let session <- liftM (m := Act) get
    match session.stream? stream with
    | some (.opened number) =>
      let offset := ((session.opened[number]?).map (·.offset)).getD 0
      return (offset : Int) - present.rest.length
    | _ => return -1
  seekTo (handle place : Nat) : Machine Unit := do
    flush handle
    let present <- handleAt handle
    let some stream := present.stream | return ()
    liftM (m := Act) (modify fun session => match session.stream? stream with
      | some (.opened number) =>
        { session with opened := session.opened.modify number fun opening =>
          { opening with offset := place } }
      | _ => session)
    changeHandle handle ({ · with rest := [], ended := false })

end

end BaseLanguage.Shell.Extraction
