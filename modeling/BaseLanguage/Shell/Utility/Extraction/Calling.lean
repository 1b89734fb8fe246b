import BaseLanguage.Shell.Utility.Extraction.Functions

namespace BaseLanguage.Shell.Extraction

open Text

/-!
# Searching and replacing

A pattern is looked for once, or again and again from where the last match ended.  What a match is
replaced by may look at what was matched.
-/

section

variable (engine : Engine)

def oppositeOf (value : Value) : Machine Value := do return truthValue !(<- isTrue value)

def searchedCell (subject : Expression) : Machine Nat := do
  match subject with
  | .list [inside] => engine.place inside
  | subject => engine.place subject

def nextMatch (pattern : NamedPattern) (keeps : Bool) (cell : Nat) : Machine Value := do
  let searched := searchedOf (<- textBy engine (<- cellAt cell))
  let (start, wasEmpty) := ((<- get).places[cell]?).getD (0, false)
  let found? :=
    match if searched.text.size < start then none else pattern.pattern.search? searched start with
    | some found =>
      if wasEmpty && found.ending = found.start && found.start = start then
        if start < searched.text.size then pattern.pattern.search? searched (start + 1) else none
      else some found
    | none => none
  match found? with
  | some found =>
    noteMatch pattern searched found
    let isEmpty := found.ending = found.start
    modify fun state => { state with places := state.places.insert cell (found.ending, isEmpty) }
    return truthValue true
  | none =>
    if !keeps then modify fun state => { state with places := state.places.erase cell }
    return truthValue false

def searchIn (wish : Wish) (isOpposite : Bool) (subject pattern : Expression) (flags : String) :
    Machine (List Value) := do
  let isRepeated := flags.contains 'g'
  if isRepeated && (wish ≠ .all || isOpposite) then
    let cell <- searchedCell engine subject
    let found <- nextMatch engine (<- patternIn engine pattern flags) (flags.contains 'c') cell
    if isOpposite then return [<- oppositeOf found] else return [found]
  else
    let text <- textIn engine subject
    let pattern <- patternIn engine pattern flags
    let searched := searchedOf text
    if isRepeated then
      let start <-
        if isPlace subject then do
          let cell <- engine.place subject
          let place := (((<- get).places[cell]?).map Prod.fst).getD 0
          modify fun state => { state with places := state.places.erase cell }
          pure place
        else pure 0
      let found := matchesFrom pattern searched start
      match found.getLast? with
      | some last => noteMatch pattern searched last
      | none => pure ()
      return found.flatMap fun found =>
        if pattern.groups = 0 then [groupValue searched found 0]
        else groupValues pattern searched found
    else match pattern.pattern.search? searched 0 with
      | some found =>
        noteMatch pattern searched found
        if isOpposite then return [truthValue false]
        else if wish = .all && pattern.groups ≠ 0 then return groupValues pattern searched found
        else return [truthValue true]
      | none =>
        if isOpposite then return [truthValue true]
        else if wish = .all then return []
        else return [truthValue false]

def replaceAll (pattern : NamedPattern) (searched : Searched) (new : Expression) :
    Nat -> List OrderedFound -> List String -> Machine (List String)
  | start, [], done => return .ofList (searched.between start searched.text.size) :: done
  | start, found :: rest, done => do
    noteMatch pattern searched found
    let said <- textIn engine new
    let front := .ofList (searched.between start found.start)
    replaceAll pattern searched new found.ending rest (said :: front :: done)

def replaceIn (subject pattern new : Expression) (flags : String) : Machine Value := do
  let keeps := flags.contains 'r'
  let cell <- if keeps then newCell (<- engine.value subject) else searchedCell engine subject
  let text <- textBy engine (<- cellAt cell)
  let pattern <- patternIn engine pattern flags
  let searched := searchedOf text
  let found :=
    if flags.contains 'g' then matchesFrom pattern searched 0
    else (pattern.pattern.search? searched 0).toList
  if found.isEmpty then return if keeps then .text text else truthValue false
  else
    let result := .join (<- replaceAll engine pattern searched new 0 found []).reverse
    if keeps then return .text result
    else
      match subject with
      | .function "substr" _ => store engine subject (.text result)
      | _ => setCell cell (.text result)
      return .whole found.length

def translateIn (subject : Expression) (old new : Chars) (flags : String) : Machine Value := do
  if flags.contains 'r' then
    return .text (.ofList (translated old new flags (<- textIn engine subject).toList).1)
  else
    let cell <- searchedCell engine subject
    let text <- textBy engine (<- cellAt cell)
    let (said, count) := translated old new flags text.toList
    let result := .ofList said
    if result ≠ text then setCell cell (.text result)
    return .whole count

def patternValue (pattern : Expression) (flags : String) : Machine Value := do
  let text <- textIn engine pattern
  discard <| compiled text flags
  let number <- modifyGet fun state =>
    (state.patterns.size, { state with patterns := state.patterns.push ⟨text, flags⟩ })
  return .reference .pattern number

def matchedIn (wish : Wish) (isOpposite : Bool) (subject work : Expression) :
    Machine (List Value) := do
  let turned (value : Value) : Machine (List Value) := do
    if isOpposite then return [<- oppositeOf value] else return [value]
  match work with
  | .search pattern flags => searchIn engine wish isOpposite subject pattern flags
  | .replace pattern new flags => turned (<- replaceIn engine subject pattern new flags)
  | .translate old new flags => turned (<- translateIn engine subject old new flags)
  | .patternOf pattern flags => searchIn engine wish isOpposite subject pattern flags
  | pattern => searchIn engine wish isOpposite subject pattern ""

end

/-!
## Calling functions and methods

A function gets the cells of its arguments.  A method is looked for in the package to which an object
belongs, and in those from which that one takes over.
-/

section

variable (engine : Engine)

/-! ## Functions -/

def mostCalls : Nat := 20000

def callCode (address : Nat) (cells : Array Nat) (wish : Wish) : Machine (List Value) := do
  match (<- get).codes.getD address (.given "") with
  | .given name => stop s!"Undefined subroutine {name} called"
  | .fixed values => return if wish = .one then [values.getLastD .undefined] else values
  | .written name body scope =>
    let before <- get
    if mostCalls < before.frames.length then stop "Deep recursion limit exceeded"
    let row <- newRow cells
    let key := "@main::_"
    let old := before.globals[key]?
    let count := before.saved.length
    let package := (("::".intercalate (name.splitOn "::").dropLast))
    modify fun state => { state with
      frames := ⟨name, before.package, before.line, wish, cells⟩ :: state.frames
      scope
      wish
      package := if package.isEmpty then state.package else package
      globals := state.globals.insert key row }
    let leave : Machine Unit := do
      restore count
      modify fun state => { state with
        frames := before.frames
        scope := before.scope
        wish := before.wish
        line := before.line
        package := before.package
        lastMatch := before.lastMatch
        globals := match old with
          | some row => state.globals.insert key row
          | none => state.globals.erase key }
    let values <- tryCatch (engine.body wish body) fun interrupt => do
      match interrupt with
      | .giveBack values => return values
      | .fault value =>
        leave
        throw (.fault value)
      | .exit status => throw (.exit status)
      | interrupt =>
        leave
        throw interrupt
    leave
    return match wish with
      | .nothing => []
      | .one => [values.getLastD .undefined]
      | .all => values

def codeIn (code : Expression) : Machine Nat := do
  match code with
  | .named .code (.shared name) => match <- codeNamed? name with
    | some address => return address
    | none =>
      let last := ((name.splitOn "::").getLast?).getD name
      let package := "::".intercalate (name.splitOn "::").dropLast
      match <- codeNamed? s!"{package}::AUTOLOAD" with
      | some address =>
        setShared s!"{package}::AUTOLOAD" (.text name)
        return address
      | none => match <- codeNamed? s!"main::{last}" with
        | some address =>
          if package = "CORE::GLOBAL" then return address
          else stop s!"Undefined subroutine &{name} called"
        | none => stop s!"Undefined subroutine &{name} called"
  | code =>
    let value <- match code with
      | .named .code holder => do pure (.reference .code (<- addressOf .code holder))
      | .followed .code reference => engine.value reference
      | code => engine.value code
    match value with
    | .reference .code address => return address
    | .reference kind address => match <- ownOperator? "&\x7b\x7d" (.reference kind address) with
      | some own =>
        let cells <- newCells [.reference kind address, .undefined, .text ""]
        match (<- engine.call own cells .one).getLastD .undefined with
        | .reference .code address => return address
        | _ => stop "Not a CODE reference"
      | none => stop "Not a CODE reference"
    | .undefined => stop "Can't use an undefined value as a subroutine reference"
    | value =>
      let name <- textOf value
      if (<- get).isStrict then
        stop s!"Can't use string (\"{name}\") as a subroutine ref while \"strict refs\" in use"
      else
        let whole := Reading.wholeName (<- get).package name
        match <- codeNamed? whole with
        | some address => return address
        | none => stop s!"Undefined subroutine &{whole} called"

def called (wish : Wish) (code : Expression) (arguments : Option (List Expression)) :
    Machine (List Value) := do
  let cells <-
    match arguments with
    | some arguments => do pure (<- arguments.mapM engine.cells).flatten.toArray
    | none => rowAt (<- sharedAddress .row "main::_")
  engine.call (<- codeIn engine code) cells wish

/-! ## Methods -/

def packageOf? (value : Value) : Machine (Option String) := do
  match value with
  | .reference kind address => match (<- get).packages[(kind, address)]? with
    | some package => return some package
    | none => return if kind = .stream then some "IO::File" else none
  | _ => return none

def handleMethod? (handle : Nat) (name : String) (values : List Value) :
    Machine (Option (List Value)) := do
  let texts : Machine String := do return .join (<- values.mapM (textBy engine))
  match name with
  | "print" => return some [truthValue (<- sayTo handle "print" (<- texts))]
  | "say" => return some [truthValue (<- sayTo handle "say" ((<- texts) ++ "\n"))]
  | "printf" =>
    let form <- textBy engine (values.headD .undefined)
    return some [truthValue (<- sayTo handle "printf" (<- inForm form (values.drop 1)))]
  | "close" => return some [truthValue (<- closeHandle handle)]
  | "autoflush" =>
    flush handle
    if handle = outputHandle then setShared "main::|" (.whole 1)
    return some [truthValue true]
  | "flush" =>
    flush handle
    return some [truthValue true]
  | "getline" => match <- recordOf handle with
    | some record => return some [.text record]
    | none => return some [.undefined]
  | "getlines" => return some ((<- recordsOf handle mostWaits []).map .text)
  | "eof" => return some [truthValue (<- isAtEnd handle)]
  | "opened" => return some [truthValue (<- handleAt handle).isOpen]
  | "fileno" =>
    let stream := (<- handleAt handle).stream
    return some [(stream.map fun (stream : Nat) => .whole stream).getD .undefined]
  | "binmode" =>
    let isWide := ((<- texts).toLower.splitOn "utf").length ≠ 1
    changeHandle handle ({ · with isWide })
    return some [truthValue true]
  | "input_line_number" => return some [.whole (<- handleAt handle).lines]
  | _ => return none

def takesOver (package other : String) : Machine Bool := do
  return (<- packageLine mostPackages package).contains other

def isKnownPackage (package : String) : Machine Bool := do
  let front := s!"{package}::"
  return (<- get).globals.toList.any fun entry =>
    (String.ofList (entry.1.toList.drop 1)).startsWith front

def callMethod (wish : Wish) (object : Value) (package name : String) (isUpper : Bool)
    (cells : List Nat) : Machine (List Value) := do
  let found <-
    if isUpper then do
      let packages := (<- packageLine mostPackages package).drop 1
      packages.findSomeM? fun package => codeNamed? s!"{package}::{name}"
    else methodOf? package name
  match found with
  | some address =>
    let first <- newCell object
    engine.call address (first :: cells).toArray wish
  | none =>
    let argument : Machine Value := do
      match cells with
      | cell :: _ => cellAt cell
      | [] => return .undefined
    match name with
    | "isa" => return [truthValue (<- takesOver package (<- textOf (<- argument)))]
    | "DOES" => return [truthValue (<- takesOver package (<- textOf (<- argument)))]
    | "can" => match <- methodOf? package (<- textOf (<- argument)) with
      | some address => return [.reference .code address]
      | none => return [.text ""]
    | "import" => return []
    | "unimport" => return []
    | "VERSION" => return [<- sharedValue s!"{package}::VERSION"]
    | name => match package, name with
      | "IO::File", "new" => opened cells
      | "IO::Handle", "new" => opened []
      | _, _ => match <- methodOf? package "AUTOLOAD" with
        | some address =>
          setShared s!"{package}::AUTOLOAD" (.text s!"{package}::{name}")
          let first <- newCell object
          engine.call address (first :: cells).toArray wish
        | none =>
          let hint := if <- isKnownPackage package then "" else
            s!" (perhaps you forgot to load \"{package}\"?)"
          stop s!"Can't locate object method \"{name}\" via package \"{package}\"{hint}"
where
  opened (cells : List Nat) : Machine (List Value) := do
    let values <- cells.mapM cellAt
    let handle <- newHandle { name := "$fh", isOpen := false }
    match values with
    | [] => return [.reference .stream handle]
    | name :: rest =>
      let mode <- match rest with
        | mode :: _ => textOf mode
        | [] => pure "<"
      let mode := match mode with
        | "r" => "<"
        | "w" => ">"
        | "a" => ">>"
        | mode => mode
      match wayOf mode with
      | some (way, writes, _) =>
        let isDone <- openWay engine.services handle way writes false [<- textOf name]
        return [if isDone then .reference .stream handle else .undefined]
      | none => return [.undefined]

def methodIn (wish : Wish) (object name : Expression) (arguments : List Expression) :
    Machine (List Value) := do
  let value <- match object with
    | .constant value => pure value
    | object => engine.value object
  let cells := (<- arguments.mapM engine.cells).flatten
  match <- engine.value name with
  | .reference .code address => engine.call address ((<- newCell value) :: cells).toArray wish
  | nameValue =>
    let name <- textOf nameValue
    let parts := name.splitOn "::"
    let last := parts.getLastD name
    let front := parts.dropLast
    let isUpper := front.getLast? == some "SUPER"
    let given : Option String :=
      if front.isEmpty then none
      else if isUpper then some ("::".intercalate front.dropLast)
      else some ("::".intercalate front)
    match value with
    | .reference kind address => match given, <- packageOf? value with
      | some package, _ => callMethod engine wish value package last isUpper cells
      | none, none => match kind with
        | .stream => handleOrFault address last cells value
        | _ => stop s!"Can't call method \"{last}\" on unblessed reference"
      | none, some package => match kind with
        | .stream => handleOrFault address last cells value
        | _ => callMethod engine wish value package last false cells
    | .undefined => stop s!"Can't call method \"{last}\" on an undefined value"
    | value =>
      let package <- textOf value
      if package.isEmpty then
        stop s!"Can't call method \"{last}\" without a package or object reference"
      else match given with
        | some package => callMethod engine wish value package last isUpper cells
        | none => match <- handleOf? value with
          | some handle => handleOrFault handle last cells value
          | none => callMethod engine wish value package last false cells
where
  handleOrFault (handle : Nat) (name : String) (cells : List Nat) (value : Value) :
      Machine (List Value) := do
    let values <- cells.mapM cellAt
    match <- handleMethod? engine handle name values with
    | some values => return values
    | none => callMethod engine wish value "IO::File" name false cells

end

end BaseLanguage.Shell.Extraction
