import BaseLanguage.Shell.Utility.Extraction.Streams

namespace BaseLanguage.Shell.Extraction

open Text

/-!
# Values and places

An expression stands for one value or for a list of them, and some stand for places, which other
values may be given to.  What is referred to comes into being where it is needed.
-/

structure Engine where
  services : Services
  value : Expression -> Machine Value
  values : Expression -> Machine (List Value)
  place : Expression -> Machine Nat
  cells : Expression -> Machine (List Nat)
  act : Expression -> Machine Unit
  body : Wish -> List Statement -> Machine (List Value)
  call : Nat -> Array Nat -> Wish -> Machine (List Value)

/-! ## Packages -/

def packageLine : Nat -> String -> Machine (List String)
  | 0, package => return [package]
  | limit + 1, package => do
    let some row := (<- get).globals[s!"@{package}::ISA"]? | return [package]
    let names <- (<- rowValues row).mapM textOf
    return package :: (<- names.mapM (packageLine limit)).flatten

def mostPackages : Nat := 100

def codeNamed? (name : String) : Machine (Option Nat) := do
  let state <- get
  let some address := state.globals[s!"&{name}"]? | return none
  match state.codes.getD address (.given "") with
  | .given "" => return none
  | _ => return some address

def methodOf? (package name : String) : Machine (Option Nat) := do
  let packages <- packageLine mostPackages package
  packages.findSomeM? fun package => codeNamed? s!"{package}::{name}"

def ownOperator? (operator : String) (value : Value) : Machine (Option Nat) := do
  let state <- get
  if !state.hasOwnOperators then return none
  else match value with
    | .reference kind address => match state.packages[(kind, address)]? with
      | none => return none
      | some package =>
        (<- packageLine mostPackages package).findSomeM? fun package => do
          let some table := (<- get).globals[s!"%{package}::(overload"]? | return none
          let some cell := (<- tableAt table).get? operator | return none
          match <- cellAt cell with
          | .reference .code code => return some code
          | _ => return none
    | _ => return none

/-! ## Texts and numbers -/

section

variable (engine : Engine)

def textBy (value : Value) : Machine String := do
  let some code <- ownOperator? "\"\"" value | textOf value
  let cells <- newCells [value, .undefined, .text ""]
  textOf ((<- engine.call code cells .one).getLastD .undefined)

def textIn (expression : Expression) : Machine String := do
  textBy engine (<- engine.value expression)

def holdsIn (expression : Expression) : Machine Bool := do
  let value <- engine.value expression
  let some code <- ownOperator? "bool" value | isTrue value
  let cells <- newCells [value, .undefined, .text ""]
  isTrue ((<- engine.call code cells .one).getLastD .undefined)

def intIn (expression : Expression) : Machine Int := do return (<- engine.value expression).int

/-! ## References -/

def Kind.told : Kind -> String
  | .cell => "a SCALAR"
  | .row => "an ARRAY"
  | .table => "a HASH"
  | .code => "a CODE"
  | .stream => "a GLOB"
  | .pattern => "a Regexp"

def isPlace : Expression -> Bool
  | .named .cell _ => true
  | .item _ _ => true
  | .entry _ _ => true
  | .followed .cell _ => true
  | .declared _ false _ => true
  | .localized _ => true
  | _ => false

def referent (kind : Kind) (value : Value) (creates : Bool) : Machine Nat := do
  match value with
  | .reference found address =>
    if found = kind then return address
    else match <- ownOperator? (.ofList [kind.sign, '\x7b', '\x7d']) value with
      | some code =>
        let cells <- newCells [value, .undefined, .text ""]
        match (<- engine.call code cells .one).getLastD .undefined with
        | .reference _ address => return address
        | _ => stop s!"Not {kind.told} reference"
      | none => stop s!"Not {kind.told} reference"
  | .undefined =>
    if (<- get).isStrict && !creates then
      stop s!"Can't use an undefined value as {kind.told} reference"
    else newThing kind
  | value =>
    let name <- textOf value
    if (<- get).isStrict && kind ≠ .stream then
      let shown := if 32 < name.length then s!"\"{String.ofList (name.toList.take 32)}\"..." else s!"\"{name}\""
      stop s!"Can't use string ({shown}) as {kind.told} ref while \"strict refs\" in use"
    else
      let name := if name.startsWith "*" then .ofList (name.toList.drop 1) else name
      sharedAddress kind (Reading.wholeName (<- get).package name)

def follow (kind : Kind) (reference : Expression) (creates : Bool) : Machine Nat := do
  if creates && isPlace reference then
    let cell <- engine.place reference
    match <- cellAt cell with
    | .undefined =>
      let address <- newThing kind
      setCell cell (.reference kind address)
      return address
    | value => referent engine kind value creates
  else referent engine kind (<- engine.value reference) creates

/-- Lets a name lead to something new up to the end of the block, or saves what an element holds. -/
def localize (place : Expression) : Machine (Kind × Nat) := do
  match place with
  | .named kind (.shared name) =>
    let address <- newThing kind
    if kind = .stream then
      changeHandle address ({ · with name := ((name.splitOn "::").getLast?).getD name })
    localizeName (keyOf kind name) address
    return (kind, address)
  | .entry table key =>
    let address <-
      match table with
      | .named .table holder => addressOf .table holder
      | .followed .table reference => follow engine .table reference true
      | _ => stop "Can't localize this"
    let key <- textIn engine key
    let before := (<- tableAt address).get? key
    let cell <- newCell .undefined
    modify fun state => { state with saved := .entry address key before :: state.saved }
    changeTable address (·.insert key cell)
    return (.cell, cell)
  | place =>
    let cell <- engine.place place
    let value <- cellAt cell
    modify fun state => { state with saved := .cell cell value :: state.saved }
    return (.cell, cell)

def container (kind : Kind) (creates : Bool) (expression : Expression) : Machine Nat := do
  match expression with
  | .named _ holder => addressOf kind holder
  | .followed _ reference => follow engine kind reference creates
  | .declared stays _ ((kind, number) :: _) => declare stays kind number
  | .localized place => return (<- localize engine place).2
  | .list [inside] => match inside with
    | .named _ holder => addressOf kind holder
    | .declared stays _ ((kind, number) :: _) => declare stays kind number
    | inside => referent engine kind (<- engine.value inside) creates
  | expression => match kind, expression with
    | .row, .assign place _ =>
      discard <| engine.values expression
      match place with
      | .named _ holder => addressOf kind holder
      | .declared _ _ ((_, number) :: _) => addressOf kind (.own number)
      | _ => newThing kind
    | _, _ => match <- engine.value expression with
      | .reference found address =>
        if found = kind then return address else stop s!"Not {kind.told} reference"
      | _ => do
        let address <- newThing kind
        fillRow address (<- engine.values expression)
        return address

/-! ## Places -/

def keyIn (expression : Expression) : Machine String := textIn engine expression

def placeOf (expression : Expression) : Machine Nat := do
  match expression with
  | .named .cell holder => addressOf .cell holder
  | .item row index => itemCell (<- container engine .row true row) (<- intIn engine index)
  | .entry table key => entryCell (<- container engine .table true table) (<- keyIn engine key)
  | .followed .cell reference => follow engine .cell reference true
  | .declared stays _ ((.cell, number) :: _) => declare stays .cell number
  | .localized place => return (<- localize engine place).2
  | .choose test first second =>
    if <- holdsIn engine test then engine.place first else engine.place second
  | .list [inside] => engine.place inside
  | .assign place _ =>
    if place.isListPlace then newCell (<- engine.value expression)
    else
      discard <| engine.value expression
      match place with
      | .declared _ _ ((_, number) :: _) => addressOf .cell (.own number)
      | .localized inside => engine.place inside
      | place => engine.place place
  | .change _ place _ =>
    discard <| engine.value expression
    engine.place place
  | .step _ true place =>
    discard <| engine.value expression
    engine.place place
  | expression => newCell (<- engine.value expression)

def knownItem (address : Nat) (index : Int) : Machine Nat := do
  let row <- rowAt address
  match (placeInRow row.size index).bind (row[·]?) with
  | some cell => return cell
  | none => newCell .undefined

def knownEntry (address : Nat) (key : String) : Machine Nat := do
  match (<- tableAt address).get? key with
  | some cell => return cell
  | none => newCell .undefined

def tableCells (address : Nat) : Machine (List Nat) := do
  let pairs := (<- tableAt address).toList
  let cells <- pairs.mapM fun (key, cell) => do return [<- newCell (.text key), cell]
  return cells.flatten

def cellsOf (expression : Expression) : Machine (List Nat) := do
  match expression with
  | .named .cell holder => match holder with
    | .own _ => return [<- addressOf .cell holder]
    | .shared name =>
      if Reading.isNameStart ((name.toList.drop 6).headD ' ') then
        return [<- addressOf .cell holder]
      else return [<- newCell (<- engine.value expression)]
  | .named .row holder => return (<- rowAt (<- addressOf .row holder)).toList
  | .named .table holder => tableCells (<- addressOf .table holder)
  | .followed .row reference => return (<- rowAt (<- follow engine .row reference true)).toList
  | .followed .table reference => tableCells (<- follow engine .table reference true)
  | .followed .cell reference => return [<- follow engine .cell reference true]
  | .item row index =>
    return [<- knownItem (<- container engine .row true row) (<- intIn engine index)]
  | .entry table key =>
    return [<- knownEntry (<- container engine .table true table) (<- keyIn engine key)]
  | .items row indices =>
    let address <- container engine .row true row
    (<- engine.values indices).mapM (knownItem address ·.int)
  | .entries table keys =>
    let address <- container engine .table true table
    (<- engine.values keys).mapM fun key => do knownEntry address (<- textBy engine key)
  | .list parts => return (<- parts.mapM engine.cells).flatten
  | .choose test first second =>
    if <- holdsIn engine test then engine.cells first else engine.cells second
  | .function "values" [.named .table holder] =>
    return (<- tableAt (<- addressOf .table holder)).values
  | .function "values" [.followed .table reference] =>
    return (<- tableAt (<- follow engine .table reference true)).values
  | .declared stays _ names =>
    let found <- names.mapM fun (kind, number) => do
      let address <- declare stays kind number
      match kind with
      | .cell => return [address]
      | .row => return (<- rowAt address).toList
      | _ => return []
    return found.flatten
  | expression => return (<- newCells (<- engine.values expression)).toList

end

/-!
## Matching in a program

A pattern is looked for in a text, from a place on.  The groups of the last match that was found can be
asked for until the next one is.
-/

/-! ## Patterns -/

def patternStyle : OrderedStyle where
  strictEnd := false

def patternFault (text : Chars) (fault : OrderedFault) : String :=
  let told (message : String) (count : Nat) : String :=
    let first := String.ofList (text.take count)
    let second := String.ofList (text.drop count)
    s!"{message} in regex; marked by <-- HERE in m/{first} <-- HERE {second}/"
  let here := fault.place + 1
  match fault.kind with
  | .unclosedGroup => told "Unmatched (" here
  | .unopenedGroup => told "Unmatched )" here
  | .unclosedSet => told "Unmatched [" here
  | .nothingToRepeat => told "Quantifier follows nothing" here
  | .repeatedTwice => told "Nested quantifiers" here
  | .endingBackslash =>
    let shown := String.ofList text
    s!"Trailing \\ in regex m/{shown}/"
  | .badRange range => told s!"Invalid [] range \"{range}\"" (fault.place + range.length)
  | .badBack _ => told "Reference to nonexistent group" here
  | .badGroup shown => told s!"Sequence ({shown}...) not recognized" (fault.place + shown.length)
  | .badName => told "Sequence (?<... not terminated" text.length
  | .unknownClass => told "POSIX class unknown" here
  | .badBound => told "Can't do \x7bn,m\x7d with n > m" here
  | .badEscape _ => told "Unknown escape" here

def compiled (text flags : String) : Machine NamedPattern := do
  let letters := .ofList (['i', 'm', 's', 'x', 'n'].filter (flags.contains ·))
  let key := letters ++ "/" ++ text
  match (<- get).known[key]? with
  | some pattern => return pattern
  | none =>
    let flags : OrderedFlags :=
      { ignoresCase := letters.contains 'i'
        lines := letters.contains 'm'
        dotAll := letters.contains 's'
        spaced := letters.contains 'x'
        noGroups := letters.contains 'n' }
    match OrderedPattern.parse patternStyle flags text.toList with
    | .ok pattern =>
      modify fun state => { state with known := state.known.insert key pattern }
      return pattern
    | .error fault => stop (patternFault text.toList fault)

def patternIn (engine : Engine) (pattern : Expression) (flags : String) : Machine NamedPattern := do
  compiled (<- textIn engine pattern) flags

def searchedOf (text : String) : Searched where
  text := text.toList.toArray
  isWide := isWideText text

variable (pattern : NamedPattern)

def noteMatch (searched : Searched) (found : OrderedFound) : Machine Unit :=
  modify ({ · with
    lastMatch := some { searched, found, names := pattern.names, groups := pattern.groups } })

def groupValue (searched : Searched) (found : OrderedFound) (number : Nat) : Value :=
  match found.group? searched number with
  | some text => .text (.ofList text)
  | none => .undefined

def groupValues (searched : Searched) (found : OrderedFound) : List Value :=
  (List.range pattern.groups).map fun index => groupValue searched found (index + 1)

def allMatches (pattern : OrderedPattern) (searched : Searched) :
    Nat -> Nat -> Option Nat -> List OrderedFound -> List OrderedFound
  | 0, _, _, found => found.reverse
  | limit + 1, start, emptyAt, found =>
    if searched.text.size < start then found.reverse
    else match pattern.search? searched start with
      | none => found.reverse
      | some match_ =>
        if match_.ending = match_.start && emptyAt == some match_.start then
          allMatches pattern searched limit (start + 1) none found
        else
          let emptyAt := if match_.ending = match_.start then some match_.ending else none
          allMatches pattern searched limit match_.ending emptyAt (match_ :: found)

def matchesFrom (searched : Searched) (start : Nat) : List OrderedFound :=
  allMatches pattern.pattern searched (2 * searched.text.size + 3) start none []

/-! ## What names of the last match stand for -/

def matchValue? (name : String) : Machine (Option Value) := do
  let state <- get
  let ofMatch (use : LastMatch -> Value) : Machine (Option Value) :=
    return some ((state.lastMatch.map use).getD .undefined)
  let told (chars : Chars) : Value := .text (.ofList chars)
  match name with
  | "&" => ofMatch fun last => groupValue last.searched last.found 0
  | "\x60" => ofMatch fun last => told (last.searched.between 0 last.found.start)
  | "\x27" =>
    ofMatch fun last => told (last.searched.between last.found.ending last.searched.text.size)
  | "+" =>
    ofMatch fun last =>
    let values := (List.range last.groups).map fun index =>
      groupValue last.searched last.found (index + 1)
    ((values.filter Value.isDefined).getLast?).getD .undefined
  | name =>
    let digits := name.toList
    if !digits.isEmpty && digits.all isDigit && digits ≠ ['0'] then
      ofMatch fun last => groupValue last.searched last.found (valueOf digits)
    else return none

def namedGroups : Machine (List (String × Value)) := do
  let some last := (<- get).lastMatch | return []
  return (last.names.map fun (name, number) =>
    (name, groupValue last.searched last.found number)).filter (·.2.isDefined)

def groupPlaces (isStart : Bool) : Machine (List Value) := do
  let some last := (<- get).lastMatch | return []
  let whole : Value := .whole (if isStart then last.found.start else last.found.ending)
  let groups := (List.range last.groups).map fun index =>
    match last.found.groups.lookup (index + 1) with
    | some (first, ending) => .whole (if isStart then first else ending)
    | none => .undefined
  let kept := dropTrailing (!·.isDefined) groups
  return whole :: kept

/-! ## Parts of a text -/

def partsBetween (searched : Searched) (most : Int) : List Value :=
  let size := searched.text.size
  let found := (matchesFrom pattern searched 0).filter fun found =>
    found.ending ≠ 0 && (found.start < size || found.ending ≠ found.start)
  let found := if 0 < most then found.take (most.toNat - 1) else found
  let (parts, last) := found.foldl
    (fun ((parts, start) : List Value × Nat) found =>
      let part : Value := .text (.ofList (searched.between start found.start))
      ((groupValues pattern searched found).reverse ++ part :: parts, found.ending))
    ([], 0)
  let parts := .text (.ofList (searched.between last size)) :: parts
  if most = 0 then
    let isEmpty (value : Value) : Bool := match value with
      | .undefined => true
      | .text octets => octets.isEmpty
      | _ => false
    (parts.dropWhile isEmpty).reverse
  else parts.reverse

def partsAtSpaces (text : String) (most : Int) : List Value :=
  let chars := text.toList.dropWhile isSpace
  let told (chars : Chars) : Value := .text (.ofList chars)
  if 0 < most then
    let rec go (count : Nat) (text : Chars) (done : List Value) : List Value := match count with
      | 0 => done.reverse
      | 1 => (told text :: done).reverse
      | count + 1 =>
        let part := text.takeWhile (!isSpace ·)
        match text.drop part.length with
        | [] => (told part :: done).reverse
        | behind => go count (behind.dropWhile isSpace) (told part :: done)
    if chars.isEmpty then [] else go most.toNat chars []
  else
    let parts := (Records.partsAtBlanks isSpace chars).map told
    let endsInBlank := (chars.getLast?).any isSpace
    if most < 0 && endsInBlank then parts ++ [.text ""] else parts

/-! ## Replacing characters -/

def translated (old new : Chars) (flags : String) (text : Chars) : Chars × Nat :=
  let isOpposite := flags.contains 'c'
  let deletes := flags.contains 'd'
  let squeezes := flags.contains 's'
  let new := if new.isEmpty && !deletes then (if isOpposite then [] else old) else new
  let last? := new.getLast?
  let target (c : Char) : Option (Option Char) :=
    if isOpposite then
      if old.contains c then none
      else if deletes then some none
      else some (some (last?.getD c))
    else match old.idxOf? c with
      | none => none
      | some index => match new[index]? with
        | some d => some (some d)
        | none => if deletes then some none else some (some (last?.getD c))
  let (said, count, _) := text.foldl
    (fun ((said, count, before) : Chars × Nat × Option Char) c => match target c with
      | none => (c :: said, count, none)
      | some none => (said, count + 1, before)
      | some (some d) =>
        if squeezes && before == some d then (said, count + 1, before)
        else (d :: said, count + 1, some d))
    ([], 0, none)
  (said.reverse, count)

end BaseLanguage.Shell.Extraction
