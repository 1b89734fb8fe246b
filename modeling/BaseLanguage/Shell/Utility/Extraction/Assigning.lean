import BaseLanguage.Shell.Utility.Extraction.Packages

namespace BaseLanguage.Shell.Extraction

/-!
# Computing and assigning

Operators make values of values, as packages say if they have operators of their own.  A value is
assigned to one place, a list of values to as many places as there are.
-/

section

variable (engine : Engine)

/-! ## Operators -/

def ownResult? (operation : String) (left right : Value) : Machine (Option Value) := do
  if !(<- get).hasOwnOperators then return none
  else
    let call (code : Nat) (first second : Value) (swapped : Bool) : Machine (Option Value) := do
      let cells <- newCells [first, second, truthValue swapped]
      return some ((<- engine.call code cells .one).getLastD .undefined)
    match <- ownOperator? operation left with
    | some code => call code left right false
    | none => match <- ownOperator? operation right with
      | some code => call code right left true
      | none => return none

def computed (operation : String) (left right : Value) : Machine Value := do
  match <- ownResult? engine operation left right with
  | some value => return value
  | none => match operation with
    | "." => return .text ((<- textBy engine left) ++ (<- textBy engine right))
    | "x" => return .text (.join (List.replicate right.int.toNat (<- textBy engine left)))
    | operation =>
      let left <- numeric left
      let right <- numeric right
      let isOfTexts := ["&", "|", "^"].contains operation
      match isOfTexts, left, right with
      | true, .text first, .text second =>
        let join (first second : Nat) : Nat := match operation with
          | "&" => Nat.land first second
          | "|" => Nat.lor first second
          | _ => Nat.xor first second
        let size := if operation = "&" then min first.length second.length
          else max first.length second.length
        let filled (text : String) : Chars :=
          text.toList ++ List.replicate (size - text.length) (Char.ofNat 0)
        return .text (.ofList ((List.zip (filled first) (filled second)).take size |>.map
          fun (first, second) => Char.ofNat (join first.toNat second.toNat)))
      | _, left, right => match compute? operation left.number right.number with
        | some number => return number.asValue
        | none =>
          stop (if operation = "%" then "Illegal modulus zero" else "Illegal division by zero")
where
  numeric (value : Value) : Machine Value := do
    match value with
    | .reference _ _ => match <- ownOperator? "0+" value with
      | some code =>
        let cells <- newCells [value, .undefined, .text ""]
        return (<- engine.call code cells .one).getLastD .undefined
      | none =>
        if (<- ownOperator? "\"\"" value).isSome then return .text (<- textBy engine value)
        else return value
    | value => return value

def orderValue : Ordering -> Value
  | .lt => .whole (-1)
  | .eq => .whole 0
  | .gt => .whole 1

def compared (operation : String) (left right : Value) : Machine Value := do
  match <- ownResult? engine operation left right with
  | some value => return value
  | none =>
    let numbers := numberOrder? left.number right.number
    match operation with
    | "==" => return truthValue (numbers == some .eq)
    | "!=" => return truthValue (numbers != some .eq)
    | "<" => return truthValue (numbers == some .lt)
    | ">" => return truthValue (numbers == some .gt)
    | "<=" => return truthValue (numbers == some .lt || numbers == some .eq)
    | ">=" => return truthValue (numbers == some .gt || numbers == some .eq)
    | "<=>" => return (numbers.map orderValue).getD .undefined
    | operation =>
      let order := textOrder (<- textBy engine left) (<- textBy engine right)
      match operation with
      | "eq" => return truthValue (order == .eq)
      | "ne" => return truthValue (order != .eq)
      | "lt" => return truthValue (order == .lt)
      | "gt" => return truthValue (order == .gt)
      | "le" => return truthValue (order != .gt)
      | "ge" => return truthValue (order != .lt)
      | _ => return orderValue order

def isNumberInRange (value : Value) (isFirst : Bool) : Bool := match value with
  | .text octets => looksLikeNumber value && !(isFirst && octets.startsWith "0" && octets ≠ "0")
  | _ => true

def textsUpTo (last : String) : Nat -> String -> List String
  | 0, _ => []
  | limit + 1, text =>
    if last.length < text.length then []
    else if text = last then [text]
    else match nextText? text with
      | some next => text :: textsUpTo last limit next
      | none => [text]

def rangeValues (first last : Value) : Machine (List Value) := do
  if isNumberInRange first true && isNumberInRange last false then
    let first := first.int
    let count := (last.int - first + 1).toNat
    return (List.range count).map fun (step : Nat) => .whole (first + (step : Int))
  else return (textsUpTo (<- textOf last) 1000000 (<- textOf first)).map .text

def rangeTest (number : Nat) (isLong : Bool) (first last : Expression) : Machine Value := do
  let holds (test : Expression) : Machine Bool := do
    match test with
    | .constant value => match value with
      | .text _ => isTrue value
      | value => return numberOrder? value.number (<- sharedValue "main::.").number == some .eq
    | test => holdsIn engine test
  let setCount (count : Option Nat) : Machine Unit :=
    modify fun state =>
      let others := state.ranges.filter (·.1 ≠ number)
      { state with ranges := (count.map (fun count => (number, count))).toList ++ others }
  let before := (<- get).ranges.lookup number
  let begins <- if before.isSome then pure true else holds first
  if !begins then return .text ""
  else
    let count := before.getD 0 + 1
    let ends <- if before.isNone && isLong then pure false else holds last
    if ends then
      setCount none
      return .text (numberText count ++ "E0")
    else
      setCount (some count)
      return .whole count

/-! ## Assigning to one place -/

def assignName (name : String) (value : Value) : Machine Unit := do
  match value with
  | .reference .stream address =>
    let other := (<- handleAt address).name
    let set := [.cell, .row, .table, .code]
    set.forM fun kind => do
      let some address := (<- get).globals[keyOf kind s!"main::{other}"]? | return ()
      modify fun state => { state with globals := state.globals.insert (keyOf kind name) address }
    modify fun state => { state with globals := state.globals.insert (keyOf .stream name) address }
  | .reference kind address =>
    modify fun state => { state with globals := state.globals.insert (keyOf kind name) address }
  | _ => return ()

def resizeRow (address : Nat) (size : Nat) : Machine Unit := do
  let row <- rowAt address
  if size < row.size then changeRow address (·.extract 0 size)
  else
    let more <- newCells (List.replicate (size - row.size) .undefined)
    changeRow address (· ++ more)

def store (place : Expression) (value : Value) : Machine Unit := do
  match place with
  | .named .cell (.shared "main::!") => setFailure value.int.toNat
  | .named .cell (.shared "main::?") => modify ({ · with childStatus := value.int })
  | .named .stream (.shared name) => assignName name value
  | .followed .stream reference =>
    let name <- textIn engine reference
    let name := if name.startsWith "*" then .ofList (name.toList.drop 1) else name
    assignName (Reading.wholeName (<- get).package name) value
  | .localized (.named .stream (.shared name)) =>
    modify fun state => { state with
      saved := [.code, .cell, .row, .table].map (fun kind =>
        .name (keyOf kind name) state.globals[keyOf kind name]?) ++ state.saved }
    assignName name value
  | .localized (.named .cell (.shared "main::!")) => setFailure value.int.toNat
  | .lastPlace row => resizeRow (<- container engine .row true row) (value.int + 1).toNat
  | .function "substr" (target :: offset :: rest) =>
    let cell <- engine.place target
    let whole := (<- textBy engine (<- cellAt cell)).toList
    let offset <- intIn engine offset
    let length <- match rest with
      | length :: _ => do pure (some (<- intIn engine length))
      | [] => pure none
    match spanOf whole.length offset length with
    | some (start, count) =>
      let new := (<- textBy engine value).toList
      setCell cell (.text (.ofList (whole.take start ++ new ++ whole.drop (start + count))))
    | none => stop "substr outside of string"
  | .function "pos" arguments =>
    let cell <- engine.place (arguments.headD usualPlace)
    modify fun state => { state with
      places := if value.isDefined then state.places.insert cell (value.int.toNat, false)
        else state.places.erase cell }
  | .choose test first second => setCell (<- engine.place (.choose test first second)) value
  | place => setCell (<- engine.place place) value

/-! ## Assigning a list -/

def fillTable (address : Nat) (values : List Value) : Machine Unit := do
  let pairs <- (pairsOf values).mapM fun pair => do
    return ((<- textBy engine (pair.headD .undefined)), <- newCell (pair.getLastD .undefined))
  changeTable address (fun _ => .ofList pairs)

def distribute : Nat -> List Expression -> List Value -> Machine (List Value)
  | 0, _, values => return values
  | _, [], values => return values
  | limit + 1, place :: rest, values => do
    let left <-
      match place with
      | .list parts => distribute limit parts values
      | .constant _ => pure (values.drop 1)
      | .declared stays _ names => do
        names.foldlM
          (fun values (kind, number) => do give kind (<- declare stays kind number) values)
          values
      | .named .row holder => give .row (<- addressOf .row holder) values
      | .named .table holder => give .table (<- addressOf .table holder) values
      | .followed .row reference => give .row (<- follow engine .row reference true) values
      | .followed .table reference => give .table (<- follow engine .table reference true) values
      | .items row indices => do
        let address <- container engine .row true row
        let places <- (<- engine.values indices).mapM (itemCell address ·.int)
        giveCells places values
      | .entries table keys => do
        let address <- container engine .table true table
        let places <- (<- engine.values keys).mapM fun key => do
          entryCell address (<- textBy engine key)
        giveCells places values
      | .localized (.list parts) => distribute limit (parts.map .localized) values
      | .localized inside => do
        match inside with
        | .named kind _ =>
          let (_, address) <- localize engine inside
          give kind address values
        | inside => do
          store engine (.localized inside) (values.headD .undefined)
          pure (values.drop 1)
      | place => do
        store engine place (values.headD .undefined)
        pure (values.drop 1)
    distribute limit rest left
where
  give (kind : Kind) (address : Nat) (values : List Value) : Machine (List Value) := do
    match kind with
    | .row =>
      fillRow address values
      return []
    | .table =>
      fillTable engine address values
      return []
    | _ =>
      setCell address (values.headD .undefined)
      return values.drop 1
  giveCells (cells : List Nat) (values : List Value) : Machine (List Value) := do
    cells.zipIdx.forM fun (cell, index) => setCell cell (values.getD index .undefined)
    return values.drop cells.length

def mostLists : Nat := 100000

def assignList (place value : Expression) : Machine Nat := do
  let values <- engine.values value
  discard <| distribute engine mostLists [place] values
  return values.length

def assignedPlaces : Expression -> Expression
  | .declared _ false [(kind, number)] => .named kind (.own number)
  | .declared _ _ names => .list (names.map fun (kind, number) => .named kind (.own number))
  | .localized place => place
  | place => place

/-! ## Changing a place -/

def changePlace (operation : String) (place value : Expression) : Machine Value := do
  match operation with
  | "||" =>
    let before <- engine.value place
    if <- isTrue before then return before else settle (<- engine.value value)
  | "&&" =>
    let before <- engine.value place
    if <- isTrue before then settle (<- engine.value value) else return before
  | "//" =>
    let before <- engine.value place
    if before.isDefined then return before else settle (<- engine.value value)
  | operation =>
    if place.isListPlace then
      if operation = "x" then
        let values <- engine.values place
        let count := (<- engine.value value).int.toNat
        discard <| distribute engine mostLists [place] (List.replicate count values).flatten
        return .undefined
      else return .undefined
    else if isPlace place then
      let right <- engine.value value
      let cell <- engine.place place
      let before <- cellAt cell
      match <- ownResult? engine (operation ++ "=") before right with
      | some value =>
        setCell cell value
        return value
      | none => match operation, before with
        | ".", .text octets =>
          let more <- textBy engine right
          setCell cell .undefined
          let whole := octets ++ more
          setCell cell (.text whole)
          return .text whole
        | operation, before =>
          let value <- computed engine operation before right
          setCell cell value
          return value
    else
      let right <- engine.value value
      settle (<- computed engine operation (<- engine.value place) right)
where
  settle (value : Value) : Machine Value := do
    store engine place value
    return value

def stepPlace (amount : Int) (isBefore : Bool) (place : Expression) : Machine Value := do
  let before <- engine.value place
  let after <-
    match before, amount with
    | .text octets, 1 => match if looksLikeNumber before then none else nextText? octets with
      | some next => pure (.text next)
      | none => computed engine "+" before (.whole 1)
    | before, amount => computed engine "+" before (.whole amount)
  store engine place after
  let told := if before.isDefined then before else if amount < 0 then .undefined else .whole 0
  return if isBefore then after else match told with
    | .text octets => if amount = 1 && (nextText? octets).isSome then told else told.number.asValue
    | told => told

end

end BaseLanguage.Shell.Extraction
