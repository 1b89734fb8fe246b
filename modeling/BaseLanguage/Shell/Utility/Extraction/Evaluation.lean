import BaseLanguage.Shell.Utility.Extraction.Calling

namespace BaseLanguage.Shell.Extraction

/-!
# Evaluating expressions

Where one value is asked for, a row stands for its size and a list for its last value; where all are,
both stand for all of their values.
-/

section

variable (engine : Engine)

/-! ## Names with a meaning of their own -/

def sharedCell (name : String) : Machine Value := do
  let short := .ofList (name.toList.drop 6)
  if !name.startsWith "main::" || (short.toList.head?).any Reading.isNameStart then sharedValue name
  else match short with
    | "!" =>
      let number := (<- get).failure
      return .fault number (failureText number)
    | "?" => return .whole (<- get).childStatus
    | "$" => return .whole (numberOfProcess (<- sessionNow).process)
    | "^W" => return .whole 0
    | "^O" => return .text "linux"
    | "^T" => return .whole (<- get).startTime
    | "^X" => return .text "/usr/bin/perl"
    | "^V" => return .text "v5.36.0"
    | "]" => return .text "5.036000"
    | "%" => return .whole 0
    | "-" => return .whole 0
    | "=" => return .whole 60
    | "[" => return .whole 0
    | "~" => return .text "STDOUT"
    | "^" => return .text "STDOUT_TOP"
    | ":" => return .text " \n-"
    | "<" => return .whole 0
    | ">" => return .whole 0
    | "(" => return .text "0 0"
    | ")" => return .text "0 0"
    | short => match <- matchValue? short with
      | some value => return value
      | none => sharedValue name

def heldValue (holder : Holder) : Machine Value := do
  match holder with
  | .own _ => cellAt (<- addressOf .cell holder)
  | .shared name => sharedCell name

def tellMatch : Expression -> Machine Unit
  | .named .row (.shared "main::-") => do
    fillRow (<- sharedAddress .row "main::-") (<- groupPlaces true)
  | .named .row (.shared "main::+") => do
    fillRow (<- sharedAddress .row "main::+") (<- groupPlaces false)
  | .named .table (.shared "main::+") => do
    let entries <- (<- namedGroups).mapM fun (name, value) => do return (name, <- newCell value)
    changeTable (<- sharedAddress .table "main::+") (fun _ => .ofList entries)
  | _ => return ()

/-! ## Going through lists -/

def ordered (isBehind : Nat -> Nat -> Machine Bool) : Nat -> List Nat -> Machine (List Nat)
  | 0, cells => return cells
  | limit + 1, cells => do
    match cells with
    | [] => return []
    | [cell] => return [cell]
    | cells =>
      let half := cells.length / 2
      let left <- ordered isBehind limit (cells.take half)
      merge (cells.length + 1) left (<- ordered isBehind limit (cells.drop half)) []
where
  merge : Nat -> List Nat -> List Nat -> List Nat -> Machine (List Nat)
    | 0, left, right, done => return done.reverse ++ left ++ right
    | _, [], right, done => return done.reverse ++ right
    | _, left, [], done => return done.reverse ++ left
    | limit + 1, first :: left, second :: right, done => do
      if <- isBehind first second then merge limit (first :: left) right (second :: done)
      else merge limit left (second :: right) (first :: done)

def sorted (judge : Option Expression) (cells : List Nat) : Machine (List Nat) := do
  match judge with
  | none =>
    let texts <- cells.mapM fun cell => do return (<- textBy engine (<- cellAt cell), cell)
    return (texts.mergeSort (fun left right => left.1 <= right.1)).map Prod.snd
  | some judge =>
    let package := (<- get).package
    let left := s!"${package}::a"
    let right := s!"${package}::b"
    let isBehind (first second : Nat) : Machine Bool := do
      modify fun state => { state with
        globals := (state.globals.insert left first).insert right second }
      return 0 < (<- engine.value judge).int
    let unset <- newCell .undefined
    withNames [(left, unset), (right, unset)] (ordered isBehind (cells.length + 1) cells)

def gathered (gathering : Gathering) (judge : Option Expression) (inside : Expression) :
    Machine (List Value) := do
  let cells <- engine.cells inside
  match gathering, judge with
  | .sort, judge => do (<- sorted engine judge cells).mapM cellAt
  | .map, some judge => do
    let found <- withUsual 0 <| cells.mapM fun cell => do
      modify fun state => { state with globals := state.globals.insert "$main::_" cell }
      enclosed (engine.values judge)
    return found.flatten
  | .select, some judge => do
    let kept <- withUsual 0 <| cells.filterM fun cell => do
      modify fun state => { state with globals := state.globals.insert "$main::_" cell }
      enclosed (holdsIn engine judge)
    kept.mapM cellAt
  | _, none => cells.mapM cellAt

/-! ## Saying -/

def sayingHandle (stream : Option Expression) : Machine (Option Nat) := do
  match stream with
  | none => return some (<- get).selected
  | some stream => handleOf? (<- engine.value stream)

def tellValues (saying : Saying) (stream : Option Expression) (parts : List Expression) :
    Machine Value := do
  let values <-
    if parts.isEmpty then do pure [<- sharedValue "main::_"]
    else do pure (<- parts.mapM engine.values).flatten
  let handle? <- sayingHandle engine stream
  let text <-
    match saying with
    | .form => inForm (<- textBy engine (values.headD .undefined)) (values.drop 1)
    | saying => do
      let texts <- values.mapM (textBy engine)
      let between <- textOf (<- sharedValue "main::,")
      let ending <- textOf (<- sharedValue "main::\\")
      let line := if saying = .line then "\n" else ""
      pure (between.intercalate texts ++ line ++ ending)
  let operation := match saying with
    | .plain => "print"
    | .line => "say"
    | .form => "printf"
  match handle? with
  | some handle => return truthValue (<- sayTo handle operation text)
  | none => return truthValue false

def readingHandle (stream : Expression) : Machine (Option Nat) := do
  match stream with
  | .constant (.text "ARGV") => return some operandHandle
  | .constant (.text "STDIN") => return some inputHandle
  | stream => handleOf? (<- engine.value stream)

/-! ## Trials -/

def tried (work : Machine (List Value)) : Machine (List Value) := do
  let values <- tryCatch
    (do
      let values <- work
      setShared "main::@" (.text "")
      return values)
    fun interrupt => do
      match interrupt with
      | .fault value =>
        setShared "main::@" value
        return [.undefined]
      | interrupt => throw interrupt
  return values

def install (script : Script) : Machine Unit := do
  script.procedures.forM fun (name, body) => do
    let scope := (<- get).scope
    let code <- newCode (.written name body scope)
    modify fun state => { state with globals := state.globals.insert s!"&{name}" code }
  modify fun state => { state with
    names := max state.names script.names
    rangeCount := max state.rangeCount script.ranges
    isStrict := state.isStrict
    deferred := script.endings ++ state.deferred }

def runText (naming : Naming) (package text : String) (wish : Wish) : Machine (List Value) := do
  modify fun state => { state with trials := state.trials + 1 }
  let state <- get
  let file := s!"(eval {numberText state.trials})"
  let known := state.globals.toList.filterMap fun (key, _) =>
    if key.startsWith "&" then some (((key.splitOn "::").getLast?).getD "") else none
  let source : Source :=
    { text := text.toList.toArray
      file
      naming
      package
      names := state.names
      ranges := state.rangeCount
      known
      features := ["say"]
      isStrict := state.isStrict }
  match Script.ofSource source with
  | .error refusal => throw (.fault (.text refusal.message))
  | .ok script =>
    install script
    let before <- get
    modify ({ · with file })
    let back : Machine Unit := modify ({ · with file := before.file, line := before.line })
    let values <- tryCatch (enclosed (engine.body wish script.body)) fun interrupt => do
      back
      throw interrupt
    back
    return values

/-! ## One value -/

def lastValue (values : List Value) : Value := values.getLastD .undefined

def referenceTo (part : Expression) : Machine Value := do
  match part with
  | .named kind holder => match kind with
    | .cell => return .reference .cell (<- engine.place part)
    | .code => match holder with
      | .shared name => match <- codeNamed? name with
        | some address => return .reference .code address
        | none => return .reference .code (<- newCode (.given s!"&{name}"))
      | holder => return .reference .code (<- addressOf .code holder)
    | kind => return .reference kind (<- addressOf kind holder)
  | .followed kind reference => return .reference kind (<- follow engine kind reference true)
  | .declared stays false [(kind, number)] => return .reference kind (<- declare stays kind number)
  | .call code none => return .reference .code (<- codeIn engine code)
  | .localized (.named kind holder) =>
    let (_, address) <- localize engine (.named kind holder)
    return .reference kind address
  | .procedure _ => return .reference .cell (<- newCell (<- engine.value part))
  | .list [inside] => match inside with
    | .named .row holder =>
      return .reference .cell ((<- rowAt (<- addressOf .row holder)).toList.getLastD 0)
    | inside => return .reference .cell (<- engine.place inside)
  | part => return .reference .cell (<- newCellOrPlace part)
where
  newCellOrPlace (part : Expression) : Machine Nat := do
    if isPlace part then engine.place part else newCell (<- engine.value part)

def valueOf (expression : Expression) : Machine Value := do
  let value := engine.value
  match expression with
  | .constant value => return value
  | .joined parts => return .text (.join (<- parts.mapM (textIn engine)))
  | .listed inside =>
    let texts <- (<- engine.values inside).mapM (textBy engine)
    return .text ((<- textOf (<- sharedValue "main::\"")).intercalate texts)
  | .named .cell holder => heldValue holder
  | .named .row holder =>
    tellMatch expression
    return .whole (<- rowAt (<- addressOf .row holder)).size
  | .named .table holder =>
    tellMatch expression
    return .whole (<- tableAt (<- addressOf .table holder)).size
  | .named .code holder => return .reference .code (<- addressOf .code holder)
  | .named kind holder => return .reference kind (<- addressOf kind holder)
  | .followed kind reference =>
    let address <- follow engine kind reference false
    match kind with
    | .cell => cellAt address
    | .row => return .whole (<- rowAt address).size
    | .table => return .whole (<- tableAt address).size
    | kind => return .reference kind address
  | .item row index =>
    tellMatch row
    let row <- rowAt (<- container engine .row true row)
    match (placeInRow row.size (<- intIn engine index)).bind (row[·]?) with
    | some cell => cellAt cell
    | none => return .undefined
  | .entry table key =>
    tellMatch table
    let address <- container engine .table true table
    match (<- tableAt address).get? (<- keyIn engine key) with
    | some cell => cellAt cell
    | none => return .undefined
  | .lastPlace row =>
    tellMatch row
    return .whole (((<- rowAt (<- container engine .row true row)).size : Int) - 1)
  | .declared stays isList names => match isList, names with
    | false, [(.cell, number)] => cellAt (<- declare stays .cell number)
    | _, names =>
      names.forM fun (kind, number) => discard <| declare stays kind number
      return .undefined
  | .localized place => match place with
    | .list parts =>
      parts.forM (discard <| localize engine ·)
      return .undefined
    | place =>
      let (kind, address) <- localize engine place
      match kind with
      | .cell => cellAt address
      | _ => return .undefined
  | .list parts => match parts.reverse with
    | [] => return .undefined
    | last :: rest =>
      rest.reverse.forM engine.act
      value last
  | .assign place right =>
    if place.isListPlace then return .whole (<- assignList engine place right)
    else match place, right with
      | .declared true _ [(.cell, number)], right =>
        let isOld := (<- get).stays.contains number
        let cell <- declare true .cell number
        if !isOld then setCell cell (<- value right)
        cellAt cell
      | place, right =>
        let given <- value right
        store engine place given
        return given
  | .change operation place right => changePlace engine operation place right
  | .step amount isBefore place => stepPlace engine amount isBefore place
  | .minus part =>
    let given <- value part
    match <- ownResult? engine "neg" given .undefined with
    | some value => return value
    | none => match given with
      | .text octets => match octets.toList with
        | c :: rest =>
          if Reading.isNameStart c then return .text (.ofList ('-' :: c :: rest))
          else if c = '-' && (rest.head?).any Reading.isNameStart then
            return .text (.ofList ('+' :: rest))
          else computed engine "-" (.whole 0) given
        | [] => return .whole 0
      | .real size => return .real (-size)
      | given => computed engine "-" (.whole 0) given
  | .opposite part => return truthValue !(<- holdsIn engine part)
  | .complement part =>
    return .whole ((Text.wordBound : Int) - 1 - (<- value part).int % Text.wordBound)
  | .reference part => match part with
    | .list parts => return lastValue (<- parts.mapM (referenceTo engine))
    | part => referenceTo engine part
  | .compute operation left right => computed engine operation (<- value left) (<- value right)
  | .compare operation left right => compared engine operation (<- value left) (<- value right)
  | .both left right =>
    let first <- value left
    if <- isTrue first then value right else return first
  | .either left right =>
    let first <- value left
    if <- isTrue first then return first else value right
  | .unlessDefined left right =>
    let first <- value left
    if first.isDefined then return first else value right
  | .exclusive left right => return truthValue ((<- holdsIn engine left) != (<- holdsIn engine right))
  | .choose test first second => if <- holdsIn engine test then value first else value second
  | .range number isLong first last => rangeTest engine number isLong first last
  | .repeated isList left right =>
    let count := (<- value right).int.toNat
    let text <-
      if isList then do
        match left with
        | .list [inside] => textIn engine inside
        | left => textIn engine left
      else textIn engine left
    return .text (.join (List.replicate count text))
  | .matching isOpposite subject work =>
    return lastValue (<- matchedIn engine .one isOpposite subject work)
  | .search pattern flags =>
    return lastValue (<- searchIn engine .one false usualPlace pattern flags)
  | .replace pattern new flags => replaceIn engine usualPlace pattern new flags
  | .translate old new flags => translateIn engine usualPlace old new flags
  | .patternOf pattern flags => patternValue engine pattern flags
  | .function name arguments =>
    if let argument :: _ := arguments then tellMatch argument
    return lastValue (<- callFunction engine name .one arguments)
  | .call code arguments => return lastValue (<- called engine .one code arguments)
  | .method object name _ arguments =>
    return lastValue (<- methodIn engine .one object name arguments)
  | .procedure body =>
    let scope := (<- get).scope
    let package := (<- get).package
    return .reference .code (<- newCode (.written s!"{package}::__ANON__" body scope))
  | .newRow parts => rowOfValues (<- parts.mapM engine.values).flatten
  | .newTable parts =>
    let address <- newTable {}
    fillTable engine address (<- parts.mapM engine.values).flatten
    return .reference .table address
  | .readLine stream => match <- readingHandle engine stream with
    | none => return .undefined
    | some handle => match <- recordOf handle with
      | some record => return .text record
      | none => return .undefined
  | .filesLike pattern =>
    let text <- textIn engine pattern
    let mark := 2000000000 + text.hash.toNat % 1000000
    let left <- match (<- get).steps[mark]? with
      | some left => pure left
      | none => filesLike text
    match left with
    | [] =>
      modify fun state => { state with steps := state.steps.erase mark }
      return .undefined
    | name :: rest =>
      modify fun state => { state with steps := state.steps.insert mark rest }
      return .text name
  | .perform body => return lastValue (<- enclosed (engine.body .one body))
  | .trial body => return lastValue (<- tried (enclosed (engine.body .one body)))
  | .trialOf naming package code =>
    let text <- textIn engine code
    return lastValue (<- tried (runText engine naming package text .one))
  | .fileTest letter file => match <- value file with
    | .reference .stream address =>
      let stream := ((<- handleAt address).stream).getD 0
      fileTest letter s!"/dev/fd/{numberText stream}"
    | .text "STDIN" => fileTest letter "/dev/fd/0"
    | given => fileTest letter (<- textBy engine given)
  | .gather gathering judge inside =>
    return .whole (<- gathered engine gathering judge inside).length
  | .tell saying stream parts => tellValues engine saying stream parts
  | .jump jump label => match jump with
    | .leave => throw (.leave label)
    | .again => throw (.again label)
    | .anew => throw (.anew label)
  | .giveBack none => throw (.giveBack [])
  | .giveBack (some result) => match (<- get).wish with
    | .all => throw (.giveBack (<- engine.values result))
    | .one => throw (.giveBack [<- value result])
    | .nothing =>
      engine.act result
      throw (.giveBack [])
  | .items _ _ => return lastValue (<- engine.values expression)
  | .entries _ _ => return lastValue (<- engine.values expression)
  | .pairs _ _ _ => return lastValue (<- engine.values expression)
  | .portion _ _ => return lastValue (<- engine.values expression)

/-! ## All values -/

def valuesOfExpression (expression : Expression) : Machine (List Value) := do
  let values := engine.values
  match expression with
  | .named .row holder =>
    tellMatch expression
    rowValues (<- addressOf .row holder)
  | .named .table holder =>
    tellMatch expression
    flattened (<- addressOf .table holder)
  | .followed .row reference => rowValues (<- follow engine .row reference false)
  | .followed .table reference => flattened (<- follow engine .table reference false)
  | .list parts => return (<- parts.mapM values).flatten
  | .items row indices =>
    tellMatch row
    let items <- rowAt (<- container engine .row true row)
    (<- values indices).mapM fun index => do
      match (placeInRow items.size index.int).bind (items[·]?) with
      | some cell => cellAt cell
      | none => return .undefined
  | .entries table keys =>
    tellMatch table
    let address <- container engine .table true table
    (<- values keys).mapM fun key => do
      match (<- tableAt address).get? (<- textBy engine key) with
      | some cell => cellAt cell
      | none => return .undefined
  | .pairs isRow place keys =>
    let found <- (<- values keys).mapM fun key => do
      let value <-
        if isRow then engine.value (.item place (.constant key))
        else engine.value (.entry place (.constant key))
      return [key, value]
    return found.flatten
  | .portion inside indices =>
    let all := (<- values inside).toArray
    if all.isEmpty then return []
    else
      (<- values indices).mapM fun index =>
        return ((placeInRow all.size index.int).bind (all[·]?)).getD .undefined
  | .declared stays _ names => do
    let found <- names.mapM fun (kind, number) => do
      let address <- declare stays kind number
      match kind with
      | .cell => return [<- cellAt address]
      | .row => rowValues address
      | _ => return []
    return found.flatten
  | .localized (.named .row holder) => do
    discard <| localize engine (.named .row holder)
    return []
  | .localized (.named .table holder) => do
    discard <| localize engine (.named .table holder)
    return []
  | .assign place right =>
    if place.isListPlace then
      discard <| assignList engine place right
      values (assignedPlaces place)
    else return [<- engine.value expression]
  | .choose test first second => if <- holdsIn engine test then values first else values second
  | .both left right =>
    let first <- engine.value left
    if <- isTrue first then values right else return [first]
  | .either left right =>
    let first <- engine.value left
    if <- isTrue first then return [first] else values right
  | .unlessDefined left right =>
    let first <- engine.value left
    if first.isDefined then return [first] else values right
  | .range _ _ first last => rangeValues (<- engine.value first) (<- engine.value last)
  | .repeated true left right =>
    let all <- values left
    let count := (<- engine.value right).int.toNat
    return (List.replicate count all).flatten
  | .reference part => match part with
    | .list parts =>
      let found <- parts.mapM fun part => do
        match part with
        | .named .row holder =>
          return (<- rowAt (<- addressOf .row holder)).toList.map (.reference .cell)
        | part => return [<- referenceTo engine part]
      return found.flatten
    | .declared stays true names =>
      names.mapM fun (kind, number) => do return .reference kind (<- declare stays kind number)
    | part => return [<- referenceTo engine part]
  | .matching isOpposite subject work => matchedIn engine .all isOpposite subject work
  | .search pattern flags => searchIn engine .all false usualPlace pattern flags
  | .function name arguments =>
    if let argument :: _ := arguments then tellMatch argument
    callFunction engine name .all arguments
  | .call code arguments => called engine .all code arguments
  | .method object name _ arguments => methodIn engine .all object name arguments
  | .readLine stream => match <- readingHandle engine stream with
    | none => return []
    | some handle => return (<- recordsOf handle mostWaits []).map .text
  | .filesLike pattern => return (<- filesLike (<- textIn engine pattern)).map .text
  | .perform body => enclosed (engine.body .all body)
  | .trial body =>
    let found <- tried (enclosed (engine.body .all body))
    return if found.length = 1 && !(found.headD .undefined).isDefined &&
      (<- isTrue (<- sharedValue "main::@")) then [] else found
  | .trialOf naming package code =>
    tried (runText engine naming package (<- textIn engine code) .all)
  | .gather gathering judge inside => gathered engine gathering judge inside
  | expression => return [<- engine.value expression]
where
  flattened (address : Nat) : Machine (List Value) := do
    return (<- tablePairs address).flatMap fun (key, value) => [.text key, value]

/-! ## No value -/

def actOf (expression : Expression) : Machine Unit := do
  match expression with
  | .call code arguments => discard <| called engine .nothing code arguments
  | .method object name _ arguments => discard <| methodIn engine .nothing object name arguments
  | .both test work => if <- holdsIn engine test then engine.act work
  | .either test work => if !(<- holdsIn engine test) then engine.act work
  | .choose test first second =>
    if <- holdsIn engine test then engine.act first else engine.act second
  | .list parts => parts.forM engine.act
  | .perform body => discard <| enclosed (engine.body .nothing body)
  | .trial body => discard <| tried (enclosed (engine.body .nothing body))
  | .gather .map judge inside => discard <| gathered engine .map judge inside
  | expression => discard <| engine.value expression

end

end BaseLanguage.Shell.Extraction
