import BaseLanguage.Shell.Utility.Records.Reader
import BaseLanguage.Shell.Utility.Records.Traffic

namespace BaseLanguage
namespace Shell
namespace Records

/-!
# Running programs on records

The rules of a program are gone through for each record of the input, in their order.  Loops and
calls are bounded, so that every program comes to an end.
-/

/-! ## Numbers -/

def partsOfFloat (value : Float) : Nat × Int :=
  let bits := value.toBits.toNat
  let exponent := bits / Nat.pow 2 52 % 2048
  let places := bits % Nat.pow 2 52
  if exponent = 0 then (places, -1074) else (places + Nat.pow 2 52, (exponent : Int) - 1075)

def remainderOf (left right : Float) : Float :=
  if left.isNaN || right.isNaN || left.isInf || right == 0 then 0.0 / 0.0
  else if right.isInf then left
  else
    let (first, firstUnit) := partsOfFloat left.abs
    let (second, secondUnit) := partsOfFloat right.abs
    let unit := min firstUnit secondUnit
    let rest := (first * Nat.pow 2 (firstUnit - unit).toNat) %
      (second * Nat.pow 2 (secondUnit - unit).toNat)
    let size := (Float.ofNat rest).scaleB unit
    if left < 0 then -size else size

def Operation.apply (operation : Operation) (left right : Float) : Float := match operation with
  | .add => left + right
  | .subtract => left - right
  | .multiply => left * right
  | .divide => left / right
  | .remainder => remainderOf left right
  | .power => left.pow right

def Comparison.accepts (comparison : Comparison) (order : Option Ordering) : Bool :=
  match comparison, order with
  | .less, some .lt => true
  | .notGreater, some .lt => true
  | .notGreater, some .eq => true
  | .same, some .eq => true
  | .different, some .eq => false
  | .different, _ => true
  | .greater, some .gt => true
  | .notLess, some .gt => true
  | .notLess, some .eq => true
  | _, _ => false

def truncated (value : Float) : Float := if value < 0 then value.ceil else value.floor

def partOf (octets : String) (first : Float) (length : Option Float) : String :=
  let count := octets.length
  let size := Float.ofNat count
  let (first, most) : Float × Float :=
    if first < 1 then (1, (length.map (· + (first - 1))).getD size) else (first, length.getD size)
  if first.isNaN || most.isNaN || size < first || most < 1 then ""
  else
    let start := (truncated first).toUInt64.toNat - 1
    let most := if size < most then count else (truncated most).toUInt64.toNat
    .ofList ((octets.toList.drop start).take most)

def placeIn (octets part : String) : Nat :=
  let part := part.toList
  let rec go (place : Nat) (text : Chars) : Nat :=
    if part.isPrefixOf text then place
    else match text with
      | [] => 0
      | _ :: rest => go (place + 1) rest
  if part.isEmpty then 1 else go 1 octets.toList

def momentOf (octets : String) : Float :=
  let numbers := (partsAtBlanks Text.isSpace octets.toList).map
    (fun part => wholeOf (numberIn (.ofList part)))
  match numbers with
  | year :: month :: day :: hour :: minute :: second :: _ =>
    let months := year * 12 + (month - 1)
    let first : Date := ⟨months / 12, (months % 12).toNat + 1, 1⟩
    let days := first.dayNumber + (day - 1)
    Float.ofInt (days * 86400 + hour * 3600 + minute * 60 + second)
  | _ => -1

def usualDateForm : String := "%c"

section

variable (manner : Manner)

def matchIn (octets : String) (matcher : Matcher) : Machine Cell := do
  let (start, length) : Float × Float := match matcher.find? octets with
    | some found => (Float.ofNat (found.start + 1), Float.ofNat (found.ending - found.start))
    | none => (0, -1)
  setGlobal "RSTART" (.cell (.number start))
  setGlobal "RLENGTH" (.cell (.number length))
  return .number start

def drawNumber : Machine Cell := do
  let (value, chance) := (<- get).chance.draw
  modify ({ · with chance })
  return .number value

def beginNumbers (seed : Cell) : Machine Cell := do
  let before := (<- get).seed
  let chance := .ofSeed (wholeOf seed.value % 4294967296).toNat.toUInt32
  modify ({ · with seed, chance })
  return before

def presentMoment : Machine Timestamp := do return (<- liftM (m := Act) get).files.clock

def runCommand (command : String) : Machine Cell := do
  flushAll
  return .number (Float.ofNat (<- awaitWork (manner.services.start "/bin/sh" "sh" ["-c", command])))

def flushNamed (name : String) : Machine Cell := do
  if name.isEmpty || name = "/dev/stdout" then
    flushAll
    return .number 0
  else if (<- get).sinks.any (·.name = name) then
    flushAll
    return .number 0
  else return .number (-1)

def callBuiltIn (name : String) (cells : List Cell) : Machine Cell := do
  let ofNumber (change : Float -> Float) : Machine Cell :=
    return .number (change ((cells.headD .unset).value))
  match name, cells with
  | "length", [] => return .number (Float.ofNat (<- textOf (<- recordCell)).length)
  | "length", cell :: _ => return .number (Float.ofNat (<- textOf cell).length)
  | "index", [whole, part] =>
    return .number (Float.ofNat (placeIn (<- textOf whole) (<- textOf part)))
  | "substr", [cell, first] => return .text (partOf (<- textOf cell) first.value none)
  | "substr", [cell, first, length] =>
    return .text (partOf (<- textOf cell) first.value (some length.value))
  | "sprintf", form :: cells => do
    let form <- textOf form
    match inForm (<- usualFormNow) form cells with
    | (said, none) => return .text said
    | (_, some fault) => runFault (fault.message "sprintf" form)
  | "sin", _ => ofNumber Float.sin
  | "cos", _ => ofNumber Float.cos
  | "atan2", [left, right] => return .number (Float.atan2 left.value right.value)
  | "exp", _ => ofNumber Float.exp
  | "log", _ => ofNumber Float.log
  | "sqrt", _ => ofNumber Float.sqrt
  | "int", _ => ofNumber truncated
  | "rand", _ => drawNumber
  | "srand", [] => beginNumbers (.number (Float.ofInt (<- presentMoment).seconds))
  | "srand", seed :: _ => beginNumbers seed
  | "close", cell :: _ => return .number (Float.ofInt (<- closeNamed (<- textOf cell)))
  | "system", cell :: _ => runCommand manner (<- textOf cell)
  | "toupper", cell :: _ => return .text ((<- textOf cell).map Char.toUpper)
  | "tolower", cell :: _ => return .text ((<- textOf cell).map Char.toLower)
  | "fflush", [] => flushNamed ""
  | "fflush", cell :: _ => flushNamed (<- textOf cell)
  | "systime", _ => return .number (Float.ofInt (<- presentMoment).seconds)
  | "mktime", cell :: _ => return .number (momentOf (<- textOf cell))
  | "strftime", [] => return .text (dateText usualDateForm (<- presentMoment))
  | "strftime", [form] => return .text (dateText (<- textOf form) (<- presentMoment))
  | "strftime", form :: time :: _ => return .text (dateText (<- textOf form) ⟨wholeOf time.value, 0⟩)
  | _, _ => return .unset

def joinedKey (cells : List Cell) : Machine Key := do
  match cells with
  | [cell] => keyOf cell
  | cells => return .text ((<- globalText "SUBSEP").intercalate (<- cells.mapM textOf))

def handOn (holder : Holder) : Machine Slot := do
  match <- slotOf holder with
  | .vacant => match holder with
    | .everywhere name =>
      if ownNames.contains name then return .cell (<- readGlobal name) else promise
    | .inside _ => promise
  | .cell cell => match holder with
    | .everywhere name => return .cell (<- if name = "NF" then readGlobal name else pure cell)
    | .inside _ => return .cell cell
  | slot => return slot
where
  promise : Machine Slot := do
    let number <- newTable
    setSlot holder (.promised number)
    return .promised number

def deliver (write : Place -> Cell -> Machine Unit) (target : Option Place) (octets : String) :
    Machine Unit := do
  match target with
  | some place => write place (.read octets)
  | none => setRecord (.read octets)

/-! ## Loops -/

def goesOn (body : Machine Unit) : Machine Bool :=
  tryCatch
    (do
      body
      return true)
    fun interrupt => do
      match interrupt with
      | .leave => return false
      | .again => return true
      | interrupt => throw interrupt

def loopWhile : Nat -> Machine Bool -> Machine Unit -> Machine Unit -> Machine Unit
  | 0, _, _, _ => runFault "program limit exceeded"
  | limit + 1, holds, body, onward => do
    if <- holds then
      if <- goesOn body then
        onward
        loopWhile limit holds body onward

def loopKeys (keys : List String) (give : String -> Machine Unit) (body : Machine Unit) :
    Machine Unit := do
  match keys with
  | [] => return ()
  | key :: rest =>
    give key
    if <- goesOn body then loopKeys rest give body

/-! ## Expressions and statements -/

mutual

def evaluate : Nat -> Expression -> Machine Cell
  | 0, _ => runFault "function call nesting too deep"
  | limit + 1, expression => do
    match expression with
    | .number value => return .number value
    | .text octets => return .text octets
    | .pattern matcher => return truth (matcher.accepts (<- textOf (<- recordCell)))
    | .group inside => evaluate limit inside
    | .read place => readPlace limit place
    | .assign place value =>
      let cell <- evaluate limit value
      writePlace limit place cell
      return cell
    | .change place operation value =>
      let right <- evaluate limit value
      let cell := .number (operation.apply (<- readPlace limit place).value right.value)
      writePlace limit place cell
      return cell
    | .step place amount isBefore =>
      let before := (<- readPlace limit place).value
      writePlace limit place (.number (before + amount))
      return .number (if isBefore then before + amount else before)
    | .plus part => return .number (<- evaluate limit part).value
    | .minus part => return .number (-(<- evaluate limit part).value)
    | .opposite part => return truth (!(<- evaluate limit part).holds)
    | .compute operation left right =>
      let left <- evaluate limit left
      return .number (operation.apply left.value (<- evaluate limit right).value)
    | .compare comparison left right =>
      let left <- evaluate limit left
      let right <- evaluate limit right
      return truth (comparison.accepts (left.order (<- usualFormNow) right))
    | .join left right =>
      return .text ((<- textOf (<- evaluate limit left)) ++ (<- textOf (<- evaluate limit right)))
    | .both left right =>
      if (<- evaluate limit left).holds then return truth (<- evaluate limit right).holds
      else return truth false
    | .either left right =>
      if (<- evaluate limit left).holds then return truth true
      else return truth (<- evaluate limit right).holds
    | .choose test first second =>
      if (<- evaluate limit test).holds then evaluate limit first else evaluate limit second
    | .matching isOpposite subject pattern =>
      let octets <- textOf (<- evaluate limit subject)
      return truth ((<- matcherFor limit pattern).accepts octets != isOpposite)
    | .isKey keys table =>
      let key <- joinedKey (<- evaluateAll limit keys)
      let number <- tableNumber table
      let isThere := (<- tableAt number).has key
      changeTable number (·.look key)
      return truth isThere
    | .sizeOf holder => match <- slotOf holder with
      | .table number => return .number (Float.ofNat (<- tableAt number).size)
      | .promised number => return .number (Float.ofNat (<- tableAt number).size)
      | _ => callBuiltIn manner "length" [<- readPlace limit (.name holder)]
    | .builtIn "match" arguments => match arguments with
      | subject :: pattern :: _ =>
        matchIn (<- textOf (<- evaluate limit subject)) (<- matcherFor limit pattern)
      | _ => return .unset
    | .builtIn name arguments => callBuiltIn manner name (<- evaluateAll limit arguments)
    | .split subject table separator =>
      let octets <- textOf (<- evaluate limit subject)
      let separator <-
        match separator with
        | none => separatorNow (<- globalText "FS")
        | some (.pattern matcher) => pure (.pattern matcher)
        | some expression => separatorNow (<- textOf (<- evaluate limit expression))
      let number <- tableNumber table
      let parts := separator.parts octets
      changeTable number (fun _ => .ofRow (parts.map .read))
      return .number (Float.ofNat parts.length)
    | .replace everywhere pattern new place =>
      let matcher <- matcherFor limit pattern
      let new <- textOf (<- evaluate limit new)
      let (said, count) := matcher.replace (!everywhere) new (<- textOf (<- readPlace limit place))
      if count ≠ 0 then writePlace limit place (.text said)
      return .number (Float.ofNat count)
    | .call name arguments => call limit name arguments
    | .nextRecord target => match <- nextOfMain mostWaits with
      | none => return .number 0
      | some octets =>
        countUp "NR"
        countUp "FNR"
        deliver (writePlace limit) target octets
        return .number 1
    | .nextOfFile name target =>
      let name <- textOf (<- evaluate limit name)
      match <- nextFrom manner false name with
      | none => return .number (-1)
      | some none => return .number 0
      | some (some octets) =>
        deliver (writePlace limit) target octets
        return .number 1
    | .nextOfCommand command target =>
      let command <- textOf (<- evaluate limit command)
      match <- nextFrom manner true command with
      | none => return .number (-1)
      | some none => return .number 0
      | some (some octets) =>
        deliver (writePlace limit) target octets
        return .number 1

def evaluateAll : Nat -> List Expression -> Machine (List Cell)
  | 0, _ => return []
  | _, [] => return []
  | limit + 1, expression :: rest => do
    let cell <- evaluate limit expression
    return cell :: (<- evaluateAll limit rest)

def matcherFor : Nat -> Expression -> Machine Matcher
  | 0, _ => runFault "function call nesting too deep"
  | limit + 1, expression => do
    match expression with
    | .pattern matcher => return matcher
    | .group (.pattern matcher) => return matcher
    | expression => matcherNow (<- textOf (<- evaluate limit expression))

def readPlace : Nat -> Place -> Machine Cell
  | 0, _ => runFault "function call nesting too deep"
  | limit + 1, place => do
    match place with
    | .name (.everywhere name) => readGlobal name
    | .name holder => match <- slotOf holder with
      | .cell cell => return cell
      | .table _ => runFault "type error: an array is used as a scalar"
      | _ => return .unset
    | .element table keys =>
      let key <- joinedKey (<- evaluateAll limit keys)
      readElement (<- tableNumber table) key
    | .field number => fieldCell (wholeOf (<- evaluate limit number).value)

def writePlace : Nat -> Place -> Cell -> Machine Unit
  | 0, _, _ => runFault "function call nesting too deep"
  | limit + 1, place, cell => do
    match place with
    | .name (.everywhere name) => writeGlobal name cell
    | .name holder => setSlot holder (.cell cell)
    | .element table keys =>
      let key <- joinedKey (<- evaluateAll limit keys)
      writeElement (<- tableNumber table) key cell
    | .field number => setField (wholeOf (<- evaluate limit number).value) cell

def argumentSlot : Nat -> Expression -> Machine Slot
  | 0, _ => runFault "function call nesting too deep"
  | limit + 1, expression => do
    match expression with
    | .read (.name holder) => handOn holder
    | expression => return .cell (<- evaluate limit expression)

def argumentSlots : Nat -> List Expression -> Machine (List Slot)
  | 0, _ => return []
  | _, [] => return []
  | limit + 1, expression :: rest => do
    let slot <- argumentSlot limit expression
    return slot :: (<- argumentSlots limit rest)

def call : Nat -> String -> List Expression -> Machine Cell
  | 0, _, _ => runFault "function call nesting too deep"
  | limit + 1, name, arguments => do
    match manner.script.procedures.find? (·.name = name) with
    | none => runFault s!"function {name} never defined"
    | some procedure =>
      let slots <- argumentSlots limit arguments
      let missing := procedure.parameters.length - slots.length
      let before := (<- get).frame
      modify ({ · with frame := slots.toArray ++ Array.replicate missing .vacant })
      let result <-
        tryCatch
          (do
            execute limit procedure.body
            return .unset)
          fun interrupt => do
            match interrupt with
            | .giveBack cell => return cell
            | interrupt => throw interrupt
      modify ({ · with frame := before })
      return result

def execute : Nat -> Statement -> Machine Unit
  | 0, _ => runFault "function call nesting too deep"
  | limit + 1, statement => do
    match statement with
    | .nothing => return ()
    | .evaluate value => discard <| evaluate limit value
    | .say [] none => sayText ((<- textOf (<- recordCell)) ++ (<- globalText "ORS"))
    | .say parts outlet =>
      let octets <-
        if parts.isEmpty then textOf (<- recordCell)
        else do
          let form := (<- global "OFMT").textBy usualForm
          let texts := (<- evaluateAll limit parts).map (Cell.textBy form)
          pure ((<- globalText "OFS").intercalate texts)
      sayTo limit outlet (octets ++ (<- globalText "ORS"))
    | .sayBy parts outlet => match <- evaluateAll limit parts with
      | [] => return ()
      | form :: cells =>
        let form <- textOf form
        let (said, fault) := inForm (<- usualFormNow) form cells
        sayTo limit outlet said
        match fault with
        | some fault => runFault (fault.message "printf" form)
        | none => return ()
    | .block inside => executeAll limit inside
    | .choose test first second =>
      if (<- evaluate limit test).holds then execute limit first else execute limit second
    | .whileHolds test body =>
      loopWhile limit (return (<- evaluate limit test).holds) (execute limit body) (return ())
    | .repeatWhile body test =>
      if <- goesOn (execute limit body) then
        loopWhile limit (return (<- evaluate limit test).holds) (execute limit body) (return ())
    | .count first test next body =>
      match first with
      | some first => discard <| evaluate limit first
      | none => pure ()
      let holds : Machine Bool := match test with
        | some test => return (<- evaluate limit test).holds
        | none => return true
      let onward : Machine Unit := match next with
        | some next => discard <| evaluate limit next
        | none => return ()
      loopWhile limit holds (execute limit body) onward
    | .forKeys target table body =>
      let number <- tableNumber table
      let (keys, table) := (<- tableAt number).keys
      changeTable number (fun _ => table)
      loopKeys keys (fun key => writePlace limit (.name target) (.text key)) (execute limit body)
    | .leave => throw .leave
    | .again => throw .again
    | .nextRecord => throw .nextRecord
    | .nextFile => throw .nextFile
    | .exit status =>
      match status with
      | some status =>
        let cell <- evaluate limit status
        modify ({ · with status := (wholeOf cell.value % 256).toNat })
      | none => pure ()
      throw .exit
    | .giveBack none => throw (.giveBack .unset)
    | .giveBack (some value) => throw (.giveBack (<- evaluate limit value))
    | .erase table keys =>
      let key <- joinedKey (<- evaluateAll limit keys)
      changeTable (<- tableNumber table) (·.erase key)
    | .eraseAll table => changeTable (<- tableNumber table) (fun _ => {})

def executeAll : Nat -> List Statement -> Machine Unit
  | 0, _ => return ()
  | _, [] => return ()
  | limit + 1, statement :: rest => do
    execute limit statement
    executeAll limit rest

def sayTo : Nat -> Option (Outlet × Expression) -> String -> Machine Unit
  | 0, _, _ => return ()
  | limit + 1, outlet, octets => do
    match outlet with
    | none => sayText octets
    | some (outlet, name) => sayAt manner outlet (<- textOf (<- evaluate limit name)) octets

end

/-! ## Rules -/

def mostSteps : Nat := 1000000000

def isHere (occasion : Occasion) : Machine Bool := do
  match occasion with
  | .always => return true
  | .when test => return (<- evaluate manner mostSteps test).holds
  | .fromTo number first last =>
    let hasBegun := (<- get).begun.contains number
    let begins <- if hasBegun then pure true else pure (<- evaluate manner mostSteps first).holds
    if begins then
      let ends := (<- evaluate manner mostSteps last).holds
      modify fun state =>
        let others := state.begun.filter (· != number)
        { state with begun := if ends then others else number :: others }
    return begins
  | _ => return false

def applyRules (rules : List Rule) : Machine Unit :=
  rules.forM fun rule => do
    if <- isHere manner rule.occasion then execute manner mostSteps (rule.body.getD (.say [] none))

def applyToAll (rules : List Rule) : Nat -> Machine Unit
  | 0 => return ()
  | limit + 1 => do
    let some octets <- nextOfMain mostWaits | return ()
    countUp "NR"
    countUp "FNR"
    setRecord (.read octets)
    tryCatch (applyRules manner rules) fun interrupt => do
      match interrupt with
      | .nextRecord => return ()
      | .nextFile => skipFile
      | interrupt => throw interrupt
    applyToAll rules limit

def applyOccasion (isMeant : Occasion -> Bool) : Machine Unit :=
  (manner.script.rules.filter (isMeant ·.occasion)).forM fun rule =>
    match rule.body with
    | some body => execute manner mostSteps body
    | none => return ()

def isStart : Occasion -> Bool
  | .start => true
  | _ => false

def isEnding : Occasion -> Bool
  | .ending => true
  | _ => false

def runScript : Machine Unit := do
  let rules := manner.script.rules
  let main := rules.filter fun rule => !isStart rule.occasion && !isEnding rule.occasion
  let untilExit (work : Machine Unit) : Machine Bool :=
    tryCatch
      (do
        work
        return true)
      fun interrupt => do
        match interrupt with
        | .exit => return false
        | interrupt => throw interrupt
  let first : Machine Unit := do
    applyOccasion manner isStart
    if !main.isEmpty || rules.any (isEnding ·.occasion) then applyToAll manner main mostWaits
  discard <| untilExit first
  discard <| untilExit (applyOccasion manner isEnding)

end

/-! ## Calls -/

def firstGlobals : List (String × Cell) :=
  [("NR", .number 0), ("FNR", .number 0), ("FS", .text " "), ("OFS", .text " "),
    ("ORS", .text "\n"), ("RS", .text "\n"), ("FILENAME", .text ""),
    ("SUBSEP", .text "\x1c"), ("RSTART", .number 0), ("RLENGTH", .number (-1)),
    ("CONVFMT", .text usualForm), ("OFMT", .text usualForm)]

def firstState (arguments : List String) (environment : List (String × String)) : State :=
  let row (cells : List (Key × Cell)) : Table :=
    cells.foldl (fun table (key, cell) => (table.touch key).put key cell) {}
  let operands := row (arguments.zipIdx.map fun (argument, index) => (.whole index, .read argument))
  let told := row (environment.map fun (name, octets) => (.text name, .read octets))
  let globals := (firstGlobals ++ [("ARGC", Cell.number (Float.ofNat arguments.length))]).foldl
    (fun (globals : Std.HashMap String Slot) (name, cell) => globals.insert name (.cell cell)) ∅
  { globals := (globals.insert "ARGV" (.table 0)).insert "ENVIRON" (.table 1)
    tables := #[operands, told]
    chance := .ofSeed 1 }

end Records

structure RecordsCall where
  files : List String := []
  assignments : List String := []
  separator : Option String := none
  arguments : List String := []

def RecordsCall.read (call : RecordsCall) : List String -> Except String RecordsCall
  | [] => .ok call
  | argument :: rest => match argument.toList with
    | ['-', '-'] => .ok { call with arguments := rest }
    | ['-'] => .ok { call with arguments := argument :: rest }
    | '-' :: letter :: value =>
      let use (call : RecordsCall) (value : String) : Except String RecordsCall := match letter with
        | 'f' => .ok { call with files := value :: call.files }
        | 'v' => .ok { call with assignments := value :: call.assignments }
        | 'F' => .ok { call with separator := some value }
        | _ => .ok call
      if letter = 'f' || letter = 'v' || letter = 'F' || letter = 'W' then
        match value, rest with
        | [], [] => .error s!"option -{String.singleton letter} lacks argument"
        | [], value :: rest => match use call value with
          | .ok call => call.read rest
          | .error fault => .error fault
        | value, rest => match use call (.ofList value) with
          | .ok call => call.read rest
          | .error fault => .error fault
      else .error s!"not an option: {argument}"
    | _ => .ok { call with arguments := argument :: rest }

def RecordsCall.text (call : RecordsCall) :
    Act (Except String (Option String × Chars × List String)) := do
  match call.files.reverse, call.arguments with
  | [], [] => return .error "no program"
  | [], text :: arguments => return .ok (none, text.toList, arguments)
  | names, arguments => do
    let read (name : String) : Act (Except String Chars) := do
      match <- readOperand name with
      | .ok bytes => return .ok (Text.octetsOf bytes)
      | .error fault => return .error s!"cannot open \"{name}\" ({fault})"
    let texts <- names.mapM read
    return (texts.mapM id).map fun texts =>
      (names.head?, (texts.map (· ++ ['\n'])).flatten.dropLast, arguments)

def recordsProgram : Program := fun services path arguments => do
  let program := ((path.splitOn "/").getLast?).getD path
  match RecordsCall.read {} arguments with
  | .error fault => complainWith misuse program fault
  | .ok call => match <- call.text with
    | .error "no program" => complainWith misuse program "no program"
    | .error fault => complainWith misuse program fault
    | .ok (file?, text, operands) => match Records.Script.ofText text with
      | .error fault =>
        let place := (file?.map (fun name => s!"{name}: ")).getD ""
        complainWith misuse program s!"{place}{fault}"
      | .ok script =>
        let manner : Records.Manner := { services, program, script }
        let settings := call.assignments.reverse.filterMap Records.assignmentOf?
        let work : Records.Machine Unit := do
          match call.separator with
          | some octets =>
            let octets := .ofList (Records.unescaped octets.toList)
            Records.setGlobal "FS" (.cell (.text octets))
          | none => pure ()
          settings.forM fun (name, octets) => Records.writeGlobal name (.read octets)
          Records.runScript manner
        let environment := (<- get).environment
        let begin := Records.firstState (program :: operands) environment
        let (outcome, state) <- (work.run.run begin)
        let place (name : String) : String := match state.globals.getD name .vacant with
          | .cell cell => cell.textBy Records.usualForm
          | _ => ""
        match outcome with
        | .error (.fault message) =>
          if message.startsWith "cannot open" || message.startsWith "read error" then
            discard <| complain program message
          else
            let file := place "FILENAME"
            let inFile := place "FNR"
            let inAll := place "NR"
            discard <| complain program
              (s!"run time error: {message}\n" ++ s!"\tFILENAME=\"{file}\" FNR={inFile} NR={inAll}")
          discard <| (Records.closeAll.run.run state)
          return misuse
        | _ =>
          let (_, state) <- (Records.closeAll.run.run state)
          return state.status

end Shell
end BaseLanguage
