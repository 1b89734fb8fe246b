import BaseLanguage.Shell.Utility.Extraction.Evaluation

namespace BaseLanguage

open Text
namespace Shell
namespace Extraction

/-!
# Running programs that take texts apart

Statements are done one after the other.  Loops and calls are bounded, so that every program comes to
an end.
-/

/-! ## Loops -/

def isMeant (label wanted : Option String) : Bool := wanted.isNone || wanted == label

def goesOn (label : Option String) (body : Machine Unit) : Nat -> Machine Bool
  | 0 => return false
  | limit + 1 =>
    tryCatch
      (do
        body
        return true)
      fun interrupt => do
        match interrupt with
        | .leave wanted => if isMeant label wanted then return false else throw interrupt
        | .again wanted => if isMeant label wanted then return true else throw interrupt
        | .anew wanted => if isMeant label wanted then goesOn label body limit else throw interrupt
        | interrupt => throw interrupt

def mostRounds : Nat := 1000000000

def loopWhile (label : Option String) (holds : Machine Bool) (body onward : Machine Unit) :
    Nat -> Machine Unit
  | 0 => return ()
  | limit + 1 => do
    if <- holds then
      if <- goesOn label body mostRounds then
        onward
        loopWhile label holds body onward limit

def loopCells (label : Option String) (give : Nat -> Machine Unit) (body onward : Machine Unit) :
    List Nat -> Machine Unit
  | [] => return ()
  | cell :: rest => do
    give cell
    if <- goesOn label body mostRounds then
      onward
      loopCells label give body onward rest

section

variable (engine : Engine)

/-! ## Statements -/

def setLine (line : Nat) : Machine Unit := modify ({ · with line })

def actAll (body : List Statement) : Machine Unit := do
  if !body.isEmpty then discard <| engine.body .nothing body

def runCompound (wish : Wish) (statement : Statement) : Machine (List Value) := do
  match statement with
  | .evaluate line value =>
    setLine line
    match wish with
    | .nothing =>
      engine.act value
      return []
    | .one => return [<- engine.value value]
    | .all => engine.values value
  | .block label body onward =>
    let values <- tryCatch (enclosed (engine.body wish body)) fun interrupt => do
      match interrupt with
      | .leave wanted => if isMeant label wanted then return [] else throw interrupt
      | .again wanted => if isMeant label wanted then return [] else throw interrupt
      | interrupt => throw interrupt
    actAll engine onward
    return values
  | .choose line cases otherwise => choose line cases otherwise
  | .whileHolds line label isOpposite test body onward =>
    let holds : Machine Bool := do
      setLine line
      return (<- holdsIn engine test) != isOpposite
    enclosed do
      loopWhile label holds (enclosed (actAll engine body)) (actAll engine onward) mostRounds
      return []
  | .repeatWhile line isOpposite body test =>
    let holds : Machine Bool := do
      setLine line
      return (<- holdsIn engine test) != isOpposite
    engine.act body
    loopWhile (some "") holds (engine.act body) (return ()) mostRounds
    return []
  | .count line label first test next body =>
    enclosed do
      setLine line
      match first with
      | some first => engine.act first
      | none => pure ()
      let holds : Machine Bool := match test with
        | some test => do
          setLine line
          holdsIn engine test
        | none => return true
      let onward : Machine Unit := match next with
        | some next => engine.act next
        | none => return ()
      loopWhile label holds (enclosed (actAll engine body)) onward mostRounds
      return []
  | .forEach line label holder inside body onward =>
    setLine line
    let cells <- engine.cells inside
    let work := enclosed (actAll engine body)
    match holder with
    | .own number =>
      enclosed do
        let scope := (<- get).scope
        let give (cell : Nat) : Machine Unit := modify ({ · with scope := (number, cell) :: scope })
        loopCells label give work (actAll engine onward) cells
        return []
    | .shared name =>
      let key := keyOf .cell name
      let give (cell : Nat) : Machine Unit :=
        modify fun state => { state with globals := state.globals.insert key cell }
      withNames [(key, 0)] (loopCells label give work (actAll engine onward) cells)
      return []
  | .package line name =>
    setLine line
    modify ({ · with package := name })
    return []
where
  choose (line : Nat) (cases : List (Expression × List Statement)) (otherwise : List Statement) :
      Machine (List Value) :=
    enclosed do
      setLine line
      let rec go : List (Expression × List Statement) -> Machine (List Value)
        | [] => if otherwise.isEmpty then return [] else engine.body wish otherwise
        | (test, body) :: rest => do
          let value <- engine.value test
          if <- isTrue value then
            if body.isEmpty then return [] else engine.body wish body
          else if rest.isEmpty && otherwise.isEmpty then
            return if wish = .nothing then [] else [value]
          else go rest
      go cases

def runAll (wish : Wish) : List Statement -> Machine (List Value)
  | [] => return []
  | [last] => runCompound engine wish last
  | statement :: rest => do
    discard <| runCompound engine .nothing statement
    runAll wish rest

end

def engineWithin (services : Services) : Nat -> Engine
  | 0 =>
    { services
      value := fun _ => tooDeep
      values := fun _ => tooDeep
      place := fun _ => tooDeep
      cells := fun _ => tooDeep
      act := fun _ => tooDeep
      body := fun _ _ => tooDeep
      call := fun _ _ _ => tooDeep }
  | limit + 1 =>
    { services
      value := (valueOf (engineWithin services limit) ·)
      values := (valuesOfExpression (engineWithin services limit) ·)
      place := (placeOf (engineWithin services limit) ·)
      cells := (cellsOf (engineWithin services limit) ·)
      act := (actOf (engineWithin services limit) ·)
      body := fun wish body => runAll (engineWithin services limit) wish body
      call := fun address cells wish => callCode (engineWithin services limit) address cells wish }
where
  tooDeep {α : Type} : Machine α := stop "Deep recursion limit exceeded"

def mostDepth : Nat := 1000000

/-! ## Programs -/

def firstHandles : Array Handle :=
  #[{ name := "STDIN", stream := some standardInput },
    { name := "STDOUT", stream := some standardOutput, writes := true },
    { name := "STDERR", stream := some standardError, writes := true },
    { name := "ARGV" }]

def firstNames (file : String) (arguments : List String) (environment : List (String × String)) :
    Machine Unit := do
  discard <| newCell .undefined
  modify fun state => { state with
    handles := firstHandles
    globals := state.globals.insertMany
      [("*main::STDIN", inputHandle), ("*main::STDOUT", outputHandle),
        ("*main::STDERR", complaintHandle), ("*main::ARGV", operandHandle)] }
  setShared "main::0" (.text file)
  setShared "main::," .undefined
  setShared "main::/" (.text "\n")
  setShared "main::\\" .undefined
  setShared "main::\"" (.text " ")
  setShared "main::;" (.text "\x1c")
  setShared "main::@" (.text "")
  setShared "main::|" (.whole 0)
  fillRow (<- sharedAddress .row "main::ARGV") (arguments.map .text)
  fillRow (<- sharedAddress .row "main::INC") (packageFolders.map .text)
  let entries <- environment.mapM fun (name, octets) => do return (name, <- newCell (.text octets))
  changeTable (<- sharedAddress .table "main::ENV") (fun _ => .ofList entries)

def faultStatusNow : Machine Nat := do
  let state <- get
  let failure := state.failure % 256
  let child := (state.childStatus / 256 % 256).toNat
  return if failure ≠ 0 then failure else if child ≠ 0 then child else 255

def untilEnd (engine : Engine) (work : Machine Unit) : Machine (Option Nat) :=
  tryCatch
    (do
      work
      return none)
    fun interrupt => do
      match interrupt with
      | .exit status => return some status
      | .fault value =>
        let status <- faultStatusNow
        flush outputHandle
        complainTo (<- textBy engine value)
        return some status
      | .leave label => complainOfJump "last" label
      | .again label => complainOfJump "next" label
      | .anew label => complainOfJump "redo" label
      | .giveBack _ =>
        let told := (<- get).told
        complainTo s!"Can't return outside a subroutine{told}"
        return some 255
where
  complainOfJump (word : String) (label : Option String) : Machine (Option Nat) := do
    let told := (<- get).told
    let message := match label with
      | some label => s!"Label not found for \"{word} {label}\""
      | none => s!"Can't \"{word}\" outside a loop block"
    complainTo s!"{message}{told}"
    return some 255

def runScript (services : Services) (script : Script) (isStrict : Bool) : Machine Nat := do
  let engine := engineWithin services mostDepth
  modify ({ · with isStrict, failure := script.failure })
  match script.data with
  | some data =>
    let address <- sharedAddress .stream "main::DATA"
    changeHandle address ({ · with rest := data, ended := true, isOpen := true })
  | none => pure ()
  install script
  let main : Machine Unit := do
    script.early.forM (discard <| engine.body .nothing ·)
    modify ({ · with package := "main" })
    actAll engine script.body
  let status <- untilEnd engine main
  let endings := (<- get).deferred
  modify ({ · with childStatus := (status.getD 0 : Nat), frames := [], wish := .nothing })
  let last <- untilEnd engine (endings.forM (discard <| engine.body .nothing ·))
  flushAll
  let handles := (<- get).handles
  (List.range handles.size).forM fun number => do
    if (handles.getD number default).process.isSome then discard <| closeHandle number
  match last with
  | some status => return status
  | none => return status.getD 0

end Extraction

/-!
## Calls of programs that take texts apart

A program stands in an argument or in a file.  Options put it into a loop that goes through the records
of its operands.
-/

namespace Extraction

structure Request where
  lines : List String := []
  loops : Bool := false
  prints : Bool := false
  splits : Bool := false
  separator : Option String := none
  cuts : Bool := false
  ending : Option Value := none
  records : Value := .text "\n"
  inPlace : Option String := none
  features : List String := []
  packages : List String := []
  checksOnly : Bool := false
  tellsVersion : Bool := false
  isWide : Bool := false
  operands : List String := []
  wanted : Option String := none

def separatorOf : Chars -> Value
  | 'x' :: hex => .text (String.singleton (Char.ofNat (Reading.valueOfDigits 16 hex)))
  | digits =>
    let value := Reading.valueOfDigits 8 digits
    if digits.isEmpty then .text (.singleton (Char.ofNat 0))
    else if value = 0 && 1 < digits.length then .text ""
    else if 255 < value then .undefined
    else .text (.singleton (Char.ofNat value))

def packageText (argument : String) : String :=
  let (word, name) := match argument.toList with
    | '-' :: rest => ("no", String.ofList rest)
    | _ => ("use", argument)
  match name.splitOn "=" with
  | [name, list] => s!"{word} {name} split(/,/,q({list}));"
  | name :: rest@(_ :: _) =>
    let list := "=".intercalate rest
    s!"{word} {name} split(/,/,q({list}));"
  | _ => s!"{word} {name};"

namespace Request

def letters (next : Option String) : Nat -> Request -> Chars -> Except String (Request × Bool)
  | 0, request, _ => .ok (request, false)
  | _, request, [] => .ok (request, false)
  | limit + 1, request, letter :: rest =>
    let value : Option String × Bool :=
      if rest.isEmpty then (next, true) else (some (.ofList rest), false)
    match letter with
    | 'e' => match value with
      | (some text, taken) => .ok ({ request with lines := text :: request.lines }, taken)
      | (none, _) => .error "No code specified for -e.\n"
    | 'E' => match value with
      | (some text, taken) =>
        .ok ({ request with lines := text :: request.lines, features := ["say", "state"] }, taken)
      | (none, _) => .error "No code specified for -E.\n"
    | 'n' => letters next limit { request with loops := true } rest
    | 'p' => letters next limit { request with loops := true, prints := true } rest
    | 'a' => letters next limit { request with splits := true, loops := true } rest
    | 'F' => match value with
      | (some text, taken) =>
        .ok ({ request with separator := some text, splits := true, loops := true }, taken)
      | (none, _) => .ok (request, false)
    | 'l' =>
      let digits := rest.takeWhile (fun c => '0' <= c && c <= '7')
      let ending := if digits.isEmpty then request.records else
        .text (String.singleton (Char.ofNat (Reading.valueOfDigits 8 digits)))
      letters next limit { request with cuts := true, ending := some ending }
        (rest.drop digits.length)
    | '0' =>
      let digits := match rest with
        | 'x' :: hex => 'x' :: hex.takeWhile isHexDigit
        | rest => rest.takeWhile (fun c => '0' <= c && c <= '7')
      let records := match digits with
        | [] => .text (.singleton (Char.ofNat 0))
        | 'x' :: hex => separatorOf ('x' :: hex)
        | digits => separatorOf ('0' :: digits)
      letters next limit { request with records } (rest.drop digits.length)
    | 'i' => .ok ({ request with inPlace := some (.ofList rest) }, false)
    | 'M' => match value with
      | (some text, taken) =>
        .ok ({ request with packages := request.packages ++ [packageText text] }, taken)
      | (none, _) => .error "Missing argument to -M\n"
    | 'm' => match value with
      | (some text, taken) =>
        .ok ({ request with packages := request.packages ++ [s!"use {text} ();"] }, taken)
      | (none, _) => .error "Missing argument to -m\n"
    | 'I' => .ok (request, value.2)
    | 'C' =>
      let digits := rest.takeWhile (fun c => isDigit c || c.isAlpha)
      .ok ({ request with isWide := digits.isEmpty || digits ≠ ['0'] }, false)
    | 'c' => letters next limit { request with checksOnly := true } rest
    | 'v' => letters next limit { request with tellsVersion := true } rest
    | '-' => letters next limit request rest
    | letter =>
      if ['w', 'W', 'X', 's', 'T', 't', 'u', 'U', 'S', 'f', ' '].contains letter then
        letters next limit request rest
      else if letter = 'x' || letter = 'd' || letter = 'D' then .ok (request, false)
      else
        let shown := String.ofList (letter :: rest)
        .error s!"Unrecognized switch: -{shown}  (-h will show valid options).\n"

def read : Nat -> Request -> List String -> Except String Request
  | 0, request, arguments => .ok { request with operands := arguments }
  | _, request, [] => .ok request
  | limit + 1, request, argument :: rest => match argument.toList with
    | ['-', '-'] => .ok { request with operands := rest }
    | '-' :: letter :: more =>
      match letters rest.head? (argument.length + 1) request (letter :: more) with
      | .error fault => .error fault
      | .ok (request, taken) => read limit request (if taken then rest.drop 1 else rest)
    | _ => .ok { request with operands := argument :: rest }

def front (request : Request) : String :=
  let packages := .join request.packages
  if !request.loops then packages
  else
    let cut := if request.cuts then "chomp;" else ""
    let split :=
      if !request.splits then ""
      else match request.separator with
        | none => "our @F=split(' ');"
        | some separator =>
          let quoted := match separator.toList with
            | '/' :: _ => true
            | '"' :: _ => true
            | '\'' :: _ => true
            | _ => false
          if quoted then s!"our @F=split({separator});"
          else "our @F=split(q\x00" ++ separator ++ "\x00);"
    packages ++ "LINE: while (<>) \x7b" ++ cut ++ split

def back (request : Request) : String :=
  if request.prints then "\n;\x7d continue \x7b die \"-p destination: $!\\n\" unless print $_;\x7d"
  else if request.loops then "\n;\x7d"
  else ""

end Request

def firstLineRequest (request : Request) (text : Chars) : Request :=
  let line := String.ofList (text.takeWhile (· != '\n'))
  if line.startsWith "#!" then
    let words := (Records.partsAtBlanks isSpace line.toList).map String.ofList
    let options := (words.drop 1).filter (·.startsWith "-")
    match Request.read 100 request options with
    | .ok found => { found with operands := request.operands }
    | .error _ => request
  else request

def asksForStrict (text : Chars) : Bool :=
  let words := String.ofList text
  let has (part : String) : Bool := (words.splitOn part).length ≠ 1
  (has "use strict" || has "use v5.1" || has "use v5.2" || has "use v5.3" || has "use 5.01" ||
    has "use 5.02" || has "use 5.03") && !has "no strict"

def Request.run (request : Request) (services : Services) (file : String) (text : Chars) :
    Act Nat := do
  let whole := request.front.toList ++ ['\n'] ++ text ++ request.back.toList
  let source : Source :=
    { text := whole.toArray, file, firstLine := 0, features := request.features }
  match Script.ofSource source with
  | .error refusal =>
    discard <| putText standardError refusal.message
    return refusal.status
  | .ok script =>
    if request.checksOnly then
      discard <| putText standardError s!"{file} syntax OK\n"
      return success
    else
      let session <- get
      let work : Machine Nat := do
        firstNames file request.operands session.environment
        setShared "main::/" request.records
        match request.ending with
        | some ending => setShared "main::\\" ending
        | none => pure ()
        if request.isWide then
          [inputHandle, outputHandle, complaintHandle].forM fun number =>
            changeHandle number ({ · with isWide := true })
        runScript services script (asksForStrict whole)
      let begin : State :=
        { file, inPlace := request.inPlace, startTime := session.files.clock.seconds }
      let (outcome, _) <- work.run.run begin
      match outcome with
      | .ok status => return status
      | .error _ => return 255

def versionLines : String :=
  "\nThis is perl 5, version 36, subversion 0 (v5.36.0) built for x86_64-linux-gnu-thread-multi\n" ++
    "(with 60 registered patches, see perl -V for more detail)\n"

end Extraction

def extractionProgram : Program := fun services _ arguments => do
  match Extraction.Request.read (arguments.length + 1) {} arguments with
  | .error message =>
    discard <| putText standardError message
    return 29
  | .ok request =>
    if request.tellsVersion then
      discard <| putText standardOutput Extraction.versionLines
      return success
    match request.lines.reverse, request.operands with
    | [], [] => do
      let bytes := (<- takeAll standardInput).getD .empty
      request.run services "-" (octetsOf bytes)
    | [], name :: operands => do
      let shown := if name = "-" then "-" else name
      let content <- if name = "-" then do pure (.ok ((<- takeAll standardInput).getD .empty))
        else readNamed name
      match content with
      | .error fault =>
        discard <| putText standardError s!"Can't open perl script \"{shown}\": {wording fault}\n"
        return 2
      | .ok bytes =>
        let text := octetsOf bytes
        let request := Extraction.firstLineRequest { request with operands } text
        request.run services shown text
    | lines, _ => request.run services "-e" ("\n".intercalate lines).toList

end Shell
end BaseLanguage
