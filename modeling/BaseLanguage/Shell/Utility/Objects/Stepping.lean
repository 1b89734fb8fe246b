import BaseLanguage.Shell.Utility.Objects.Functions

namespace BaseLanguage.Shell.Objects

/-!
# Steps

Each step takes values from the stack of its activation and puts others there.
-/

inductive Outcome where
  | goOn (activation : Activation)
  | call (activation new : Activation)
  | giveBack (value : Value)
  | give (value : Value) (activation : Activation)
  | again (fault : Value)

def topOf : List Value -> Value × List Value
  | value :: rest => (value, rest)
  | [] => (.nothing, [])

def topTwo : List Value -> Value × Value × List Value
  | first :: second :: rest => (first, second, rest)
  | _ => (.nothing, .nothing, [])

def topThree : List Value -> Value × Value × Value × List Value
  | first :: second :: third :: rest => (first, second, third, rest)
  | _ => (.nothing, .nothing, .nothing, [])

/-- So many values on top of a stack in the order in which they came, and what is below them. -/
def takeTop (count : Nat) (stack : List Value) : List Value × List Value :=
  ((stack.take count).reverse, stack.drop count)

section

variable (engine : Engine)

/-! ## Names -/

def failName (name : String) : Machine α := fail "NameError" s!"name '{name}' is not defined"

def sharedValue (globals : Nat) (name : String) : Machine Value := do
  match <- namedIn? globals name with
  | some value => return value
  | none => match <- namedIn? (<- get).builtIns name with
    | some value => return value
    | none => failName name

def dropNamed (table : Nat) (name : String) : Machine Unit := do
  match <- namedIn? table name with
  | some _ => changeTable table (·.erase (.text name))
  | none => failName name

variable (activation : Activation)

def outerValue (depth slot : Nat) (name : String) : Machine Value := do
  let scope := scopeAround (<- get).scopes depth activation.scope
  match <- slotIn? scope slot with
  | some value => return value
  | none =>
    fail "NameError"
      (s!"cannot access free variable '{name}' where it is not associated with a value " ++
        "in enclosing scope")

/-! ## Rows -/

def someItems (iterator : Value) : Nat -> Machine (List Value × Bool)
  | 0 => return ([], (<- nextOf engine iterator).isSome)
  | count + 1 => do
    let some value <- nextOf engine iterator | return ([], false)
    let (values, more) <- someItems iterator count
    return (value :: values, more)

def iteratorToUnpack (value : Value) : Machine Value := do
  match <- orNothing "TypeError" (iteratorOf engine value) with
  | some iterator => return iterator
  | none => failType s!"cannot unpack non-iterable {← typeName value} object"

def unpack (value : Value) (count : Nat) : Machine (List Value) := do
  let few (found : Nat) : Machine (List Value) :=
    failValue s!"not enough values to unpack (expected {numberText count}, got {numberText found})"
  let many : Machine (List Value) :=
    failValue s!"too many values to unpack (expected {numberText count})"
  match value with
  | .tuple items =>
    if items.length = count then return items
    else if items.length < count then few items.length
    else many
  | value =>
    let (items, more) <- someItems engine (<- iteratorToUnpack engine value) count
    if items.length < count then few items.length
    else if more then many
    else return items

def unpackAround (value : Value) (before after : Nat) : Machine (List Value) := do
  let items <- itemsOf engine (<- iteratorToUnpack engine value)
  let least := before + after
  if items.length < least then
    failValue
      (s!"not enough values to unpack (expected at least {numberText least}, " ++
        s!"got {numberText items.length})")
  let middle <- newList ((items.drop before).take (items.length - least))
  return items.take before ++ middle :: items.drop (items.length - after)

def starItems (value : Value) : Machine (List Value) := do
  match <- orNothing "TypeError" (iteratorOf engine value) with
  | some iterator => itemsOf engine iterator
  | none => failType s!"Value after * must be an iterable, not {← typeName value}"

def starEntries (value : Value) (wording : String -> String) : Machine (List (Value × Value)) := do
  let isTable <- match <- heldBy value with
    | .object address => match <- thingAt address with
      | .dict _ => pure true
      | _ => do pure (<- special? value "keys").isSome
    | _ => pure false
  if isTable then entriesOf engine value else failType (wording (<- typeName value))

/-! ## Shapes -/

def rowItems? (value : Value) : Machine (Option (List Value)) := do
  match <- heldBy value with
  | .tuple items => return some items
  | .range _ _ _ => return some (<- itemsOf engine value)
  | .object address => match <- thingAt address with
    | .list items => return some items.toList
    | .member type _ _ => match <- ownSaying? (<- typeAt type).line "__is_sequence__" with
      | some _ => return some (<- itemsOf engine value)
      | none => return none
    | _ => return none
  | _ => return none

def isTable (value : Value) : Machine Bool := do
  match <- heldBy value with
  | .object address => match <- thingAt address with
    | .dict _ => return true
    | _ => return false
  | _ => return false

def valuesOfKeys (table : Value) : List Value -> Machine (Option (List Value))
  | [] => return some []
  | key :: rest => do
    let found <- match <- heldBy table with
      | .object address => do pure (((<- tableAt address).get? (<- keyOf engine key)).map Prod.snd)
      | _ => pure none
    match found with
    | none => return none
    | some value => return (<- valuesOfKeys table rest).map (value :: ·)

def wholeTypes : List String :=
  Text.wordsIn "bool bytearray bytes dict float frozenset int list set str tuple"

def partsOfType (type value : Value) (placed : Nat) (names : List String) :
    Machine (Option (List Value)) := do
  match type with
  | .object address => match <- thingAt address with
    | .type facts =>
      if !(<- isInstance engine value 20 type) then return none
      else
        let tooMany (most : Nat) : Machine (Option (List Value)) := do
          let word := if most = 1 then "sub-pattern" else "sub-patterns"
          failType
            (s!"{facts.name}() accepts {numberText most} positional {word} " ++
              s!"({numberText placed} given)")
        let asks (names : List String) : Machine (Option (List Value)) := do
          let found <- names.mapM (attribute? engine value ·)
          return if found.all Option.isSome then some (found.filterMap id) else none
        if placed = 0 then asks names
        else match <- attribute? engine type "__match_args__" with
          | some arguments =>
            let arguments <- itemsOf engine arguments
            if arguments.length < placed then tooMany arguments.length
            else
              asks ((arguments.take placed).filterMap (fun
                | .text text => some text
                | _ => none) ++ names)
          | none =>
            if facts.line.any (fun number => wholeTypes.any fun name =>
              nativeType name = number) then
              if 1 < placed then tooMany 1 else return (<- asks names).map (value :: ·)
            else tooMany 0
    | _ => failType "called match pattern must be a class"
  | _ => failType "called match pattern must be a class"

/-! ## Steps on values -/

def appendTo (stack : List Value) (depth : Nat) (value : Value) : Machine Unit := do
  match stack[depth]? with
  | some (.object address) =>
    changeThing address fun
      | .list items => .list (items.push value)
      | thing => thing
  | _ => pure ()

def addTo (target : Value) (values : List Value) : Machine Unit := do
  match target with
  | .object address =>
    values.forM fun value => do
      let key <- keyOf engine value
      changeTable address fun table =>
        if table.contains key then table else table.insert key (value, .nothing)
  | _ => pure ()

def packageOfGlobals (globals : Nat) : Machine Value := do
  return (<- namedIn? globals "__name__").getD (.text "builtins")

def functionValue (code placed : Nat) (named notes : List String) :
    Machine (Value × List Value) := do
  let (noteValues, stack) := takeTop notes.length activation.stack
  let (namedValues, stack) := takeTop named.length stack
  let (placedValues, stack) := takeTop placed stack
  let facts := (<- get).codes.getD code default
  let value <- newObject (.function
    { name := facts.name, qualified := facts.qualified, code, doc := facts.doc
      package := <- packageOfGlobals activation.globals
      defaults := placedValues, namedDefaults := named.zip namedValues
      notes := notes.zip noteValues
      scope := activation.scope, globals := activation.globals })
  return (value, stack)

def typeValue (name : String) (bases : Nat) (names : List String) :
    Machine (Value × List Value) := do
  let (namedValues, stack) := takeTop names.length activation.stack
  let (baseValues, stack) := takeTop bases stack
  let (body, stack) := topOf stack
  let arguments := (names.zip namedValues).filter (·.1 ≠ "metaclass")
  let baseNumbers <- baseValues.mapM fun base => do
    match base with
    | .object address => match <- thingAt address with
      | .type _ => return address
      | _ => failType "bases must be types"
    | _ => failType "bases must be types"
  if baseNumbers.eraseReps.length ≠ baseNumbers.length then failType "duplicate base class"
  match body with
  | .object bodyAddress => match <- thingAt bodyAddress with
    | .function facts =>
      let code := (<- get).codes.getD facts.code default
      let package <- packageOfGlobals activation.globals
      let table <- newTable (.ofNames
        ([("__module__", package)] ++ match code.doc with
          | .nothing => []
          | doc => [("__doc__", doc)]))
      let scope <- newScope { slots := #[none], parent := facts.scope }
      discard <| engine.run { code, scope, names := table, globals := facts.globals }
      let packageName := match package with
        | .text text => text
        | _ => "builtins"
      let value <- newType name code.qualified packageName baseNumbers table
      match value with
      | .object address =>
        modify fun state => { state with
          scopes := state.scopes.modify scope fun scope =>
            { scope with slots := #[some value], type := some address } }
        for (key, found) in (<- tableAt table).pairs do
          match <- special? found "__set_name__" with
          | some function => discard <| engine.call function [found, value, key] []
          | none => pure ()
        let facts <- typeAt address
        match <- ownSaying? (facts.line.drop 1) "__init_subclass__" with
        | some function =>
          let function <- match function with
            | .object inner => match <- thingAt inner with
              | .ofType own => pure own
              | _ => pure function
            | function => pure function
          discard <| engine.call function [value] arguments
        | none =>
          if !arguments.isEmpty then
            failType s!"{name}.__init_subclass__() takes no keyword arguments"
        return (value, stack)
      | _ => return (value, stack)
    | _ => return (.nothing, stack)
  | _ => return (.nothing, stack)

def namedArguments (table : Value) : Machine (List (String × Value)) := do
  match table with
  | .object address =>
    (<- tableAt address).pairs.mapM fun (key, value) => do
      match key with
      | .text name => return (name, value)
      | _ => failType "keywords must be strings"
  | _ => return []

def functionName (function : Value) : Machine String := do
  match function with
  | .object address => match <- thingAt address with
    | .function facts => return facts.qualified ++ "()"
    | .method (.object inner) _ => match <- thingAt inner with
      | .function facts => return facts.qualified ++ "()"
      | _ => return "function"
    | .type facts => return facts.name ++ "()"
    | _ => return "function"
  | .builtIn name => return lastPart name ++ "()"
  | .bound _ type name => return s!"{type}.{name}()"
  | _ => return "function"

def enterManager (manager : Value) : Machine (Value × Value) := do
  let find (name : String) : Machine (Option Value) := do
    match manager with
    | .object address => match <- thingAt address with
      | .member _ _ _ => match <- special? manager name with
        | some _ => attribute? engine manager name
        | none => return none
      | _ => attribute? engine manager name
    | _ => return none
  match <- find "__enter__", <- find "__exit__" with
  | none, _ =>
    failType s!"'{← typeName manager}' object does not support the context manager protocol"
  | _, none =>
    failType
      (s!"'{← typeName manager}' object does not support the context manager protocol " ++
        "(missed __exit__ method)")
  | some enter, some exit => return (exit, <- engine.call enter [] [])

def usedName (package : Value) (name : String) : Machine Value := do
  match <- attribute? engine package name with
  | some value => return value
  | none => match package with
    | .object address => match <- thingAt address with
      | .package own names =>
        let whole := s!"{own}.{name}"
        match <- orNothing "ModuleNotFoundError" (engine.use whole) with
        | some value => return value
        | none =>
          let file <- match <- namedIn? names "__file__" with
            | some (.text file) => pure file
            | _ => pure "unknown location"
          fail "ImportError" s!"cannot import name '{name}' from '{own}' ({file})"
      | _ => lacksAttribute package name
    | _ => lacksAttribute package name

def useAllNames (package : Value) (target : Nat) : Machine Unit := do
  match package with
  | .object address => match <- thingAt address with
    | .package _ names =>
      let table <- tableAt names
      let chosen <- match table.named? "__all__" with
        | some wanted => do
          pure ((<- itemsOf engine wanted).filterMap fun
            | .text text => some text
            | _ => none)
        | none =>
          pure (table.pairs.filterMap fun (name, _) => match name with
            | .text text => if text.startsWith "_" then none else some text
            | _ => none)
      for name in chosen do setNamedIn target name (<- usedName engine package name)
    | _ => pure ()
  | _ => pure ()

def packageAbove (globals level : Nat) (name : String) : Machine String := do
  if level = 0 then return name
  else
    let own <- match <- namedIn? globals "__package__" with
      | some (.text text) => pure text
      | _ => pure ""
    if own.isEmpty then fail "ImportError" "attempted relative import with no known parent package"
    else
      let parts := own.splitOn "."
      let base := ".".intercalate (parts.take (parts.length + 1 - level))
      return if name.isEmpty then base else s!"{base}.{name}"

def performCall (function : Value) (placed : List Value)
    (named : List (String × Value)) (stack : List Value) : Machine Outcome := do
  let here := { activation with stack }
  match <- prepare engine here 100 function placed named with
  | .inl value => return .goOn { here with stack := value :: stack }
  | .inr new => return .call here new

/-! ## Rarer steps -/

def performRare (step : Step) : Machine Outcome := do
  let stack := activation.stack
  let goOn (stack : List Value) : Machine Outcome := return .goOn { activation with stack }
  let jump (place : Nat) (stack : List Value) : Machine Outcome :=
    return .goOn { activation with place, stack }
  match step with
  | .function code placed named notes =>
    let (value, stack) <- functionValue activation code placed named notes
    goOn (value :: stack)
  | .type name bases names =>
    let (value, stack) <- typeValue engine activation name bases names
    goOn (value :: stack)
  | .annotate name =>
    let (note, stack) := topOf stack
    let table <- match <- namedIn? activation.names "__annotations__" with
      | some (.object table) => pure table
      | _ => do
        let table <- newTable {}
        setNamedIn activation.names "__annotations__" (.object table)
        pure table
    setNamedIn table name note
    goOn stack
  | .raise count => match count with
    | 0 => match (<- get).handled with
      | fault :: _ => return .again fault
      | [] => fail "RuntimeError" "No active exception to reraise"
    | count =>
      let (cause, value, _) := topTwo (if count = 1 then .nothing :: stack else stack)
      let fault <- faultOf engine value
      let state <- get
      match fault, state.handled with
      | .object address, context :: _ =>
        let trace := (state.traces[address]?).getD {}
        if !isOne fault context then
          match trace.context with
          | .nothing =>
            modify fun state => { state with
              traces := state.traces.insert address { trace with context } }
          | _ => pure ()
      | _, _ => pure ()
      if count = 2 then
        let cause <- match cause with
          | .nothing => pure cause
          | cause => do
            match <- orNothing "TypeError" (faultOf engine cause) with
            | some cause => pure cause
            | none => failType "exception causes must derive from BaseException"
        setPlainAttribute engine fault "__cause__" cause
      throw (.raised fault)
  | .reraise =>
    let (fault, _) := topOf stack
    return .again fault
  | .attempt place =>
    let handled := (<- get).handled.length - activation.handled
    return .goOn { activation with
      blocks := { place, height := stack.length, handled } :: activation.blocks }
  | .endAttempt => return .goOn { activation with blocks := activation.blocks.drop 1 }
  | .matches place =>
    let (types, fault, rest) := topTwo stack
    let isKind (type : Value) : Machine Bool := do
      match type with
      | .object address => match <- thingAt address with
        | .type facts =>
          if facts.line.contains (nativeType "BaseException") then isOfType fault address
          else failType "catching classes that do not inherit from BaseException is not allowed"
        | _ => failType "catching classes that do not inherit from BaseException is not allowed"
      | _ => failType "catching classes that do not inherit from BaseException is not allowed"
    let fits <- match types with
      | .tuple types => types.anyM isKind
      | type => isKind type
    if fits then goOn (fault :: rest) else jump place (fault :: rest)
  | .leaveHandler =>
    modify fun state => { state with handled := state.handled.drop 1 }
    goOn stack
  | .enter place =>
    let (manager, rest) := topOf stack
    let (exit, value) <- enterManager engine manager
    let handled := (<- get).handled.length - activation.handled
    return .goOn { activation with
      stack := value :: rest
      blocks := { place, height := rest.length, handled, manager := some exit } ::
        activation.blocks }
  | .leave => match activation.blocks with
    | block :: blocks =>
      discard <| engine.call (block.manager.getD .nothing) [.nothing, .nothing, .nothing] []
      return .goOn { activation with blocks }
    | [] => goOn stack
  | .leaveAtFault =>
    let (fault, exit, rest) := topTwo stack
    let type := .object (<- typeOf fault)
    let trace := (<- attribute? engine fault "__traceback__").getD .nothing
    if <- isTrue engine (<- engine.call exit [type, fault, trace] []) then
      modify fun state => { state with handled := state.handled.drop 1 }
      goOn rest
    else return .again fault
  | .use package whole =>
    let last <- engine.use package
    if whole then goOn (last :: stack) else goOn ((<- engine.use (firstPart package)) :: stack)
  | .useFrom package level =>
    let name <- packageAbove activation.globals level package
    goOn ((<- engine.use name) :: stack)
  | .useName name =>
    let (package, _) := topOf stack
    goOn ((<- usedName engine package name) :: stack)
  | .useAll package =>
    useAllNames engine (<- engine.use package) activation.names
    goOn stack
  | .failAssertion hasMessage =>
    let arguments := if hasMessage then [(topOf stack).1] else []
    throw (.raised (<- newFault (nativeType "AssertionError") arguments))
  | .fitsRow count isOpen =>
    let (value, rest) := topOf stack
    match <- rowItems? engine value with
    | some items =>
      let fits := if isOpen then decide (count <= items.length) else items.length == count
      goOn (.truth fits :: rest)
    | none => goOn (.truth false :: rest)
  | .fitsTable =>
    let (value, rest) := topOf stack
    goOn (.truth (<- isTable value) :: rest)
  | .fitsKeys count =>
    let (keys, rest) := takeTop count stack
    let (table, rest) := topOf rest
    match <- valuesOfKeys engine table keys with
    | some values => goOn (.tuple values :: rest)
    | none => goOn (.nothing :: rest)
  | .withoutKeys count =>
    let (keys, rest) := takeTop count stack
    let (table, rest) := topOf rest
    let without <- keys.mapM (keyOf engine)
    match <- heldBy table with
    | .object address =>
      let left := without.foldl (fun (table : Table) key => table.erase key) (<- tableAt address)
      goOn ((<- newObject (.dict left)) :: rest)
    | _ => goOn (.nothing :: rest)
  | .fitsType placed names =>
    let (type, value, rest) := topTwo stack
    match <- partsOfType engine type value placed names with
    | some parts => goOn (.tuple parts :: rest)
    | none => goOn (.nothing :: rest)
  | .give =>
    let (value, rest) := topOf stack
    return .give value { activation with stack := rest }
  | .giveAll =>
    let (sent, iterator, rest) := topTwo stack
    let found <- match iterator, sent with
      | .object address, sent => do
        match <- thingAt address with
        | .generator _ _ => engine.resume address sent none
        | _ => match sent with
          | .nothing => nextOf engine iterator
          | sent => do
            let send <- attributeOf engine iterator "send"
            orNothing "StopIteration" (engine.call send [sent] [])
      | _, _ => nextOf engine iterator
    match found with
    | some value =>
      return .give value
        { activation with stack := iterator :: rest, place := activation.place - 1 }
    | none => goOn (((<- endingValue iterator).headD .nothing) :: rest)
  | _ => goOn stack

/-! ## All steps -/

def perform (step : Step) : Machine Outcome := do
  let stack := activation.stack
  let goOn (stack : List Value) : Machine Outcome := return .goOn { activation with stack }
  let jump (place : Nat) (stack : List Value) : Machine Outcome :=
    return .goOn { activation with place, stack }
  match step with
  | .constant value => goOn (value :: stack)
  | .own slot => match <- slotIn? activation.scope slot with
    | some value => goOn (value :: stack)
    | none =>
      let name := activation.code.slots.getD slot ""
      fail "UnboundLocalError"
        s!"cannot access local variable '{name}' where it is not associated with a value"
  | .setOwn slot =>
    let (value, rest) := topOf stack
    setSlot activation.scope slot (some value)
    goOn rest
  | .dropOwn slot => match <- slotIn? activation.scope slot with
    | some _ =>
      setSlot activation.scope slot none
      goOn stack
    | none =>
      let name := activation.code.slots.getD slot ""
      fail "UnboundLocalError"
        s!"cannot access local variable '{name}' where it is not associated with a value"
  | .outer depth slot name => goOn ((<- outerValue activation depth slot name) :: stack)
  | .setOuter depth slot =>
    let (value, rest) := topOf stack
    setSlot (scopeAround (<- get).scopes depth activation.scope) slot (some value)
    goOn rest
  | .dropOuter depth slot name =>
    discard <| outerValue activation depth slot name
    setSlot (scopeAround (<- get).scopes depth activation.scope) slot none
    goOn stack
  | .shared name => goOn ((<- sharedValue activation.globals name) :: stack)
  | .setShared name =>
    let (value, rest) := topOf stack
    setNamedIn activation.globals name value
    goOn rest
  | .dropShared name =>
    dropNamed activation.globals name
    goOn stack
  | .named name => match <- namedIn? activation.names name with
    | some value => goOn (value :: stack)
    | none => goOn ((<- sharedValue activation.globals name) :: stack)
  | .setNamed name =>
    let (value, rest) := topOf stack
    setNamedIn activation.names name value
    goOn rest
  | .dropNamed name =>
    dropNamed activation.names name
    goOn stack
  | .namedOrOuter name depth slot => match <- namedIn? activation.names name with
    | some value => goOn (value :: stack)
    | none => goOn ((<- outerValue activation depth slot name) :: stack)
  | .attribute name =>
    let (value, rest) := topOf stack
    goOn ((<- attributeOf engine value name) :: rest)
  | .setAttribute name =>
    let (object, value, rest) := topTwo stack
    setAttribute engine object name value
    goOn rest
  | .dropAttribute name =>
    let (object, rest) := topOf stack
    deleteAttribute engine object name
    goOn rest
  | .item =>
    let (index, whole, rest) := topTwo stack
    goOn ((<- itemOf engine whole index) :: rest)
  | .setItem =>
    let (index, whole, value, rest) := topThree stack
    setItem engine whole index value
    goOn rest
  | .dropItem =>
    let (index, whole, rest) := topTwo stack
    deleteItem engine whole index
    goOn rest
  | .signed sign =>
    let (value, rest) := topOf stack
    goOn ((<- signed engine sign value) :: rest)
  | .binary operator =>
    let (right, left, rest) := topTwo stack
    goOn ((<- binary engine operator left right) :: rest)
  | .changed operator =>
    let (right, left, rest) := topTwo stack
    goOn ((<- changedBy engine operator left right) :: rest)
  | .related relation =>
    let (right, left, rest) := topTwo stack
    goOn ((<- related engine relation left right) :: rest)
  | .jump place => jump place stack
  | .jumpIf place =>
    let (value, rest) := topOf stack
    if <- isTrue engine value then jump place rest else goOn rest
  | .jumpUnless place =>
    let (value, rest) := topOf stack
    if <- isTrue engine value then goOn rest else jump place rest
  | .keepIf place =>
    let (value, rest) := topOf stack
    if <- isTrue engine value then jump place stack else goOn rest
  | .keepUnless place =>
    let (value, rest) := topOf stack
    if <- isTrue engine value then goOn rest else jump place stack
  | .iterate =>
    let (value, rest) := topOf stack
    goOn ((<- iteratorOf engine value) :: rest)
  | .next place =>
    let (iterator, rest) := topOf stack
    match <- nextOf engine iterator with
    | some value => goOn (value :: stack)
    | none => jump place rest
  | .tuple count =>
    let (values, rest) := takeTop count stack
    goOn (.tuple values :: rest)
  | .list count =>
    let (values, rest) := takeTop count stack
    goOn ((<- newList values) :: rest)
  | .set count =>
    let (values, rest) := takeTop count stack
    goOn ((<- newObject (.set (<- setOfValues engine values) false)) :: rest)
  | .dict count =>
    let (values, rest) := takeTop (2 * count) stack
    let table <- newTable {}
    let rec pairsIn : List Value -> List (Value × Value)
      | key :: value :: rest => (key, value) :: pairsIn rest
      | _ => []
    putEntries engine table (pairsIn values)
    goOn (.object table :: rest)
  | .slice =>
    let (step, last, first, rest) := topThree stack
    goOn (.slice first last step :: rest)
  | .joined count =>
    let (values, rest) := takeTop count stack
    goOn (.text (.join (values.map fun
      | .text text => text
      | _ => "")) :: rest)
  | .formed letter hasForm =>
    let (form, value, rest) := topTwo (if hasForm then stack else .text "" :: stack)
    let value <- match letter with
      | some 'r' => do pure (.text (<- reprOf engine value))
      | some 's' => do pure (.text (<- strOf engine value))
      | some 'a' => do pure (.text (<- plainRepr engine value))
      | _ => pure value
    let form := match form with
      | .text form => form
      | _ => ""
    goOn (.text (<- formOf engine value form) :: rest)
  | .append depth =>
    let (value, rest) := topOf stack
    appendTo rest depth value
    goOn rest
  | .add depth =>
    let (value, rest) := topOf stack
    addTo engine (rest.getD depth .nothing) [value]
    goOn rest
  | .put depth =>
    let (value, key, rest) := topTwo stack
    match rest.getD depth .nothing with
    | .object address => putEntries engine address [(key, value)]
    | _ => pure ()
    goOn rest
  | .appendAll =>
    let (value, rest) := topOf stack
    (<- starItems engine value).forM (appendTo rest 0)
    goOn rest
  | .addAll =>
    let (value, rest) := topOf stack
    addTo engine (rest.getD 0 .nothing) (<- starItems engine value)
    goOn rest
  | .putAll =>
    let (value, rest) := topOf stack
    match rest.getD 0 .nothing with
    | .object address =>
      let entries <- starEntries engine value fun type => s!"'{type}' object is not a mapping"
      putEntries engine address entries
    | _ => pure ()
    goOn rest
  | .putArguments =>
    let (value, table, rest) := topTwo stack
    let name <- functionName (rest.getD 1 .nothing)
    let entries <- starEntries engine value fun type =>
      s!"{name} argument after ** must be a mapping, not {type}"
    match table with
    | .object address =>
      for (key, found) in entries do
        match (<- tableAt address).get? (<- keyOf engine key) with
        | some _ =>
          let shown <- strOf engine key
          failType s!"{name} got multiple values for keyword argument '{shown}'"
        | none => putEntries engine address [(key, found)]
    | _ => pure ()
    goOn (table :: rest)
  | .tupleOfList =>
    let (value, rest) := topOf stack
    goOn (.tuple (<- itemsOf engine value) :: rest)
  | .unpack count =>
    let (value, rest) := topOf stack
    goOn ((<- unpack engine value count) ++ rest)
  | .unpackAround before after =>
    let (value, rest) := topOf stack
    goOn ((<- unpackAround engine value before after) ++ rest)
  | .call placed names =>
    let (namedValues, rest) := takeTop names.length stack
    let (values, rest) := takeTop placed rest
    let (function, rest) := topOf rest
    performCall engine activation function values (names.zip namedValues) rest
  | .callWith hasNamed =>
    let (table, rest) := topOf (if hasNamed then stack else .nothing :: stack)
    let (row, function, rest) := topTwo rest
    let values := match row with
      | .tuple values => values
      | _ => []
    performCall engine activation function values (<- namedArguments table) rest
  | .giveBack => return .giveBack (topOf stack).1
  | .pop => goOn (stack.drop 1)
  | .copy =>
    let (value, _) := topOf stack
    goOn (value :: stack)
  | .copyTwo =>
    let (first, second, _) := topTwo stack
    goOn (first :: second :: stack)
  | .swap =>
    let (first, second, rest) := topTwo stack
    goOn (second :: first :: rest)
  | .lift =>
    let (first, second, third, rest) := topThree stack
    goOn (second :: third :: first :: rest)
  | .tuck =>
    let (first, second, rest) := topTwo stack
    goOn (first :: second :: first :: rest)
  | step => performRare engine activation step

end

/-!
## Running

An activation is run step by step.  When it calls a function of the program, it waits until the
activation of that function has ended.  What goes wrong ends the step; then it is gone on where the
block around it says, or the activation ends, and its caller has the same fault.
-/

inductive Finish where
  | ended (value : Value)
  | given (value : Value) (activation : Activation)

def libraryFolder : String := "/usr/lib/python3.11/"

def tellsPlaces (file : String) : Bool := !file.startsWith "<library"

def noteNames (fault : Nat) (activation : Activation) : Machine Unit := do
  match <- thingAt fault with
  | .member type names _ =>
    if type = nativeType "NameError" then
      let state <- get
      let slots := (state.scopes.getD activation.scope default).slots
      let named := (<- tableAt activation.names).pairs.map Prod.fst
      let own := if activation.code.kind = .function then
          (activation.code.slots.toList.zip slots.toList).filterMap fun (name, value) =>
            value.map fun _ => .text name
        else named
      let shared := (<- tableAt activation.globals).pairs.map Prod.fst
      let always := (<- tableAt state.builtIns).pairs.map Prod.fst
      setNamedIn names "__names__" (.tuple (own ++ shared ++ always))
  | _ => pure ()

def notePlace (fault : Nat) (activation : Activation) : Machine Unit := do
  let code := activation.code
  if tellsPlaces code.file then
    let entry : TraceEntry :=
      { file := code.file, name := code.name, span := code.spans.getD (activation.place - 1) default }
    if ((<- get).traces[fault]?).all (·.entries.isEmpty) then noteNames fault activation
    modify fun state =>
      let trace := (state.traces[fault]?).getD {}
      { state with
        traces := state.traces.insert fault { trace with entries := entry :: trace.entries } }

def leaveActivation (activation : Activation) : Machine Unit :=
  modify fun state =>
    let scopes := if !activation.code.keepsScope && activation.code.kind == .function &&
        state.scopes.size = activation.scope + 1 then state.scopes.pop
      else state.scopes
    { state with
      depth := state.depth - 1
      scopes
      handled := state.handled.drop (state.handled.length - activation.handled) }

/-- Goes on in the innermost block of an activation around a fault, if there is one; otherwise the
activation ends. -/
def land? (fault : Value) (notes : Bool) (activation : Activation) :
    Machine (Option Activation) := do
  match fault with
  | .object address => if notes then notePlace address activation
  | _ => pure ()
  match activation.blocks with
  | block :: blocks =>
    modify fun state =>
      let height := activation.handled + block.handled
      { state with handled := fault :: state.handled.drop (state.handled.length - height) }
    let kept := activation.stack.drop (activation.stack.length - block.height)
    let stack := match block.manager with
      | some manager => fault :: manager :: kept
      | none => fault :: kept
    return some { activation with stack, blocks, place := block.place }
  | [] =>
    leaveActivation activation
    return none

/-- Goes on behind a fault: in the innermost block around it in the activation or in those that wait
for it. -/
def unwind (fault : Value) :
    Bool -> Activation -> List Activation -> Machine (Activation × List Activation)
  | notes, activation, [] => do
    match <- land? fault notes activation with
    | some landed => return (landed, [])
    | none => throw (.raised fault)
  | notes, activation, caller :: rest => do
    match <- land? fault notes activation with
    | some landed => return (landed, caller :: rest)
    | none => unwind fault true caller rest

def beginActivation (activation : Activation) : Machine Activation := do
  let state <- get
  if state.mostDepth <= state.depth then fail "RecursionError" "maximum recursion depth exceeded"
  set { state with depth := state.depth + 1 }
  return { activation with handled := state.handled.length }

section

variable (engine : Engine)

def mostProgramSteps : Nat := 1000000000000

def performSafely (activation : Activation) : Machine (Except (Value × Bool) Outcome) := do
  let step := activation.code.steps.getD activation.place (.constant .nothing)
  let next := { activation with place := activation.place + 1 }
  tryCatch
    (do return .ok (<- perform engine next step))
    fun interrupt => do
      match interrupt with
      | .raised fault => return .error (fault, true)
      | .exit _ => throw interrupt

def runAll : Nat -> Activation -> List Activation -> Machine Finish
  | 0, _, _ => fail "RuntimeError" "too many steps"
  | limit + 1, activation, waiting => do
    match <- performSafely engine activation with
    | .ok (.goOn activation) => runAll limit activation waiting
    | .ok (.call caller new) =>
      let begun : Machine (Except Value Activation) :=
        tryCatch (do return .ok (<- beginActivation new)) fun interrupt => do
          match interrupt with
          | .raised fault => return .error fault
          | .exit _ => throw interrupt
      match <- begun with
      | .ok new => runAll limit new (caller :: waiting)
      | .error fault =>
        let (activation, waiting) <- unwind fault true caller waiting
        runAll limit activation waiting
    | .ok (.giveBack value) =>
      leaveActivation activation
      match waiting with
      | caller :: rest => runAll limit { caller with stack := value :: caller.stack } rest
      | [] => return .ended value
    | .ok (.give value activation) => return .given value activation
    | .ok (.again fault) =>
      let next := { activation with place := activation.place + 1 }
      let (activation, waiting) <- unwind fault false next waiting
      runAll limit activation waiting
    | .error (fault, notes) =>
      let next := { activation with place := activation.place + 1 }
      let (activation, waiting) <- unwind fault notes next waiting
      runAll limit activation waiting

def runActivation (activation : Activation) : Machine Value := do
  match <- runAll engine mostProgramSteps (<- beginActivation activation) [] with
  | .ended value => return value
  | .given value _ => return value

def callValue (function : Value) (placed : List Value) (named : List (String × Value)) :
    Machine Value := do
  match <- prepare engine default 100 function placed named with
  | .inl value => return value
  | .inr activation => engine.run activation

/-! ## Generators -/

def setGenerator (address : Nat) (activation : Activation) (progress : Progress) : Machine Unit :=
  setThing address (.generator activation progress)

def resumeGenerator (address : Nat) (sent : Value) (fault : Option Value) :
    Machine (Option Value) := do
  match <- thingAt address with
  | .generator _ .running => failValue "generator already executing"
  | .generator _ .ended => match fault with
    | some fault => throw (.raised fault)
    | none => return none
  | .generator paused progress =>
    let before <- get
    setGenerator address default .running
    let base := before.handled.length
    if before.mostDepth <= before.depth then fail "RecursionError" "maximum recursion depth exceeded"
    modify fun state => { state with
      depth := state.depth + 1, handled := paused.held ++ state.handled }
    let begun := { paused with handled := base, held := [] }
    let told := if progress = .fresh then begun else { begun with stack := sent :: begun.stack }
    let work : Machine Finish := do
      let some fault := fault | runAll engine mostProgramSteps told []
      match paused.code.steps.getD paused.place (.constant .nothing), begun.stack with
      | .giveAll, .object inner :: rest => match <- thingAt inner with
        | .generator _ _ =>
          let passed : Machine (Except Value (Option Value)) :=
            tryCatch (do return .ok (<- engine.resume inner .nothing (some fault)))
              fun interrupt => do
                match interrupt with
                | .raised fault => return .error fault
                | .exit _ => throw interrupt
          match <- passed with
          | .ok (some value) => return .given value begun
          | .ok none =>
            let value := (<- endingValue (.object inner)).headD .nothing
            runAll engine mostProgramSteps
              { begun with stack := value :: rest, place := begun.place + 1 } []
          | .error fault => raiseIn begun fault
        | _ => raiseIn begun fault
      | _, _ => raiseIn begun fault
    let outcome : Machine (Except Value Finish) :=
      tryCatch (do return .ok (<- work)) fun interrupt => do
        match interrupt with
        | .raised fault => return .error fault
        | .exit _ => throw interrupt
    match <- outcome with
    | .ok (.given value activation) =>
      let state <- get
      let held := state.handled.take (state.handled.length - base)
      set { state with depth := state.depth - 1, handled := state.handled.drop held.length }
      setGenerator address { activation with held } .paused
      return some value
    | .ok (.ended value) =>
      setGenerator address { (default : Activation) with stack := [value], code := namesOnly paused }
        .ended
      return none
    | .error fault =>
      setGenerator address { (default : Activation) with code := namesOnly paused } .ended
      if <- isFault fault "StopIteration" then
        let new <- newFault (nativeType "RuntimeError") [.text "generator raised StopIteration"]
        setPlainAttribute engine new "__cause__" fault
        setPlainAttribute engine new "__context__" fault
        throw (.raised new)
      else throw (.raised fault)
  | _ => failType "expected a generator"
where
  raiseIn (activation : Activation) (fault : Value) : Machine Finish := do
    let (activation, waiting) <- unwind fault true activation []
    runAll engine mostProgramSteps activation waiting
  namesOnly (activation : Activation) : Code :=
    { (default : Code) with name := activation.code.name, qualified := activation.code.qualified }

end

end BaseLanguage.Shell.Objects
