import BaseLanguage.Shell.Utility.Objects.Code

namespace BaseLanguage.Shell.Objects

/-!
# Putting code together

Each expression becomes steps that put its value on the stack, and each statement becomes steps that
leave the stack as it was.
-/

namespace Assembling

/-! ## Expressions -/

variable (inner : Expression -> Assembling Unit)

def spreadArguments (arguments : List (ArgumentKind × Expression)) : Assembling Unit := do
  emit (.list 0)
  arguments.forM fun (kind, value) => do
    match kind with
    | .plain =>
      inner value
      emit (.append 0)
    | .items =>
      inner value
      emit .appendAll
    | _ => pure ()
  emit .tupleOfList
  let isNamed (argument : ArgumentKind × Expression) : Bool := match argument.1 with
    | .named _ => true
    | .entries => true
    | _ => false
  let named := arguments.filter isNamed
  if !named.isEmpty then
    emit (.dict 0)
    named.forM fun (kind, value) => do
      match kind with
      | .named name =>
        emit (.constant (.text name))
        inner value
        emit (.dict 1)
        emit .putArguments
      | _ =>
        inner value
        emit .putArguments
  emit (.callWith (!named.isEmpty))

def callSteps (arguments : List (ArgumentKind × Expression)) (span : Span) : Assembling Unit := do
  let names := arguments.filterMap fun (kind, _) => match kind with
    | .named name => some name
    | _ => none
  match names.find? (fun name => 1 < (names.filter (· = name)).length) with
  | some name => refuse s!"keyword argument repeated: {name}"
  | none => pure ()
  let isSpread := arguments.any fun (kind, value) => match kind, value.bare with
    | .items, _ => true
    | .entries, _ => true
    | _, _ => false
  if isSpread then spanned span (spreadArguments inner arguments)
  else
    let isPlain (argument : ArgumentKind × Expression) : Bool := argument.1 = .plain
    (arguments.filter isPlain).forM (inner ·.2)
    (arguments.filter (!isPlain ·)).forM (inner ·.2)
    spanned span (emit (.call (arguments.length - names.length) names))

def hasItems (items : List Expression) : Bool :=
  items.any fun item => match item.bare with
    | .items _ => true
    | _ => false

def rowSteps (items : List Expression) (isSet : Bool) (make : Nat -> Step) : Assembling Unit := do
  if hasItems items then
    emit (if isSet then .set 0 else .list 0)
    items.forM fun item => do
      match item.bare with
      | .items found =>
        inner found
        emit (if isSet then .addAll else .appendAll)
      | _ =>
        inner item
        emit (if isSet then .add 0 else .append 0)
  else
    items.forM inner
    emit (make items.length)

def assign (inner : Expression -> Assembling Unit) : Nat -> Expression -> Assembling Unit
  | 0, _ => emit .pop
  | depth + 1, target => do
    match target with
    | .at span found => spanned span (assign inner depth found)
    | .name name =>
      if name = "__debug__" then refuse "cannot assign to __debug__"
      store name
    | .attribute object name =>
      inner object
      emit (.setAttribute name)
    | .item object index =>
      inner object
      inner index
      emit .setItem
    | .items _ => refuse "starred assignment target must be in a list or tuple"
    | .tuple items => parts items depth
    | .list items => parts items depth
    | _ => emit .pop
where
  parts (items : List Expression) (depth : Nat) : Assembling Unit := do
    let isItems (item : Expression) : Bool := match item.bare with
      | .items _ => true
      | _ => false
    let before := items.takeWhile (!isItems ·)
    let after := items.drop (before.length + 1)
    if before.length = items.length then emit (.unpack items.length)
    else
      if after.any isItems then refuse "multiple starred expressions in assignment"
      emit (.unpackAround before.length after.length)
    items.forM fun item => do
      match item.bare with
      | .items found => assign inner depth found
      | _ => assign inner depth item

def functionDraft (name : String) (parameters : Parameters) (bound : List String)
    (declared : List (String × Bool)) (isLoop : Bool) : Assembling Draft := do
  let assembly <- get
  let qualified <- qualifiedName name
  let ofKind (kind : ParameterKind) : List String := (parameters.filter (·.2.1 = kind)).map Prod.fst
  let all := ofKind .placed ++ ofKind .usual ++ ofKind .named ++ ofKind .items ++ ofKind .entries
  match all.find? (fun name => 1 < (all.filter (· = name)).length) with
  | some name => refuse s!"duplicate argument '{name}' in function definition"
  | none => pure ()
  let shared := (declared.filter (·.2)).map Prod.fst
  let outer := (declared.filter (!·.2)).map Prod.fst
  match shared.find? all.contains with
  | some name => refuse s!"name '{name}' is parameter and global"
  | none => pure ()
  let own := bound.filter fun name =>
    !shared.contains name && !outer.contains name && !all.contains name
  let slots := own.foldl (fun (slots : Array String) name =>
    if slots.contains name then slots else slots.push name) all.toArray
  return {
    code := {
      name, qualified, slots
      file := assembly.draft.code.file
      firstLine := assembly.draft.span.line
      onlyPlaced := (ofKind .placed).length
      placed := (ofKind .placed).length + (ofKind .usual).length
      named := (ofKind .named).length
      hasRest := !(ofKind .items).isEmpty
      hasNamedRest := !(ofKind .entries).isEmpty }
    shared, outer, isLoop, span := assembly.draft.span }

def makeFunction (parameters : Parameters)
    (notes : List (String × Expression)) (code : Nat) : Assembling Unit := do
  let placed := parameters.filter fun parameter => parameter.2.1 = .placed || parameter.2.1 = .usual
  let defaults := placed.filterMap (·.2.2)
  defaults.forM inner
  let named := parameters.filterMap fun (name, kind, value) =>
    if kind = .named then value.map (name, ·) else none
  named.forM (inner ·.2)
  notes.forM (inner ·.2)
  emit (.function code defaults.length (named.map Prod.fst) (notes.map Prod.fst))

def loopSteps (inner : Expression -> Assembling Unit) (element : Nat -> Assembling Unit) :
    Nat -> List (Expression × Expression × List Expression) -> Assembling Unit
  | depth, [] => element depth
  | depth, (target, source, tests) :: rest => do
    let again <- label
    let leave <- label
    if depth = 0 then emit (.own 0)
    else
      inner source
      spanned source.span (emit .iterate)
    mark again
    spanned source.span (emit (.next leave))
    assign inner deepestProgram target
    tests.forM fun test => do
      inner test
      emit (.jumpUnless again)
    loopSteps inner element (depth + 1) rest
    emit (.jump again)
    mark leave

def CollectionKind.codeName : CollectionKind -> String
  | .list => "<listcomp>"
  | .set => "<setcomp>"
  | .dict => "<dictcomp>"
  | .generator => "<genexpr>"

def markGenerator : Assembling Unit := do
  let draft := (<- get).draft
  if draft.code.kind ≠ .function then refuse "'yield' outside function"
  change fun draft => { draft with code := { draft.code with isGenerator := true } }

def expressionWithin : Nat -> Expression -> Assembling Unit
  | 0, _ => refuse "too many expressions inside one another"
  | depth + 1, expression => do
    let inner : Expression -> Assembling Unit := (expressionWithin depth ·)
    let span := (<- get).draft.span
    match expression with
    | .at span found => spanned span (expressionWithin depth found)
    | .constant value => emit (.constant value)
    | .name name => load name
    | .joined pieces =>
      pieces.forM fun piece => do
        match piece with
        | .constant value => emit (.constant value)
        | piece => inner piece
      emit (.joined pieces.length)
    | .formed value letter form =>
      inner value
      match form with
      | some form =>
        inner form
        emit (.formed letter true)
      | none => emit (.formed letter false)
    | .tuple items =>
      if hasItems items then
        rowSteps inner items false .list
        emit .tupleOfList
      else rowSteps inner items false .tuple
    | .list items => rowSteps inner items false .list
    | .set items => rowSteps inner items true .set
    | .dict entries =>
      if entries.any (·.1.isNone) then
        emit (.dict 0)
        entries.forM fun (key, value) => do
          match key with
          | some key =>
            inner key
            inner value
            emit (.put 0)
          | none =>
            inner value
            emit .putAll
      else
        entries.forM fun (key, value) => do
          (key.map inner).getD (pure ())
          inner value
        emit (.dict entries.length)
    | .items _ => refuse "can't use starred expression here"
    | .signed sign found =>
      inner found
      emit (.signed sign)
    | .binary operator left right =>
      inner left
      inner right
      emit (.binary operator)
    | .both left right =>
      let ending <- label
      inner left
      emit (.keepUnless ending)
      inner right
      mark ending
    | .either left right =>
      let ending <- label
      inner left
      emit (.keepIf ending)
      inner right
      mark ending
    | .compared first rest =>
      inner first
      match rest with
      | [(relation, value)] =>
        inner value
        emit (.related relation)
      | rest =>
        let fail <- label
        let ending <- label
        (rest.take (rest.length - 1)).forM fun (relation, value) => do
          inner value
          emit .tuck
          emit (.related relation)
          emit (.keepUnless fail)
        match rest.getLast? with
        | some (relation, value) =>
          inner value
          emit (.related relation)
        | none => pure ()
        emit (.jump ending)
        mark fail
        emit .swap
        emit .pop
        mark ending
    | .choice test yes no =>
      let other <- label
      let ending <- label
      inner test
      emit (.jumpUnless other)
      inner yes
      emit (.jump ending)
      mark other
      inner no
      mark ending
    | .attribute found name =>
      inner found
      emit (.attribute name)
    | .item found index =>
      inner found
      inner index
      emit .item
    | .slice first last step =>
      [first, last, step].forM fun part => do
        match part with
        | some part => inner part
        | none => emit (.constant .nothing)
      emit .slice
    | .call function arguments =>
      inner function
      callSteps inner arguments span
    | .function parameters body =>
      let bound := assignedIn deepestProgram body
      let code <- inside (<- functionDraft "<lambda>" parameters bound [] false) do
        expressionWithin depth body
        emit .giveBack
      makeFunction inner parameters [] code
    | .collected kind key element loops =>
      let bound := loops.flatMap (targetNames deepestProgram ·.1)
      let name := CollectionKind.codeName kind
      let code <- inside (<- functionDraft name [(".0", .usual, none)] bound [] true) do
        match kind with
        | .list => emit (.list 0)
        | .set => emit (.set 0)
        | .dict => emit (.dict 0)
        | .generator => markGenerator
        loopSteps inner (fun count => do
          match kind with
          | .list =>
            inner element
            emit (.append count)
          | .set =>
            inner element
            emit (.add count)
          | .dict =>
            (key.map inner).getD (pure ())
            inner element
            emit (.put count)
          | .generator =>
            inner element
            emit .give
            emit .pop) 0 loops
        if kind = .generator then emit (.constant .nothing)
        emit .giveBack
      emit (.function code 0 [] [])
      match loops.head? with
      | some (_, source, _) =>
        inner source
        spanned source.span (emit .iterate)
      | none => pure ()
      emit (.call 1 [])
    | .assigned name value =>
      inner value
      emit .copy
      storeOutside name
    | .give value =>
      markGenerator
      match value with
      | some value => inner value
      | none => emit (.constant .nothing)
      emit .give
    | .giveAll value =>
      markGenerator
      inner value
      emit .iterate
      emit (.constant .nothing)
      emit .giveAll

def expression (found : Expression) : Assembling Unit := expressionWithin deepestProgram found

def assignable (target : Expression) : Assembling Unit := assign expression deepestProgram target

/-! ## Statements -/

def skipUnless (test : Expression) (label : Nat) : Assembling Unit := do
  expression test
  spanned test.span (emit (.jumpUnless label))

/-- Puts the steps that lead out of surroundings, up to a loop or to the end of the function. -/
def leaveSurroundings (block : List Statement -> Assembling Unit) (upToLoop : Bool)
    (keepsValue : Bool) : List Surrounding -> Assembling (Option (Nat × Nat × Bool))
  | [] => return none
  | surrounding :: rest => do
    let goOn : Assembling (Option (Nat × Nat × Bool)) :=
      leaveSurroundings block upToLoop keepsValue rest
    match surrounding with
    | .loop again leave isEach => if upToLoop then return some (again, leave, isEach) else goOn
    | .attempt =>
      emit .endAttempt
      goOn
    | .ending body =>
      emit .endAttempt
      let before := (<- get).draft.surroundings
      change ({ · with surroundings := rest })
      block body
      change ({ · with surroundings := before })
      goOn
    | .handler name =>
      emit .leaveHandler
      match name with
      | some name =>
        emit (.constant .nothing)
        store name
        drop name
      | none => pure ()
      goOn
    | .fault =>
      if keepsValue then emit .swap
      emit .pop
      emit .leaveHandler
      goOn
    | .manager =>
      emit .leave
      goOn

def isInLoop (surroundings : List Surrounding) : Bool :=
  surroundings.any fun
    | .loop _ _ _ => true
    | _ => false

def docOf (body : List Statement) : Value :=
  let rec find : Nat -> Statement -> Value
    | 0, _ => .nothing
    | depth + 1, .at _ inner => find depth inner
    | _, .expression inner => match inner.bare with
      | .constant (.text text) => .text text
      | _ => .nothing
    | _, _ => .nothing
  match body with
  | first :: _ => find 5 first
  | [] => .nothing

/-- Compares the value on the stack, which goes away, with a shape: jumps if it does not fit, with so
many values above the ones that stay. -/
def shapeSteps : Nat -> Shape -> Nat -> Assembling Unit
  | 0, _, _ => emit .pop
  | depth + 1, shape, fail => do
    let inner (shape : Shape) (fail : Nat) : Assembling Unit := shapeSteps depth shape fail
    match shape with
    | .any none => emit .pop
    | .any (some name) => store name
    | .value value =>
      expression value
      emit (.related .same)
      emit (.jumpUnless fail)
    | .exactly value =>
      emit (.constant value)
      emit (.related .isOne)
      emit (.jumpUnless fail)
    | .called shape name =>
      emit .copy
      let wrong <- label
      let ending <- label
      inner shape wrong
      store name
      emit (.jump ending)
      mark wrong
      emit .pop
      emit (.jump fail)
      mark ending
    | .oneOf shapes =>
      let ending <- label
      shapes.forM fun shape => do
        let next <- label
        emit .copy
        inner shape next
        emit .pop
        emit (.jump ending)
        mark next
      emit .pop
      emit (.jump fail)
      mark ending
    | .row before rest after =>
      let wrong <- label
      let fits <- label
      let ending <- label
      emit .copy
      emit (.fitsRow (before.length + after.length) rest.isSome)
      emit (.jumpIf fits)
      mark wrong
      emit .pop
      emit (.jump fail)
      mark fits
      match rest with
      | some _ => emit (.unpackAround before.length after.length)
      | none => emit (.unpack before.length)
      parts inner (before ++ (rest.map .any).toList ++ after) fail ending
      mark ending
    | .table entries rest =>
      let wrong <- label
      let ending <- label
      emit .copy
      emit .fitsTable
      let fits <- label
      emit (.jumpIf fits)
      mark wrong
      emit .pop
      emit (.jump fail)
      mark fits
      match rest with
      | some name =>
        emit .copy
        entries.forM (expression ·.1)
        emit (.withoutKeys entries.length)
        store name
      | none => pure ()
      entries.forM (expression ·.1)
      emit (.fitsKeys entries.length)
      let found <- label
      emit .copy
      emit (.constant .nothing)
      emit (.related .isNotOne)
      emit (.jumpIf found)
      emit .pop
      emit (.jump fail)
      mark found
      emit (.unpack entries.length)
      parts inner (entries.map Prod.snd) fail ending
      mark ending
    | .type type placed named =>
      let ending <- label
      expression type
      emit (.fitsType placed.length (named.map Prod.fst))
      let found <- label
      emit .copy
      emit (.constant .nothing)
      emit (.related .isNotOne)
      emit (.jumpIf found)
      emit .pop
      emit (.jump fail)
      mark found
      emit (.unpack (placed.length + named.length))
      parts inner (placed ++ named.map Prod.snd) fail ending
      mark ending
where
  parts (inner : Shape -> Nat -> Assembling Unit) : List Shape -> Nat -> Nat -> Assembling Unit
    | [], _, _ => pure ()
    | [shape], fail, _ => inner shape fail
    | shape :: rest, fail, ending => do
      let wrong <- label
      inner shape wrong
      parts inner rest fail ending
      emit (.jump ending)
      mark wrong
      rest.forM (fun _ => emit .pop)
      emit (.jump fail)

structure Assembler where
  block : List Statement -> Assembling Unit

section

variable (assembler : Assembler)

def loop (test : Expression) (body atEnd : List Statement) : Assembling Unit := do
  let again <- label
  let past <- label
  let leave <- label
  mark again
  skipUnless test past
  within (.loop again leave false) (assembler.block body)
  emit (.jump again)
  mark past
  assembler.block atEnd
  mark leave

def each (target source : Expression) (body atEnd : List Statement) : Assembling Unit := do
  let again <- label
  let past <- label
  let leave <- label
  expression source
  spanned source.span (emit .iterate)
  mark again
  spanned source.span (emit (.next past))
  assignable target
  within (.loop again leave true) (assembler.block body)
  emit (.jump again)
  mark past
  assembler.block atEnd
  mark leave

def andAtEnd (work : Assembling Unit) (atEnd : List Statement) : Assembling Unit := do
  if atEnd.isEmpty then work
  else
    let wrong <- label
    let ending <- label
    emit (.attempt wrong)
    within (.ending atEnd) work
    emit .endAttempt
    assembler.block atEnd
    emit (.jump ending)
    mark wrong
    within .fault (assembler.block atEnd)
    emit .reraise
    mark ending

def attempt (body : List Statement)
    (handlers : List (Span × Option Expression × Option String × List Statement))
    (otherwise : List Statement) : Assembling Unit := do
  if handlers.isEmpty then assembler.block body
  else
    let wrong <- label
    let ending <- label
    emit (.attempt wrong)
    within .attempt (assembler.block body)
    emit .endAttempt
    assembler.block otherwise
    emit (.jump ending)
    mark wrong
    handlers.forM fun (span, types, name, body) => do
      let next <- label
      match types with
      | some types =>
        expression types
        spanned types.span (emit (.matches next))
      | none =>
        let isLast := (handlers.getLast?.map (·.1)) == some span
        if !isLast then spanned span (refuse "default 'except:' must be last")
      match name with
      | some name => store name
      | none => emit .pop
      within (.handler name) (assembler.block body)
      emit .leaveHandler
      match name with
      | some name =>
        emit (.constant .nothing)
        store name
        drop name
      | none => pure ()
      emit (.jump ending)
      mark next
    emit .reraise
    mark ending

def managed : List (Expression × Option Expression) -> List Statement -> Assembling Unit
  | [], body => assembler.block body
  | (value, target) :: rest, body => do
    let wrong <- label
    let ending <- label
    expression value
    spanned value.span (emit (.enter wrong))
    within .manager do
      match target with
      | some target => assignable target
      | none => emit .pop
      managed rest body
    spanned value.span (emit .leave)
    emit (.jump ending)
    mark wrong
    spanned value.span (emit .leaveAtFault)
    mark ending

def function (name : String) (parameters : Parameters) (notes : List (String × Expression))
    (body : List Statement) (decorators : List Expression) : Assembling Unit := do
  decorators.forM expression
  let bound := body.flatMap (boundIn deepestProgram)
  let declared := body.flatMap (declaredIn deepestProgram)
  let draft <- functionDraft name parameters bound declared false
  let doc := docOf body
  let code <- inside { draft with code := { draft.code with doc } } do
    let outside := draft.outer
    outside.forM fun name => do
      match <- access name with
      | .outer _ _ => pure ()
      | _ => refuse s!"no binding for nonlocal '{name}' found"
    assembler.block body
    emit (.constant .nothing)
    emit .giveBack
  makeFunction expression parameters notes code
  decorators.reverse.forM (spanned ·.span (emit (.call 1 [])))
  store name

def type (name : String) (arguments : List (ArgumentKind × Expression)) (body : List Statement)
    (decorators : List Expression) : Assembling Unit := do
  decorators.forM expression
  let assembly <- get
  let declared := body.flatMap (declaredIn deepestProgram)
  let qualified <- qualifiedName name
  let doc := docOf body
  let draft : Draft :=
    { code :=
        { name, qualified, kind := .type, slots := #["__class__"]
          file := assembly.draft.code.file, firstLine := assembly.draft.span.line, doc }
      shared := (declared.filter (·.2)).map Prod.fst
      outer := (declared.filter (!·.2)).map Prod.fst
      span := assembly.draft.span }
  let code <- inside draft do
    assembler.block body
    emit (.constant .nothing)
    emit .giveBack
  emit (.function code 0 [] [])
  let isPlain (argument : ArgumentKind × Expression) : Bool := argument.1 = .plain
  let bases := arguments.filter isPlain
  bases.forM (expression ·.2)
  let named := arguments.filterMap fun (kind, value) => match kind with
    | .named name => some (name, value)
    | _ => none
  named.forM (expression ·.2)
  emit (.type name bases.length (named.map Prod.fst))
  decorators.reverse.forM (spanned ·.span (emit (.call 1 [])))
  store name

def jumpInLoop (leaves : Bool) : Assembling Unit := do
  let surroundings := (<- get).draft.surroundings
  if !isInLoop surroundings then
    refuse (if leaves then "'break' outside loop" else "'continue' not properly in loop")
  match <- leaveSurroundings assembler.block true false surroundings with
  | some (again, leave, isEach) =>
    if leaves then
      if isEach then emit .pop
      emit (.jump leave)
    else emit (.jump again)
  | none => pure ()

def remove (target : Expression) : Nat -> Assembling Unit
  | 0 => pure ()
  | depth + 1 => match target with
    | .at span found => spanned span (removeBare found depth)
    | found => removeBare found depth
where
  removeBare : Expression -> Nat -> Assembling Unit
    | .at span found, depth => spanned span (removeBare found depth)
    | .name name, _ => drop name
    | .attribute object name, _ => do
      expression object
      emit (.dropAttribute name)
    | .item object index, _ => do
      expression object
      expression index
      emit .dropItem
    | .tuple items, depth + 1 => items.forM (remove · depth)
    | .list items, depth + 1 => items.forM (remove · depth)
    | _, _ => pure ()

def changeTarget (target : Expression) (operator : Operator) (value : Expression) :
    Assembling Unit := do
  let span := (<- get).draft.span
  match target.bare with
  | .name name =>
    spanned target.span (load name)
    expression value
    spanned span (emit (.changed operator))
    store name
  | .attribute object name =>
    expression object
    emit .copy
    spanned target.span (emit (.attribute name))
    expression value
    spanned span (emit (.changed operator))
    emit .swap
    spanned target.span (emit (.setAttribute name))
  | .item object index =>
    expression object
    expression index
    emit .copyTwo
    spanned target.span (emit .item)
    expression value
    spanned span (emit (.changed operator))
    emit .lift
    spanned target.span (emit .setItem)
  | _ => pure ()

def statementWithin : Nat -> Statement -> Assembling Unit
  | 0, _ => refuse "too many statements inside one another"
  | depth + 1, statement => do
    match statement with
    | .at span inner => spanned span (statementWithin depth inner)
    | .expression inner => match inner.bare with
      | .constant _ => pure ()
      | _ =>
        expression inner
        emit .pop
    | .assign targets value =>
      expression value
      (targets.take (targets.length - 1)).forM fun target => do
        emit .copy
        assignable target
      (targets.getLast?.map assignable).getD (pure ())
    | .annotated target annotation value =>
      match value with
      | some value =>
        expression value
        assignable target
      | none => pure ()
      let kind := (<- get).draft.code.kind
      match target.bare with
      | .name name =>
        if kind ≠ .function then
          expression annotation
          emit (.annotate name)
      | _ => pure ()
    | .changed target operator value => changeTarget target operator value
    | .delete targets => targets.forM (remove · deepestProgram)
    | .pass => pure ()
    | .leave => jumpInLoop assembler true
    | .again => jumpInLoop assembler false
    | .giveBack value =>
      let draft := (<- get).draft
      if draft.code.kind ≠ .function then refuse "'return' outside function"
      match value with
      | some value => expression value
      | none => emit (.constant .nothing)
      discard <| leaveSurroundings assembler.block false true draft.surroundings
      emit .giveBack
    | .raise value cause =>
      (value.map expression).getD (pure ())
      (cause.map expression).getD (pure ())
      emit (.raise ((if value.isSome then 1 else 0) + if cause.isSome then 1 else 0))
    | .assert test message =>
      let ending <- label
      expression test
      emit (.jumpIf ending)
      (message.map expression).getD (pure ())
      emit (.failAssertion message.isSome)
      mark ending
    | .shared names =>
      let draft := (<- get).draft
      match names.find? draft.seen.contains with
      | some name => refuse s!"name '{name}' is assigned to before global declaration"
      | none =>
        if draft.code.kind = .program then
          change fun draft => { draft with shared := names ++ draft.shared }
    | .outer names =>
      let draft := (<- get).draft
      if draft.code.kind = .program then refuse "nonlocal declaration not allowed at module level"
      match names.find? draft.seen.contains with
      | some name => refuse s!"name '{name}' is assigned to before nonlocal declaration"
      | none => pure ()
    | .use package name =>
      emit (.use package name.isSome)
      store (name.getD (firstPart package))
    | .useFrom package level names =>
      emit (.useFrom package level)
      names.forM fun (name, other) => do
        emit (.useName name)
        store other
      emit .pop
    | .useAll package =>
      if (<- get).draft.code.kind ≠ .program then refuse "import * only allowed at module level"
      emit (.useAll package)
    | .choice test body otherwise =>
      let other <- label
      skipUnless test other
      assembler.block body
      if otherwise.isEmpty then mark other
      else
        let ending <- label
        emit (.jump ending)
        mark other
        assembler.block otherwise
        mark ending
    | .loop test body atEnd => loop assembler test body atEnd
    | .each target source body atEnd => each assembler target source body atEnd
    | .attempt body handlers otherwise atEnd =>
      andAtEnd assembler (attempt assembler body handlers otherwise) atEnd
    | .within items body => managed assembler items body
    | .function name parameters notes body decorators =>
      function assembler name parameters notes body decorators
    | .type name arguments body decorators => type assembler name arguments body decorators
    | .cases subject cases =>
      let ending <- label
      expression subject
      cases.forM fun (shape, test, body) => do
        let next <- label
        emit .copy
        shapeSteps deepestProgram shape next
        (test.map (skipUnless · next)).getD (pure ())
        emit .pop
        assembler.block body
        emit (.jump ending)
        mark next
      emit .pop
      mark ending

end

def assemblerWithin : Nat -> Assembler
  | 0 => { block := fun _ => refuse "too many statically nested blocks" }
  | depth + 1 => { block := fun body => body.forM (statementWithin (assemblerWithin depth) 10 ·) }

end Assembling

def codesOf (file : String) (first : Nat) (body : List Statement) : Except Fault (Array Code) := do
  let draft : Draft :=
    { code := { name := "<module>", file, kind := .program, doc := Assembling.docOf body } }
  let work : Assembling Unit := do
    let number <- .inside draft do
      (Assembling.assemblerWithin deepestProgram).block body
      .emit (.constant .nothing)
      .emit .giveBack
    discard <| pure number
  let (_, assembly) <- work.run { draft, first }
  return assembly.codes

def expressionCodes (file : String) (first : Nat) (found : Expression) :
    Except Fault (Array Code) := do
  let draft : Draft := { code := { name := "<module>", file, kind := .program } }
  let work : Assembling Unit := do
    discard <| .inside draft do
      .expression found
      .emit .giveBack
  let (_, assembly) <- work.run { draft, first }
  return assembly.codes

end BaseLanguage.Shell.Objects
