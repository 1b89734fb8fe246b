import BaseLanguage.Shell.Utility.Extraction.Reader

namespace BaseLanguage

open Text
namespace Shell
namespace Extraction
namespace Reading

/-!
# Statements of a program

A statement is an expression, perhaps with a condition behind it, or begins with a word of its own.
Functions with a name are gathered while the program is read.
-/

section

variable (grammar : Grammar)

/-! ## Conditions -/

def readingTest (test : Expression) : Expression := match test with
  | .readLine _ => .function "defined" [.assign usualPlace test]
  | .filesLike _ => .function "defined" [.assign usualPlace test]
  | .function "readdir" _ => .function "defined" [.assign usualPlace test]
  | .function "shift" _ => test
  | .assign place (.readLine stream) =>
    if place.isListPlace then test else .function "defined" [.assign place (.readLine stream)]
  | .assign place (.filesLike pattern) =>
    if place.isListPlace then test else .function "defined" [.assign place (.filesLike pattern)]
  | .assign place (.function name arguments) =>
    if place.isListPlace || !(name = "readdir" || name = "each" || name = "readline") then test
    else .function "defined" [.assign place (.function name arguments)]
  | test => test

def takeCondition : Reading Expression := do
  expect "("
  toNext
  if <- accept ")" then return .constant (.whole 1)
  else
    let test <- grammar.expression
    expect ")"
    settle
    return test

def takeCases : Nat -> List (Expression × List Statement) ->
    Reading (List (Expression × List Statement) × List Statement)
  | 0, cases => return (cases.reverse, [])
  | limit + 1, cases => do
    if <- acceptWord "elsif" then
      takeCases limit (((<- takeCondition grammar), (<- grammar.block)) :: cases)
    else if <- acceptWord "else" then return (cases.reverse, <- grammar.block)
    else return (cases.reverse, [])

def takeOnward : Reading (List Statement) := do
  if <- acceptWord "continue" then grammar.block else return []

def takeBefore (sign : String) : Reading (Option Expression) := do
  toNext
  if <- accept sign then return none
  else
    let value <- grammar.expression
    expect sign
    return some value

def takeFor (line : Nat) (label : Option String) : Reading Statement := do
  toNext
  let isOwn <- do
    if <- acceptWord "my" then pure true
    else if <- acceptWord "our" then pure false
    else acceptWord "state"
  toNext
  if <- sees "$" then
    begin
    skip 1
    let name <- takeName mostParts
    let holder <- if isOwn then pure (Holder.shared "") else holderOf .cell name
    expect "("
    let parts <- takeList grammar mostItems []
    expect ")"
    let holder <- if isOwn then do pure (Holder.own (<- newName .cell name)) else pure holder
    settle
    return .forEach line label holder (.list parts) (<- grammar.block) (<- takeOnward grammar)
  else if !(<- sees "(") && (<- seesName) then faultHere "Missing $ on loop variable"
  else
    expect "("
    toNext
    if <- accept ";" then takeCounting none
    else
      let parts <- takeList grammar mostItems []
      let first := match parts with
        | [part] => part
        | parts => Expression.list parts
      if <- accept ";" then takeCounting (some first)
      else
        expect ")"
        settle
        let body <- grammar.block
        return .forEach line label (.shared "main::_") (.list parts) body (<- takeOnward grammar)
where
  takeCounting (first : Option Expression) : Reading Statement := do
    settle
    let test <- takeBefore grammar ";"
    let next <- takeBefore grammar ")"
    settle
    return .count line label first (test.map readingTest) next (<- grammar.block)

/-! ## Packages -/

def knownTexts : Expression -> List String
  | .constant (.text octets) => [octets]
  | .function "split" [_, .constant (.text octets)] => octets.splitOn ","
  | .list parts => parts.flatMap fun
    | .constant (.text octets) => [octets]
    | .list parts => parts.filterMap fun
      | .constant (.text octets) => some octets
      | _ => none
    | _ => []
  | _ => []

def constantNames : Expression -> List String
  | .list (.constant (.text name) :: _) => [name]
  | .constant (.text name) => [name]
  | .newTable parts => (parts.zipIdx.filterMap fun
    | (.constant (.text name), index) => if index % 2 = 0 then some name else none
    | _ => none)
  | .list [.newTable parts] => (parts.zipIdx.filterMap fun
    | (.constant (.text name), index) => if index % 2 = 0 then some name else none
    | _ => none)
  | _ => []

def takenNames (package : String) (offer : Offer) (wanted : Option (List String)) :
    List (String × String) :=
  let names := match wanted with
    | none => offer.usual
    | some wanted => wanted.flatMap fun (name : String) =>
      if name.startsWith ":" then offer.usual ++ offer.others else [name]
  (names.filter (fun name => offer.usual.contains name || offer.others.contains name)).map
    fun name => (name, s!"{package}::{name}")

def takeUse (line : Nat) (isWanted : Bool) : Reading (List Statement) := do
  toNext
  if (<- peek).any isDigit || ((<- peek) == some 'v' && (<- peekAt 1).any isDigit) then
    if (<- peek) == some 'v' then skip 1
    let written := String.ofList (<- takeRun (fun c => isDigit c || c = '.' || c = '_'))
    discard <| accept ";"
    let parts := (written.splitOn ".").map (valueOf ·.toList)
    let minor := match written.splitOn ".", parts with
      | [_, places], [5, _] =>
        if places.length < 3 then valueOf places.toList else valueOf (places.toList.take 3)
      | _, 5 :: minor :: _ => minor
      | _, _ => 0
    modify fun source => { source with
      isStrict := source.isStrict || 12 <= minor
      features := if 10 <= minor then "say" :: "state" :: source.features else source.features }
    return []
  else
    let package <- takeName mostParts
    let argument <- if <- seesTerm true then do pure (some (<- grammar.expression)) else pure none
    discard <| accept ";"
    let texts := (argument.map knownTexts).getD []
    match package with
    | "strict" =>
      if isWanted then modify ({ · with isStrict := true })
      else if texts.isEmpty || texts.contains "vars" || texts.contains "subs" then
        modify ({ · with isStrict := false })
      return []
    | "feature" =>
      let wanted := if texts.any (·.startsWith ":") then ["say", "state"] else texts
      modify fun source => { source with
        features :=
          if isWanted then wanted ++ source.features
          else source.features.filter (!wanted.contains ·) }
      return []
    | "utf8" =>
      if isWanted then modify fun source => { source with
        text := source.text.extract 0 source.place ++ (ofBytesLossy (bytesOf
            (source.text.extract source.place source.text.size).toList)).toArray }
      return []
    | "vars" =>
      modify fun source => { source with
        naming := texts.map (fun text => (text, Holder.shared
          (wholeName source.package (.ofList (text.toList.drop 1))))) ++ source.naming }
      return []
    | "constant" => match argument with
      | some value =>
        let names := constantNames value
        modify fun source => { source with
          constants := names ++ source.constants
          known := names ++ source.known }
        let package := (<- get).package
        let parts := match value with
          | .list parts => parts
          | value => [value]
        return [.evaluate line (.function "constant" (.ofText package :: parts))]
      | none => return []
    | "parent" => return <- inheriting texts
    | "base" => return <- inheriting texts
    | "lib" =>
      modify ({ · with failure := 2 })
      return []
    | "overload" => match argument with
      | some value =>
        let table := Expression.named .table (.shared s!"{(← get).package}::(overload")
        return [.evaluate line (.assign table value)]
      | none => return []
    | package => match offers.lookup package with
      | some offer =>
        let wanted := argument.map knownTexts
        modify fun source => { source with
          taken := takenNames package offer wanted ++ source.taken
          failure := if searchingPackages.contains package then 2 else 0
          constants := wordsIn "INT_MAX INT_MIN UINT_MAX LONG_MAX LONG_MIN DBL_MAX DBL_MIN
            FLT_MAX" ++ source.constants }
        return []
      | none =>
        if pragmas.contains package || !isWanted then return []
        else
          let told <- whereNow
          let message := s!"{missingPackage package} {told}.\n"
          throw { message := s!"{message}BEGIN failed--compilation aborted {told}.\n", status := 2 }
where
  inheriting (texts : List String) : Reading (List Statement) := do
    let names := texts.filter (· ≠ "-norequire")
    let row := Expression.named .row (.shared s!"{(← get).package}::ISA")
    return [.evaluate line (.function "push" (row :: names.map .ofText))]

/-! ## Statements -/

def takeModifier (line : Nat) (value : Expression) : Reading Statement := do
  let statement : Statement := .evaluate line value
  if <- acceptWord "if" then return .evaluate line (.both (<- grammar.expression) value)
  else if <- acceptWord "unless" then return .evaluate line (.either (<- grammar.expression) value)
  else if <- acceptWord "while" then repeated false statement
  else if <- acceptWord "until" then repeated true statement
  else if (<- acceptWord "for") || (<- acceptWord "foreach") then
    return .forEach line none (.shared "main::_") (<- grammar.expression) [statement] []
  else return statement
where
  repeated (isOpposite : Bool) (statement : Statement) : Reading Statement := do
    let test := readingTest (<- grammar.expression)
    match value with
    | .perform _ => return .repeatWhile line isOpposite value test
    | _ => return .whileHolds line none isOpposite test [statement] []

def takeNamed (name : String) : Reading Unit := do
  let whole := wholeName (<- get).package name
  modify fun source => { source with known := name :: whole :: source.known }
  toNext
  if !(<- sees ";") then
    let body <- takeProcedure grammar
    modify fun source => { source with procedures := (whole, body) :: source.procedures }

def takeStatementLabel? : Reading (Option String) := do
  let before <- get
  let name <- takeName 1
  toNext
  let isLabel <- do
    if name.isEmpty || isKnownFunction name || !(<- sees ":") || (<- sees "::") then pure false
    else pure (name.toList.all (fun c => c.isUpper || c = '_' || isDigit c) ||
      (<- peekAt 1).any isSpace)
  let isChoice <- do
    if isLabel then pure (before.known.contains name || before.constants.contains name)
    else pure false
  if isLabel && !isChoice then
    skip 1
    toNext
    return some name
  else
    set before
    return none

def takeWordStatement (line : Nat) (label : Option String) (word : String) :
    Reading (Option (List Statement)) := do
  let before <- get
  skip word.length
  toNext
  if (<- sees "=>") then
    set before
    return none
  else match word with
    | "if" => choice false
    | "unless" => choice true
    | "while" => loop false
    | "until" => loop true
    | "for" => return some [<- inBlock (takeFor grammar line label)]
    | "foreach" => return some [<- inBlock (takeFor grammar line label)]
    | "sub" =>
      let name <- takeName mostParts
      if name.isEmpty then
        set before
        return none
      else
        takeNamed grammar name
        return some []
    | "package" =>
      let name <- takeName mostParts
      toNext
      if <- sees "\x7b" then
        let body <- inBlock do
          modify ({ · with package := name })
          grammar.block
        return some [.block none (.package line name :: body) []]
      else
        discard <| accept ";"
        modify ({ · with package := name })
        return some [.package line name]
    | "use" => return some (<- takeUse grammar line true)
    | "no" => return some (<- takeUse grammar line false)
    | "BEGIN" =>
      let body <- grammar.block
      modify fun source => { source with early := source.early ++ [body] }
      return some []
    | "else" => misplaced before
    | "elsif" => misplaced before
    | "END" =>
      let body <- grammar.block
      modify fun source => { source with endings := body :: source.endings }
      return some []
    | "__END__" => ends
    | "__DATA__" => ends
    | _ =>
      set before
      return none
where
  misplaced (before : Source) : Reading (Option (List Statement)) := do
    set before
    modify fun source => { source with last := source.place, earlier := source.place }
    syntaxFault false
  choice (isOpposite : Bool) : Reading (Option (List Statement)) :=
    inBlock do
      let test <- takeCondition grammar
      let body <- grammar.block
      let (cases, otherwise) <- takeCases grammar mostItems []
      let test := if isOpposite then .opposite test else test
      return some [.choose line ((test, body) :: cases) otherwise]
  loop (isOpposite : Bool) : Reading (Option (List Statement)) :=
    inBlock do
      let test := readingTest (<- takeCondition grammar)
      let body <- grammar.block
      return some [.whileHolds line label isOpposite test body (<- takeOnward grammar)]
  ends : Reading (Option (List Statement)) := do
    let source <- get
    let rest := (source.text.extract source.place source.text.size).toList
    let data := (rest.dropWhile (· != '\n')).drop 1
    set { source with place := source.text.size, data := some data }
    return some []

def takeStatement : Reading (List Statement) := do
  toNext
  let line <- line
  let label <- takeStatementLabel?
  match <- peek with
  | some ';' =>
    skip 1
    return []
  | some '{' =>
    let isTable <- seesTable
    let isEmpty <- do
      let before <- get
      skip 1
      toNext
      let found <- sees "\x7d"
      set before
      pure found
    if isTable && !isEmpty then simple line
    else return [.block label (<- grammar.block) (<- takeOnward grammar)]
  | some c =>
    if isNameStart c then
      let word <- nameAhead
      match <- takeWordStatement grammar line label word with
      | some statements => return statements
      | none => simple line
    else simple line
  | none => return []
where
  simple (line : Nat) : Reading (List Statement) := do
    let statement <- takeModifier grammar line (<- grammar.expression)
    settle
    toNext
    if <- accept ";" then return [statement]
    else if (<- sees "\x7d") || (<- peek).isNone then return [statement]
    else syntaxFault true

def takeStatements : Nat -> List Statement -> Reading (List Statement)
  | 0, done => return done.reverse
  | limit + 1, done => do
    toNext
    if (<- peek).isNone || (<- sees "\x7d") then return done.reverse
    else takeStatements limit ((<- takeStatement grammar).reverse ++ done)

def takeBlock : Reading (List Statement) := do
  toNext
  if !(<- sees "\x7b") then syntaxFault false
  else
    begin
    skip 1
    inBlock do
      let body <- takeStatements grammar mostItems []
      expect "\x7d"
      return body

end

def grammarWithin : Nat -> Grammar
  | 0 =>
    { expression := syntaxFault false
      assigned := syntaxFault false
      assignedList := syntaxFault false
      block := syntaxFault false
      statements := syntaxFault false }
  | limit + 1 =>
    { expression := fun source => takeExpression (grammarWithin limit) source
      assigned := (takeAssigned (grammarWithin limit) ·)
      assignedList := (takeCommas (grammarWithin limit) ·)
      block := (takeBlock (grammarWithin limit) ·)
      statements := (takeStatements (grammarWithin limit) mostItems [] ·) }

def mostNesting : Nat := 5000

def takeScript : Reading Script := do
  let body <- (grammarWithin mostNesting).statements
  toNext
  if (<- peek).isSome then
    let told <- whereNow
    let source <- get
    let first := min source.last source.place
    let near := String.ofList (<- between first (source.place + 1))
    let complaint := s!"Unmatched right curly bracket {told}, at end of line\n" ++
      s!"syntax error {told}, near \"{near}\"\n"
    modify fun source => { source with faults := complaint :: source.faults }
    throw (<- stopped)
  else
    let source <- get
    if !source.faults.isEmpty then throw (<- stopped)
    else
      return {
        body
        procedures := source.procedures.reverse
        early := source.early
        endings := source.endings
        names := source.names
        ranges := source.ranges
        failure := source.failure
        data := source.data }

end Reading

def Script.ofSource (source : Source) : Except Refusal Script := do
  let (script, _) <- Reading.takeScript.run source
  return script

end Extraction
end Shell
end BaseLanguage
