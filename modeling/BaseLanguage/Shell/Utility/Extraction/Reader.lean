import BaseLanguage.Shell.Utility.Extraction.Quoting

namespace BaseLanguage.Shell.Extraction.Reading

open Text

/-!
# Expressions of a program

Terms are joined by operators, some of which bind closer than others.  A word without a sign is a
function with what follows as its arguments, or stands for itself.
-/

section

variable (grammar : Grammar)

/-! ## Lists of arguments -/

def joiningWords : List String :=
  wordsIn "x eq ne lt gt le ge cmp and or xor if unless while until for foreach isa"

/-- Whether a term may begin here.  In a list every sign that may begin a term does, while behind a
function with one operand a loose sign stands between two operands. -/
def seesTerm (isList : Bool) : Reading Bool := do
  toNext
  let some c <- peek | return false
  let next <- peekAt 1
  let isLoose := !isList && (next.any isSpace || next == some '=')
  if isNameStart c then return !joiningWords.contains (<- nameAhead)
  else if isDigit c then return true
  else if ['$', '@', '"', '\'', '\x60', '\\', '(', '[', '{', '~', '!'].contains c then
    return !(c = '!' && (next == some '=' || next == some '~'))
  else if c = '%' then
    return !isLoose && next.any (fun c => isNameStart c || c = '$' || c = '{' || c = '+')
  else if c = '&' then return !isLoose && next.any (fun c => isNameStart c || c = '$' || c = '{')
  else if c = '-' then return !isLoose && next != some '>'
  else if c = '+' then return !isLoose
  else if c = '<' then return !isLoose
  else if c = '/' then return isList || (next != some '/' && !isLoose)
  else if c = '.' then return next.any isDigit
  else if c = '*' then return next.any (fun c => isNameStart c || c = '{')
  else if c = ':' then return next == some ':' && (<- peekAt 2).any isNameStart
  else return false

def takeList : Nat -> List Expression -> Reading (List Expression)
  | 0, done => return done.reverse
  | limit + 1, done => do
    if <- seesTerm true then
      let part <- grammar.assigned
      if (<- accept ",") || (<- accept "=>") then takeList limit (part :: done)
      else return (part :: done).reverse
    else if (<- accept ",") then takeList limit done
    else return done.reverse

def mostItems : Nat := 100000

def takeArguments : Reading (List Expression) := do
  let parts <- takeList grammar mostItems []
  expect ")"
  return parts

def takeOperands : Reading (List Expression) := do
  toNext
  if <- accept "(" then takeArguments grammar else takeList grammar mostItems []

/-! ## What follows a term -/

/-- What follows a value: arrows, brackets, braces and parentheses.  Behind the first of them, the
arrows may be left out. -/
def takeSubscripts : Nat -> Bool -> Expression -> Reading Expression
  | 0, _, value => return value
  | limit + 1, isSubscript, value => do
    let before <- get
    toNext
    if (<- sees "->") then
      skip 2
      toNext
      match <- peek with
      | some '[' =>
        skip 1
        let value := .item (.followed .row value) (<- takeIndex grammar)
        takeSubscripts limit true value
      | some '{' =>
        skip 1
        let value := .entry (.followed .table value) (<- takeKey grammar)
        takeSubscripts limit true value
      | some '(' =>
        skip 1
        takeSubscripts limit true (.call value (some (<- takeArguments grammar)))
      | some '@' =>
        skip 1
        if <- accept "*" then return .followed .row value
        else if <- accept "[" then return .items (.followed .row value) (<- takeIndex grammar)
        else
          expect "\x7b"
          let keys <- grammar.expression
          expect "\x7d"
          return .entries (.followed .table value) keys
      | some '%' =>
        skip 1
        expect "*"
        return .followed .table value
      | some '$' =>
        skip 1
        if <- accept "*" then takeSubscripts limit true (.followed .cell value)
        else if <- sees "#*" then
          skip 2
          return .lastPlace (.followed .row value)
        else
          let name <- takeCell grammar false false
          let arguments <- if <- sees "(" then skip 1 *> takeArguments grammar else pure []
          takeSubscripts limit true (.method value name false arguments)
      | _ =>
        let name <- takeName mostParts
        if name.isEmpty then syntaxFault false
        else
          let name := if name.startsWith "SUPER::" then s!"{before.package}::{name}" else name
          let arguments <- if <- sees "(" then skip 1 *> takeArguments grammar else pure []
          takeSubscripts limit true (.method value (.ofText name) false arguments)
    else if isSubscript then
      match <- peek with
      | some '[' =>
        skip 1
        let value := .item (.followed .row value) (<- takeIndex grammar)
        takeSubscripts limit true value
      | some '{' =>
        skip 1
        let value := .entry (.followed .table value) (<- takeKey grammar)
        takeSubscripts limit true value
      | some '(' =>
        skip 1
        takeSubscripts limit true (.call value (some (<- takeArguments grammar)))
      | _ =>
        set before
        return value
    else
      set before
      return value

def isInside : Expression -> Bool
  | .item _ _ => true
  | .entry _ _ => true
  | _ => false

/-! ## Making names known -/

/-- One name that is made known: its kind and its letters; none for a place that is left out. -/
def takeDeclared : Reading (Option (Kind × String)) := do
  toNext
  if <- acceptWord "undef" then return none
  else
    let kind <-
      match <- peek with
      | some '$' => pure .cell
      | some '@' => pure .row
      | some '%' => pure .table
      | _ => syntaxFault false
    begin
    skip 1
    let name <- takeName mostParts
    if name.isEmpty then syntaxFault false else return some (kind, name)

def takeDeclaredList : Nat -> List (Option (Kind × String)) ->
    Reading (List (Option (Kind × String)))
  | 0, done => return done.reverse
  | limit + 1, done => do
    if <- accept ")" then return done.reverse
    else
      let name <- takeDeclared
      discard <| accept ","
      takeDeclaredList limit (name :: done)

def takeDeclaration (word : String) : Reading Expression := do
  toNext
  let isList <- accept "("
  let names <-
    if isList then takeDeclaredList mostItems []
    else do pure [(<- takeDeclared)]
  if word = "our" then
    let parts <- names.filterMapM fun
      | some (kind, name) => do
        let package := (<- get).package
        let holder := .shared (wholeName package name)
        let called := .singleton kind.sign ++ name
        modify fun source => { source with naming := (called, holder) :: source.naming }
        return some (.named kind holder)
      | none => return some (.constant .undefined)
    match isList, parts with
    | false, [part] => return part
    | _, parts => return .list parts
  else if names.any Option.isNone then
    let parts <- names.mapM fun
      | some (kind, name) => do
        return .declared (word = "state") false [(kind, <- newName kind name)]
      | none => return .constant .undefined
    return .list parts
  else
    let numbers <- (names.filterMap id).mapM fun (kind, name) => do
      return (kind, <- newName kind name)
    return .declared (word = "state") isList numbers

/-! ## Words -/

def seesTable : Reading Bool := do
  let before <- get
  skip 1
  toNext
  let result <-
    match <- peek with
    | some '}' => pure true
    | some '%' => pure ((<- peekAt 1).any (fun c => isNameStart c || c = '$' || c = '{'))
    | some c =>
      if c = '"' || c = '\'' then
        skip 1
        discard <| takeRun (· != c)
        skip 1
        toNext
        pure ((<- sees ",") || (<- sees "=>"))
      else if c = '$' then
        skip 1
        discard <| takeRun isNameInside
        toNext
        pure (<- sees "=>")
      else if isNameStart c || c = '-' then
        if c = '-' then skip 1
        discard <| takeRun isNameInside
        toNext
        pure ((<- sees "=>") || ((<- sees ",") && c.isUpper))
      else if isDigit c then
        discard <| takeRun isDigit
        toNext
        pure ((<- sees ",") || (<- sees "=>"))
      else pure false
    | none => pure false
  set before
  return result

def blockValue : Reading Expression := do
  match <- grammar.block with
  | [.evaluate _ value] => return value
  | body => return .perform body

def takeGathering (gathering : Gathering) : Reading Expression := do
  toNext
  let isClosed <- accept "("
  toNext
  let body <-
    if (<- sees "\x7b") then
      let before <- get
      let isTable <- if gathering = .map then seesTable else pure false
      if isTable then
        let value <- tryCatch (grammar.assigned) fun _ => do
          set before
          return .constant .undefined
        toNext
        if (<- sees ",") && (<- get).place ≠ before.place then
          skip 1
          pure (some value)
        else
          set before
          let value <- blockValue grammar
          discard <| accept ","
          pure (some value)
      else
        let value <- blockValue grammar
        discard <| accept ","
        pure (some value)
    else if gathering = .sort then
      if <- seesName then
        let before <- get
        let name <- takeName mostParts
        toNext
        let isJudge := !isKnownFunction name && (<- seesTerm false) && !(<- sees "(")
        if isJudge && !(<- sees "::") then
          pure (some (.call (.named .code (.shared (wholeName before.package name))) (some [])))
        else
          set before
          pure none
      else if (<- sees "$") then
        let before <- get
        skip 1
        let value <- takeCell grammar false false
        if (<- peek).any isSpace && (<- seesTerm false) && !(<- sees "-") && !(<- sees "[") &&
            !(<- sees "\x7b") && !(<- sees "(") then
          pure (some (.call value (some [])))
        else
          set before
          pure none
      else pure none
    else
      let value <- grammar.assigned
      expect ","
      pure (some value)
  let parts <- takeList grammar mostItems []
  if isClosed then expect ")"
  return .gather gathering body (.list parts)

def takeStream? : Reading (Option Expression) := do
  toNext
  let before <- get
  match <- peek with
  | some '{' =>
    if <- seesTable then return none
    else return some (<- blockValue grammar)
  | some '$' =>
    skip 1
    if (<- seesName) then
      let name <- takeName mostParts
      let isApart := (<- peek).any isSpace
      toNext
      let next <- peek
      let word <- nameAhead
      let isTerm := next.any (fun c => isDigit c || ['$', '@', '"', '\'', '\\'].contains c) ||
        (!word.isEmpty && !joiningWords.contains word) || (<- sees "<<\"") || (<- sees "<<'") ||
        ((<- sees "<<") && (<- peekAt 2).any Char.isUpper)
      if isApart && isTerm then return some (.named .cell (<- holderOf .cell name))
      else
        set before
        return none
    else
      set before
      return none
  | some '*' =>
    skip 1
    let name <- takeName mostParts
    if name.isEmpty then
      set before
      return none
    else return some (.ofText name)
  | _ =>
    if <- seesName then
      let name <- takeName mostParts
      let isCall <- sees "("
      toNext
      let isJoined := (<- sees ",") || (<- sees "=>") || (<- sees "->") || (<- sees ".") ||
        (<- sees "(") || (<- sees "+") || (<- sees "*") || (<- sees "?") || (<- sees "::")
      let word <- nameAhead
      let source <- get
      if isCall || isJoined || isKnownFunction name || source.known.contains name ||
          source.constants.contains name || (source.taken.lookup name).isSome ||
          (word = "x" && name ≠ "STDERR" && name ≠ "STDOUT") then
        set before
        return none
      else return some (.ofText name)
    else return none

def takeTelling (saying : Saying) : Reading Expression := do
  toNext
  let isClosed <- accept "("
  let stream <- takeStream? grammar
  let parts <- takeList grammar mostItems []
  if isClosed then expect ")"
  return .tell saying stream parts

def procedureNamed (name : String) : Reading Expression := do
  let source <- get
  match source.naming.lookup s!"&{name}" with
  | some holder => return .named .code holder
  | none => return .named .code (.shared (wholeName source.package name))

def takeProcedure : Reading (List Statement) :=
  inBlock do
    toNext
    let first <-
      if <- sees "(" then
        let before <- get
        skip 1
        let text <- takeRun (· != ')')
        if text.any isNameStart then
          set before
          skip 1
          takeSignature mostItems 0 []
        else
          skip 1
          pure []
      else pure []
    settle
    return first ++ (<- grammar.block)
where
  takeSignature : Nat -> Nat -> List Statement -> Reading (List Statement)
    | 0, _, done => return done.reverse
    | limit + 1, index, done => do
      if <- accept ")" then return done.reverse
      else
        let line <- line
        let arguments := .named .row (.shared "main::_")
        match <- takeDeclared with
        | none => return done.reverse
        | some (.cell, name) =>
          let number <- newName .cell name
          let given := .item arguments (.constant (.whole index))
          let value <-
            if (<- accept "=") || (<- accept "//=") then
              let usual <- grammar.assigned
              let isThere := .compare "<" (.constant (.whole index)) arguments
              pure (.choose isThere given usual)
            else pure given
          discard <| accept ","
          let statement := .evaluate line (.assign (.declared false false [(.cell, number)]) value)
          takeSignature limit (index + 1) (statement :: done)
        | some (kind, name) =>
          let number <- newName kind name
          let rest := .items arguments (.range 0 false (.constant (.whole index))
            (.lastPlace arguments))
          discard <| accept ","
          let statement := .evaluate line (.assign (.declared false true [(kind, number)]) rest)
          takeSignature limit (index + 1) (statement :: done)

def takeOperand (tight : Reading Expression) : Reading (List Expression) := do
  toNext
  if <- accept "(" then
    toNext
    if <- accept ")" then return []
    else
      let value <- grammar.expression
      expect ")"
      return [value]
  else if <- seesTerm false then return [<- tight]
  else return []

def takenFunction? (name : String) : Reading (Option String) := do
  let parts := name.splitOn "::"
  let package := "::".intercalate parts.dropLast
  match offers.lookup package, parts.getLast? with
  | some offer, some last =>
    return if offer.usual.contains last || offer.others.contains last then some name else none
  | _, _ => return (<- get).taken.lookup name

def takeCalled (name : String) : Reading Expression := do
  let source <- get
  toNext
  if (<- sees "=>") then return .ofText name
  else if name.endsWith "::" then return .ofText (.ofList (name.toList.dropLast.dropLast))
  else if (<- sees "->") && !source.known.contains name then return .ofText name
  else match <- takenFunction? name with
    | some function =>
      let last := ((function.splitOn "::").getLast?).getD function
      let isClosed <- accept "("
      toNext
      if source.constants.contains last then
        if isClosed then expect ")"
        return .function function []
      else if blockFunctions.contains last && (<- sees "\x7b") then
        let body <- takeProcedure grammar
        discard <| accept ","
        let parts <- takeList grammar mostItems []
        if isClosed then expect ")"
        return .function function (.procedure body :: parts)
      else if isClosed then return .function function (<- takeArguments grammar)
      else return .function function (<- takeList grammar mostItems [])
    | none =>
      let code <- procedureNamed name
      if source.constants.contains name then
        if <- accept "(" then return .call code (some (<- takeArguments grammar))
        else return .call code (some [])
      else if <- sees "(" then
        skip 1
        return .call code (some (<- takeArguments grammar))
      else if source.known.contains name then
        if <- sees "\x7b" then
          let body <- takeProcedure grammar
          discard <| accept ","
          return .call code (some (.procedure body :: (<- takeList grammar mostItems [])))
        else return .call code (some (<- takeList grammar mostItems []))
      else if name = "new" && (<- seesName) then
        let package <- takeName mostParts
        let arguments <- if <- accept "(" then takeArguments grammar else pure []
        return .method (.ofText package) (.ofText name) false arguments
      else
        let isPlain := name.contains ':' || !(name.toList.head?).any Char.isLower
        let next <- peek
        let behind <- nameAhead
        let isTerm := next.any (fun c => c = '$' || c = '"' || c = '\'' || isDigit c) ||
          (!behind.isEmpty && !joiningWords.contains behind)
        if isTerm then
          if !behind.isEmpty then
            return .method (.ofText (<- takeName mostParts)) (.ofText name) false []
          else syntaxFault true
        else
          if source.isStrict && !isPlain then
            note s!"Bareword \"{name}\" not allowed while \"strict subs\" in use"
          return .ofText name

def testLetters : Chars :=
  ['e', 'f', 'd', 'r', 'w', 'x', 's', 'z', 'l', 'o', 'R', 'W', 'X', 'O', 'p', 'S', 'b', 'c', 't', 'u',
    'g', 'k', 'T', 'B', 'M', 'A', 'C']

def takeWord (tight : Reading Expression) (name : String) : Reading Expression := do
  begin
  let before <- get
  skip name.length
  let behind <- get
  toNext
  let isQuoted <- sees "=>"
  set behind
  if isQuoted then return .ofText name
  else match name with
    | "my" => takeDeclaration name
    | "our" => takeDeclaration name
    | "state" => takeDeclaration name
    | "local" => return .localized (<- tight)
    | "sub" => return .procedure (<- takeProcedure grammar)
    | "do" =>
      toNext
      if <- sees "\x7b" then return .perform (<- grammar.block)
      else return .function "do" [<- tight]
    | "eval" =>
      toNext
      if <- sees "\x7b" then return .trial (<- grammar.block)
      else
        let operand <- takeOperand grammar tight
        let source <- get
        return .trialOf source.naming source.package (operand.headD usualPlace)
    | "print" => takeTelling grammar .plain
    | "printf" => takeTelling grammar .form
    | "say" =>
      if before.features.contains "say" then takeTelling grammar .line else takeCalled grammar name
    | "sort" => takeGathering grammar .sort
    | "map" => takeGathering grammar .map
    | "grep" => takeGathering grammar .select
    | "not" =>
      toNext
      if <- sees "(" then
        match <- takeOperand grammar tight with
        | [value] => return .opposite value
        | _ => return .opposite (.list [])
      else return .opposite (<- grammar.assigned)
    | "return" =>
      if <- seesTerm true then return .giveBack (some (<- grammar.assignedList))
      else return .giveBack none
    | "next" => return .jump .again (<- takeLabel)
    | "last" => return .jump .leave (<- takeLabel)
    | "redo" => return .jump .anew (<- takeLabel)
    | "__PACKAGE__" => return .ofText before.package
    | "__FILE__" => return .ofText before.file
    | "__LINE__" => return .constant (.whole (<- line))
    | "require" =>
      toNext
      if <- seesName then return .function "require" [.ofText (<- takeName mostParts)]
      else return .function "require" [<- tight]
    | "defined" =>
      toNext
      let isClosed <- accept "("
      toNext
      if (<- sees "&") && (<- peekAt 1).any isNameStart then
        skip 1
        let code <- procedureNamed (<- takeName mostParts)
        if isClosed then expect ")"
        return .function name [code]
      else
        set behind
        return .function name (<- takeOperand grammar tight)
    | "exists" =>
      toNext
      let isClosed <- accept "("
      toNext
      if (<- sees "&") && (<- peekAt 1).any isNameStart then
        skip 1
        let code <- procedureNamed (<- takeName mostParts)
        if isClosed then expect ")"
        return .function "defined" [code]
      else
        set behind
        return .function name (<- takeOperand grammar tight)
    | "eof" =>
      if <- sees "()" then
        skip 2
        return .function name [.list []]
      else return .function name (<- takeOperand grammar tight)
    | name =>
      if quotingWords.contains name && (<- seesQuotingHere before name) then takeQuoted grammar name
      else match <- takenFunction? name with
        | some _ => takeCalled grammar name
        | none =>
          if before.known.contains name && (!isKnownFunction name || askedFunctions.contains name) then
            takeCalled grammar name
          else if bareFunctions.contains name then
            if <- accept "(" then expect ")"
            return .function name []
          else if singleFunctions.contains name then
            return .function name (<- takeOperand grammar tight)
          else if name = "bless" then
            let parts <- takeOperands grammar
            return .function name
              (if parts.length = 1 then parts ++ [.ofText before.package] else parts)
          else if listFunctions.contains name then return .function name (<- takeOperands grammar)
          else takeCalled grammar name
where
  seesQuotingHere (before : Source) (name : String) : Reading Bool := do
    let behind <- get
    set before
    let quotes <- seesQuoting name
    set behind
    return quotes
  takeLabel : Reading (Option String) := do
    toNext
    let name <- nameAhead
    if !name.isEmpty && !joiningWords.contains name then
      skip name.length
      return some name
    else return none

def takeBare (tight : Reading Expression) : Reading Expression := do
  toNext
  begin
  let startLine <- line
  let some c <- peek | syntaxFault false
  match c with
  | '$' =>
    skip 1
    takeCell grammar false false
  | '@' =>
    skip 1
    takeRow grammar
  | '%' =>
    skip 1
    let base <- takeBase grammar mostSigns
    match <- peek with
    | some '{' =>
      skip 1
      let keys <- grammar.expression
      expect "\x7d"
      return .pairs false (<- base.at .table) keys
    | some '[' =>
      skip 1
      return .pairs true (<- base.at .row) (<- takeIndex grammar)
    | _ => base.at .table
  | '&' =>
    skip 1
    let code <-
      match <- takeBase grammar mostSigns with
      | .called name => procedureNamed name
      | .reference value => pure value
    if <- sees "(" then
      skip 1
      return .call code (some (<- takeArguments grammar))
    else return .call code none
  | '*' =>
    skip 1
    (<- takeBase grammar mostSigns).at .stream
  | '"' =>
    skip 1
    joinedText grammar false (<- takeInside '"' false unendedText) startLine
  | '\'' =>
    skip 1
    return .ofText (.ofList (plainText (<- takeInside '\'' false unendedText)))
  | '\x60' =>
    skip 1
    let text <- takeInside '\x60' false unendedText
    return .function "outputOf" [<- joinedText grammar false text startLine]
  | '(' =>
    skip 1
    let parts <- takeArguments grammar
    toNext
    if <- sees "[" then
      skip 1
      return .portion (.list parts) (<- takeIndex grammar)
    else return .list parts
  | '[' =>
    skip 1
    let parts <- takeList grammar mostItems []
    expect "]"
    return .newRow parts
  | '{' =>
    skip 1
    let parts <- takeList grammar mostItems []
    expect "\x7d"
    return .newTable parts
  | '/' =>
    skip 1
    let text <- takeInside '/' true (fun _ => "Search pattern not terminated")
    return .search (<- patternText grammar '/' text startLine) (<- takeFlags)
  | '<' =>
    let next <- peekAt 2
    let isMark := (<- sees "<<") &&
      (next == some '"' || next == some '\'' || next == some '~' || next.any isNameStart)
    match <- if isMark then takeAnnouncement? grammar else pure none with
    | some value => return value
    | none => takeAngles grammar
  | c =>
    if isDigit c || (c = '.' && (<- peekAt 1).any isDigit) then return .constant (<- takeNumber)
    else if isNameStart c || (<- sees "::") then
      let name <- nameAhead
      if name = "qw" && (<- seesQuoting name) then
        skip 2
        let words <- takeQuoted grammar name
        if <- sees "[" then
          skip 1
          return .portion words (<- takeIndex grammar)
        else return words
      else takeWord grammar tight name
    else syntaxFault false

/-! ## Operators -/

def operatorLevels : List (List String) :=
  [["||", "//"], ["&&"], ["|", "^"], ["&"], ["==", "!=", "<=>", "eq", "ne", "cmp"],
    wordsIn "< > <= >= lt gt le ge", [], ["<<", ">>"], ["+", "-", "."],
    ["*", "/", "%", "x"], ["=~", "!~"]]

def operandLevel : Nat := 7

def operatorAhead? : Reading (Option (String × Nat)) := do
  toNext
  let word <- nameAhead
  let sign <- signAhead
  let isRepeat := (<- peek) == some 'x' && sign != "x=" && (word = "x" ||
    (word.toList.drop 1).all isDigit)
  let written := if isRepeat then "x" else if word.isEmpty || sign = "x=" then sign else word
  return (operatorLevels.zipIdx.find? fun (signs, _) => signs.contains written).map
    fun (_, level) => (written, level)

def operation (sign : String) (left right : Expression) : Expression := match sign with
  | "||" => .either left right
  | "//" => .unlessDefined left right
  | "&&" => .both left right
  | "=~" => .matching false left right
  | "!~" => .matching true left right
  | "x" => match left with
    | .list _ => .repeated true left right
    | left => .repeated false left right
  | sign =>
    if (wordsIn "== != <=> eq ne cmp < > <= >= lt gt le
      ge").contains sign then .compare sign left right
    else .compute sign left right

def climb (unary : Reading Expression) : Nat -> Nat -> Expression -> Reading Expression
  | 0, _, left => return left
  | limit + 1, least, left => do
    let before <- get
    match <- operatorAhead? with
    | some (sign, level) =>
      if least <= level then
        begin
        skip sign.length
        let first <- unary
        climb unary limit least (operation sign left (<- climb unary limit (level + 1) first))
      else
        set before
        return left
    | none =>
      set before
      return left

def mostOperators : Nat := 10000

def takeUnary : Nat -> Reading Expression
  | 0 => syntaxFault false
  | limit + 1 => do
    toNext
    begin
    let sign <- signAhead
    let tight : Reading Expression := do
      climb (takeUnary limit) mostOperators operandLevel (<- takeUnary limit)
    match sign with
    | "!" =>
      skip 1
      return .opposite (<- takeUnary limit)
    | "~" =>
      skip 1
      return .complement (<- takeUnary limit)
    | "\\" =>
      skip 1
      toNext
      if (<- sees "&") && (<- peekAt 1).any isNameStart then
        skip 1
        return .reference (<- procedureNamed (<- takeName mostParts))
      else return .reference (<- takeUnary limit)
    | "++" =>
      skip 2
      return .step 1 true (<- takeUnary limit)
    | "--" =>
      skip 2
      return .step (-1) true (<- takeUnary limit)
    | "+" =>
      skip 1
      takeUnary limit
    | "-" =>
      skip 1
      let letter := (<- peek).getD ' '
      let word <- nameAhead
      if word.length = 1 && testLetters.contains letter then
        let before <- get
        skip 1
        toNext
        if (<- sees "=>") || (<- sees ",") && letter ≠ 'e' then return .ofText s!"-{word}"
        else if <- seesTerm false then
          match <- takeUnary limit with
          | .fileTest other file => return .both (.fileTest other file) (.fileTest letter file)
          | file => return .fileTest letter file
        else
          set before
          skip 1
          return .fileTest letter usualPlace
      else if !word.isEmpty && !isKnownFunction word && !(<- get).known.contains word &&
          !(<- get).constants.contains word && (<- takenFunction? word).isNone then
        skip word.length
        return .ofText s!"-{word}"
      else return .minus (<- takeUnary limit)
    | _ =>
      let bare <- takeBare grammar tight
      let value <- takeSubscripts grammar mostOperators (isInside bare) bare
      let value <- stepped value
      if <- accept "**" then return .compute "**" value (<- takeUnary limit) else return value
where
  stepped (value : Expression) : Reading Expression := do
    if <- accept "++" then return .step 1 false value
    else if <- accept "--" then return .step (-1) false value
    else return value

def changingSigns : List String := wordsIn "+= -= *= /= .= %= x= **= ||= &&= //= &= |= ^= <<= >>="

def takeAssigned : Reading Expression := do
  let unary := takeUnary grammar mostOperators
  let first <- climb unary mostOperators 0 (<- unary)
  toNext
  let value <-
    match <- signAhead with
    | ".." => do
      skip 2
      takeRange unary false first
    | "..." => do
      skip 3
      takeRange unary true first
    | _ => pure first
  toNext
  match <- signAhead with
  | "?" =>
    begin
    skip 1
    let second <- grammar.assigned
    expect ":"
    return .choose value second (<- grammar.assigned)
  | "=" =>
    begin
    skip 1
    return .assign value (<- grammar.assigned)
  | sign =>
    if changingSigns.contains sign then
      begin
      skip sign.length
      return .change (.ofList sign.toList.dropLast) value (<- grammar.assigned)
    else return value
where
  takeRange (unary : Reading Expression) (isLong : Bool) (first : Expression) :
      Reading Expression := do
    let last <- climb unary mostOperators 0 (<- unary)
    let number <- modifyGet fun source =>
      (source.ranges, { source with ranges := source.ranges + 1 })
    return .range number isLong first last

def takeCommas : Reading Expression := do
  let first <- grammar.assigned
  toNext
  let sign <- signAhead
  if sign = "," || sign = "=>" then
    skip sign.length
    return .list (first :: (<- takeList grammar mostItems []))
  else return first

def takeOpposite : Nat -> Reading Expression
  | 0 => syntaxFault false
  | limit + 1 => do
    let before <- get
    if <- acceptWord "not" then
      toNext
      if <- sees "(" then
        set before
        takeCommas grammar
      else return .opposite (<- takeOpposite limit)
    else takeCommas grammar

def takeBoth : Nat -> Expression -> Reading Expression
  | 0, left => return left
  | limit + 1, left => do
    if <- acceptWord "and" then takeBoth limit (.both left (<- takeOpposite grammar mostOperators))
    else return left

def takeEither : Nat -> Expression -> Reading Expression
  | 0, left => return left
  | limit + 1, left => do
    let next : Reading Expression := do
      takeBoth grammar mostOperators (<- takeOpposite grammar mostOperators)
    if <- acceptWord "or" then takeEither limit (.either left (<- next))
    else if <- acceptWord "xor" then takeEither limit (.exclusive left (<- next))
    else return left

def takeExpression : Reading Expression := do
  let first <- takeBoth grammar mostOperators (<- takeOpposite grammar mostOperators)
  takeEither grammar mostOperators first

end

end BaseLanguage.Shell.Extraction.Reading
