import BaseLanguage.Shell.Utility.Records.State

namespace BaseLanguage.Shell.Records

/-!
# Reading programs on records

A program is read from its words.  The first word that does not fit is what is complained of.  A
name is a variable, a table or a function throughout a program: whichever it is used as first.
-/

inductive Use where
  | unknown
  | cell
  | table
  deriving DecidableEq

structure Source where
  rest : List Lexeme
  line : Nat := 1
  depth : Nat := 0
  braces : Nat := 0
  uses : List (String × Use) := []
  parameters : List (String × Use) := []
  functions : List String := []
  defined : List (String × Nat) := []
  inFunction : Bool := false
  inRule : Bool := false
  loops : Nat := 0
  ranges : Nat := 0

abbrev Reading := StateT Source (Except String)

def ownNames : List String :=
  Text.wordsIn "NR FNR NF FS OFS ORS RS FILENAME SUBSEP RSTART RLENGTH CONVFMT OFMT ARGC"

def ownTables : List String := ["ARGV", "ENVIRON"]

namespace Reading

def fault (message : String) : Reading α := do throw s!"line {numberText (← get).line}: {message}"

def peek : Reading Token := do return ((<- get).rest.head?.map Lexeme.token).getD .finished

def wordOf : Token -> String
  | .number _ text => text
  | .text _ written => s!"\"{written}\""
  | .pattern octets => s!"/{octets}/"
  | .name name => name
  | .caller name => name
  | .builtIn name => name
  | .keyword word => word
  | .sign sign => sign
  | .line => "end of line"
  | .finished => "end of file"
  | .stray c => .singleton c
  | .unended message => message

def unfit : Reading α := do
  let source <- get
  let token <- peek
  let line := ((source.rest.head?.map Lexeme.line).getD source.line)
  modify ({ · with line })
  match token with
  | .stray c =>
    let shown := String.singleton c
    throw s!"{numberText line}: unexpected character '{shown}'"
  | .unended message => fault message
  | .finished =>
    if 0 < source.braces then throw s!"line {numberText line}: missing \x7d near end of file"
    else fault "syntax error at or near end of line"
  | token =>
    let ends := token == .line || token == .sign ";" || token == .sign "\x7d"
    if 0 < source.depth && ends then fault s!"missing ) near {wordOf token}"
    else fault s!"syntax error at or near {wordOf token}"

def advance : Reading Unit :=
  modify fun source => match source.rest with
    | [] => source
    | [last] => { source with rest := [last], line := last.line }
    | lexeme :: rest =>
      let depth := match lexeme.token with
        | .sign "(" => source.depth + 1
        | .sign ")" => source.depth - 1
        | _ => source.depth
      let braces := match lexeme.token with
        | .sign "\x7b" => source.braces + 1
        | .sign "\x7d" => source.braces - 1
        | _ => source.braces
      { source with rest, depth, braces, line := (rest.head?.map Lexeme.line).getD lexeme.line }

def sees (sign : String) : Reading Bool := do return (<- peek) == .sign sign

def seesWord (word : String) : Reading Bool := do return (<- peek) == .keyword word

def accept (sign : String) : Reading Bool := do
  if <- sees sign then
    if sign = ")" && (<- get).depth = 0 then fault "extra ')'"
    advance
    return true
  else return false

def acceptWord (word : String) : Reading Bool := do
  if <- seesWord word then
    advance
    return true
  else return false

def expect (sign : String) : Reading Unit := do
  if !(<- accept sign) then unfit

def skipLine : Reading Unit := do
  if (<- peek) == .line then advance

/-! ## Names -/

def useOf (name : String) : Reading Use := do
  let source <- get
  if ownNames.contains name then return .cell
  else if ownTables.contains name then return .table
  else return (source.uses.lookup name).getD .unknown

def holderOf (name : String) : Reading Holder := do
  let source <- get
  match source.parameters.findIdx? (·.1 == name) with
  | some index => return .inside index
  | none =>
    if source.functions.contains name then fault s!"syntax error at or near {name}"
    return .everywhere name

def withUse (name : String) (use : Use) (uses : List (String × Use)) : List (String × Use) :=
  (name, use) :: uses.filter (·.1 != name)

def useAs (name : String) (use : Use) : Reading Holder := do
  let holder <- holderOf name
  match holder with
  | .inside index =>
    let source <- get
    match source.parameters[index]? with
    | some (_, known) =>
      if known = .unknown then
        modify fun source => { source with parameters := source.parameters.set index (name, use) }
      else if known ≠ use then
        let kind := if known = .table then "local array" else "local variable"
        fault s!"illegal reference to {kind} {name}"
    | none => pure ()
  | .everywhere _ =>
    let known <- useOf name
    if known = .unknown then
      modify (fun source => { source with uses := withUse name use source.uses })
    else if known ≠ use then
      let kind := if known = .table then "array" else "variable"
      fault s!"illegal reference to {kind} {name}"
  return holder

/-! ## Expressions -/

structure Context where
  inSaying : Bool := false
  isPart : Bool := false

def Context.part (context : Context) : Context := { context with isPart := true }

def Context.whole (context : Context) : Context := { context with isPart := false }

def assignments : List (String × Option Operation) :=
  [("=", none), ("+=", some .add), ("-=", some .subtract), ("*=", some .multiply),
    ("/=", some .divide), ("%=", some .remainder), ("^=", some .power)]

def comparisons : List (String × Comparison) :=
  [("==", .same), ("!=", .different), ("<", .less), ("<=", .notGreater), (">", .greater),
    (">=", .notLess)]

def beginsOperand : Token -> Bool
  | .number _ _ => true
  | .text _ _ => true
  | .pattern _ => true
  | .name _ => true
  | .caller _ => true
  | .builtIn _ => true
  | .keyword "getline" => true
  | .sign "$" => true
  | .sign "!" => true
  | .sign "(" => true
  | .sign "-" => true
  | .sign "+" => true
  | .sign "++" => true
  | .sign "--" => true
  | _ => false

def matcherOf (octets : String) : Reading Matcher := do
  match Matcher.ofOctets octets with
  | .ok matcher => return matcher
  | .error message => fault message

def asPattern (expression : Expression) : Reading Expression := do
  match expression with
  | .text octets => return .pattern (<- matcherOf octets)
  | expression => return expression

def placeOf? : Expression -> Option Place
  | .read place => some place
  | _ => none

def checkSize (name : String) (count : Nat) : Reading Unit := do
  let some (least, most) := builtInSizes.lookup name | return ()
  if count < least || most < count then fault s!"wrong number of arguments in call to {name}"

mutual

def expression (context : Context) : Nat -> Reading Expression
  | 0 => fault "program too deep"
  | limit + 1 => do
    let test <- eitherOf context limit
    if <- accept "?" then
      skipLine
      let first <- expression context limit
      skipLine
      expect ":"
      skipLine
      return .choose test first (<- expression context limit)
    else return test

def eitherOf (context : Context) : Nat -> Reading Expression
  | 0 => fault "program too deep"
  | limit + 1 => do eitherBehind context (<- bothOf context limit) limit

def eitherBehind (context : Context) (left : Expression) : Nat -> Reading Expression
  | 0 => return left
  | limit + 1 => do
    if <- accept "||" then eitherBehind context (.either left (<- bothOf context limit)) limit
    else return left

def bothOf (context : Context) : Nat -> Reading Expression
  | 0 => fault "program too deep"
  | limit + 1 => do bothBehind context (<- keyOf context limit) limit

def bothBehind (context : Context) (left : Expression) : Nat -> Reading Expression
  | 0 => return left
  | limit + 1 => do
    if <- accept "&&" then bothBehind context (.both left (<- keyOf context limit)) limit
    else return left

def keyOf (context : Context) : Nat -> Reading Expression
  | 0 => fault "program too deep"
  | limit + 1 => do keyBehind (<- matchOf context limit) limit

def keyBehind (left : Expression) : Nat -> Reading Expression
  | 0 => return left
  | limit + 1 => do
    if <- acceptWord "in" then
      match <- peek with
      | .name name =>
        advance
        keyBehind (.isKey [left] (<- useAs name .table)) limit
      | _ => unfit
    else return left

def matchOf (context : Context) : Nat -> Reading Expression
  | 0 => fault "program too deep"
  | limit + 1 => do matchBehind context (<- comparisonOf context limit) limit

def matchBehind (context : Context) (left : Expression) : Nat -> Reading Expression
  | 0 => return left
  | limit + 1 => do
    if <- accept "~" then
      let pattern <- asPattern (<- comparisonOf context limit)
      matchBehind context (.matching false left pattern) limit
    else if <- accept "!~" then
      matchBehind context (.matching true left (<- asPattern (<- comparisonOf context limit))) limit
    else return left

def comparisonOf (context : Context) : Nat -> Reading Expression
  | 0 => fault "program too deep"
  | limit + 1 => do comparisonBehind context (<- joinOf context limit) limit

def comparisonBehind (context : Context) (left : Expression) : Nat -> Reading Expression
  | 0 => return left
  | limit + 1 => do
    match <- peek with
    | .sign sign => match comparisons.lookup sign with
      | some comparison =>
        if sign = ">" && context.inSaying then return left
        else
          advance
          comparisonBehind context (.compare comparison left (<- joinOf context limit)) limit
      | none => return left
    | _ => return left

def joinOf (context : Context) : Nat -> Reading Expression
  | 0 => fault "program too deep"
  | limit + 1 => do joinBehind context (<- sumOf context limit) limit

def joinBehind (context : Context) (left : Expression) : Nat -> Reading Expression
  | 0 => return left
  | limit + 1 => do
    if beginsOperand (<- peek) then
      joinBehind context (.join left (<- sumOf context.part limit)) limit
    else return left

def sumOf (context : Context) : Nat -> Reading Expression
  | 0 => fault "program too deep"
  | limit + 1 => do sumBehind context (<- productOf context limit) limit

def sumBehind (context : Context) (left : Expression) : Nat -> Reading Expression
  | 0 => return left
  | limit + 1 => do
    if <- accept "+" then
      sumBehind context (.compute .add left (<- productOf context.part limit)) limit
    else if <- accept "-" then
      sumBehind context (.compute .subtract left (<- productOf context.part limit)) limit
    else return left

def productOf (context : Context) : Nat -> Reading Expression
  | 0 => fault "program too deep"
  | limit + 1 => do productBehind context (<- signedOf context limit) limit

def productBehind (context : Context) (left : Expression) : Nat -> Reading Expression
  | 0 => return left
  | limit + 1 => do
    if <- accept "*" then
      productBehind context (.compute .multiply left (<- signedOf context.part limit)) limit
    else if <- accept "/" then
      productBehind context (.compute .divide left (<- signedOf context.part limit)) limit
    else if <- accept "%" then
      productBehind context (.compute .remainder left (<- signedOf context.part limit)) limit
    else return left

def signedOf (context : Context) : Nat -> Reading Expression
  | 0 => fault "program too deep"
  | limit + 1 => do
    if <- accept "!" then return .opposite (<- signedOf context.part limit)
    else if <- accept "-" then return .minus (<- signedOf context.part limit)
    else if <- accept "+" then return .plus (<- signedOf context.part limit)
    else pipeBehind context (<- powerOf context limit) limit

def pipeBehind (context : Context) (left : Expression) : Nat -> Reading Expression
  | 0 => return left
  | limit + 1 => do
    if context.inSaying then return left
    else if <- accept "|" then
      if <- acceptWord "getline" then
        pipeBehind context (.nextOfCommand left (<- targetOf limit)) limit
      else unfit
    else return left

def powerOf (context : Context) : Nat -> Reading Expression
  | 0 => fault "program too deep"
  | limit + 1 => do
    let base <- operandOf context limit
    if <- accept "^" then
      if <- accept "-" then return .compute .power base (.minus (<- powerOf context.part limit))
      else if <- accept "+" then return .compute .power base (.plus (<- powerOf context.part limit))
      else if <- accept "!" then
        return .compute .power base (.opposite (<- powerOf context.part limit))
      else return .compute .power base (<- powerOf context.part limit)
    else return base

def targetOf : Nat -> Reading (Option Place)
  | 0 => fault "program too deep"
  | limit + 1 => do
    match <- peek with
    | .name _ => return some (<- placeHere limit)
    | .sign "$" => return some (<- placeHere limit)
    | _ => return none

def placeHere : Nat -> Reading Place
  | 0 => fault "program too deep"
  | limit + 1 => do
    match <- peek with
    | .name name =>
      advance
      if <- accept "[" then
        let holder <- useAs name .table
        let keys <- expressions {} limit
        expect "]"
        return .element holder keys
      else return .name (<- useAs name .cell)
    | .sign "$" =>
      advance
      match <- peek with
      | .sign "++" => do
        advance
        return .field (.step (<- placeHere limit) 1 true)
      | .sign "--" => do
        advance
        return .field (.step (<- placeHere limit) (-1) true)
      | .sign "-" => do
        advance
        return .field (.minus (<- simpleOf limit))
      | .sign "+" => do
        advance
        return .field (.plus (<- simpleOf limit))
      | .sign "!" => do
        advance
        return .field (.opposite (<- simpleOf limit))
      | _ => return .field (<- simpleOf limit)
    | _ => unfit

def simpleOf : Nat -> Reading Expression
  | 0 => fault "program too deep"
  | limit + 1 => do
    match <- peek with
    | .name _ => return .read (<- placeHere limit)
    | .sign "$" => return .read (<- placeHere limit)
    | _ => operandOf {} limit

def operandOf (context : Context) : Nat -> Reading Expression
  | 0 => fault "program too deep"
  | limit + 1 => do
    match <- peek with
    | .number value _ =>
      advance
      return .number value
    | .text octets _ =>
      advance
      return .text octets
    | .pattern octets =>
      advance
      return .pattern (<- matcherOf octets)
    | .name name =>
      if (<- get).functions.contains name then
        advance
        callOf name limit
      else placeBehind context (<- placeHere limit) limit
    | .sign "$" => placeBehind context (<- placeHere limit) limit
    | .sign "++" =>
      advance
      return .step (<- placeHere limit) 1 true
    | .sign "--" =>
      advance
      return .step (<- placeHere limit) (-1) true
    | .sign "(" =>
      advance
      let inside <- expressions {} limit
      expect ")"
      match inside with
      | [inside] => return .group inside
      | keys =>
        if <- acceptWord "in" then
          match <- peek with
          | .name name =>
            advance
            return .isKey keys (<- useAs name .table)
          | _ => unfit
        else unfit
    | .caller name =>
      advance
      callOf name limit
    | .builtIn name =>
      advance
      builtInOf name limit
    | .keyword "getline" =>
      advance
      let target <- targetOf limit
      if <- accept "<" then return .nextOfFile (<- simpleOf limit) target
      else return .nextRecord target
    | _ => unfit

def placeBehind (context : Context) (place : Place) : Nat -> Reading Expression
  | 0 => fault "program too deep"
  | limit + 1 => do
    match <- peek with
    | .sign "++" =>
      advance
      return .step place 1 false
    | .sign "--" =>
      advance
      return .step place (-1) false
    | .sign sign => match assignments.lookup sign, context.isPart with
      | some none, false =>
        advance
        return .assign place (<- expression context.whole limit)
      | some (some operation), false =>
        advance
        return .change place operation (<- expression context.whole limit)
      | _, _ => return .read place
    | _ => return .read place

def expressions (context : Context) : Nat -> Reading (List Expression)
  | 0 => fault "program too deep"
  | limit + 1 => do
    let first <- expression context limit
    if <- accept "," then return first :: (<- expressions context limit) else return [first]

def arguments : Nat -> Reading (List Expression)
  | 0 => fault "program too deep"
  | limit + 1 => do
    expect "("
    if <- accept ")" then return []
    else
      let found <- parts limit
      expect ")"
      return found

def parts : Nat -> Reading (List Expression)
  | 0 => fault "program too deep"
  | limit + 1 => do
    let behind := ((<- get).rest.drop 1).head?.map Lexeme.token
    let first <-
      match <- peek with
      | .name name =>
        if behind == some (.sign ",") || behind == some (.sign ")") then
          advance
          pure (.read (.name (<- holderOf name)))
        else expression {} limit
      | _ => expression {} limit
    if <- accept "," then return first :: (<- parts limit) else return [first]

def callOf (name : String) : Nat -> Reading Expression
  | 0 => fault "program too deep"
  | limit + 1 => do
    let source <- get
    if !source.functions.contains name then
      if (<- useOf name) ≠ .unknown then fault s!"illegal reference to variable {name}"
      set { source with functions := name :: source.functions }
    let given <- arguments limit
    match (<- get).defined.lookup name with
    | some most => if most < given.length then fault s!"too many arguments in call to {name}"
    | none => pure ()
    return .call name given

def builtInOf (name : String) : Nat -> Reading Expression
  | 0 => fault "program too deep"
  | limit + 1 => do
    let table (argument : Expression) : Reading Holder := match argument with
      | .read (.name holder) => do
        match holder with
        | .everywhere name => useAs name .table
        | .inside index => do
          let parameter := (<- get).parameters[index]?
          match parameter with
          | some (name, _) => useAs name .table
          | none => return holder
      | _ => unfit
    if name = "length" && !(<- sees "(") then return .builtIn name []
    else
      let given <- arguments limit
      if name = "length" && 1 < given.length then fault "syntax error at or near ,"
      checkSize name given.length
      match name, given with
      | "length", [.read (.name holder)] => return .sizeOf holder
      | "split", subject :: target :: separator =>
        return .split subject (<- table target) separator.head?
      | "sub", pattern :: new :: target => replacing false pattern new target.head?
      | "gsub", pattern :: new :: target => replacing true pattern new target.head?
      | _, given => return .builtIn name given

def replacing (everywhere : Bool) (pattern new : Expression) (target : Option Expression) :
    Reading Expression := do
  match target with
  | none => return .replace everywhere pattern new (.field (.number 0))
  | some target => match placeOf? target with
    | some place => return .replace everywhere pattern new place
    | none => unfit

end

/-! ## Statements -/

def endStatement : Reading Unit := do
  match <- peek with
  | .sign ";" => advance
  | .line => advance
  | .sign "\x7d" => return ()
  | .sign ")" => if (<- get).depth = 0 then fault "extra ')'" else unfit
  | _ => unfit

def sayingParts (limit : Nat) : Reading (List Expression) := do
  let ends (token : Token) : Bool :=
    [.sign ";", .line, .sign "\x7d", .sign ">", .sign ">>", .sign "|"].contains token
  if ends (<- peek) then return []
  else if <- sees "(" then
    let before <- get
    let grouped : Reading (Option (List Expression)) := do
      advance
      if <- accept ")" then return some []
      else
        let found <- expressions {} limit
        expect ")"
        let token <- peek
        if ends token then return some (if found.length = 1 then found else found) else return none
    match <- grouped with
    | some found => return found
    | none =>
      set before
      expressions { inSaying := true } limit
  else expressions { inSaying := true } limit

def outletHere (limit : Nat) : Reading (Option (Outlet × Expression)) := do
  if <- accept ">" then return some (.file, <- expression {} limit)
  else if <- accept ">>" then return some (.fileEnd, <- expression {} limit)
  else if <- accept "|" then return some (.command, <- expression {} limit)
  else return none

def insideLoop (body : Reading α) : Reading α := do
  modify (fun source => { source with loops := source.loops + 1 })
  let value <- body
  modify (fun source => { source with loops := source.loops - 1 })
  return value

def optionalBefore (sign : String) (limit : Nat) : Reading (Option Expression) := do
  if <- sees sign then return none else return some (<- expression {} limit)

def optionalAtEnd (limit : Nat) : Reading (Option Expression) := do
  match <- peek with
  | .sign ";" => return none
  | .sign "\x7d" => return none
  | .line => return none
  | _ => return some (<- expression {} limit)

mutual

def statements : Nat -> Reading (List Statement)
  | 0 => fault "program too deep"
  | limit + 1 => do
    if <- accept "\x7d" then return []
    else
      let first <- statement limit
      return first :: (<- statements limit)

def block : Nat -> Reading Statement
  | 0 => fault "program too deep"
  | limit + 1 => do
    expect "\x7b"
    return .block (<- statements limit)

def statement : Nat -> Reading Statement
  | 0 => fault "program too deep"
  | limit + 1 => do
    match <- peek with
    | .sign "\x7b" =>
      let inside <- block limit
      skipLine
      return inside
    | .sign ";" =>
      advance
      return .nothing
    | .line =>
      advance
      return .nothing
    | .keyword "if" =>
      advance
      expect "("
      let test <- expression {} limit
      expect ")"
      skipLine
      let first <- statement limit
      if <- acceptWord "else" then return .choose test first (<- statement limit)
      else return .choose test first .nothing
    | .keyword "while" =>
      advance
      expect "("
      let test <- expression {} limit
      expect ")"
      if <- accept ";" then return .whileHolds test .nothing
      else
        skipLine
        return .whileHolds test (<- insideLoop (statement limit))
    | .keyword "do" =>
      advance
      let body <- insideLoop (statement limit)
      if !(<- acceptWord "while") then unfit
      expect "("
      let test <- expression {} limit
      expect ")"
      endStatement
      return .repeatWhile body test
    | .keyword "for" =>
      advance
      expect "("
      let ahead := ((<- get).rest.take 4).map Lexeme.token
      match ahead with
      | [.name target, .keyword "in", .name table, .sign ")"] =>
        (List.range 4).forM fun _ => advance
        let target <- useAs target .cell
        let table <- useAs table .table
        skipLine
        return .forKeys target table (<- insideLoop (statement limit))
      | _ =>
        let first <- optionalBefore ";" limit
        expect ";"
        let test <- optionalBefore ";" limit
        expect ";"
        let next <- optionalBefore ")" limit
        expect ")"
        if <- accept ";" then return .count first test next .nothing
        else
          skipLine
          return .count first test next (<- insideLoop (statement limit))
    | _ =>
      let found <- simpleStatement limit
      endStatement
      return found

def simpleStatement : Nat -> Reading Statement
  | 0 => fault "program too deep"
  | limit + 1 => do
    match <- peek with
    | .keyword "print" =>
      advance
      return .say (<- sayingParts limit) (<- outletHere limit)
    | .keyword "printf" =>
      advance
      let said <- sayingParts limit
      if said.isEmpty then fault "no arguments in call to printf"
      return .sayBy said (<- outletHere limit)
    | .keyword "break" =>
      advance
      if (<- get).loops = 0 then fault "break statement outside of loop"
      return .leave
    | .keyword "continue" =>
      advance
      if (<- get).loops = 0 then fault "continue statement outside of loop"
      return .again
    | .keyword "next" =>
      advance
      if !(<- get).inRule then fault "improper use of next"
      return .nextRecord
    | .keyword "nextfile" =>
      advance
      if !(<- get).inRule then fault "improper use of nextfile"
      return .nextFile
    | .keyword "exit" =>
      advance
      return .exit (<- optionalAtEnd limit)
    | .keyword "return" =>
      advance
      if !(<- get).inFunction then fault "return outside function body"
      return .giveBack (<- optionalAtEnd limit)
    | .keyword "delete" =>
      advance
      let isGroup <- accept "("
      match <- peek with
      | .name name =>
        advance
        let table <- useAs name .table
        if <- accept "[" then
          let keys <- expressions {} limit
          expect "]"
          if isGroup then expect ")"
          return .erase table keys
        else
          if isGroup then expect ")"
          return .eraseAll table
      | _ => unfit
    | _ => return .evaluate (<- expression {} limit)

end

/-! ## Rules -/

def parameterNames : Nat -> Reading (List String)
  | 0 => fault "program too deep"
  | limit + 1 => do
    match <- peek with
    | .name name =>
      advance
      if <- accept "," then return name :: (<- parameterNames limit) else return [name]
    | _ => unfit

def procedure (limit : Nat) : Reading Procedure := do
  let name <-
    match <- peek with
    | .name name => pure name
    | .caller name => pure name
    | _ => unfit
  let source <- get
  if (<- useOf name) ≠ .unknown then fault s!"illegal reference to variable {name}"
  if (source.defined.lookup name).isSome then fault s!"redefinition of {name}"
  advance
  modify fun source => { source with functions := name :: source.functions }
  expect "("
  let parameters <- if <- sees ")" then pure [] else parameterNames limit
  match parameters.find? (· == name) with
  | some _ => fault "function parameter cannot be the function"
  | none => pure ()
  match (parameters.zipIdx.find? fun entry => (parameters.take entry.2).contains entry.1) with
  | some (twice, _) => fault s!"{twice} is duplicated in argument list"
  | none => pure ()
  expect ")"
  skipLine
  modify fun source => { source with
    parameters := parameters.map (fun parameter => (parameter, .unknown))
    defined := (name, parameters.length) :: source.defined
    inFunction := true
    inRule := true }
  let body <- block limit
  modify ({ · with parameters := [], inFunction := false, inRule := false })
  return { name, parameters, body }

def endRule : Reading Unit := do
  match <- peek with
  | .sign ";" => advance
  | .line => advance
  | .finished => return ()
  | _ => unfit

def bodyOf (limit : Nat) (inRule : Bool) : Reading Statement := do
  modify ({ · with inRule })
  let body <- block limit
  modify ({ · with inRule := false })
  return body

def rule (limit : Nat) : Reading Rule := do
  match <- peek with
  | .keyword "BEGIN" =>
    advance
    return ⟨.start, some (<- bodyOf limit false)⟩
  | .keyword "END" =>
    advance
    return ⟨.ending, some (<- bodyOf limit false)⟩
  | .sign "\x7b" => return ⟨.always, some (<- bodyOf limit true)⟩
  | _ =>
    let test <- expression {} limit
    let occasion : Occasion <-
      if <- accept "," then do
        let last <- expression {} limit
        let number := (<- get).ranges
        modify ({ · with ranges := number + 1 })
        pure (.fromTo number test last)
      else pure (.when test)
    if <- sees "\x7b" then return ⟨occasion, some (<- bodyOf limit true)⟩
    else
      endRule
      return ⟨occasion, none⟩

def partsFrom : Nat -> Script -> Reading Script
  | 0, script => return script
  | limit + 1, script => do
    match <- peek with
    | .finished => return script
    | .line =>
      advance
      partsFrom limit script
    | .keyword "function" =>
      advance
      let found <- procedure limit
      if <- sees ";" then advance
      partsFrom limit { script with procedures := found :: script.procedures }
    | .sign "\x7d" => fault "extra '\x7d'"
    | _ =>
      let found <- rule limit
      let hasBody := found.body.isSome
      if <- (if hasBody then sees ";" else pure false) then advance
      partsFrom limit { script with rules := found :: script.rules }

end Reading

def undefinedCalls (source : Source) : List String :=
  (source.functions.filter fun name => (source.defined.lookup name).isNone).reverse

def Script.ofText (text : Chars) : Except String Script := do
  let lexemes := tokens text
  let (script, source) <- (Reading.partsFrom (8 * lexemes.length + 64) {}).run { rest := lexemes }
  match undefinedCalls source with
  | name :: _ =>
    let last := (lexemes.getLast?.map Lexeme.line).getD 1
    throw s!"line {numberText last}: function {name} never defined"
  | [] => return { rules := script.rules.reverse, procedures := script.procedures.reverse }

end BaseLanguage.Shell.Records
