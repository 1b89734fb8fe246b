import BaseLanguage.Shell.Utility.Objects.Reader

namespace BaseLanguage.Shell.Objects

/-!
# Reading statements

A line holds simple statements; a word at its front may begin a statement with blocks, which stand
deeper than it does.
-/

namespace Reading

section

variable (grammar : Grammar)

/-! ## Simple statements -/

def changes : List (String × Operator) :=
  [("+=", .plus), ("-=", .minus), ("*=", .times), ("/=", .divided), ("//=", .wholly), ("%=", .rest),
    ("@=", .matrixTimes), ("&=", .both), ("|=", .either), ("^=", .other), (">>=", .right),
    ("<<=", .left), ("**=", .power)]

def dottedName : Reading String := do return ".".intercalate (<- separated name "." (<- bound))

def calledName (read : Reading String) : Reading (String × Option String) := do
  let found <- read
  if <- accept "as" then return (found, some (<- name)) else return (found, none)

def levels : Nat -> Reading Nat
  | 0 => return 0
  | limit + 1 => do
    if <- accept "." then return 1 + (<- levels limit)
    else if <- accept "..." then return 3 + (<- levels limit)
    else return 0

def useFrom : Reading Statement := do
  skip 1
  let level <- levels (<- bound)
  let package <- if (0 < level) && (<- sees "import") then pure "" else dottedName
  demand "import"
  if <- accept "*" then return if level = 0 then .useAll package else .useFrom package level []
  else
    let pair : Reading (String × String) := do
      let (found, other) <- calledName name
      return (found, other.getD found)
    if <- accept "(" then
      let names <- names pair (<- bound)
      demand ")"
      return .useFrom package level names
    else return .useFrom package level (<- separated pair "," (<- bound))
where
  names (read : Reading (String × String)) : Nat -> Reading (List (String × String))
    | 0 => return []
    | limit + 1 => do
      if <- sees ")" then return []
      else
        let first <- read
        if <- accept "," then return first :: (<- names read limit) else return [first]

def checkTarget (isDeletion : Bool) (target : Expression) : Reading Unit := do
  let some wrong := target.unassignable? isDeletion 100 | return ()
  let word := if isDeletion then "delete" else "assign to"
  refuseLate wrong.span s!"cannot {word} {wrong.told}"

def formerStatements : List String := ["print", "exec"]

def assignments : Nat -> List Expression -> Reading (List Expression)
  | 0, done => return done
  | limit + 1, done => do
    if <- sees "=" then
      match done.head? with
      | some target => match target.bare with
        | .give _ => refuseLate target.span "assignment to yield expression not possible"
        | .giveAll _ => refuseLate target.span "assignment to yield expression not possible"
        | _ => match target.unassignable? false 100 with
          | none => pure ()
          | some wrong =>
            let isWhole := match target.bare with
              | .tuple _ => false
              | .list _ => false
              | .constant (.truth _) => false
              | .constant .nothing => false
              | .collected .generator _ _ _ => false
              | _ => true
            skip 1
            let value <- mayRead? (giveOrRow grammar)
            if isWhole && value.isSome && !(<- sees "=") then
              refuseLate wrong.span
                s!"cannot assign to {wrong.told} here. Maybe you meant '==' instead of '='?"
            else refuseLate wrong.span s!"cannot assign to {wrong.told}"
      | none => pure ()
      skip 1
      let value <- giveOrRow grammar
      assignments limit (value :: done)
    else return done

def expressionStatement : Reading Statement := do
  let first <- peek
  let found <- giveOrRow grammar
  let sign <- peek
  if sign.text = ":" && (match sign.kind with
      | .sign => true
      | _ => false) then
    match found.bare with
    | .tuple _ => refuseLate found.span "only single target (not tuple) can be annotated"
    | .list _ => refuseLate found.span "only single target (not list) can be annotated"
    | .name _ => pure ()
    | .attribute _ _ => pure ()
    | .item _ _ => pure ()
    | _ =>
      skip 1
      match <- mayRead? grammar.expression with
      | some _ => refuseLate found.span "illegal target for annotation"
      | none => modify fun source => { source with place := source.place - 1 }; unexpected
    skip 1
    let annotation <- grammar.expression
    let value <- if <- accept "=" then pure (some (<- giveOrRow grammar)) else pure none
    return .annotated found annotation value
  else match changes.lookup sign.text with
    | some operator =>
      match found.bare with
      | .name _ => pure ()
      | .attribute _ _ => pure ()
      | .item _ _ => pure ()
      | _ =>
        refuseLate found.span s!"'{found.told}' is an illegal expression for augmented assignment"
      skip 1
      return .changed found operator (<- giveOrRow grammar)
    | none =>
      if sign.text = "=" then
        match <- assignments grammar (<- bound) [found] with
        | value :: targets => return .assign targets.reverse value
        | [] => return .pass
      else match found.bare with
        | .name name =>
          if formerStatements.contains name && (<- seesExpression) then
            match <- mayRead? (wholeRow grammar) with
            | some other =>
              refuseLate (first.span.to other.span)
                s!"Missing parentheses in call to '{name}'. Did you mean {name}(...)?"
            | none => return .expression found
          else return .expression found
        | _ => return .expression found

def seesStatementEnd : Reading Bool := do
  match (<- peek).kind with
  | .lineEnd => return true
  | .programEnd => return true
  | _ => sees ";"

def simple : Reading Statement := do
  let first <- peek
  let inner <- match first.kind, first.text with
    | .name, "pass" => plain .pass
    | .name, "break" => plain .leave
    | .name, "continue" => plain .again
    | .name, "return" => do
      skip 1
      if <- seesStatementEnd then pure (.giveBack none)
      else pure (.giveBack (some (<- giveOrRow grammar)))
    | .name, "raise" => do
      skip 1
      if <- seesStatementEnd then pure (.raise none none)
      else
        let value <- grammar.expression
        let cause <- if <- accept "from" then pure (some (<- grammar.expression)) else pure none
        pure (.raise (some value) cause)
    | .name, "assert" => do
      skip 1
      let test <- grammar.expression
      let message <- if <- accept "," then pure (some (<- grammar.expression)) else pure none
      pure (.assert test message)
    | .name, "del" => do
      skip 1
      let target : Reading Expression := grammar.expression
      let found <- row target seesStatementEnd
      let parts := match found with
        | .at _ (.tuple parts) => parts
        | found => [found]
      if !(<- seesStatementEnd) then unexpected
      parts.forM (checkTarget true)
      pure (.delete parts)
    | .name, "global" => do
      skip 1
      pure (.shared (<- separated name "," (<- bound)))
    | .name, "nonlocal" => do
      skip 1
      pure (.outer (<- separated name "," (<- bound)))
    | .name, "from" => useFrom
    | _, _ => expressionStatement grammar
  return .at (first.span.to (<- last).span) inner
where
  plain (statement : Statement) : Reading Statement := do
    skip 1
    return statement

def use : Reading (List Statement) := do
  let first <- peek
  skip 1
  let names <- separated (calledName dottedName) "," (<- bound)
  let span := first.span.to (<- last).span
  return names.map fun (package, name) => .at span (.use package name)

def line : Nat -> Reading (List Statement)
  | 0 => return []
  | limit + 1 => do
    let found <- if <- sees "import" then use else pure [<- simple grammar]
    if <- accept ";" then
      if <- seesLineEnd then
        skip 1
        return found
      else return found ++ (<- line limit)
    else match (<- peek).kind with
      | .lineEnd =>
        skip 1
        return found
      | .programEnd => return found
      | _ => unexpected

/-! ## Statements with blocks -/

def suite (what : String) (first : Span) : Reading (List Statement) := do
  let number := numberText first.line
  grammar.block s!"{what} on line {number}" first

def branches (word : String) (first : Span) : Nat -> Reading Statement
  | 0 => unexpected
  | limit + 1 => do
    skip 1
    let test <- namedExpression grammar
    demandColonAtEnd
    let body <- suite grammar s!"'{word}' statement" first
    let next := (<- peek).span
    if <- sees "elif" then return .choice test body [.at next (<- branches "elif" next limit)]
    else return .choice test body (<- otherwise)
where
  otherwise : Reading (List Statement) := do
    let next := (<- peek).span
    if <- accept "else" then
      demandColon
      suite grammar "'else' statement" next
    else return []

def handlers : Nat -> Reading (List (Span × Option Expression × Option String × List Statement))
  | 0 => return []
  | limit + 1 => do
    let first := (<- peek).span
    if <- accept "except" then
      discard <| accept "*"
      let types <- if (<- sees ":") || (<- seesLineEnd) then pure none
        else pure (some (<- grammar.expression))
      if <- sees "," then
        match types with
        | some found =>
          skip 1
          match <- mayRead? (wholeRow grammar) with
          | some other =>
            refuseLate (found.span.to other.span) "multiple exception types must be parenthesized"
          | none => unexpected
        | none => unexpected
      let isNamed <- if types.isSome then accept "as" else pure false
      let name <- if isNamed then pure (some (<- name)) else pure none
      demandColonAtEnd
      let body <- suite grammar "'except' statement" first
      return (first, types, name, body) :: (<- handlers limit)
    else return []

def attempt (first : Span) : Reading Statement := do
  skip 1
  demandColon
  let body <- suite grammar "'try' statement" first
  let handlers <- handlers grammar (<- bound)
  let next := (<- peek).span
  let otherwise <-
    if <- (if handlers.isEmpty then pure false else accept "else") then do
      demandColon
      suite grammar "'else' statement" next
    else pure []
  let next := (<- peek).span
  let ending <-
    if <- accept "finally" then do
      demandColon
      pure (some (<- suite grammar "'finally' statement" next))
    else pure none
  if handlers.isEmpty && ending.isNone then
    let token <- peek
    match token.kind with
    | .wrong fault => throw fault
    | _ => refuseLate token.span "expected 'except' or 'finally' block"
  return .attempt body handlers otherwise (ending.getD [])

def managers : Reading (List (Expression × Option Expression)) := do
  let one : Reading (Expression × Option Expression) := do
    let value <- grammar.expression
    if <- accept "as" then
      let target <- starred (bitwise grammar) (bitwise grammar)
      checkTarget false target
      return (value, some target)
    else return (value, none)
  let bracketed : Reading (List (Expression × Option Expression)) := do
    demand "("
    let found <- parts one (<- bound)
    demand ")"
    if !(<- sees ":") then unexpected
    return found
  match <- mayRead? bracketed with
  | some found => return found
  | none => separated one "," (<- bound)
where
  parts (one : Reading (Expression × Option Expression)) :
      Nat -> Reading (List (Expression × Option Expression))
    | 0 => return []
    | limit + 1 => do
      if <- sees ")" then return []
      else
        let first <- one
        if <- accept "," then return first :: (<- parts one limit) else return [first]

def function (decorators : List Expression) (first : Span) : Reading Statement := do
  skip 1
  let title <- name
  if !(<- accept "(") then
    let token <- peek
    match token.kind with
    | .wrong fault => throw fault
    | _ => throw { message := "expected '('", isWide := false, span := token.span }
  let (parameters, notes) <- parameters grammar ")" true (<- bound) [] [] false
  demand ")"
  let notes <- if <- accept "->" then pure (notes ++ [("return", <- grammar.expression)]) else pure notes
  demandColon
  return .function title parameters notes (<- suite grammar "function definition" first) decorators

def type (decorators : List Expression) (first : Span) : Reading Statement := do
  skip 1
  let title <- name
  let given <-
    if <- accept "(" then arguments grammar (targetRow grammar) grammar.expression (<- bound) []
    else pure []
  demandColonAtEnd
  return .type title given (<- suite grammar "class definition" first) decorators

/-! ## Shapes -/

def shapeValue : Reading Expression := do
  let token <- peek
  match token.kind with
  | .name => primary grammar unexpected unexpected unexpected unexpected
  | _ =>
    let part : Reading Expression := factor grammar unexpected unexpected unexpected unexpected 10
    leveled part [[("+", .plus), ("-", .minus)]]

def shapeWithin : Nat -> Reading Shape
  | 0 => unexpected
  | depth + 1 => do
    let closed : Reading Shape := (closedWithin depth ·)
    let first <- closed
    let found <-
      if <- sees "|" then pure (.oneOf (first :: (<- alternatives closed (<- bound))))
      else pure first
    if <- accept "as" then return .called found (<- name) else return found
where
  alternatives (closed : Reading Shape) : Nat -> Reading (List Shape)
    | 0 => return []
    | limit + 1 => do
      if <- accept "|" then
        let found <- closed
        return found :: (<- alternatives closed limit)
      else return []
  parts (inner : Reading Shape) (closing : String) :
      Nat -> Reading (List (Shape ⊕ Option String) × Bool)
    | 0 => return ([], false)
    | limit + 1 => do
      if <- sees closing then return ([], true)
      let first : Shape ⊕ Option String <-
        if <- accept "*" then do
          let title <- name
          pure (.inr (if title = "_" then none else some title))
        else pure (.inl (<- inner))
      if <- accept "," then
        let (rest, _) <- parts inner closing limit
        return (first :: rest, true)
      else return ([first], false)
  rowOf (parts : List (Shape ⊕ Option String)) : Shape :=
    let shapeOf (part : Shape ⊕ Option String) : Option Shape := match part with
      | .inl shape => some shape
      | .inr _ => none
    let before := parts.takeWhile (fun part => (shapeOf part).isSome)
    let behind := parts.drop before.length
    let rest := behind.head?.bind fun
      | .inr name => some name
      | .inl _ => none
    .row (before.filterMap shapeOf) rest ((behind.drop 1).filterMap shapeOf)
  entries (inner : Reading Shape) : Nat -> Reading (List (Expression × Shape) × Option String)
    | 0 => return ([], none)
    | limit + 1 => do
      if <- sees "\x7d" then return ([], none)
      else if <- accept "**" then
        let title <- name
        discard <| accept ","
        return ([], some title)
      else
        let key <- shapeValue grammar
        demand ":"
        let shape <- inner
        if <- accept "," then
          let (rest, title) <- entries inner limit
          return ((key, shape) :: rest, title)
        else return ([(key, shape)], none)
  members (inner : Reading Shape) : Nat -> Reading (List Shape × List (String × Shape))
    | 0 => return ([], [])
    | limit + 1 => do
      if <- sees ")" then return ([], [])
      let isNamed := (<- seesName) && (<- seesAt 1 "=")
      let title <- if isNamed then name else pure ""
      if isNamed then skip 1
      let shape <- inner
      let (placed, named) <- if <- accept "," then members inner limit else pure ([], [])
      return if isNamed then (placed, (title, shape) :: named) else (shape :: placed, named)
  closedWithin : Nat -> Reading Shape
    | 0 => unexpected
    | depth + 1 => do
      let inner : Reading Shape := (shapeWithin depth ·)
      let token <- peek
      if <- accept "(" then
        let (found, hasComma) <- parts inner ")" (<- bound)
        demand ")"
        match found, hasComma with
        | [.inl shape], false => return shape
        | found, _ => return rowOf found
      else if <- accept "[" then
        let (found, _) <- parts inner "]" (<- bound)
        demand "]"
        return rowOf found
      else if <- accept "\x7b" then
        let (found, title) <- entries inner (<- bound)
        demand "\x7d"
        return .table found title
      else match token.kind, token.text with
        | .name, "None" =>
          skip 1
          return .exactly .nothing
        | .name, "True" =>
          skip 1
          return .exactly (.truth true)
        | .name, "False" =>
          skip 1
          return .exactly (.truth false)
        | .name, _ =>
          let found <- dotted
          if <- accept "(" then
            let (placed, named) <- members inner (<- bound)
            demand ")"
            return .type found placed named
          else match found.bare with
            | .name "_" => return .any none
            | .name title => return .any (some title)
            | _ => return .value found
        | _, _ => return .value (<- shapeValue grammar)
  dotted : Reading Expression := do
    let first <- peek
    let title <- name
    tails first.span (<- bound) (.at first.span (.name title))
  tails (first : Span) : Nat -> Expression -> Reading Expression
    | 0, found => return found
    | limit + 1, found => do
      if <- accept "." then
        let title <- name
        tails first limit (.at (first.to (<- last).span) (.attribute found title))
      else return found

def openShape : Reading Shape := do
  let inner := shapeWithin grammar 50
  let (found, hasComma) <- shapeWithin.parts inner ":" (<- bound)
  match found, hasComma with
  | [.inl shape], false => return shape
  | found, _ => return shapeWithin.rowOf found

def shapeCases : Nat -> Reading (List (Shape × Option Expression × List Statement))
  | 0 => return []
  | limit + 1 => do
    if <- sees "case" then
      let first := (<- peek).span
      skip 1
      let shape <- openShape grammar
      let test <- if <- accept "if" then pure (some (<- namedExpression grammar)) else pure none
      demandColon
      return (shape, test, (<- suite grammar "'case' statement" first)) :: (<- shapeCases limit)
    else return []

def shapeSubject? : Reading (Option Expression) := do
  if !(<- sees "match") then return none
  else
    mayRead? do
      skip 1
      let subject <- wholeRow grammar
      demand ":"
      if !(<- seesLineEnd) then unexpected
      skip 1
      match (<- peek).kind with
      | .deeper => skip 1
      | _ => unexpected
      if !(<- sees "case") then unexpected
      return subject

def statementsHere : Reading (List Statement) := do
  let first <- peek
  let behind (inner : Statement) : Reading (List Statement) := return [.at first.span inner]
  let isWord := match first.kind with
    | .name => true
    | .sign => first.text = "@"
    | _ => false
  if !isWord then line grammar (<- bound)
  else match first.text with
    | "if" => behind (<- branches grammar "if" first.span (<- bound))
    | "while" => do
      skip 1
      let test <- namedExpression grammar
      demandColonAtEnd
      let body <- suite grammar "'while' statement" first.span
      behind (.loop test body (<- branches.otherwise grammar))
    | "for" => each first.span
    | "try" => behind (<- attempt grammar first.span)
    | "with" => within first.span
    | "def" => behind (<- function grammar [] first.span)
    | "class" => behind (<- type grammar [] first.span)
    | "@" => do
      let marks <- decorators (<- bound)
      let next := (<- peek).span
      if (<- sees "async") && (<- seesAt 1 "def") then skip 1
      if <- sees "def" then return [.at next (<- function grammar marks next)]
      else if <- sees "class" then return [.at next (<- type grammar marks next)]
      else unexpected
    | "async" => do
      skip 1
      let next := (<- peek).span
      if <- sees "def" then behind (<- function grammar [] next)
      else if <- sees "for" then each next
      else if <- sees "with" then within next
      else unexpected
    | "match" => do
      let some subject <- shapeSubject? grammar | line grammar (<- bound)
      let cases <- shapeCases grammar (<- bound)
      match (<- peek).kind with
      | .back => skip 1
      | _ => unexpected
      behind (.cases subject cases)
    | _ => line grammar (<- bound)
where
  each (first : Span) : Reading (List Statement) := do
    skip 1
    let target <- targetRow grammar
    checkTarget false target
    if !(<- accept "in") then unexpected
    let source <- wholeRow grammar
    demandColonAtEnd
    let body <- suite grammar "'for' statement" first
    return [.at first (.each target source body (<- branches.otherwise grammar))]
  within (first : Span) : Reading (List Statement) := do
    skip 1
    let items <- managers grammar
    demandColonAtEnd
    return [.at first (.within items (<- suite grammar "'with' statement" first))]
  decorators : Nat -> Reading (List Expression)
    | 0 => return []
    | limit + 1 => do
      if <- accept "@" then
        let found <- namedExpression grammar
        if !(<- seesLineEnd) then unexpected
        skip 1
        return found :: (<- decorators limit)
      else return []

def blockBody : Nat -> Reading (List Statement)
  | 0 => return []
  | limit + 1 => do
    match (<- peek).kind with
    | .back =>
      skip 1
      return []
    | .programEnd => return []
    | _ => return (<- statementsHere grammar) ++ (<- blockBody limit)

def blockOf (what : String) : Reading (List Statement) := do
  if <- seesLineEnd then
    skip 1
    match (<- peek).kind with
    | .deeper =>
      skip 1
      blockBody grammar (<- bound)
    | .wrong fault => throw fault
    | _ =>
      let source <- get
      let token <- peek
      let shown <- match token.kind with
        | .programEnd => last
        | .back => do
          -- A block that ends at once is missed at the first word behind it.
          let words := (source.tokens.extract source.place source.tokens.size).toList
          pure ((words.find? (fun word => match word.kind with
            | .back => false
            | _ => true)).getD token)
        | _ => pure token
      let shown <- match shown.kind with
        | .programEnd => last
        | _ => pure shown
      throw
        { type := "IndentationError", message := s!"expected an indented block after {what}"
          span := shown.span, isWide := true }
  else line grammar (<- bound)

end

def grammarWithin : Nat -> Grammar
  | 0 =>
    { expression := do refuse (<- peek).span "too many nested parentheses"
      block := fun _ _ => do refuse (<- peek).span "too many statically nested blocks" }
  | depth + 1 =>
    { expression := fun source => expression (grammarWithin depth) source
      block := fun what _ source => blockOf (grammarWithin depth) what source }

def deepestNesting : Nat := 200

def program : Nat -> Reading (List Statement)
  | 0 => return []
  | limit + 1 => do
    match (<- peek).kind with
    | .programEnd => if (<- get).unclosed.isSome then unexpected else return []
    | .lineEnd =>
      skip 1
      program limit
    | _ => return (<- statementsHere (grammarWithin deepestNesting)) ++ (<- program limit)

end Reading

def statementsOf (text : Array Char) : Except Fault (List Statement) := do
  let source := sourceOf text
  let (found, _) <- (Reading.program (source.tokens.size + 1)).run source
  return found

def expressionOf (text : Array Char) : Except Fault Expression := do
  let blanks := (text.toList.takeWhile (fun c => c = ' ' || c = '\t')).length
  let source := sourceOf (text.extract blanks text.size)
  let read : Reading Expression := do
    let found <- Reading.wholeRow (Reading.grammarWithin Reading.deepestNesting)
    if <- .seesLineEnd then .skip 1
    match (<- .peek).kind with
    | .programEnd => return found
    | _ => .unexpected
  let (found, _) <- read.run source
  return found

end BaseLanguage.Shell.Objects
