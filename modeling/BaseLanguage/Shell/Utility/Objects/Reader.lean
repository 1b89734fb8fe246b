import BaseLanguage.Shell.Utility.Objects.Token

namespace BaseLanguage.Shell.Objects

/-!
# Reading expressions

The grammar of expressions is a ladder, from what binds least to what binds most.  Expressions stand
inside each other; `Grammar` holds how the inner ones are read.
-/

structure Grammar where
  expression : Reading Expression
  block : String -> Span -> Reading (List Statement)

namespace Reading

section

variable (grammar : Grammar)

/-! ## Lists of expressions -/

def seesExpression : Reading Bool := do
  let token <- peek
  match token.kind with
  | .number _ => return true
  | .text _ => return true
  | .formed _ _ _ => return true
  | .name =>
    return !keywords.contains token.text ||
      ["False", "None", "True", "lambda", "not", "await"].contains token.text
  | .sign => return ["(", "[", "\x7b", "-", "+", "~", "...", "*"].contains token.text
  | _ => return false

def operators : List (List (String × Operator)) :=
  [[("|", .either)], [("^", .other)], [("&", .both)], [("<<", .left), (">>", .right)],
    [("+", .plus), ("-", .minus)],
    [("*", .times), ("/", .divided), ("//", .wholly), ("%", .rest), ("@", .matrixTimes)]]

def namedExpression : Reading Expression := do
  if (<- seesName) && (<- seesAt 1 ":=") then
    spanned do
      let name <- name
      skip 1
      return .assigned name (<- grammar.expression)
  else
    let found <- grammar.expression
    if <- sees "=" then
      let afterwards <- peekAt 1
      let isFollowed := match afterwards.kind with
        | .sign => ["(", "[", "\x7b", "-", "+", "~", "..."].contains afterwards.text
        | .name => !keywords.contains afterwards.text || ["True", "False", "None"].contains afterwards.text
        | .number _ => true
        | .text _ => true
        | _ => false
      if isFollowed then
        match found.bare with
        | .name _ =>
          skip 1
          refuseLate (found.span.to (<- grammar.expression).span)
            "invalid syntax. Maybe you meant '==' or ':=' instead of '='?"
        | .constant (.truth _) => return found
        | .constant .nothing => return found
        | .list _ => return found
        | .tuple _ => return found
        | .collected .generator _ _ _ => return found
        | _ =>
          refuseLate found.span
            s!"cannot assign to {found.told} here. Maybe you meant '==' instead of '='?"
      else return found
    else return found

def chain (part : Reading Expression) (found : List (String × Operator)) :
    Nat -> Expression -> Reading Expression
  | 0, left => return left
  | limit + 1, left => do
    let token <- peek
    match token.kind, found.lookup token.text with
    | .sign, some operator =>
      skip 1
      let right <- part
      chain part found limit (.at (left.span.to right.span) (.binary operator left right))
    | _, _ => return left

def leveled (factor : Reading Expression) : List (List (String × Operator)) -> Reading Expression
  | [] => factor
  | level :: levels => do
    let part := leveled factor levels
    chain part level (<- bound) (<- part)

def starred (bitwise whole : Reading Expression) : Reading Expression := do
  if <- sees "*" then
    spanned do
      skip 1
      return .items (<- bitwise)
  else whole

/-! ## Loops in expressions -/

def loopTests (test : Reading Expression) : Nat -> Reading (List Expression)
  | 0 => return []
  | limit + 1 => do
    if <- accept "if" then
      let first <- test
      return first :: (<- loopTests test limit)
    else return []

def loops (targets test : Reading Expression) :
    Nat -> Reading (List (Expression × Expression × List Expression))
  | 0 => return []
  | limit + 1 => do
    if (<- sees "async") && (<- seesAt 1 "for") then skip 1
    if <- accept "for" then
      let target <- targets
      match target.unassignable? false 100 with
      | some wrong => refuseLate wrong.span s!"cannot assign to {wrong.told}"
      | none => pure ()
      demand "in"
      let source <- test
      return (target, source, (<- loopTests test limit)) :: (<- loops targets test limit)
    else return []

def seesLoop : Reading Bool := do
  return (<- sees "for") || ((<- sees "async") && (<- seesAt 1 "for"))

def missedComma (found : Expression) : Reading Unit := do
  let first <- peek
  if <- seesExpression then
    let isText := match (<- last).kind, first.kind with
      | .name, .text _ => match found.bare with
          | .name _ => true
          | _ => false
      | _, _ => false
    if !isText && !(["*", "-", "+", "(", "[", "not"].contains first.text) then
      match <- mayRead? grammar.expression with
      | some other =>
        refuseLate (found.span.to other.span) "invalid syntax. Perhaps you forgot a comma?"
      | none => pure ()

/-! ## Values in texts -/

def fieldEnd (text : Array Char) (ending : Nat) : Nat -> Nat -> Chars -> Option Char -> Nat
  | 0, place, _, _ => place
  | limit + 1, place, brackets, quote =>
    if ending <= place then place
    else
      let c := text.getD place ' '
      match quote with
      | some sign =>
        fieldEnd text ending limit (place + 1) brackets (if c = sign then none else quote)
      | none =>
        if c = '\'' || c = '"' then fieldEnd text ending limit (place + 1) brackets (some c)
        else if c = '(' || c = '[' || c = '\x7b' then
          fieldEnd text ending limit (place + 1) (c :: brackets) none
        else if !brackets.isEmpty && (c = ')' || c = ']' || c = '\x7d') then
          fieldEnd text ending limit (place + 1) (brackets.drop 1) none
        else if brackets.isEmpty then
          let next := text.getD (place + 1) ' '
          if c = '!' && next ≠ '=' then place
          else if c = ':' || c = '\x7d' then place
          else if (c = '=' || c = '!' || c = '<' || c = '>') && next = '=' then
            fieldEnd text ending limit (place + 2) brackets none
          else if c = '<' || c = '>' then fieldEnd text ending limit (place + 1) brackets none
          else if c = '=' then place
          else fieldEnd text ending limit (place + 1) brackets none
        else fieldEnd text ending limit (place + 1) brackets none

def inside (read : Reading Expression) (first last : Nat) (line column : Nat) :
    Reading Expression := do
  let source <- get
  let lexing : Lexing :=
    { text := source.text, place := first, ending := last, line, startsLine := false
      lineStart := first - column, brackets := [('(', line, 0)] }
  let found := Lexing.run (3 * (last - first) + 10) lexing
  let kept := found.tokens
  let inner : Source := { text := source.text, tokens := kept }
  let shown := String.ofList ((source.text.extract first last).toList)
  let read : Reading Expression := do
    let expression <- read
    match (<- peek).kind with
    | .programEnd => return expression
    | _ =>
      missedComma grammar expression
      unexpected
  match read inner with
  | .ok (expression, _) => return expression
  | .error fault =>
    let move (place : Nat) : Nat := place + 1 - column
    throw { fault with
      message := s!"f-string: {fault.message}"
      shown := some s!"({shown})"
      span := ⟨1, move fault.span.column, 1, move fault.span.lastColumn⟩ }

def refuseText (message : String) : Reading α := do
  let token <- peek
  throw { message := s!"f-string: {message}", span := token.span, isWide := false }

/-- The pieces of a text with values, between two places of the program.  Inside a form it ends at a
closing brace. -/
def pieces (read : Reading Expression) (isRaw : Bool) (line column start : Nat) :
    Nat -> Nat -> Nat -> Nat -> Chars -> Reading (List Expression × Nat)
  | 0, _, place, _, _ => return ([], place)
  | limit + 1, depth, place, ending, done => do
    let text := (<- get).text
    let plain : Reading (List Expression) := do
      if done.isEmpty then return []
      else
        let chars := done.reverse
        match if isRaw then .ok chars else unescaped false (chars.length + 1) 0 chars [] with
        | .ok chars => return [.constant (.text (.ofList chars))]
        | .error message => refuse (<- last).span message
    let c := text.getD place ' '
    let next := text.getD (place + 1) ' '
    if ending <= place then return (<- plain, place)
    else if c = '\x7b' && next = '\x7b' && depth = 0 then
      pieces read isRaw line column start limit depth (place + 2) ending (c :: done)
    else if c = '\x7d' then
      if depth ≠ 0 then return (<- plain, place)
      else if next = '\x7d' then
        pieces read isRaw line column start limit depth (place + 2) ending (c :: done)
      else refuseText "single '\x7d' is not allowed"
    else if c = '\x7b' then
      if 2 <= depth then refuseText "expressions nested too deeply"
      let first := place + 1
      let last := fieldEnd text ending (ending + 1 - first) first [] none
      let shown := (text.extract first last).toList
      if shown.contains '\\' then refuseText "expression part cannot include a backslash"
      else if shown.contains '#' then refuseText "expression part cannot include '#'"
      else if shown.all Text.isSpace then
        if ending <= last then refuseText "expecting '\x7d'"
        else refuseText "empty expression not allowed"
      else if ending <= last then refuseText "expecting '\x7d'"
      let before := (text.extract start first).toList
      let lines := (before.filter (· = '\n')).length
      let column' :=
        if lines = 0 then column + (first - start)
        else (before.reverse.takeWhile (· != '\n')).length
      let value <- inside grammar read first last (line + lines) column'
      let isShown := text.getD last ' ' = '='
      let behindSign :=
        if isShown then
          last + 1 + (((text.extract (last + 1) ending).toList).takeWhile Text.isSpace).length
        else last
      let label : List Expression :=
        if isShown then [.constant (.text (.ofList ((text.extract first behindSign).toList)))]
        else []
      let (letter, behind) : Option Char × Nat :=
        if text.getD behindSign ' ' = '!' then
          (some (text.getD (behindSign + 1) ' '), behindSign + 2)
        else (none, behindSign)
      match letter with
      | some letter =>
        if !(['r', 's', 'a'].contains letter) then
          refuseText "invalid conversion character: expected 's', 'r', or 'a'"
      | none => pure ()
      let (form, behind) <-
        if text.getD behind ' ' = ':' && behind < ending then do
          let (inner, closing) <-
            pieces read isRaw line column start limit (depth + 1) (behind + 1) ending []
          pure (some (.joined inner), closing)
        else pure (none, behind)
      if ending <= behind || text.getD behind ' ' ≠ '\x7d' then refuseText "expecting '\x7d'"
      let letter := if isShown && letter.isNone && form.isNone then some 'r' else letter
      let (rest, closing) <- pieces read isRaw line column start limit depth (behind + 1) ending []
      return ((<- plain) ++ label ++ .formed value letter form :: rest, closing)
    else if c = '\\' && !isRaw then
      pieces read isRaw line column start limit depth (place + 2) ending (next :: c :: done)
    else pieces read isRaw line column start limit depth (place + 1) ending (c :: done)

def texts : Nat -> Reading (List Token)
  | 0 => return []
  | limit + 1 => do
    let token <- peek
    match token.kind with
    | .text _ =>
      skip 1
      return token :: (<- texts limit)
    | .formed _ _ _ =>
      skip 1
      return token :: (<- texts limit)
    | _ => return []

def joinedText (read : Reading Expression) : Reading Expression := do
  let found <- texts (<- bound)
  let parts <- found.mapM fun token => do
    match token.kind with
    | .formed isRaw start length =>
      let front := token.text.length - length - (if isRaw then 1 else 0)
      let quotes := if 6 < front then 4 else 2
      let parts <- pieces grammar read isRaw token.span.line (token.span.column + quotes) start
        (2 * length + 10) 0 start (start + length) []
      return parts.1
    | .text value => return [.constant value]
    | _ => return []
  let isFormed := found.any fun token => match token.kind with
    | .formed _ _ _ => true
    | _ => false
  let all := parts.flatten
  let areOctets := all.map fun
    | .constant (.octets _) => true
    | _ => false
  if areOctets.contains true && areOctets.contains false then
    let token <- peek
    throw
      { message := "cannot mix bytes and nonbytes literals", span := token.span, isWide := false }
  else if areOctets.contains true then
    let bytes := all.foldl (fun bytes part => match part with
      | .constant (.octets more) => bytes ++ more
      | _ => bytes) .empty
    return .constant (.octets bytes)
  else if isFormed then return .joined all
  else
    return .constant (.text (all.foldl (fun text part => match part with
      | .constant (.text more) => text ++ more
      | _ => text) ""))

/-! ## Arguments -/

def argument : Reading (ArgumentKind × Expression) := do
  if <- accept "*" then return (.items, <- grammar.expression)
  else if <- accept "**" then return (.entries, <- grammar.expression)
  else if (<- seesName) && (<- seesAt 1 "=") then
    let name <- name
    skip 1
    return (.named name, <- grammar.expression)
  else
    let found <-
      if (<- seesName) && (<- seesAt 1 ":=") then namedExpression grammar else grammar.expression
    if <- sees "=" then
      match found.bare with
      | .constant (.truth _) => refuseLate found.span s!"cannot assign to {found.told}"
      | .constant .nothing => refuseLate found.span "cannot assign to None"
      | _ =>
        refuseLate (found.span.to (<- peek).span)
          "expression cannot contain assignment, perhaps you meant \"==\"?"
    else return (.plain, found)

def arguments (targets test : Reading Expression) :
    Nat -> List (ArgumentKind × Expression) -> Reading (List (ArgumentKind × Expression))
  | 0, done => return done.reverse
  | limit + 1, done => do
    if <- accept ")" then return done.reverse
    let first := (<- peek).span
    let found <- argument grammar
    let found <-
      if found.1 = .plain && (<- seesLoop) then do
        let inner <- loops targets test (<- bound)
        let made : Expression := .collected .generator none found.2 inner
        let span := first.to (<- last).span
        if !done.isEmpty || !(<- sees ")") then
          if !done.isEmpty || !(<- seesAt 1 ")") then
            refuseLate span "Generator expression must be parenthesized"
        pure (.plain, .at span made)
      else pure found
    if found.1 = .plain then
      let isNamed (argument : ArgumentKind × Expression) : Bool := match argument.1 with
        | .named _ => true
        | _ => false
      let isTable (argument : ArgumentKind × Expression) : Bool := match argument.1 with
        | .entries => true
        | _ => false
      if done.any isTable then
        if !(<- sees ")") && !(<- sees ",") then unexpected
        refuseLate (<- closing).span "positional argument follows keyword argument unpacking"
      else if done.any isNamed then
        if !(<- sees ")") && !(<- sees ",") then unexpected
        refuseLate (<- closing).span "positional argument follows keyword argument"
    if found.1 = .items && done.any (·.1 = .entries) then
      refuseLate (first.to (<- last).span)
        "iterable argument unpacking follows keyword argument unpacking"
    if <- accept "," then arguments targets test limit (found :: done)
    else
      missedComma grammar found.2
      demand ")"
      return (found :: done).reverse
where
  closing : Reading Token := do
    let source <- get
    let rest := (source.tokens.extract source.place source.tokens.size).toList
    return (rest.find? (·.text = ")")).getD (rest.headD default)

/-! ## What binds most -/

def subscript : Reading Expression := do
  if <- sees "*" then
    spanned do
      skip 1
      return .items (<- grammar.expression)
  else
    let first := (<- peek).span
    let seesBorder : Reading Bool := do return (<- sees ":") || (<- sees "]") || (<- sees ",")
    let part : Reading (Option Expression) := do
      if <- seesBorder then return none else return some (<- grammar.expression)
    let start <- if <- sees ":" then pure none else pure (some (<- namedExpression grammar))
    if <- accept ":" then
      let ending <- part
      let step <- if <- accept ":" then part else pure none
      return .at (first.to (<- last).span) (.slice start ending step)
    else match start with
      | some found => return found
      | none => unexpected

def listed (read : Reading Expression) (closing : String) : Nat -> Reading (List Expression × Bool)
  | 0 => return ([], false)
  | limit + 1 => do
    if <- sees closing then return ([], true)
    let first <- read
    if <- accept "," then
      let (rest, _) <- listed read closing limit
      return (first :: rest, true)
    else
      missedComma grammar first
      return ([first], false)

def entry (bitwise : Reading Expression) : Reading (Option Expression × Expression) := do
  if <- accept "**" then return (none, <- bitwise)
  else
    let key <- grammar.expression
    if !(<- accept ":") then
      missedComma grammar key
      if (<- sees ",") || (<- sees "\x7d") then
        throw { message := "':' expected after dictionary key", isWide := false
                span := (<- last).span }
      else unexpected
    if (<- sees "\x7d") || (<- sees ",") then
      let token <- last
      throw { message := "expression expected after dictionary key and ':'", isWide := false
              span := token.span }
    return (some key, <- grammar.expression)

def entries (bitwise : Reading Expression) : Nat -> Reading (List (Option Expression × Expression))
  | 0 => return []
  | limit + 1 => do
    if <- sees "\x7d" then return []
    let first <- entry grammar bitwise
    if <- accept "," then return first :: (<- entries bitwise limit)
    else
      missedComma grammar first.2
      return [first]

def braced (bitwise targets test : Reading Expression) : Reading Expression := do
  let limit <- bound
  if <- accept "\x7d" then return .dict []
  else if <- sees "**" then
    let found <- entries grammar bitwise limit
    demand "\x7d"
    return .dict found
  else
    let first <- starred bitwise (namedExpression grammar)
    let isStarred := match first.bare with
      | .items _ => true
      | _ => false
    let hasValue <- if isStarred then pure false else accept ":"
    if hasValue then
      if (<- sees "\x7d") || (<- sees ",") then
        let token <- last
        throw { message := "expression expected after dictionary key and ':'", isWide := false
                span := token.span }
      let value <- grammar.expression
      if <- seesLoop then
        let inner <- loops targets test limit
        demand "\x7d"
        return .collected .dict (some first) value inner
      else if <- accept "," then
        let rest <- entries grammar bitwise limit
        demand "\x7d"
        return .dict ((some first, value) :: rest)
      else
        missedComma grammar value
        demand "\x7d"
        return .dict [(some first, value)]
    else if <- seesLoop then
      let inner <- loops targets test limit
      demand "\x7d"
      return .collected .set none first inner
    else
      let rest <-
        if <- accept "," then
          pure (<- listed grammar (starred bitwise (namedExpression grammar)) "\x7d" limit).1
        else do
          missedComma grammar first
          pure []
      demand "\x7d"
      return .set (first :: rest)

def atom (bitwise targets test give : Reading Expression) : Reading Expression := do
  let token <- peek
  let limit <- bound
  let one : Reading Expression := starred bitwise (namedExpression grammar)
  match token.kind with
  | .number value =>
    skip 1
    return .constant value
  | .text _ => joinedText grammar grammar.expression
  | .formed _ _ _ => joinedText grammar (listOf one)
  | .name => match token.text with
    | "None" =>
      skip 1
      return .constant .nothing
    | "True" =>
      skip 1
      return .constant (.truth true)
    | "False" =>
      skip 1
      return .constant (.truth false)
    | _ => return .name (<- name)
  | .sign => match token.text with
    | "..." =>
      skip 1
      return .constant .ellipsis
    | "(" =>
      skip 1
      if <- accept ")" then return .tuple []
      else if <- sees "yield" then
        let found <- give
        demand ")"
        return found
      else
        let first <- one
        if <- seesLoop then
          let inner <- loops targets test limit
          demand ")"
          return .collected .generator none first inner
        else if <- accept "," then
          let (rest, _) <- listed grammar one ")" limit
          demand ")"
          return .tuple (first :: rest)
        else
          missedComma grammar first
          demand ")"
          match first.bare with
          | .items _ => refuse first.span "cannot use starred expression here"
          | .tuple _ => return first
          | _ => return first
    | "[" =>
      skip 1
      if <- accept "]" then return .list []
      else
        let first <- one
        if <- seesLoop then
          let inner <- loops targets test limit
          demand "]"
          return .collected .list none first inner
        else
          let rest <-
            if <- accept "," then do
              let (rest, _) <- listed grammar one "]" limit
              pure rest
            else do
              missedComma grammar first
              pure []
          demand "]"
          return .list (first :: rest)
    | "\x7b" =>
      skip 1
      braced grammar bitwise targets test
    | _ => unexpected
  | _ => unexpected
where
  listOf (read : Reading Expression) : Reading Expression := do
    let first <- read
    if <- accept "," then return .tuple (first :: (<- separated read "," (<- bound)))
    else return first

def tails (targets test : Reading Expression) (first : Span) :
    Nat -> Expression -> Reading Expression
  | 0, found => return found
  | limit + 1, found => do
    if <- accept "." then
      let name <- name
      tails targets test first limit (.at (first.to (<- last).span) (.attribute found name))
    else if <- accept "(" then
      let given <- arguments grammar targets test (<- bound) []
      tails targets test first limit (.at (first.to (<- last).span) (.call found given))
    else if <- accept "[" then
      if <- sees "]" then unexpected
      let start := (<- peek).span
      let (parts, hasComma) <- listed grammar (subscript grammar) "]" (<- bound)
      let span := start.to (<- last).span
      demand "]"
      let index := match parts, hasComma with
        | [part], false => match part.bare with
            | .items _ => .at span (.tuple [part])
            | _ => part
        | parts, _ => .at span (.tuple parts)
      tails targets test first limit (.at (first.to (<- last).span) (.item found index))
    else return found

def primary (bitwise targets test give : Reading Expression) : Reading Expression := do
  let first := (<- peek).span
  if (<- sees "await") then skip 1
  let found <- spanned (atom grammar bitwise targets test give)
  -- Parentheses do not count as a part of what they hold.
  let found := match found with
    | .at outer (.at inner value) => match value with
        | .tuple _ => .at outer value
        | _ => .at inner value
    | found => found
  tails grammar targets test first (<- bound) found

def factor (bitwise targets test give : Reading Expression) : Nat -> Reading Expression
  | 0 => unexpected
  | limit + 1 => do
    let token <- peek
    let sign? : Option Sign := match token.kind, token.text with
      | .sign, "+" => some .plus
      | .sign, "-" => some .minus
      | .sign, "~" => some .turned
      | _, _ => none
    match sign? with
    | some sign =>
      spanned do
        skip 1
        return .signed sign (<- factor bitwise targets test give limit)
    | none =>
      let base <- primary grammar bitwise targets test give
      if <- accept "**" then
        let exponent <- factor bitwise targets test give limit
        return .at (token.span.to (<- last).span) (.binary .power base exponent)
      else return base

def relation? : Reading (Option (Relation × Nat)) := do
  let token <- peek
  match token.kind, token.text with
  | .sign, "<" => return some (.less, 1)
  | .sign, "<=" => return some (.lessOrSame, 1)
  | .sign, "==" => return some (.same, 1)
  | .sign, "!=" => return some (.different, 1)
  | .sign, ">" => return some (.greater, 1)
  | .sign, ">=" => return some (.greaterOrSame, 1)
  | .name, "in" => return some (.within, 1)
  | .name, "not" => return if <- seesAt 1 "in" then some (.outside, 2) else none
  | .name, "is" => return if <- seesAt 1 "not" then some (.isNotOne, 2) else some (.isOne, 1)
  | _, _ => return none

def comparisons (bitwise : Reading Expression) : Nat -> Reading (List (Relation × Expression))
  | 0 => return []
  | limit + 1 => do
    let some (relation, count) <- relation? | return []
    skip count
    return (relation, (<- bitwise)) :: (<- comparisons bitwise limit)

def comparison (bitwise : Reading Expression) : Reading Expression := do
  let first <- bitwise
  match <- comparisons bitwise (<- bound) with
  | [] => return first
  | rest => return .at (first.span.to (<- last).span) (.compared first rest)

def inversion (bitwise : Reading Expression) : Nat -> Reading Expression
  | 0 => unexpected
  | limit + 1 => do
    if <- sees "not" then
      spanned do
        skip 1
        return .signed .opposite (<- inversion bitwise limit)
    else comparison bitwise

def connected (part : Reading Expression) (word : String)
    (connect : Expression -> Expression -> Expression) : Reading Expression := do
  let first <- part
  if <- accept word then
    let rest <- separated part word (<- bound)
    match (first :: rest).reverse with
    | last :: before =>
      return .at (first.span.to last.span)
        (before.foldl (fun right left => connect left right) last)
    | [] => return first
  else return first

def disjunction (bitwise : Reading Expression) : Reading Expression := do
  connected (connected (inversion bitwise (<- bound)) "and" .both) "or" .either

def parameters (ending : String) (annotated : Bool) :
    Nat -> List (String × ParameterKind × Option Expression) -> List (String × Expression) ->
      Bool -> Reading (Parameters × List (String × Expression))
  | 0, _, _, _ => unexpected
  | limit + 1, done, notes, isNamed => do
    let finish : Reading (Parameters × List (String × Expression)) :=
      return (done.reverse, notes.reverse)
    let isAfterTable := done.any (·.2.1 = .entries)
    let note (name : String) : Reading (List (String × Expression)) := do
      let hasNote <- if annotated then accept ":" else pure false
      if hasNote then return (name, <- grammar.expression) :: notes else return notes
    let goOn (done : List (String × ParameterKind × Option Expression))
        (notes : List (String × Expression)) (isNamed : Bool) :
        Reading (Parameters × List (String × Expression)) := do
      if <- accept "," then parameters ending annotated limit done notes isNamed
      else if <- sees ending then return (done.reverse, notes.reverse)
      else unexpected
    if <- sees ending then finish
    else if isAfterTable then
      refuseLate (<- peek).span "arguments cannot follow var-keyword argument"
    else if <- sees "*" then
      let star := (<- peek).span
      if isNamed then
        throw { message := "* argument may appear only once", isWide := false, span := star }
      skip 1
      if (<- sees ",") || (<- sees ending) then
        if (<- sees ending) || (<- seesAt 1 ending) || (<- seesAt 1 "**") then
          throw { message := "named arguments must follow bare *", isWide := false, span := star }
        goOn done notes true
      else
        let name <- name
        goOn ((name, .items, none) :: done) (<- note name) true
    else if <- accept "**" then
      let name <- name
      goOn ((name, .entries, none) :: done) (<- note name) true
    else if <- accept "/" then
      let placed := done.map fun (name, kind, value) =>
        (name, if kind = .usual then .placed else kind, value)
      goOn placed notes isNamed
    else
      let token <- peek
      let name <- name
      let notes <- note name
      let value <- if <- accept "=" then pure (some (<- grammar.expression)) else pure none
      let hasValue := done.any (fun parameter => parameter.2.1 ≠ .named && parameter.2.2.isSome)
      if value.isNone && !isNamed && hasValue then
        throw { message := "non-default argument follows default argument", isWide := false
                span := token.span }
      goOn ((name, if isNamed then .named else .usual, value) :: done) notes isNamed

def shortFunction : Reading Expression := do
  demand "lambda"
  let (parameters, _) <- parameters grammar ":" false (<- bound) [] [] false
  demand ":"
  return .function parameters (<- grammar.expression)

def choice (bitwise : Reading Expression) : Reading Expression := do
  if <- sees "lambda" then spanned (shortFunction grammar)
  else
    let first <- disjunction bitwise
    if <- sees "if" then
      let before <- get
      skip 1
      let test <- disjunction bitwise
      if <- accept "else" then
        let other <- grammar.expression
        return .at (first.span.to (<- last).span) (.choice test first other)
      else if <- sees ":" then
        set before
        return first
      else match (<- peek).kind with
        | .wrong fault => throw fault
        | _ => refuseLate (first.span.to test.span) "expected 'else' after 'if' expression"
    else return first

def row (read : Reading Expression) (mayEnd : Reading Bool) : Reading Expression := do
  let first <- read
  if <- sees "," then
    let found <- more read mayEnd (<- bound)
    return .at (first.span.to (<- last).span) (.tuple (first :: found))
  else return first
where
  more (read : Reading Expression) (mayEnd : Reading Bool) : Nat -> Reading (List Expression)
    | 0 => return []
    | limit + 1 => do
      if <- accept "," then
        if <- mayEnd then return []
        else
          let found <- read
          return found :: (<- more read mayEnd limit)
      else return []

def seesRowEnd : Reading Bool := do
  let token <- peek
  match token.kind with
  | .lineEnd => return true
  | .programEnd => return true
  | .sign =>
    return ["=", ")", "]", "\x7d", ":", ";", "+=", "-=", "*=", "/=", "//=", "%=", "@=", "&=",
      "|=", "^=", ">>=", "<<=", "**="].contains token.text
  | .name => return token.text = "in"
  | _ => return false

def giving (all : Reading Expression) : Reading Expression :=
  spanned do
    demand "yield"
    if <- accept "from" then return .giveAll (<- grammar.expression)
    else if <- seesRowEnd then return .give none
    else return .give (some (<- all))

def bitwiseWithin : Nat -> Reading Expression
  | 0 => unexpected
  | limit + 1 => do
    let bitwise : Reading Expression := (bitwiseWithin limit ·)
    let target : Reading Expression := starred bitwise bitwise
    let targets : Reading Expression := row target seesRowEnd
    let test : Reading Expression := (disjunction bitwise ·)
    let whole : Reading Expression := starred bitwise (namedExpression grammar)
    let give : Reading Expression := giving grammar (row whole seesRowEnd)
    leveled (factor grammar bitwise targets test give (<- bound)) operators

def deepestOperators : Nat := 100

def bitwise : Reading Expression := bitwiseWithin grammar deepestOperators

def expression : Reading Expression := choice grammar (bitwise grammar)

def wholeRow : Reading Expression := row (starred (bitwise grammar) grammar.expression) seesRowEnd

def targetRow : Reading Expression := row (starred (bitwise grammar) (bitwise grammar)) seesRowEnd

def giveOrRow : Reading Expression := do
  if <- sees "yield" then giving grammar (wholeRow grammar) else wholeRow grammar

end

end Reading

end BaseLanguage.Shell.Objects
