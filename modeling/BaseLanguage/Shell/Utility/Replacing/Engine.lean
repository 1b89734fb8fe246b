import Std.Data.HashMap
import BaseLanguage.Shell.Utility.Running

namespace BaseLanguage.Shell.Replacing

open Text

/-!
# Names that stand for texts

A text is copied word by word.  A name that is defined is replaced by what it stands for, with the
arguments in parentheses behind it; what it stands for is read again in its place.
-/

/-! ## State -/

inductive Definition where
  | text (text : Chars)
  | builtIn (name : String)

abbrev Given := Definition

def Definition.asText : Given -> Chars
  | .text octets => octets
  | .builtIn _ => []

structure Place where
  file : String := ""
  line : Nat := 0

structure Portion where
  text : Chars := []
  builtIn : Option String := none
  place : Place
  isFile : Bool := false
  isFreshBehind : Bool := false

structure PendingCall where
  name : String
  meaning : Definition
  given : List Given := []
  current : Chars := []
  builtIn : Option String := none
  depth : Nat := 0
  skips : Bool := true
  place : Place
  start : Place

structure Marks where
  openQuote : Chars := ['\x60']
  closeQuote : Chars := ['\'']
  openRemark : Chars := ['#']
  closeRemark : Chars := ['\n']

structure State where
  services : Services
  program : String
  names : Std.HashMap String (List Definition) := {}
  portions : List Portion := []
  place : Place := {}
  isMoved : Bool := false
  isFresh : Bool := false
  marks : Marks := {}
  calls : List PendingCall := []
  endings : List Portion := []
  held : List Chars := []
  kept : List (Nat × List Chars) := []
  target : Int := 0
  status : Nat := 0
  commandStatus : Nat := 0
  isQuiet : Bool := false
  strictness : Nat := 0
  front : String := ""
  isTraditional : Bool := false
  folders : List String := []
  traced : List String := []
  tracesAll : Bool := false
  tellsLines : Bool := false
  isOutputFresh : Bool := true
  outputLine : Int := -1

abbrev Work := StateT State (ExceptT Nat Act)

def act (work : Act α) : Work α := liftM (m := ExceptT Nat Act) (liftM (m := Act) work)

/-! ## Output and complaints -/

def flush : Work Unit := do
  let held := (<- get).held
  if !held.isEmpty then
    discard <| act (putOctets standardOutput held.reverse.flatten)
    modify ({ · with held := [] })

def complainText (text : String) : Work Unit := do
  flush
  discard <| act (putText standardError text)

def located (place : Place) (message : String) : Work String := do
  let program := (<- get).program
  if place.line = 0 then return s!"{program}: {message}\n"
  else return s!"{program}:{place.file}:{numberText place.line}: {message}\n"

def complainHere (message : String) : Work Unit := do
  complainText (<- located (<- get).place message)
  let strictness := (<- get).strictness
  if strictness ≠ 0 then modify ({ · with status := 1 })
  if 1 < strictness then throw 1

def warn (message : String) : Work Unit := do
  if !(<- get).isQuiet then complainHere s!"Warning: {message}"

def failAt (place : Place) (message : String) : Work α := do
  complainText (<- located place message)
  throw 1

def keep (number : Nat) (piece : Chars) : List (Nat × List Chars) -> List (Nat × List Chars)
  | [] => [(number, [piece])]
  | (other, pieces) :: rest =>
    if other = number then (other, piece :: pieces) :: rest
    else if number < other then (number, [piece]) :: (other, pieces) :: rest
    else (other, pieces) :: keep number piece rest

def writeOut (text : Chars) : Work Unit :=
  modify fun state =>
    if text.isEmpty || state.target < 0 then state
    else if state.target = 0 then { state with held := text :: state.held }
    else { state with kept := keep state.target.toNat text state.kept }

/-- Writes a text that began on a line, with marks of where it is from if these are asked for. -/
def shipOut (text : Chars) (line : Nat) : Work Unit := do
  let state <- get
  if state.target < 0 then return
  if !state.tellsLines then writeOut text
  else
    text.forM fun c => do
      let state <- get
      if state.isOutputFresh then
        let next := state.outputLine + 1
        modify ({ · with isOutputFresh := false, outputLine := next })
        if next ≠ (line : Int) then
          let file := if next < 1 && !state.place.file.isEmpty then
              " \"" ++ state.place.file ++ "\"" else ""
          writeOut (s!"#line {numberText line}" ++ file ++ "\n").toList
          modify ({ · with outputLine := line })
      writeOut [c]
      if c = '\n' then modify ({ · with isOutputFresh := true })

/-! ## Reading -/

def State.settle (state : State) : State := go state.portions state
where
  go : List Portion -> State -> State
    | [], state => { state with portions := [] }
    | portion :: rest, state =>
      if portion.text.isEmpty && portion.builtIn.isNone then
        let state :=
          if portion.isFile then
            { state with isFresh := portion.isFreshBehind, outputLine := -1, isMoved := true }
          else { state with isMoved := true }
        go rest state
      else { state with portions := portion :: rest }

def State.ahead (state : State) (count : Nat) : Chars := go state.portions count
where
  go : List Portion -> Nat -> Chars
    | [], _ => []
    | portion :: rest, count =>
      if count = 0 || portion.builtIn.isSome then []
      else
        let front := portion.text.take count
        front ++ go rest (count - front.length)

def sees (text : Chars) : Work Bool := do
  match text with
  | [] => return false
  | _ => return (<- get).ahead text.length == text

inductive Item where
  | ended
  | builtIn (name : String)
  | char (c : Char)

def State.move (state : State) : State :=
  if state.isMoved then
    { state with
      isMoved := false
      place := (state.portions.head?.map (·.place)).getD {} }
  else state

def nextItem : Work Item := do
  let state := (<- get).settle.move
  match state.portions with
  | [] =>
    set state
    return .ended
  | portion :: rest => match portion.builtIn, portion.text with
    | some name, _ =>
      set { state with portions := { portion with builtIn := none } :: rest }
      return .builtIn name
    | none, [] =>
      set state
      return .ended
    | none, c :: text =>
      if portion.isFile then
        let line := if state.isFresh then portion.place.line + 1 else portion.place.line
        let place : Place := { portion.place with line }
        set { state with
          portions := { portion with text, place } :: rest, place, isFresh := c = '\n' }
      else set { state with portions := { portion with text } :: rest }
      return .char c

def skip : Nat -> Work Unit
  | 0 => return
  | count + 1 => do
    discard nextItem
    skip count

inductive Token where
  | ended
  | builtIn (name : String)
  | text (text : Chars)
  | word (text : Chars)
  | sign (c : Char)

def beginsName (c : Char) : Bool := ('a' <= c && c <= 'z') || ('A' <= c && c <= 'Z') || c = '_'

def continuesName (c : Char) : Bool := beginsName c || isDigit c

def mostCharacters : Nat := 1000000000

def nameRest : Nat -> Chars -> Work Chars
  | 0, done => return done
  | limit + 1, done => do
    match (<- get).ahead 1 with
    | [c] =>
      if continuesName c then
        discard nextItem
        nameRest limit (c :: done)
      else return done
    | _ => return done

def remarkRest (start : Place) : Nat -> Chars -> Work Chars
  | 0, done => return done
  | limit + 1, done => do
    let mark := (<- get).marks.closeRemark
    if <- sees mark then
      skip mark.length
      return mark.reverse ++ done
    else match <- nextItem with
      | .char c => remarkRest start limit (c :: done)
      | .builtIn _ => remarkRest start limit done
      | .ended => failAt start "ERROR: end of file in comment"

def quotationRest (start : Place) : Nat -> Nat -> Chars -> Work Chars
  | 0, _, done => return done
  | limit + 1, depth, done => do
    let marks := (<- get).marks
    if <- sees marks.closeQuote then
      skip marks.closeQuote.length
      if depth = 0 then return done
      else quotationRest start limit (depth - 1) (marks.closeQuote.reverse ++ done)
    else if <- sees marks.openQuote then
      skip marks.openQuote.length
      quotationRest start limit (depth + 1) (marks.openQuote.reverse ++ done)
    else match <- nextItem with
      | .char c => quotationRest start limit depth (c :: done)
      | .builtIn _ => quotationRest start limit depth done
      | .ended => failAt start "ERROR: end of file in string"

def nextToken : Work (Token × Nat) := do
  modify .settle
  let marks := (<- get).marks
  let isRemark <- sees marks.openRemark
  let isQuotation <- sees marks.openQuote
  match <- nextItem with
  | .ended => return (.ended, 0)
  | .builtIn name => return (.builtIn name, (<- get).place.line)
  | .char c =>
    let place := (<- get).place
    if isRemark then
      skip (marks.openRemark.length - 1)
      let rest <- remarkRest place mostCharacters marks.openRemark.reverse
      return (.text rest.reverse, place.line)
    else if beginsName c then return (.word (<- nameRest mostCharacters [c]).reverse, place.line)
    else if isQuotation then
      skip (marks.openQuote.length - 1)
      return (.text (<- quotationRest place mostCharacters 0 []).reverse, place.line)
    else return (.sign c, place.line)

def seesOpening : Work Bool := do
  modify .settle
  let marks := (<- get).marks
  if (<- get).ahead 1 ≠ ['('] then return false
  else return !(<- sees marks.openRemark) && !(<- sees marks.openQuote)

/-! ## Replacing -/

def wantsArguments (name : String) : Bool :=
  (wordsIn "builtin decr define defn errprint esyscmd eval format ifdef ifelse include incr index
  indir len m4wrap maketemp mkstemp patsubst popdef pushdef regexp shift sinclude substr syscmd
  translit undefine").contains name

def takesBuiltIn (name : String) : Bool := ["builtin", "define", "indir", "pushdef"].contains name

def joinedArguments (marks : Marks) (isQuoted : Bool) (separator : Chars)
    (given : List Given) : Chars :=
  let told (argument : Given) : Chars :=
    if isQuoted then marks.openQuote ++ argument.asText ++ marks.closeQuote else argument.asText
  separator.intercalate (given.map told)

def withArguments (marks : Marks) (name : String) (given : List Given) (isTraditional : Bool) :
    Nat -> Chars -> Chars
  | 0, _ => []
  | _, [] => []
  | limit + 1, '$' :: rest =>
    let go := withArguments marks name given isTraditional limit
    match rest with
    | '#' :: rest => (numberText given.length).toList ++ go rest
    | '*' :: rest => joinedArguments marks false [','] given ++ go rest
    | '@' :: rest => joinedArguments marks true [','] given ++ go rest
    | rest =>
      let digits := rest.takeWhile isDigit
      let digits := if isTraditional then digits.take 1 else digits
      if digits.isEmpty then '$' :: go rest
      else
        let number := valueOf digits
        let text := if number = 0 then name.toList
          else (given[number - 1]?.map Definition.asText).getD []
        text ++ go (rest.drop digits.length)
  | limit + 1, c :: rest => c :: withArguments marks name given isTraditional limit rest

def meaning? (name : String) : Work (Option Definition) := do
  return ((<- get).names[name]?).bind List.head?

def putBack (portion : Portion) : Work Unit :=
  modify fun state => { state with portions := portion :: state.portions, isMoved := true }

def replace (perform : String -> String -> List Given -> Work Definition) (call : PendingCall)
    (given : List Given) : Work Unit := do
  let behind := (<- get).place
  modify ({ · with place := call.place })
  let state <- get
  if state.tracesAll || state.traced.contains call.name then
    complainText s!"m4trace: -{numberText (state.calls.length + 1)}- {call.name}\n"
  let result <-
    match call.meaning with
    | .text text =>
      pure (.text
        (withArguments state.marks call.name given state.isTraditional (text.length + 1) text))
    | .builtIn inner =>
      let given := if takesBuiltIn inner then given else given.map (fun argument =>
        .text argument.asText)
      perform inner call.name given
  match result with
  | .text [] => modify ({ · with place := behind })
  | .text text =>
    putBack { text, place := call.place }
    modify ({ · with place := behind })
  | .builtIn name =>
    putBack { builtIn := some name, place := call.place }
    modify ({ · with place := behind })

def passOn (text : Chars) (line : Nat) : Work Unit := do
  match (<- get).calls with
  | [] => shipOut text line
  | call :: rest =>
    modify ({ · with
      calls := { call with current := text.reverse ++ call.current, skips := false } :: rest })

def PendingCall.endArgument (call : PendingCall) (start : Place) : PendingCall :=
  let argument : Given := match call.builtIn, call.current with
    | some name, [] => .builtIn name
    | _, current => .text current.reverse
  { call with given := argument :: call.given, current := [], builtIn := none, skips := true, start }

def meetName (perform : String -> String -> List Given -> Work Definition) (word : Chars)
    (line : Nat) : Work Unit := do
  let name := .ofList word
  match <- meaning? name with
  | none => passOn word line
  | some meaning =>
    let place := (<- get).place
    let opens <- seesOpening
    let isBlind : Bool := match meaning with
      | .builtIn inner => wantsArguments inner
      | .text _ => false
    if isBlind && !opens then passOn word line
    else if opens then
      skip 1
      let call : PendingCall := { name, meaning, place, start := (<- get).place }
      modify fun state => { state with
        calls := call :: (match state.calls with
          | outer :: rest => { outer with skips := false } :: rest
          | [] => []) }
    else
      match (<- get).calls with
      | outer :: rest => modify ({ · with calls := { outer with skips := false } :: rest })
      | [] => pure ()
      replace perform { name, meaning, place, start := place } []

def step (perform : String -> String -> List Given -> Work Definition) : Work Bool := do
  let (token, line) <- nextToken
  match (<- get).calls with
  | [] => match token with
    | .ended => return false
    | .builtIn _ => return true
    | .text text =>
      shipOut text line
      return true
    | .sign c =>
      shipOut [c] line
      return true
    | .word word =>
      meetName perform word line
      return true
  | call :: rest => match token with
    | .ended => failAt call.start "ERROR: end of file in argument list"
    | .builtIn name =>
      let call := if call.current.isEmpty then { call with builtIn := some name } else call
      modify ({ · with calls := { call with skips := false } :: rest })
      return true
    | .text text =>
      passOn text line
      return true
    | .word word =>
      meetName perform word line
      return true
    | .sign c =>
      if call.skips && isSpace c then return true
      else if call.depth = 0 && c = ',' then
        let start := (<- get).place
        modify ({ · with calls := call.endArgument start :: rest })
        return true
      else if call.depth = 0 && c = ')' then
        let call := call.endArgument call.start
        modify ({ · with calls := rest })
        replace perform call call.given.reverse
        return true
      else
        let depth := if c = '(' then call.depth + 1
          else if c = ')' then call.depth - 1 else call.depth
        modify ({ · with
          calls := { call with depth, skips := false, current := c :: call.current } :: rest })
        return true

def takeWords (perform : String -> String -> List Given -> Work Definition) : Nat -> Work Unit
  | 0 => return
  | limit + 1 => do
    if <- step perform then takeWords perform limit

def mostWords : Nat := 1000000000000

/-!
## Sums in definitions

A sum has integers of thirty-two bits, which wrap around.  It is computed while it is read, from the
left to the right; a fault in an operand that is not needed for the value does not count.
-/

inductive SumFailure where
  | divided
  | remainder
  | exponent
  | malformed
  | unclosed
  | unknown
  | excess
  | badOperator
  deriving DecidableEq

def SumFailure.isOfValues : SumFailure -> Bool
  | .divided => true
  | .remainder => true
  | .exponent => true
  | _ => false

def SumFailure.message : SumFailure -> String
  | .divided => "divide by zero in eval"
  | .remainder => "modulo by zero in eval"
  | .exponent => "negative exponent in eval"
  | .malformed => "bad expression in eval"
  | .unclosed => "bad expression in eval (missing right parenthesis)"
  | .unknown => "bad expression in eval (bad input)"
  | .excess => "bad expression in eval (excess input)"
  | .badOperator => "invalid operator in eval"

def wrapWord (value : Int) : Int := Int.bmod value 4294967296

inductive SumToken where
  | number (value : Int)
  | sign (text : String)
  | bad
  | wrong
  | ended
  deriving DecidableEq

def digitOf? (c : Char) : Option Nat :=
  if isDigit c then some (c.toNat - 48)
  else if 'a' <= c && c <= 'z' then some (c.toNat - 87)
  else if 'A' <= c && c <= 'Z' then some (c.toNat - 55)
  else none

def numberIn (base : Nat) : Chars -> Int -> Int × Chars
  | [], value => (value, [])
  | c :: rest, value => match digitOf? c with
    | none => (value, c :: rest)
    | some digit =>
      if base = 1 then
        if digit = 1 then numberIn base rest (value + 1)
        else if digit = 0 && value = 0 then numberIn base rest value
        else (value, c :: rest)
      else if base <= digit then (value, c :: rest)
      else numberIn base rest (wrapWord (value * base + digit))

def wordAt (text : Chars) : SumToken × Chars :=
  let number (base : Nat) (rest : Chars) : SumToken × Chars :=
    let (value, rest) := numberIn base rest 0
    (.number value, rest)
  let unlessSet (sign : String) (rest : Chars) : SumToken × Chars :=
    if rest.head? = some '=' then (.bad, rest) else (.sign sign, rest)
  match text with
  | [] => (.ended, [])
  | '0' :: 'x' :: rest => number 16 rest
  | '0' :: 'X' :: rest => number 16 rest
  | '0' :: 'b' :: rest => number 2 rest
  | '0' :: 'B' :: rest => number 2 rest
  | '0' :: 'r' :: rest => inBase rest
  | '0' :: 'R' :: rest => inBase rest
  | '0' :: rest => number 8 rest
  | '*' :: '*' :: rest => (.sign "**", rest)
  | '=' :: '=' :: rest => (.sign "==", rest)
  | '=' :: rest => (.bad, rest)
  | '!' :: '=' :: rest => (.sign "!=", rest)
  | '!' :: rest => (.sign "!", rest)
  | '>' :: '=' :: rest => (.sign ">=", rest)
  | '<' :: '=' :: rest => (.sign "<=", rest)
  | '>' :: '>' :: rest => unlessSet ">>" rest
  | '<' :: '<' :: rest => unlessSet "<<" rest
  | '&' :: '&' :: rest => (.sign "&&", rest)
  | '|' :: '|' :: rest => (.sign "||", rest)
  | c :: rest =>
    if isDigit c then number 10 text
    else if ['+', '-', '*', '/', '%', '^', '&', '|'].contains c then unlessSet (.singleton c) rest
    else if ['>', '<', '~', '(', ')'].contains c then (.sign (.singleton c), rest)
    else (.wrong, rest)
where
  inBase (rest : Chars) : SumToken × Chars :=
    let digits := rest.takeWhile isDigit
    let base := valueOf digits
    match rest.drop digits.length with
    | ':' :: rest =>
      if base = 0 || 36 < base then (.wrong, rest)
      else
        let (value, rest) := numberIn base rest 0
        (.number value, rest)
    | rest => (.wrong, rest)

abbrev SumWork := ExceptT SumFailure (StateM Chars)

namespace SumWork

def next : SumWork SumToken := do
  let text := (<- get).dropWhile isSpace
  let (token, rest) := wordAt text
  set rest
  return token

def nextKnown : SumWork SumToken := do
  match <- next with
  | .wrong => throw .unknown
  | token => return token

def acceptOf (signs : List String) : SumWork (Option String) := do
  let before := (<- get).dropWhile isSpace
  match <- next with
  | .wrong => throw .unknown
  | .sign text =>
    if signs.contains text then return some text
    else
      set before
      return none
  | _ =>
    set before
    return none

end SumWork

def sumLevels : List (List String) :=
  [["||"], ["&&"], ["|"], ["^"], ["&"], ["==", "!="], [">", ">=", "<", "<="], ["<<", ">>"],
    ["+", "-"], ["*", "/", "%"]]

def powerOfWord (base : Int) : Nat -> Nat -> Int
  | 0, _ => 1
  | limit + 1, exponent =>
    if exponent = 0 then 1
    else
      let half := powerOfWord base limit (exponent / 2)
      let square := wrapWord (half * half)
      if exponent % 2 = 1 then wrapWord (square * base) else square

def bitsOfWord (value : Int) : Nat := (value % 4294967296).toNat

def combine (sign : String) (left right : Int) : Except SumFailure Int :=
  let ofBool (holds : Bool) : Int := if holds then 1 else 0
  let ofBits (bits : Nat) : Int := wrapWord bits
  match sign with
  | "|" => .ok (ofBits (bitsOfWord left ||| bitsOfWord right))
  | "^" => .ok (ofBits (bitsOfWord left ^^^ bitsOfWord right))
  | "&" => .ok (ofBits (bitsOfWord left &&& bitsOfWord right))
  | "==" => .ok (ofBool (left = right))
  | "!=" => .ok (ofBool (left ≠ right))
  | ">" => .ok (ofBool (right < left))
  | ">=" => .ok (ofBool (right <= left))
  | "<" => .ok (ofBool (left < right))
  | "<=" => .ok (ofBool (left <= right))
  | "<<" => .ok (wrapWord (left * (Nat.pow 2 (bitsOfWord right % 32) : Nat)))
  | ">>" => .ok (Int.fdiv left (Nat.pow 2 (bitsOfWord right % 32) : Nat))
  | "+" => .ok (wrapWord (left + right))
  | "-" => .ok (wrapWord (left - right))
  | "*" => .ok (wrapWord (left * right))
  | "/" => if right = 0 then .error .divided else .ok (wrapWord (Int.tdiv left right))
  | "%" => if right = 0 then .error .remainder else .ok (wrapWord (Int.tmod left right))
  | _ => .error .malformed

mutual

def sumOfLevel : Nat -> List (List String) -> SumToken -> SumWork Int
  | 0, _, _ => throw .malformed
  | limit + 1, [], token => powerTerm limit token
  | limit + 1, signs :: more, token => do
    restOfLevel limit signs more (<- sumOfLevel limit more token)

def restOfLevel : Nat -> List String -> List (List String) -> Int -> SumWork Int
  | 0, _, _, _ => throw .malformed
  | limit + 1, signs, more, left => do
    let some sign <- .acceptOf signs | return left
    let token <- .nextKnown
    let isSettled := (sign = "||" && left ≠ 0) || (sign = "&&" && left = 0)
    let (result, after) := (sumOfLevel limit more token).run.run (<- get)
    set after
    let value <-
      match result with
      | .error failure =>
        if isSettled && failure.isOfValues then pure (if left = 0 then (0 : Int) else 1)
        else throw failure
      | .ok right => match sign with
        | "||" => pure (if left ≠ 0 || right ≠ 0 then (1 : Int) else 0)
        | "&&" => pure (if left ≠ 0 && right ≠ 0 then (1 : Int) else 0)
        | sign => .mk (pure (combine sign left right))
    restOfLevel limit signs more value

def powerTerm : Nat -> SumToken -> SumWork Int
  | 0, _ => throw .malformed
  | limit + 1, token => do
    let base <- signedTerm limit token
    let some _ <- .acceptOf ["**"] | return base
    let exponent <- powerTerm limit (<- .nextKnown)
    if exponent < 0 then throw .exponent
    else if base = 0 && exponent = 0 then throw .divided
    else return powerOfWord base 40 exponent.toNat

def signedTerm : Nat -> SumToken -> SumWork Int
  | 0, _ => throw .malformed
  | limit + 1, token => do
    match token with
    | .number value => return value
    | .bad => throw .badOperator
    | .sign "+" => signedTerm limit (<- .nextKnown)
    | .sign "-" => return wrapWord (-(<- signedTerm limit (<- .nextKnown)))
    | .sign "~" => return wrapWord (-(<- signedTerm limit (<- .nextKnown)) - 1)
    | .sign "!" => return if (<- signedTerm limit (<- .nextKnown)) = 0 then 1 else 0
    | .sign "(" =>
      let value <- sumOfLevel limit sumLevels (<- .nextKnown)
      match <- .nextKnown with
      | .sign ")" => return value
      | _ => throw .unclosed
    | _ => throw .malformed

end

def evaluateSum (text : Chars) : Except SumFailure Int :=
  let work : SumWork Int := do
    let value <- sumOfLevel (20 * text.length + 40) sumLevels (<- .nextKnown)
    let rest := (<- get).dropWhile isSpace
    if rest.isEmpty then return value
    else if (wordAt rest).1 = .bad then throw .badOperator
    else throw .excess
  (work.run.run text).1

end BaseLanguage.Shell.Replacing
