import BaseLanguage.Shell.Syntax.Word
import BaseLanguage.Shell.Work

namespace BaseLanguage.Shell

open Text

/-!
# Sums

Sums are expressions with integers of sixty-four bits, which wrap around.  They read variables and
assign to them, and what is not needed for the value is not computed: the second operand of `&&` and
`||`, and the branch that a conditional does not choose.

Where variables live is a parameter, `Cells`, so that the value of a sum is said without the shell.
-/

inductive Operation where
  | times | divide | remainder | plus | minus | shiftLeft | shiftRight
  | less | lessEqual | greater | greaterEqual | equal | different
  | bitAnd | bitXor | bitOr | power

inductive Sign where
  | plus | minus | not | complement

mutual

inductive Sum where
  | number (value : Int)
  | variable (place : SumPlace)
  | signed (sign : Sign) (operand : Sum)
  | binary (operation : Operation) (left right : Sum)
  | both (left right : Sum)
  | either (left right : Sum)
  | choose (test first second : Sum)
  | assign (place : SumPlace) (operation : Option Operation) (value : Sum)
  | step (place : SumPlace) (amount : Int) (old : Bool)
  | sequence (first second : Sum)

inductive SumPlace where
  | name (name : String)
  | element (name : String) (index : Sum)

end

inductive SumFault where
  | expectedOperand
  | expectedEnd
  | expectedColon
  | expectedClosing
  | divisionByZero
  | negativePower
  | badOperator
  | assignmentToValue
  | tooGreatForBase (digits : String)
  | tooDeep
  | noNumber (octets : String)
  | fixed (name : String)

structure SumError where
  fault : SumFault
  near : Chars := []

/-- The integer of sixty-four bits that a number wraps around to. -/
def wrapLong (value : Int) : Int := Int.bmod value 18446744073709551616

/-- How variables are read and changed; the index is that of an element of a row. -/
structure Cells (m : Type -> Type) where
  read : String -> Option Int -> ExceptT SumError m Int
  write : String -> Option Int -> Int -> ExceptT SumError m Unit

def bitsOf (value : Int) : Nat := (value % 18446744073709551616).toNat

def ofBits (bits : Nat) : Int := wrapLong bits

def ofBool (holds : Bool) : Int := if holds then 1 else 0

/-- The power of a number, with one multiplication that wraps around for each step. -/
def powerOf (base : Int) : Nat -> Int
  | 0 => 1
  | count + 1 => wrapLong (powerOf base count * base)

namespace Operation

/-- What an operator makes of two numbers.  Division goes toward zero. -/
def apply (operation : Operation) (left right : Int) : Except SumFault Int := match operation with
  | .times => .ok (wrapLong (left * right))
  | .divide => if right = 0 then .error .divisionByZero else .ok (wrapLong (left.tdiv right))
  | .remainder => if right = 0 then .error .divisionByZero else .ok (left.tmod right)
  | .plus => .ok (wrapLong (left + right))
  | .minus => .ok (wrapLong (left - right))
  | .shiftLeft => .ok (wrapLong (left * Nat.pow 2 (bitsOf right % 64)))
  | .shiftRight => .ok (left / Nat.pow 2 (bitsOf right % 64))
  | .less => .ok (ofBool (left < right))
  | .lessEqual => .ok (ofBool (left <= right))
  | .greater => .ok (ofBool (right < left))
  | .greaterEqual => .ok (ofBool (right <= left))
  | .equal => .ok (ofBool (left = right))
  | .different => .ok (ofBool (left ≠ right))
  | .bitAnd => .ok (ofBits (bitsOf left &&& bitsOf right))
  | .bitXor => .ok (ofBits (bitsOf left ^^^ bitsOf right))
  | .bitOr => .ok (ofBits (bitsOf left ||| bitsOf right))
  | .power =>
    if right < 0 then .error .negativePower else .ok (powerOf left (min right.toNat 100000))

end Operation

namespace Sign

def apply (sign : Sign) (value : Int) : Int := match sign with
  | .plus => value
  | .minus => wrapLong (-value)
  | .not => ofBool (value = 0)
  | .complement => -value - 1

end Sign

section

variable {m : Type -> Type} [Monad m] (cells : Cells m)

mutual

def Sum.value : Sum -> ExceptT SumError m Int
  | .number value => return value
  | .variable place => do
    let (name, index) <- place.position
    cells.read name index
  | .signed sign operand => return sign.apply (<- operand.value)
  | .binary operation left right => do
    let left <- left.value
    let right <- right.value
    match operation.apply left right with
    | .ok value => return value
    | .error fault => throw ⟨fault, (toString right).toList⟩
  | .both left right => do
    if (<- left.value) = 0 then return 0 else return ofBool ((<- right.value) ≠ 0)
  | .either left right => do
    if (<- left.value) ≠ 0 then return 1 else return ofBool ((<- right.value) ≠ 0)
  | .choose test first second => do
    if (<- test.value) ≠ 0 then first.value else second.value
  | .assign place operation value => do
    let new <- value.value
    let (name, index) <- place.position
    let new <-
      match operation with
      | none => pure new
      | some operation => match operation.apply (<- cells.read name index) new with
        | .ok value => pure value
        | .error fault => throw ⟨fault, (toString new).toList⟩
    cells.write name index new
    return new
  | .step place amount old => do
    let (name, index) <- place.position
    let before <- cells.read name index
    let after := wrapLong (before + amount)
    cells.write name index after
    return if old then before else after
  | .sequence first second => do
    discard first.value
    second.value

def SumPlace.position : SumPlace -> ExceptT SumError m (String × Option Int)
  | .name name => return (name, none)
  | .element name index => return (name, some (<- index.value))

end

end

/-!
## Reading sums

A sum is cut into numbers, names and operators, and these are put together by the strength of the
operators: the strongest come first.  The extended shell knows a few more operators, and numbers
with a base.

Each token knows the text from it on, which a complaint may show.
-/

namespace Sum

inductive TokenKind where
  | number (value : Int)
  | name (name : String)
  | sign (text : String)
  | badNumber (digits : String)
  | bad

structure Token where
  kind : TokenKind
  near : Chars

def signs : List String :=
  wordsIn "<<= >>= << >> <= >= == != && || *= /= %= += -= &= ^= |= * / % + - < > = ! ~ & ^ | ? : (
  )"

def extendedSigns : List String := ["**", "++", "--", ",", "[", "]"]

def greatest : Int := 9223372036854775807

def plainNumber (text : Chars) : Int × Chars :=
  let (base, digits, rest) : Nat × Chars × Chars := match text with
    | '0' :: x :: more =>
      let digits := more.takeWhile isHexDigit
      if (x = 'x' || x = 'X') && !digits.isEmpty then (16, digits, more.drop digits.length)
      else (8, text.takeWhile isOctalDigit, text.dropWhile isOctalDigit)
    | _ => (10, text.takeWhile isDigit, text.dropWhile isDigit)
  (min (valueInBase base digits : Int) greatest, rest)

def digitIn (base : Nat) (c : Char) : Option Nat :=
  let value? : Option Nat :=
    if isDigit c then some (digitValue c)
    else if 'a' <= c && c <= 'z' then some (c.toNat - 'a'.toNat + 10)
    else if 'A' <= c && c <= 'Z' then some (c.toNat - 'A'.toNat + (if base <= 36 then 10 else 36))
    else if c = '@' then some 62
    else if c = '_' then some 63
    else none
  value?.bind (fun value => if value < base then some value else none)

def valueIn? (base : Nat) (digits : Chars) : Option Int :=
  (digits.mapM (digitIn base)).map fun values =>
    wrapLong (values.foldl (fun sum value => sum * base + value) 0 : Nat)

def extendedNumber (text : Chars) : TokenKind × Chars :=
  let isPart (c : Char) : Bool := isNameChar c || c = '#' || c = '@'
  let part := text.takeWhile isPart
  let number (value : Option Int) : TokenKind := match value with
    | some value => .number value
    | none => .badNumber (.ofList part)
  let kind := match part.dropWhile (· != '#') with
    | _ :: digits =>
      let base := valueOf (part.takeWhile (· != '#'))
      if base < 2 || 64 < base then .badNumber (.ofList part) else number (valueIn? base digits)
    | [] => match part with
      | '0' :: x :: digits =>
        if x = 'x' || x = 'X' then number (valueIn? 16 digits) else number (valueIn? 8 part)
      | _ => number (valueIn? 10 part)
  (kind, text.drop part.length)

def nextToken (kind : ShellKind) (c : Char) (rest : Chars) : TokenKind × Chars :=
  let text := c :: rest
  if isDigit c then
    match kind with
    | .extended => extendedNumber text
    | .plain =>
      let (value, rest) := plainNumber text
      (.number value, rest)
  else if isNameStart c then
    (.name (.ofList (text.takeWhile isNameChar)), text.dropWhile isNameChar)
  else
    let known := if kind = .extended then extendedSigns ++ signs else signs
    match known.find? (·.toList.isPrefixOf text) with
    | some sign => (.sign sign, text.drop sign.length)
    | none => (.bad, rest)

def tokens (kind : ShellKind) : Nat -> Chars -> List Token
  | 0, _ => []
  | _, [] => []
  | limit + 1, c :: rest =>
    if c = ' ' || c = '\t' || c = '\n' then tokens kind limit rest
    else
      let (token, others) := nextToken kind c rest
      ⟨token, c :: rest⟩ :: tokens kind limit others

structure Reader where
  rest : List Token
  last : Option Token := none

abbrev SumReading := StateT Reader (Except SumError)

def fail (fault : SumFault) (token : Option Token) : SumReading α :=
  throw ⟨fault, (token.map Token.near).getD []⟩

def peek : SumReading (Option Token) := return (<- get).rest.head?

def advance : SumReading Unit := modify (fun reader => ⟨reader.rest.tail, reader.rest.head?⟩)

def acceptSign (text : String) : SumReading Bool := do
  match <- peek with
  | some ⟨.sign found, _⟩ =>
    if found = text then
      advance
      return true
    else return false
  | _ => return false

def missingOperand : SumReading α := do
  let reader <- get
  let some token := reader.rest.head? | fail .expectedOperand reader.last
  match token.kind with
  | .badNumber digits => fail (.tooGreatForBase digits) (some token)
  | _ => fail .expectedOperand (some token)

def levels : List (List (String × Operation)) :=
  [[("|", .bitOr)], [("^", .bitXor)], [("&", .bitAnd)], [("==", .equal), ("!=", .different)],
    [("<", .less), ("<=", .lessEqual), (">", .greater), (">=", .greaterEqual)],
    [("<<", .shiftLeft), (">>", .shiftRight)], [("+", .plus), ("-", .minus)],
    [("*", .times), ("/", .divide), ("%", .remainder)]]

def assigning : List (String × Option Operation) :=
  [("=", none), ("*=", some .times), ("/=", some .divide), ("%=", some .remainder),
    ("+=", some .plus), ("-=", some .minus), ("<<=", some .shiftLeft), (">>=", some .shiftRight),
    ("&=", some .bitAnd), ("^=", some .bitXor), ("|=", some .bitOr)]

def signIn? (entries : List (String × α)) : SumReading (Option α) := do
  match <- peek with
  | some ⟨.sign text, _⟩ => return entries.lookup text
  | _ => return none

def frontSigns : List (String × Sign) :=
  [("+", .plus), ("-", .minus), ("!", .not), ("~", .complement)]

def assignment? : SumReading (Option (String × Option Operation)) := do
  match (<- get).rest with
  | ⟨.name name, _⟩ :: ⟨.sign text, _⟩ :: _ => match assigning.lookup text with
    | some operation =>
      advance
      advance
      return some (name, operation)
    | none => return none
  | _ => return none

section

variable (kind : ShellKind)

mutual

def readSequence : Nat -> SumReading Sum
  | 0 => fail .tooDeep none
  | limit + 1 => do
    let first <- readAssignment limit
    if <- acceptSign "," then return .sequence first (<- readSequence limit) else return first

def readAssignment : Nat -> SumReading Sum
  | 0 => fail .tooDeep none
  | limit + 1 => do
    match <- assignment? with
    | some (name, operation) => return .assign (.name name) operation (<- readAssignment limit)
    | none =>
      let value <- readConditional limit
      match value, kind with
      | .variable place, .extended => match <- signIn? assigning with
        | some operation =>
          advance
          return .assign place operation (<- readAssignment limit)
        | none => return value
      | value, .extended => match <- signIn? assigning with
        | some _ => fail .assignmentToValue (<- peek)
        | none => return value
      | value, .plain => return value

def readConditional : Nat -> SumReading Sum
  | 0 => fail .tooDeep none
  | limit + 1 => do
    let test <- readEither limit
    if <- acceptSign "?" then
      let first <- readAssignment limit
      if <- acceptSign ":" then return .choose test first (<- readConditional limit)
      else fail .expectedColon (<- get).last
    else return test

def readEither : Nat -> SumReading Sum
  | 0 => fail .tooDeep none
  | limit + 1 => do
    let left <- readBoth limit
    if <- acceptSign "||" then return .either left (<- readEither limit) else return left

def readBoth : Nat -> SumReading Sum
  | 0 => fail .tooDeep none
  | limit + 1 => do
    let left <- readLevel limit levels
    if <- acceptSign "&&" then return .both left (<- readBoth limit) else return left

def readLevel : Nat -> List (List (String × Operation)) -> SumReading Sum
  | 0, _ => fail .tooDeep none
  | limit + 1, [] => readPower limit
  | limit + 1, operations :: stronger => do
    readOperands limit operations stronger (<- readLevel limit stronger)

def readOperands : Nat -> List (String × Operation) -> List (List (String × Operation)) ->
    Sum -> SumReading Sum
  | 0, _, _, left => return left
  | limit + 1, operations, stronger, left => do
    let some operation <- signIn? operations | return left
    advance
    readOperands limit operations stronger (.binary operation left (<- readLevel limit stronger))

def readPower : Nat -> SumReading Sum
  | 0 => fail .tooDeep none
  | limit + 1 => do
    let base <- readSigned limit
    if <- acceptSign "**" then return .binary .power base (<- readPower limit) else return base

def readSigned : Nat -> SumReading Sum
  | 0 => fail .tooDeep none
  | limit + 1 => do
    match <- signIn? frontSigns with
    | some sign =>
      advance
      return .signed sign (<- readSigned limit)
    | none => match <- signIn? [("++", (1 : Int)), ("--", -1)] with
      | some amount =>
        advance
        match <- readValue limit with
        | .variable place => return .step place amount false
        | value =>
          let sign : Sign := if amount = 1 then .plus else .minus
          return .signed sign (.signed sign value)
      | none => match <- readValue limit with
        | .variable place => match <- signIn? [("++", (1 : Int)), ("--", -1)] with
          | some amount =>
            advance
            return .step place amount true
          | none => return .variable place
        | value => return value

def readValue : Nat -> SumReading Sum
  | 0 => fail .tooDeep none
  | limit + 1 => do
    match <- peek with
    | some ⟨.number value, _⟩ =>
      advance
      return .number value
    | some ⟨.name name, _⟩ =>
      advance
      if <- acceptSign "[" then
        let index <- readSequence limit
        if <- acceptSign "]" then return .variable (.element name index)
        else fail .expectedOperand (<- get).last
      else return .variable (.name name)
    | some ⟨.sign "(", _⟩ =>
      advance
      let inside <- if kind = .extended then readSequence limit else readAssignment limit
      if <- acceptSign ")" then return inside else fail .expectedClosing (<- get).last
    | _ => missingOperand

end

end

def parse (kind : ShellKind) (text : Chars) : Except SumError Sum := do
  let found := tokens kind (text.length + 1) text
  if found.isEmpty && kind = .extended then return .number 0
  else
    let (sum, reader) <- (readSequence kind (20 * found.length + 40)).run ⟨found, none⟩
    match reader.rest with
    | [] => return sum
    | token :: _ => match token.kind with
      | .bad => throw ⟨.badOperator, token.near⟩
      | _ => throw ⟨.expectedEnd, token.near⟩

end Sum

/-!
## Sums in a shell

In a shell, a variable of a sum is a variable of the shell.  The plain shell takes its text for a
number.  The extended one takes it for a sum again, to some depth.
-/

namespace Sum

/-- What surrounds the numbers that are the values of variables. -/
def trimSpace (text : Chars) : Chars := ((text.dropWhile isSpace).reverse.dropWhile isSpace).reverse

def numberOf? (octets : String) : Option Int :=
  let (negative, digits) : Bool × Chars := match trimSpace octets.toList with
    | '-' :: rest => (true, rest)
    | '+' :: rest => (false, rest)
    | text => (false, text)
  match digits with
  | [] => if (trimSpace octets.toList).isEmpty then some 0 else none
  | c :: _ =>
    if !isDigit c then none
    else match plainNumber digits with
      | (value, []) => some (if negative then -value else value)
      | _ => none

def withElement (old : Option Value) (index : Nat) (octets : String) : Value := match old with
  | some (.table entries) => .table (Value.insertEntry (.ofList (decimal index)) octets entries)
  | some value => .row (Value.insertElement index octets value.elements)
  | none => .row [(index, octets)]

def elementIndex (old : Option Value) (index : Int) : Nat :=
  let count := ((old.map Value.elements).getD []).getLast?.elim 0 (·.1 + 1)
  if index < 0 then (count + index).toNat else index.toNat

def textAt? (value : Option Value) (index : Option Int) : Option String := do
  let value <- value
  match index, value with
  | none, value => value.first?
  | some index, .table entries => entries.lookup (.ofList (signedDecimal index))
  | some index, value => value.elements.lookup (elementIndex (some value) index)

def shellCells (kind : ShellKind) : Nat -> Cells Act
  | 0 => {
      read := fun name _ => throw ⟨.tooDeep, name.toList⟩
      write := fun name _ _ => throw ⟨.tooDeep, name.toList⟩ }
  | depth + 1 => {
      read := fun name index => do
        let octets := (textAt? (<- currentValue name) index).getD ""
        match kind with
        | .plain => match numberOf? octets with
          | some value => return wrapLong value
          | none => throw ⟨.noNumber octets, []⟩
        | .extended => match parse kind octets.toList with
          | .ok sum => sum.value (shellCells kind depth)
          | .error error => throw error
      write := fun name index value => do
        let old <- variableOf name
        if old.fixed then throw ⟨.fixed name, []⟩
        else
          let octets := .ofList (signedDecimal value)
          match index with
          | none => storeValue name (withFirst old.value octets)
          | some index =>
            storeValue name (withElement old.value (elementIndex old.value index) octets) }

def deepest : Nat := 1000

def SumFault.plainWording (fault : SumFault) (text : Chars) : String :=
  let wrong (what : String) : String := s!"arithmetic expression: {what}: \"{String.ofList text}\""
  match fault with
  | .expectedOperand => wrong "expecting primary"
  | .expectedColon => wrong "expecting ':'"
  | .expectedClosing => wrong "expecting ')'"
  | .divisionByZero => wrong "division by zero"
  | .noNumber octets => s!"Illegal number: {octets}"
  | .fixed name => s!"{name}: is read only"
  | _ => wrong "expecting EOF"

def SumError.extendedWording (error : SumError) (text : Chars) : String :=
  let near := String.ofList error.near
  let wrong (what : String) : String :=
    s!"{String.ofList (text.dropWhile Text.isSpace)}: {what} (error token is \"{near}\")"
  match error.fault with
  | .expectedOperand => wrong "syntax error: operand expected"
  | .expectedColon => wrong "\x60:' expected for conditional expression"
  | .expectedClosing => wrong "missing \x60)'"
  | .divisionByZero => wrong "division by 0"
  | .negativePower => wrong "exponent less than 0"
  | .badOperator => wrong "syntax error: invalid arithmetic operator"
  | .assignmentToValue => wrong "attempted assignment to non-variable"
  | .tooGreatForBase digits => s!"{digits}: value too great for base (error token is \"{digits}\")"
  | .tooDeep => wrong "expression recursion level exceeded"
  | .fixed name => s!"{name}: readonly variable"
  | _ => wrong "syntax error in expression"

def evaluate (text : Chars) : Act (Except String Int) := do
  let kind := (<- settings).kind
  let outcome <-
    match parse kind text with
    | .ok sum => (sum.value (shellCells kind deepest)).run
    | .error error => pure (.error error)
  match outcome with
  | .ok value => return .ok value
  | .error error => match kind with
    | .plain => return .error (SumFault.plainWording error.fault text)
    | .extended => return .error (SumError.extendedWording error text)

end Sum

def sumOf (text : Chars) : Work Int := do
  match <- Sum.evaluate text with
  | .ok value => return value
  | .error message => shellFault message

end BaseLanguage.Shell
