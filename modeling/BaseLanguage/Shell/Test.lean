import BaseLanguage.Shell.Installed

namespace BaseLanguage.Shell

open Text

/-!
# Tests

A test says something of texts, of numbers or of files.  Which arguments are operators depends on
their number and places.  The plain shell reads a test from the front and takes for an operator what
may be one; the other programs decide by the number of arguments first.
-/

inductive TestFault where
  | unexpectedOperator (text : String)
  | argumentExpected (text : String)
  | closingExpected
  | noNumber (text : String)
  | unaryExpected (text : String)
  | binaryExpected (text : String)
  | behind (text : String)
  | excess (text : String)

inductive Tester where
  | plainShell
  | extendedShell
  | program
  deriving DecidableEq

variable (tester : Tester)

def TestFault.message (fault : TestFault) : String := match tester, fault with
  | _, .unexpectedOperator text => s!"{text}: unexpected operator"
  | _, .argumentExpected text => s!"{text}: argument expected"
  | .plainShell, .closingExpected => "closing paren expected"
  | .extendedShell, .closingExpected => "\x60)' expected"
  | .program, .closingExpected => "')' expected"
  | .plainShell, .noNumber text => s!"Illegal number: {text}"
  | .extendedShell, .noNumber text => s!"{text}: integer expression expected"
  | .program, .noNumber text => s!"invalid integer '{text}'"
  | .program, .unaryExpected text => s!"'{text}': unary operator expected"
  | _, .unaryExpected text => s!"{text}: unary operator expected"
  | .program, .binaryExpected text => s!"'{text}': binary operator expected"
  | _, .binaryExpected text => s!"{text}: binary operator expected"
  | .program, .behind text => s!"missing argument after '{text}'"
  | _, .behind _ => "argument expected"
  | .program, .excess text => s!"extra argument '{text}'"
  | _, .excess _ => "too many arguments"

def unaryOperators : List String :=
  wordsIn "-r -w -x -e -f -d -c -b -p -u -g -k -s -t -z -n -h -L -O -G -S"

def binaryOperators : List String := wordsIn "= != < > -eq -ne -gt -ge -lt -le -nt -ot -ef"

def unaryOperatorsOf : List String := match tester with
  | .plainShell => unaryOperators
  | .extendedShell => unaryOperators ++ ["-a", "-o", "-v", "-N", "-R"]
  | .program => unaryOperators ++ ["-N"]

def binaryOperatorsOf : List String := match tester with
  | .plainShell => binaryOperators
  | _ => "==" :: binaryOperators

def entryTest (operator : String) (entry : FileEntry) : Bool :=
  let isFolder := entry.node = .folder
  let hasBits (bits : Nat) : Bool := entry.permissions &&& bits ≠ 0
  match operator with
  | "-f" => match entry.node with
    | .file _ => true
    | _ => false
  | "-d" => isFolder
  | "-s" => match entry.node with
    | .file content => !content.isEmpty
    | .folder => true
    | _ => false
  | "-x" => isFolder || hasBits 0o111
  | "-c" => match entry.node with
    | .device _ => true
    | _ => false
  | "-p" => match entry.node with
    | .queue _ => true
    | _ => false
  | "-u" => hasBits 0o4000
  | "-g" => hasBits 0o2000
  | "-k" => hasBits 0o1000
  | operator => ["-a", "-e", "-r", "-w", "-O", "-G", "-N"].contains operator

def unaryTest (session : Session) (operator operand : String) : Bool := match operator with
  | "-n" => !operand.isEmpty
  | "-z" => operand.isEmpty
  | "-v" => (session.settings.bindings.find? operand).any (·.value.isSome)
  | "-o" => session.settings.options.contains operand
  | "-t" => false
  | operator =>
    if operator = "-h" || operator = "-L" then
      match session.files.findName (pathOf operand) with
      | .ok ⟨.link _, _, _⟩ => true
      | _ => false
    else match session.files.find (pathOf operand), namedStream? session.files operand with
      | .ok entry, _ => entryTest operator entry
      | .error _, some number => match session.stream? number with
        | none => false
        | some (.opened opening) =>
          match (session.opened[opening]?).bind (session.files.node? ·.node) with
          | some entry => entryTest operator entry
          | none => false
        | some (.device device) => entryTest operator ⟨.device device, ⟨0, 0⟩, 0o666⟩
        | some _ => entryTest operator ⟨.queue 0, ⟨0, 0⟩, 0o600⟩
      | .error _, none => false

def testInteger (text : String) : Except TestFault Int :=
  let inside := text.toList.dropWhile isSpace
  let (negative, unsigned) : Bool × Chars := match inside with
    | '-' :: rest => (true, rest)
    | '+' :: rest => (false, rest)
    | _ => (false, inside)
  let digits := unsigned.takeWhile isDigit
  let behind := (unsigned.drop digits.length).dropWhile isSpace
  let size : Int := valueOf digits
  let value := if negative then -size else size
  let fits := -9223372036854775808 <= value && value <= 9223372036854775807
  if digits.isEmpty || !behind.isEmpty || (tester ≠ .program && !fits) then .error (.noNumber text)
  else .ok value

/-- Whether the change of what one name leads to lies behind that of another, or the other leads
nowhere. -/
def isNewer (session : Session) (first second : String) : Bool :=
  match session.files.modified (pathOf first), session.files.modified (pathOf second) with
  | .ok left, .ok right => right.before left
  | .ok _, .error _ => true
  | _, _ => false

def binaryTest (session : Session) (tester : Tester) (first operator second : String) :
    Except TestFault Bool := do
  let compare (holds : Int -> Int -> Bool) : Except TestFault Bool := do
    return holds (<- testInteger tester first) (<- testInteger tester second)
  match operator with
  | "=" | "==" => return first == second
  | "!=" => return first != second
  | "<" => return first < second
  | ">" => return second < first
  | "-eq" => compare (fun a b => a == b)
  | "-ne" => compare (fun a b => a != b)
  | "-lt" => compare (fun a b => decide (a < b))
  | "-le" => compare (fun a b => decide (a <= b))
  | "-gt" => compare (fun a b => decide (b < a))
  | "-ge" => compare (fun a b => decide (b <= a))
  | "-nt" => return isNewer session first second
  | "-ot" => return isNewer session second first
  | "-ef" => return session.isSame first second && session.files.exists? (pathOf first)
  | _ => throw (.binaryExpected operator)

/-! ## Tests of the plain shell -/

inductive TestToken where
  | ending
  | unary (operator : String)
  | binary (operator : String)
  | not
  | both
  | either
  | opening
  | closing
  | operand
  deriving DecidableEq

def testOperator? (text : String) : Option TestToken := match text with
  | "!" => some .not
  | "-a" => some .both
  | "-o" => some .either
  | "(" => some .opening
  | ")" => some .closing
  | _ =>
    if unaryOperators.contains text then some (.unary text)
    else if binaryOperators.contains text then some (.binary text)
    else none

def isOperand : List String -> Bool
  | [] => true
  | [_] => false
  | second :: _ => match testOperator? second with
    | some (.binary _) => true
    | _ => false

def testToken : List String -> TestToken
  | [] => .ending
  | text :: rest => match testOperator? text with
    | some (.unary operator) => if isOperand rest then .operand else .unary operator
    | some .opening => if rest.isEmpty then .operand else .opening
    | some token => token
    | none => .operand

section

variable (session : Session)

mutual

def anyTest : Nat -> TestToken -> List String -> Except TestFault (Bool × List String)
  | 0, _, arguments => .ok (false, arguments)
  | limit + 1, token, arguments => do
    let (first, rest) <- allTest limit token arguments
    if testToken (rest.drop 1) = .either then
      let behind := rest.drop 2
      let (others, rest) <- anyTest limit (testToken behind) behind
      return (first || others, rest)
    else return (first, rest)

def allTest : Nat -> TestToken -> List String -> Except TestFault (Bool × List String)
  | 0, _, arguments => .ok (false, arguments)
  | limit + 1, token, arguments => do
    let (first, rest) <- oppositeTest limit token arguments
    if testToken (rest.drop 1) = .both then
      let behind := rest.drop 2
      let (others, rest) <- allTest limit (testToken behind) behind
      return (first && others, rest)
    else return (first, rest)

def oppositeTest : Nat -> TestToken -> List String -> Except TestFault (Bool × List String)
  | 0, _, arguments => .ok (false, arguments)
  | limit + 1, .not, arguments => do
    let next := testToken (arguments.drop 1)
    let rest := if next = .ending then arguments else arguments.drop 1
    let (holds, rest) <- oppositeTest limit next rest
    return (!holds, rest)
  | limit + 1, token, arguments => singleTest limit token arguments

def singleTest : Nat -> TestToken -> List String -> Except TestFault (Bool × List String)
  | 0, _, arguments => .ok (false, arguments)
  | limit + 1, token, arguments => do
    match token with
    | .ending => return (false, arguments)
    | .opening =>
      let inside := arguments.drop 1
      let next := testToken inside
      if next = .closing then return (false, inside)
      else
        let (holds, rest) <- anyTest limit next inside
        let rest := rest.drop 1
        if testToken rest = .closing then return (holds, rest) else throw .closingExpected
    | .unary operator => match arguments.drop 1 with
      | [] => throw (.argumentExpected operator)
      | operand :: rest => return (unaryTest session operator operand, operand :: rest)
    | _ => match arguments with
      | [] => return (false, [])
      | first :: rest => match testToken rest, rest with
        | .binary operator, _ :: second :: behind =>
          return (<- binaryTest session .plainShell first operator second, second :: behind)
        | .binary operator, _ => throw (.argumentExpected operator)
        | _, _ => return (!first.isEmpty, first :: rest)

end

def plainTest : Nat -> List String -> Except TestFault Bool
  | 0, _ => .ok false
  | _, [] => .ok false
  | limit + 1, arguments => do
    let isBinary : Bool := match arguments with
      | [_, operator, _] => binaryOperators.contains operator
      | _ => false
    let count := arguments.length
    let guarded := !isBinary && (count = 3 || count = 4)
    let general (token : TestToken) (arguments : List String) : Except TestFault Bool := do
      let (holds, rest) <- anyTest session (8 * arguments.length + 8) token arguments
      match rest with
      | first :: _ :: _ => throw (.unexpectedOperator first)
      | _ => return holds
    if guarded && arguments.head? == some "(" && arguments.getLast? == some ")" then
      let inside := (arguments.drop 1).dropLast
      general (testToken inside) inside
    else if guarded && arguments.head? == some "!" then
      return !(<- plainTest limit (arguments.drop 1))
    else general (if isBinary then .operand else testToken arguments) arguments

/-! ## Tests by the number of arguments -/

variable (tester : Tester)

def testOfTwo (first second : String) : Except TestFault Bool :=
  if first = "!" then .ok second.isEmpty
  else if (unaryOperatorsOf tester).contains first then .ok (unaryTest session first second)
  else if tester = .program && !(first.startsWith "-" && first.length = 2) then
    .error (.behind second)
  else .error (.unaryExpected first)

def testOfThree (first operator second : String) : Except TestFault Bool := do
  if (binaryOperatorsOf tester).contains operator then
    binaryTest session tester first operator second
  else if operator = "-a" then return !first.isEmpty && !second.isEmpty
  else if operator = "-o" then return !first.isEmpty || !second.isEmpty
  else if first = "!" then return !(<- testOfTwo session tester operator second)
  else if first = "(" && second = ")" then return !operator.isEmpty
  else throw (.binaryExpected operator)

mutual

def testAny : Nat -> List String -> Except TestFault (Bool × List String)
  | 0, rest => .ok (false, rest)
  | limit + 1, arguments => do
    let (first, rest) <- testAll limit arguments
    match rest with
    | "-o" :: behind => do
      let (others, rest) <- testAny limit behind
      return (first || others, rest)
    | rest => return (first, rest)

def testAll : Nat -> List String -> Except TestFault (Bool × List String)
  | 0, rest => .ok (false, rest)
  | limit + 1, arguments => do
    let (first, rest) <- testOne limit arguments
    match rest with
    | "-a" :: behind => do
      let (others, rest) <- testAll limit behind
      return (first && others, rest)
    | rest => return (first, rest)

def testOne : Nat -> List String -> Except TestFault (Bool × List String)
  | 0, rest => .ok (false, rest)
  | limit + 1, arguments => do
    match arguments with
    | [] => throw (.behind "")
    | "!" :: rest => do
      let (holds, rest) <- testOne limit rest
      return (!holds, rest)
    | "(" :: rest => do
      let (holds, rest) <- testAny limit rest
      match rest with
      | ")" :: behind => return (holds, behind)
      | _ => throw .closingExpected
    | first :: operator :: second :: rest =>
      if (binaryOperatorsOf tester).contains operator then
        return (<- binaryTest session tester first operator second, rest)
      else if (unaryOperatorsOf tester).contains first then
        return (unaryTest session first operator, second :: rest)
      else return (!first.isEmpty, operator :: second :: rest)
    | [first, second] =>
      if (unaryOperatorsOf tester).contains first then return (unaryTest session first second, [])
      else return (!first.isEmpty, [second])
    | [first] => return (!first.isEmpty, [])

end

def countedTest (arguments : List String) : Except TestFault Bool := do
  let general : Except TestFault Bool := do
    let (holds, rest) <- testAny session tester (8 * arguments.length + 8) arguments
    match rest with
    | [] => return holds
    | first :: _ => throw (.excess first)
  match arguments with
  | [] => return false
  | [text] => return !text.isEmpty
  | [first, second] => testOfTwo session tester first second
  | [first, operator, second] => testOfThree session tester first operator second
  | [first, second, third, fourth] =>
    if first = "!" then return !(<- testOfThree session tester second third fourth)
    else if first = "(" && fourth = ")" then testOfTwo session tester second third
    else general
  | _ => general

end

def test (inBrackets : Bool) : Utility
  | program, arguments => do
    if inBrackets && arguments.getLast? != some "]" then
      complainWith misuse program
        (match tester with
        | .plainShell => "missing ]"
        | .extendedShell => "missing \x60]'"
        | .program => "missing ']'")
    else
      let arguments := if inBrackets then arguments.dropLast else arguments
      let session <- get
      let outcome := match tester with
        | .plainShell => plainTest session (arguments.length + 1) arguments
        | tester => countedTest session tester arguments
      match outcome with
      | .ok holds => return statusOf holds
      | .error fault => complainWith misuse program (fault.message tester)

end BaseLanguage.Shell
