import BaseLanguage.Shell.Utility.Options
import BaseLanguage.Text.Regex.Reader

namespace BaseLanguage.Shell

open Text

/-!
# Expressions in arguments

`expr` reads its arguments as an expression: each argument is a word of it.  Values are texts, which
may be integers.  What is not needed is read, but not computed.
-/

inductive ExpressionFault where
  | missingArgument (before : String)
  | unexpectedArgument (word : String)
  | closingExpected (found : Option String) (before : String)
  | noInteger
  | noDivisor
  | badPattern (fault : RegexFault)

def ExpressionFault.message : ExpressionFault -> String
  | .missingArgument before => s!"syntax error: missing argument after {plainlyQuoted before}"
  | .unexpectedArgument ")" => "syntax error: unexpected ')'"
  | .unexpectedArgument word => s!"syntax error: unexpected argument {plainlyQuoted word}"
  | .closingExpected (some found) _ =>
    s!"syntax error: expecting ')' instead of {plainlyQuoted found}"
  | .closingExpected none before => s!"syntax error: expecting ')' after {plainlyQuoted before}"
  | .noInteger => "non-integer argument"
  | .noDivisor => "division by zero"
  | .badPattern fault => fault.message

structure ExpressionSource where
  rest : List String
  before : String := ""

abbrev ExpressionReading := StateT ExpressionSource (Except ExpressionFault)

namespace Expression

def integer? (text : String) : Option Int :=
  let (negative, digits) : Bool × Chars := match text.toList with
    | '-' :: rest => (true, rest)
    | rest => (false, rest)
  if digits.isEmpty || !digits.all isDigit then none
  else some (if negative then -(valueOf digits : Int) else valueOf digits)

def integer (text : String) : ExpressionReading Int := match integer? text with
  | some value => return value
  | none => throw .noInteger

def ofInteger (value : Int) : String := .ofList (signedDecimal value)

def isNull (text : String) : Bool :=
  let digits := match text.toList with
    | '-' :: rest => rest
    | rest => rest
  text.isEmpty || (!digits.isEmpty && digits.all (· == '0'))

def next : ExpressionReading String := do
  let source <- get
  match source.rest with
  | [] => throw (.missingArgument source.before)
  | word :: rest =>
    set { source with rest, before := word }
    return word

def acceptOneOf (words : List String) : ExpressionReading (Option String) := do
  match (<- get).rest with
  | word :: _ => if words.contains word then return some (<- next) else return none
  | [] => return none

def matchFront (text pattern : String) : ExpressionReading String := do
  match Regex.parse { extended := false } pattern.toList with
  | .error fault => throw (.badPattern fault)
  | .ok (regex, groups) =>
    let subject : Subject := { text := text.toList.toArray }
    match regex.matchAt? subject 0 with
    | some found =>
      if 0 < groups then return .ofList ((found.group? subject 1).getD [])
      else return ofInteger (found.ending - found.start)
    | none => return if 0 < groups then "" else "0"

def compare (operator left right : String) : Bool :=
  let ordering := match integer? left, integer? right with
    | some first, some second => Ord.compare first second
    | _, _ => Ord.compare left right
  match operator with
  | "<" => ordering == .lt
  | "<=" => ordering != .gt
  | "=" => ordering == .eq
  | "==" => ordering == .eq
  | "!=" => ordering != .eq
  | ">=" => ordering != .lt
  | _ => ordering == .gt

def part (text place length : String) : String := match integer? place, integer? length with
  | some place, some length =>
    if place <= 0 || length <= 0 then ""
    else .ofList ((text.toList.drop (place - 1).toNat).take length.toNat)
  | _, _ => ""

def place (text chars : String) : Nat := match text.toList.findIdx? chars.toList.contains with
  | some index => index + 1
  | none => 0

mutual

def single (needed : Bool) : Nat -> ExpressionReading String
  | 0 => throw .noInteger
  | limit + 1 => do
    let word <- next
    if word = "(" then
      let value <- anyOf needed limit
      let source <- get
      match source.rest with
      | ")" :: _ =>
        discard next
        return value
      | found => throw (.closingExpected found.head? source.before)
    else if word = ")" then throw (.unexpectedArgument ")")
    else return word

def function (needed : Bool) : Nat -> ExpressionReading String
  | 0 => throw .noInteger
  | limit + 1 => do
    match <- acceptOneOf ["+", "length", "match", "index", "substr"] with
    | some "+" => next
    | some "length" => do return ofInteger (<- function needed limit).length
    | some "match" => do
      let text <- function needed limit
      let pattern <- function needed limit
      if needed then matchFront text pattern else return ""
    | some "index" => do
      return ofInteger (place (<- function needed limit) (<- function needed limit))
    | some "substr" => do
      return part (<- function needed limit) (<- function needed limit) (<- function needed limit)
    | _ => single needed limit

def behind (needed : Bool) (level : Nat) : Nat -> String -> ExpressionReading String
  | 0, _ => throw .noInteger
  | limit + 1, left => do
    match level with
    | 4 => match <- acceptOneOf [":"] with
      | none => return left
      | some _ => do
        let right <- function needed limit
        behind needed level limit (<- if needed then matchFront left right else pure left)
    | 3 => match <- acceptOneOf ["*", "/", "%"] with
      | none => return left
      | some operator => do
        let right <- operands needed 4 limit
        if !needed then behind needed level limit left
        else
          let first <- integer left
          let second <- integer right
          if operator != "*" && second = 0 then throw .noDivisor
          let value :=
            if operator = "*" then first * second
            else if operator = "/" then Int.tdiv first second
            else Int.tmod first second
          behind needed level limit (ofInteger value)
    | 2 => match <- acceptOneOf ["+", "-"] with
      | none => return left
      | some operator => do
        let right <- operands needed 3 limit
        if !needed then behind needed level limit left
        else
          let first <- integer left
          let second <- integer right
          let value := if operator = "+" then first + second else first - second
          behind needed level limit (ofInteger value)
    | 1 => match <- acceptOneOf ["<", "<=", "=", "==", "!=", ">=", ">"] with
      | none => return left
      | some operator => do
        let right <- operands needed 2 limit
        behind needed level limit (if compare operator left right then "1" else "0")
    | _ => match <- acceptOneOf ["&"] with
      | none => return left
      | some _ => do
        let right <- operands (needed && !isNull left) 1 limit
        behind needed level limit (if isNull left || isNull right then "0" else left)

def operands (needed : Bool) (level : Nat) : Nat -> ExpressionReading String
  | 0 => throw .noInteger
  | limit + 1 => do
    let first <- if level = 4 then function needed limit else operands needed (level + 1) limit
    behind needed level limit first

def alternatives (needed : Bool) : Nat -> String -> ExpressionReading String
  | 0, _ => throw .noInteger
  | limit + 1, left => do
    match <- acceptOneOf ["|"] with
    | none => return left
    | some _ => do
      let right <- operands (needed && isNull left) 0 limit
      let value := if !isNull left then left else if isNull right then "0" else right
      alternatives needed limit value

def anyOf (needed : Bool) : Nat -> ExpressionReading String
  | 0 => throw .noInteger
  | limit + 1 => do alternatives needed limit (<- operands needed 0 limit)

end

def evaluate (words : List String) : Except ExpressionFault String := do
  let (value, source) <- (anyOf true (16 * words.length + 32)).run { rest := words }
  match source.rest with
  | [] => return value
  | word :: _ => throw (.unexpectedArgument word)

end Expression

def expr : Utility := fun program arguments => do
  let words := match arguments with
    | "--" :: rest => rest
    | arguments => arguments
  if words.isEmpty then complainOfCall program "missing operand" misuse
  else match Expression.evaluate words with
    | .error fault => complainWith misuse program fault.message
    | .ok value =>
      discard <| answerLines program [value]
      return statusOf (!Expression.isNull value)

end BaseLanguage.Shell
