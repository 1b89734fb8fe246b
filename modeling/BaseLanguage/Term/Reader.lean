import BaseLanguage.Term.Basic
import BaseLanguage.Text.CharClass

namespace BaseLanguage
namespace Term

/-!
# Reading a term from text

A term is read from a row of characters by recursive descent.  Each reader answers with what it
found and the characters that are left, or with a `Failure`: the cause and the characters that
were left when it arose.  The position of an error is then the number of bytes in front of
those.

Blanks may stand in front of every token.  One group of annotations in braces may follow a term;
its contents must be terms, and are dropped.  A constructor's parenthesis must follow it at once.

The readers of the grammar recurse on a bound.  `parse` gives more than any text of that length
can use, so that the bound is never met.
-/

namespace Reader

/-- Why a text is not a term. -/
inductive Cause where
  /-- A term was expected where this character stands. -/
  | unexpected (found : Char)
  /-- A term was expected where the text ends. -/
  | unexpectedEnd
  /-- Another character was expected; nothing was found where the text ends. -/
  | expected (wanted : Char) (found : Option Char)
  /-- Text follows the term. -/
  | expectedEnd (found : Char)
  /-- A backslash in front of a character that it does not escape. -/
  | unknownEscape (found : Char)
  /-- A backslash at the end of the text. -/
  | unterminatedEscape
  /-- A string that the text ends in. -/
  | unterminatedString
  /-- A numeral that is no long. -/
  | invalidInteger (text : List Char) (fault : Text.LongFault)
  deriving DecidableEq

namespace Cause

def message : Cause -> String
  | unexpected found => s!"unexpected character '{found}'"
  | unexpectedEnd => "unexpected end of input"
  | expected wanted (some found) => s!"expected '{wanted}', found '{found}'"
  | expected wanted none => s!"expected '{wanted}', found end of input"
  | expectedEnd found => s!"expected end of input, found '{found}'"
  | unknownEscape found => s!"unknown escape '\\{found}'"
  | unterminatedEscape => "unterminated escape"
  | unterminatedString => "unterminated string"
  | invalidInteger text fault => s!"invalid integer '{String.ofList text}': {fault.message}"

end Cause

/-- Where reading stopped, given by the characters left, and why. -/
structure Failure where
  left : List Char
  cause : Cause
  deriving DecidableEq

/-- The characters that begin a constructor. -/
def isNameStart (c : Char) : Bool :=
  ('a' ≤ c && c ≤ 'z') || ('A' ≤ c && c ≤ 'Z') || c == '_'

def isNameChar (c : Char) : Bool :=
  isNameStart c || Text.isDigit c || c == '-' || c == '\''

/-- Takes `wanted` after optional blanks. -/
def take (wanted : Char) (text : List Char) : Except Failure (List Char) :=
  match Text.skipBlank text with
  | [] => .error ⟨[], .expected wanted none⟩
  | c :: rest =>
    if c = wanted then .ok rest else .error ⟨c :: rest, .expected wanted (some c)⟩

/-- What follows `wanted`, if that is the next character after optional blanks. -/
def eat? (wanted : Char) (text : List Char) : Option (List Char) :=
  match Text.skipBlank text with
  | [] => none
  | c :: rest => if c = wanted then some rest else none

/-- The character that a backslash and `c` stand for. -/
def unescape? (c : Char) : Option Char :=
  if c = 'n' then some '\n'
  else if c = 't' then some '\t'
  else if c = 'r' then some '\r'
  else if c = '"' || c = '\\' || c = '\'' then some c
  else none

/-- Reads the rest of a string up to its closing quote, with the characters in front of it in
reverse. -/
def stringFrom (front : List Char) : List Char -> Except Failure (List Char × List Char)
  | [] => .error ⟨[], .unterminatedString⟩
  | '"' :: rest => .ok (front.reverse, rest)
  | ['\\'] => .error ⟨[], .unterminatedEscape⟩
  | '\\' :: c :: rest =>
    match unescape? c with
    | some d => stringFrom (d :: front) rest
    | none => .error ⟨rest, .unknownEscape c⟩
  | c :: rest => stringFrom (c :: front) rest

/-- The sign and the digits at the front of a text, and what follows them. -/
def numeral (text : List Char) : Bool × List Char × List Char :=
  match text with
  | '-' :: rest => (true, rest.takeWhile Text.isDigit, rest.dropWhile Text.isDigit)
  | _ => (false, text.takeWhile Text.isDigit, text.dropWhile Text.isDigit)

/-- Reads an integer.  An error is located where the integer starts. -/
def integer (text : List Char) : Except Failure (Term × List Char) :=
  match numeral text with
  | (negative, digits, rest) =>
    match Text.long? negative digits with
    | .ok value => .ok (.int value, rest)
    | .error fault =>
      .error ⟨text, .invalidInteger (if negative then '-' :: digits else digits) fault⟩

mutual

/-- Reads a term and drops the annotations behind it. -/
def term : Nat -> List Char -> Except Failure (Term × List Char)
  | 0, text => .error ⟨text, .unexpectedEnd⟩
  | bound + 1, text => do
    let (found, rest) ← bare bound (Text.skipBlank text)
    match Text.skipBlank rest with
    | '{' :: inside =>
      let (_, rest) ← arguments bound '}' inside
      return (found, rest)
    | rest => return (found, rest)

/-- Reads a term that starts at once, without annotations. -/
def bare : Nat -> List Char -> Except Failure (Term × List Char)
  | 0, text => .error ⟨text, .unexpectedEnd⟩
  | _, [] => .error ⟨[], .unexpectedEnd⟩
  | bound + 1, c :: rest =>
    if c = '[' then
      match eat? ']' rest with
      | some rest => .ok (.known [], rest)
      | none => elements bound rest
    else if c = '(' then do
      let (children, rest) ← arguments bound ')' rest
      return (.tuple children, rest)
    else if c = '"' then do
      let (value, rest) ← stringFrom [] rest
      return (.str (String.ofList value), rest)
    else if c = '-' || Text.isDigit c then
      integer (c :: rest)
    else if isNameStart c then
      let name := String.ofList ((c :: rest).takeWhile isNameChar)
      match (c :: rest).dropWhile isNameChar with
      | '(' :: inside => do
        let (children, rest) ← arguments bound ')' inside
        return (.appl name children, rest)
      | rest => .ok (.appl name [], rest)
    else
      .error ⟨c :: rest, .unexpected c⟩

/-- Reads terms between commas up to `close`; there may be none. -/
def arguments : Nat -> Char -> List Char -> Except Failure (List Term × List Char)
  | 0, _, text => .error ⟨text, .unexpectedEnd⟩
  | bound + 1, close, text =>
    match eat? close text with
    | some rest => .ok ([], rest)
    | none => terms bound close text

/-- Reads at least one term, with commas between them, up to `close`. -/
def terms : Nat -> Char -> List Char -> Except Failure (List Term × List Char)
  | 0, _, text => .error ⟨text, .unexpectedEnd⟩
  | bound + 1, close, text => do
    let (first, rest) ← term bound text
    match eat? close rest with
    | some rest => return ([first], rest)
    | none =>
      let rest ← take ',' rest
      let (more, rest) ← terms bound close rest
      return (first :: more, rest)

/-- Reads the elements of a list that is not empty, up to its bracket.  The elements are put in
front of the tail from the right, so that a tail that is a list is spliced in. -/
def elements : Nat -> List Char -> Except Failure (Term × List Char)
  | 0, text => .error ⟨text, .unexpectedEnd⟩
  | bound + 1, text => do
    let (first, rest) ← term bound text
    match eat? ']' rest with
    | some rest => return (.known [first], rest)
    | none =>
      match eat? '|' rest with
      | some rest =>
        let (tail, rest) ← term bound rest
        let rest ← take ']' rest
        return (.cons first tail, rest)
      | none =>
        let rest ← take ',' rest
        let (more, rest) ← elements bound rest
        return (.cons first more, rest)

end

/-- More steps than reading a text can take. -/
def bound (text : List Char) : Nat :=
  4 * text.length + 4

/-- Reads exactly one term, with optional blanks around it. -/
def whole (text : List Char) : Except Failure Term := do
  let (found, rest) ← term (bound text) text
  match Text.skipBlank rest with
  | [] => return found
  | c :: rest => throw ⟨c :: rest, .expectedEnd c⟩

end Reader

/-- Where in a text reading stopped, in bytes from its start, and why. -/
structure ReadError where
  position : Nat
  cause : Reader.Cause
  deriving DecidableEq

namespace ReadError

def message (error : ReadError) : String :=
  s!"ATerm syntax error at position {error.position}: {error.cause.message}"

end ReadError

/-- The number of bytes that characters take. -/
def byteLength : List Char -> Nat
  | [] => 0
  | c :: rest => c.utf8Size + byteLength rest

def parse (text : String) : Except ReadError Term :=
  match Reader.whole text.toList with
  | .ok term => .ok term
  | .error failure =>
    .error ⟨byteLength text.toList - byteLength failure.left, failure.cause⟩

end Term
end BaseLanguage
