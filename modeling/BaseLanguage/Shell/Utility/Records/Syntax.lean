import BaseLanguage.Shell.Utility.Records.Cell
import BaseLanguage.Text.Regex.Reader

namespace BaseLanguage.Shell.Records

open Text

/-!
# Programs on records

A program is a row of rules.  Each says for which records something is done, and what; some are for
the time before the first record or behind the last one.
-/

inductive Holder where
  | everywhere (name : String)
  | inside (index : Nat)

structure Matcher where
  octets : String
  regex : Regex

inductive Operation where
  | add
  | subtract
  | multiply
  | divide
  | remainder
  | power

inductive Comparison where
  | less
  | notGreater
  | same
  | different
  | greater
  | notLess

mutual

inductive Place where
  | name (target : Holder)
  | element (table : Holder) (keys : List Expression)
  | field (number : Expression)

inductive Expression where
  | number (value : Float)
  | text (octets : String)
  | pattern (matcher : Matcher)
  | read (place : Place)
  | assign (place : Place) (value : Expression)
  | change (place : Place) (operation : Operation) (value : Expression)
  | step (place : Place) (amount : Float) (isBefore : Bool)
  | plus (part : Expression)
  | minus (part : Expression)
  | opposite (part : Expression)
  | compute (operation : Operation) (left right : Expression)
  | compare (comparison : Comparison) (left right : Expression)
  | join (left right : Expression)
  | both (left right : Expression)
  | either (left right : Expression)
  | choose (test first second : Expression)
  | matching (isOpposite : Bool) (subject pattern : Expression)
  | isKey (keys : List Expression) (table : Holder)
  | builtIn (name : String) (arguments : List Expression)
  | sizeOf (target : Holder)
  | split (subject : Expression) (table : Holder) (separator : Option Expression)
  | replace (everywhere : Bool) (pattern new : Expression) (place : Place)
  | call (name : String) (arguments : List Expression)
  | nextRecord (target : Option Place)
  | nextOfFile (name : Expression) (target : Option Place)
  | nextOfCommand (command : Expression) (target : Option Place)
  | group (inside : Expression)

end

inductive Outlet where
  | file
  | fileEnd
  | command
  deriving DecidableEq

inductive Statement where
  | nothing
  | evaluate (value : Expression)
  | say (parts : List Expression) (outlet : Option (Outlet × Expression))
  | sayBy (parts : List Expression) (outlet : Option (Outlet × Expression))
  | block (inside : List Statement)
  | choose (test : Expression) (first : Statement) (second : Statement)
  | whileHolds (test : Expression) (body : Statement)
  | repeatWhile (body : Statement) (test : Expression)
  | count (first : Option Expression) (test : Option Expression) (next : Option Expression)
      (body : Statement)
  | forKeys (target : Holder) (table : Holder) (body : Statement)
  | leave
  | again
  | nextRecord
  | nextFile
  | exit (status : Option Expression)
  | giveBack (value : Option Expression)
  | erase (table : Holder) (keys : List Expression)
  | eraseAll (table : Holder)

inductive Occasion where
  | start
  | ending
  | always
  | when (test : Expression)
  /-- From a record for which something holds to one for which something else does; the number tells
  such occasions apart. -/
  | fromTo (number : Nat) (first last : Expression)

structure Rule where
  occasion : Occasion
  body : Option Statement

structure Procedure where
  name : String
  parameters : List String
  body : Statement

structure Script where
  rules : List Rule := []
  procedures : List Procedure := []

/-!
## Words of programs on records

A program is written in words.  A slash begins a pattern unless something stands in front of it that
can be divided.  The ends of lines count, but not behind some signs.
-/

inductive Token where
  | number (value : Float) (text : String)
  | text (octets : String) (written : String)
  | pattern (octets : String)
  | name (name : String)
  | caller (name : String)
  | builtIn (name : String)
  | keyword (word : String)
  | sign (sign : String)
  | line
  | finished
  | stray (c : Char)
  | unended (message : String)
  deriving BEq

structure Lexeme where
  token : Token
  line : Nat

def keywords : List String :=
  wordsIn "BEGIN END function if else while for do break continue return next nextfile exit delete
  print printf getline in"

def builtInSizes : List (String × Nat × Nat) :=
  [("index", 2, 2), ("substr", 2, 3), ("sprintf", 1, 255), ("sin", 1, 1), ("cos", 1, 1),
    ("atan2", 2, 2), ("exp", 1, 1), ("log", 1, 1), ("int", 1, 1), ("sqrt", 1, 1), ("rand", 0, 0),
    ("srand", 0, 1), ("close", 1, 1), ("system", 1, 1), ("toupper", 1, 1), ("tolower", 1, 1),
    ("fflush", 0, 1), ("length", 0, 1), ("match", 2, 2), ("split", 2, 3), ("sub", 2, 3),
    ("gsub", 2, 3), ("systime", 0, 0), ("mktime", 1, 1), ("strftime", 0, 3)]

def signs : List String :=
  ["&&", "||", "++", "--", "+=", "-=", "*=", "/=", "%=", "^=", "==", "<=", ">=", "!=", "!~", ">>",
    "\x7b", "\x7d", "(", ")", "[", "]", ";", ",", "+", "-", "*", "/", "%", "^", "!", "<", ">", "|", "?",
    ":", "~", "$", "="]

def signsWithoutEnd : List String := ["\x7b", "&&", "||", ",", ";"]

namespace Token

def isDivisible : Token -> Bool
  | .number _ _ => true
  | .text _ _ => true
  | .pattern _ => true
  | .name _ => true
  | .builtIn called => called = "length"
  | .keyword "getline" => true
  | .sign ")" => true
  | .sign "]" => true
  | .sign "++" => true
  | .sign "--" => true
  | .sign "$" => true
  | _ => false

def goesOn : Token -> Bool
  | .sign written => signsWithoutEnd.contains written
  | .keyword "do" => true
  | .keyword "else" => true
  | .line => true
  | _ => false

end Token

def isNameInside (c : Char) : Bool := isAlphanumeric c || c = '_'

def octalInFront (most : Nat) (text : Chars) : Chars :=
  (text.take most).takeWhile (fun c => '0' <= c && c <= '7')

def escapeLetters : List (Char × Char) :=
  [('"', '"'), ('\\', '\\'), ('n', '\n'), ('t', '\t'), ('r', '\r'), ('b', '\x08'), ('f', '\x0c'),
    ('v', '\x0b'), ('a', '\x07')]

def escapeAt (text : Chars) : Chars × Chars := match text with
  | [] => (['\\'], [])
  | c :: rest => match escapeLetters.lookup c with
    | some value => ([value], rest)
    | none =>
      let digits := octalInFront 3 text
      let value := digits.foldl (fun value c => 8 * value + digitValue c) 0
      if !digits.isEmpty then ([Char.ofNat (value % 256)], text.drop digits.length)
      else if c = 'x' then
        let digits := (rest.take 2).takeWhile isHexDigit
        if digits.isEmpty then (['\\', 'x'], rest)
        else ([Char.ofNat (hexadecimalValue digits)], rest.drop digits.length)
      else if c = '\n' then ([], rest)
      else (['\\', c], rest)

def unescaped (text : Chars) : Chars := go (text.length + 1) text []
where
  go : Nat -> Chars -> Chars -> Chars
    | 0, _, done => done.reverse
    | _, [], done => done.reverse
    | limit + 1, '\\' :: rest, done =>
      let (octets, rest) := escapeAt rest
      go limit rest (octets.reverse ++ done)
    | limit + 1, c :: rest, done => go limit rest (c :: done)

def quotedAt? : Nat -> Chars -> Chars -> Option (Chars × Chars)
  | 0, _, _ => none
  | _, [], _ => none
  | limit + 1, '\\' :: c :: rest, done => quotedAt? limit rest (c :: '\\' :: done)
  | limit + 1, c :: rest, done =>
    if c = '"' then some (done.reverse, rest)
    else if c = '\n' then none
    else quotedAt? limit rest (c :: done)

/-- What stands between slashes, behind the first of them, and what follows.  Inside brackets a slash
is a character. -/
def patternAt? : Nat -> Bool -> Chars -> Chars -> Option (Chars × Chars)
  | 0, _, _, _ => none
  | _, _, [], _ => none
  | limit + 1, inSet, '\\' :: c :: rest, done =>
    patternAt? limit inSet rest (if c = '/' then '/' :: done else c :: '\\' :: done)
  | limit + 1, inSet, '[' :: rest, done =>
    if inSet then patternAt? limit true rest ('[' :: done)
    else
      let opposite := if rest.head? == some '^' then ['^'] else []
      let behind := rest.drop opposite.length
      let first := if behind.head? == some ']' then [']'] else []
      patternAt? limit true (behind.drop first.length) (first ++ opposite ++ '[' :: done)
  | limit + 1, inSet, c :: rest, done =>
    if c = '/' && !inSet then some (done.reverse, rest)
    else if c = '\n' then none
    else patternAt? limit (inSet && c ≠ ']') rest (c :: done)

def numeralAt? (text : Chars) : Option (Token × Chars) := match text with
  | c :: next :: _ => if isDigit c || (c = '.' && isDigit next) then written text else none
  | [c] => if isDigit c then written text else none
  | [] => none
where
  written (text : Chars) : Option (Token × Chars) :=
    (decimalAt? text).map fun (value, rest) =>
      (.number value (.ofList (text.take (text.length - rest.length))), rest)

def tokenAt (before : Token) (text : Chars) : Token × Chars := match text with
  | [] => (.finished, [])
  | '\n' :: rest => (.line, rest)
  | '"' :: rest => match quotedAt? (rest.length + 1) rest [] with
    | some (inside, behind) => (.text (.ofList (unescaped inside)) (.ofList inside), behind)
    | none =>
      let shown := String.ofList ((rest.takeWhile (· != '\n')).take 10)
      (.unended s!"runaway string constant \"{shown} ...", [])
  | c :: rest =>
    if c = '/' && !before.isDivisible then
      match patternAt? (rest.length + 1) false rest [] with
      | some (inside, behind) => (.pattern (.ofList inside), behind)
      | none =>
        let shown := String.ofList ((rest.takeWhile (· != '\n')).take 10)
        (.unended s!"runaway regular expression /{shown} ...", [])
    else match numeralAt? text with
      | some found => found
      | none =>
        if c.isAlpha || c = '_' then
          let name := .ofList (text.takeWhile isNameInside)
          let behind := text.dropWhile isNameInside
          if keywords.contains name then (.keyword name, behind)
          else if (builtInSizes.lookup name).isSome then (.builtIn name, behind)
          else if behind.head? == some '(' then (.caller name, behind)
          else (.name name, behind)
        else match signs.find? (·.toList.isPrefixOf text) with
          | some sign => (.sign sign, text.drop sign.length)
          | none => (.stray c, rest)

/-- The words of a program, with their lines.  The bound is greater than the length of the text. -/
def tokensFrom : Nat -> Token -> Nat -> Chars -> List Lexeme -> List Lexeme
  | 0, _, line, _, done => (⟨.finished, line⟩ :: done).reverse
  | limit + 1, before, line, text, done => match text with
    | [] => (⟨.finished, line⟩ :: done).reverse
    | '\\' :: '\n' :: rest => tokensFrom limit before (line + 1) rest done
    | '\\' :: '\r' :: '\n' :: rest => tokensFrom limit before (line + 1) rest done
    | '#' :: rest => tokensFrom limit before line (rest.dropWhile (· != '\n')) done
    | '\n' :: rest =>
      if before.goesOn then tokensFrom limit before (line + 1) rest done
      else tokensFrom limit .line (line + 1) rest (⟨.line, line⟩ :: done)
    | c :: rest =>
      if c = ' ' || c = '\t' || c = '\r' || c = '\x0c' then tokensFrom limit before line rest done
      else
        let (token, behind) := tokenAt before text
        let behind := if behind.length < text.length then behind else rest
        tokensFrom limit token line behind (⟨token, line⟩ :: done)

def tokens (text : Chars) : List Lexeme :=
  let text := text ++ ['\n']
  tokensFrom (text.length + 2) (.sign ";") 1 text []

end BaseLanguage.Shell.Records
