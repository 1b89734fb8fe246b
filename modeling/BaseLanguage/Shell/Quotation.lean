import BaseLanguage.Shell.Syntax.Word
import BaseLanguage.Text.CharClass

namespace BaseLanguage.Shell

/-!
# Escapes

Behind a backslash, a letter stands for a control character, and one to three octal digits for the
octet with that number.  Any other character stands for itself, and the backslash does too.  Some
programs know hexadecimal digits as well.
-/

inductive Speaker where
  | plainShell
  | extendedShell
  | program
  deriving DecidableEq

def letterOctet? : Char -> Option Char
  | '\\' => some '\\'
  | 'a' => some '\x07'
  | 'b' => some '\x08'
  | 'e' => some '\x1b'
  | 'f' => some '\x0c'
  | 'n' => some '\n'
  | 'r' => some '\r'
  | 't' => some '\t'
  | 'v' => some '\x0b'
  | _ => none

def numberedChar (letter : Char) (width code : Nat) : Chars :=
  if code < 128 then [Char.ofNat code]
  else
    let digits := (Nat.toDigits 16 code).map Char.toUpper
    '\\' :: letter :: (List.replicate (width - digits.length) '0' ++ digits)

def hexEscape? (letter : Char) (rest : Chars) : Option (Chars × Chars) :=
  let (width, code) : Nat × (Nat -> Chars) := match letter with
    | 'u' => (4, numberedChar 'u' 4)
    | 'U' => (8, numberedChar 'U' 8)
    | _ => (2, ([Char.ofNat ·]))
  let digits := digitsInFront width rest
  if digits.isEmpty then none else some (code (valueInBase 16 digits), rest.drop digits.length)

def escape (speaker : Speaker) (text : Chars) : Chars × Chars := match text with
  | [] => (['\\'], [])
  | c :: rest =>
    if isOctalDigit c then
      let digits := (text.take 3).takeWhile isOctalDigit
      ([Char.ofNat (valueInBase 8 digits % 256)], text.drop digits.length)
    else match letterOctet? c with
      | some octet => ([octet], rest)
      | none =>
        let hex :=
          if speaker ≠ .plainShell && (c = 'x' || c = 'u' || c = 'U') then hexEscape? c rest
          else none
        match hex with
        | some found => found
        | none => (['\\', c], rest)

def skipZero (text : Chars) : Chars := match text with
  | '0' :: c :: rest => if isOctalDigit c then c :: rest else text
  | _ => text

/-- The octets of a text with escapes, and whether the text goes on behind them: `\c` ends it.
Octal digits may have one more zero in front of them.  -/
def unescapeFrom (speaker : Speaker) : Nat -> Chars -> Chars × Bool
  | 0, _ => ([], true)
  | _, [] => ([], true)
  | limit + 1, '\\' :: rest =>
    if rest.head? == some 'c' then ([], false)
    else
      let (octets, behind) := escape speaker (skipZero rest)
      let (others, goesOn) := unescapeFrom speaker limit behind
      (octets ++ others, goesOn)
  | limit + 1, c :: rest =>
    let (others, goesOn) := unescapeFrom speaker limit rest
    (c :: others, goesOn)

def unescape (speaker : Speaker) (text : Chars) : Chars × Bool :=
  unescapeFrom speaker (text.length + 1) text

/-!
## Names in quotes

Complaints show names so that a shell would read them as one word.  A name without special
characters stays as it is, unless quotes are asked for.  Single quotes are tried first, then double
quotes; characters that cannot be seen are written as escapes.

What an extended shell says of its own values is quoted in other ways, so that it can be read again.
-/

def needsQuotes (atFront : Bool) (c : Char) : Bool :=
  " !\"$&()*;<=>[^|\\?'".toList.contains c || c = '\x60' || (atFront && (c = '#' || c = '~'))

def isSameInQuotes (c : Char) : Bool :=
  Text.isAlphanumeric c || " #~%+,-./:]_'\x7b\x7d@".toList.contains c

def isVisible (c : Char) : Bool := ' ' <= c && c <= '~'

def octalTriple (code : Nat) : Chars := [code / 64 % 8, code / 8 % 8, code % 8].map Nat.digitChar

def hiddenEscape : Char -> Chars
  | '\x07' => ['\\', 'a']
  | '\x08' => ['\\', 'b']
  | '\x0c' => ['\\', 'f']
  | '\n' => ['\\', 'n']
  | '\r' => ['\\', 'r']
  | '\t' => ['\\', 't']
  | '\x0b' => ['\\', 'v']
  | c => '\\' :: octalTriple c.toNat

def singleQuotedInside (escaping : Bool) : Chars -> Chars
  | [] => []
  | c :: rest =>
    if isVisible c then
      let front := if escaping then ['\'', '\''] else []
      let shown := if c = '\'' then ['\'', '\\', '\'', '\''] else [c]
      front ++ shown ++ singleQuotedInside false rest
    else
      let front := if escaping then [] else ['\'', '$', '\'']
      front ++ hiddenEscape c ++ singleQuotedInside true rest

def quoted (name : String) : String :=
  let text := name.toList
  if text.contains '\'' && text.all isSameInQuotes then s!"\"{name}\""
  else .ofList ('\'' :: singleQuotedInside false text ++ ['\''])

def quotedIfNeeded (name : String) : String :=
  let text := name.toList
  let special := (text.zipIdx.any fun (c, index) => needsQuotes (index == 0) c) ||
    text.any (!isVisible ·) || name = "\x7b" || name = "\x7d"
  if text.isEmpty || special then quoted name else name

def plainlyQuoted (text : String) : String :=
  let inside := text.toList.flatMap fun c =>
    if c = '\'' || c = '\\' then ['\\', c]
    else if isVisible c then [c]
    else hiddenEscape c
  .ofList ('\'' :: inside ++ ['\''])

/-! ## Words for reuse -/

def isHidden (c : Char) : Bool := c < ' ' || '~' < c

def escapedInQuote : Char -> Chars
  | '\x1b' => ['\\', 'E']
  | '\x07' => ['\\', 'a']
  | '\x08' => ['\\', 'b']
  | '\x0b' => ['\\', 'v']
  | '\x0c' => ['\\', 'f']
  | '\n' => ['\\', 'n']
  | '\r' => ['\\', 'r']
  | '\t' => ['\\', 't']
  | '\\' => ['\\', '\\']
  | '\'' => ['\\', '\'']
  | c =>
    if isHidden c then '\\' :: [c.toNat / 64 % 8, c.toNat / 8 % 8, c.toNat % 8].map Nat.digitChar
    else [c]

def quoteWithEscapes (octets : String) : String :=
  .ofList ('$' :: '\'' :: octets.toList.flatMap escapedInQuote ++ ['\''])

def quotePlainly (octets : String) : String :=
  let inside := octets.toList.flatMap fun c => if c = '\'' then ['\'', '\\', '\'', '\''] else [c]
  .ofList ('\'' :: inside ++ ['\''])

def quoteForReuse (octets : String) : String :=
  if octets.toList.any isHidden then quoteWithEscapes octets else quotePlainly octets

/-- A text in double quotes, or in a quote with escapes if there are characters that cannot be
seen. -/
def quoteInDouble (octets : String) : String :=
  if octets.toList.any isHidden then quoteWithEscapes octets
  else
    let inside := octets.toList.flatMap fun c =>
      if c = '"' || c = '\\' || c = '$' || c.toNat = 0x60 then ['\\', c] else [c]
    .ofList ('"' :: inside ++ ['"'])

def isShellSign (c : Char) : Bool :=
  Text.isSpace c || ['\'', '"', '\\', '|', '&', ';', '(', ')', '<', '>', '!', '\x7b', '\x7d', '*',
    '[', ']', '?', '^', '$', '\x60'].contains c

def hasShellSigns (octets : String) : Bool :=
  octets.toList.any isShellSign || octets.toList.head?.any (fun c => c = '~' || c = '#')

end BaseLanguage.Shell
