import BaseLanguage.Toml.Scalar

namespace BaseLanguage
namespace Toml

/-!
# The tables of a TOML document

A table comes about in three ways: by a header, by the dots of a key, or only because something
inside it was named by a header.  A header opens a table once, and may open one that so far was
only named.  Dots reach into tables that dots made, and into no table of a header.
-/

/-- How a table came about. -/
inductive Origin where
  | header
  | dotted
  /-- Named by the header of something inside it. -/
  | named
  deriving Repr, DecidableEq

/-- What stands under a key. -/
inductive Entry where
  | value (datum : Datum)
  | table (origin : Origin) (entries : List (String × Entry))
  /-- Tables that share a header in double brackets. -/
  | tables (elements : List (List (String × Entry)))

abbrev Entries := List (String × Entry)

namespace Entries

variable (entries : Entries)

/-- The entries with one under a key, in the place of any that was there. -/
def put (key : String) (entry : Entry) : Entries :=
  if (entries.lookup key).isSome then
    entries.map (fun (other, old) => if other = key then (other, entry) else (other, old))
  else entries ++ [(key, entry)]

/-- Changes the table at the end of a path.  Tables that are missing on the way come about; of
tables that share a header, the last is meant. -/
def adjust (dots : Bool) (change : Origin -> Entries -> Option Entries) :
    List String -> Origin -> Entries -> Option Entries
  | [], origin, entries => change origin entries
  | key :: path, _, entries =>
    match entries.lookup key with
    | none => do
      let origin := if dots then Origin.dotted else Origin.named
      let inner ← adjust dots change path origin []
      return entries.put key (.table origin inner)
    | some (.value _) => none
    | some (.tables elements) => do
      let last ← elements.getLast?
      let inner ← adjust dots change path .header last
      return entries.put key (.tables (elements.dropLast ++ [inner]))
    | some (.table origin inner) => do
      if dots && origin = .header then none
      let inner ← adjust dots change path origin inner
      return entries.put key (.table origin inner)

/-- Adds a value under a dotted key.  The key must be new, and its dots must lead into a table that
dots made. -/
def addValue (path : List String) (key : String) (value : Datum) :
    Option Entries :=
  adjust true
    (fun origin inner =>
      if (origin = .dotted) = path.isEmpty then none
      else if (inner.lookup key).isSome then none
      else some (inner.put key (.value value)))
    path .header entries

/-- Opens the table that a header names and fills it. -/
def openTable (path : List String) (key : String)
    (fill : Entries -> Option Entries) : Option Entries :=
  adjust false
    (fun _ parent =>
      match parent.lookup key with
      | none => do return parent.put key (.table .header (← fill []))
      | some (.table .named inner) => do return parent.put key (.table .header (← fill inner))
      | some _ => none)
    path .header entries

/-- Adds a table to those that share a header in double brackets, and fills it. -/
def openElement (path : List String) (key : String)
    (fill : Entries -> Option Entries) : Option Entries :=
  adjust false
    (fun _ parent =>
      match parent.lookup key with
      | none => do return parent.put key (.tables [← fill []])
      | some (.tables elements) => do return parent.put key (.tables (elements ++ [← fill []]))
      | some _ => none)
    path .header entries

end Entries

mutual

def Entry.toDatum : Entry -> Datum
  | .value datum => datum
  | .table _ entries => .record (fieldsOf entries)
  | .tables elements => .sequence (recordsOf elements)

def fieldsOf : List (String × Entry) -> List (String × Datum)
  | [] => []
  | (key, entry) :: more => (key, entry.toDatum) :: fieldsOf more

/-- Tables as records. -/
def recordsOf : List (List (String × Entry)) -> List Datum
  | [] => []
  | entries :: more => .record (fieldsOf entries) :: recordsOf more

end

end Toml
end BaseLanguage

namespace BaseLanguage
namespace Toml

/-!
## TOML documents

A document is a row of lines: comments, headers, and keys with values.  A header in brackets names
the table that the following keys belong to; one in double brackets adds a table to a row of them.
`parse` gives the fields of a document, or nothing if it is malformed or says something twice.

Values may be nested to a fixed depth, and so may keys.
-/

/-- One less than the depth that is too great. -/
def greatestDepth : Nat := 79

def isKeyChar (c : Char) : Bool :=
  ('a' ≤ c && c ≤ 'z') || ('A' ≤ c && c ≤ 'Z') || Text.isDigit c || c == '_' || c == '-'

def keyPart (text : List Char) : Option (String × List Char) :=
  match quotedLine text with
  | some (part, rest) => some (String.ofList part, rest)
  | none =>
    let part := text.takeWhile isKeyChar
    if part.isEmpty then none else some (String.ofList part, text.dropWhile isKeyChar)

/-- The parts of a key, with dots between them and optional spaces around each.  The bound is at
least the number of characters. -/
def keyParts : Nat -> List Char -> Option (List String × List Char)
  | 0, _ => none
  | bound + 1, text => do
    let (part, rest) ← keyPart (skipSpaces text)
    match skipSpaces rest with
    | '.' :: rest => do
      let (parts, rest) ← keyParts bound rest
      return (part :: parts, rest)
    | rest => return ([part], rest)

/-- A key: the parts in front of the last, and the last. -/
def key (text : List Char) : Option ((List String × String) × List Char) := do
  let (parts, rest) ← keyParts (text.length + 1) text
  if greatestDepth < parts.length then none
  let last ← parts.getLast?
  return ((parts.dropLast, last), rest)

/-- Drops a comment at the front, if there is one, up to the end of the line. -/
def skipComment (text : List Char) : List Char :=
  match text with
  | '#' :: rest => rest.dropWhile isPlain
  | _ => text

/-- Drops blanks, line breaks and comments at the front of a line within an array. -/
def skipFiller : Nat -> List Char -> List Char
  | 0, text => text
  | bound + 1, text =>
    match skipBreaks text with
    | '#' :: rest =>
      match afterNewline (skipComment ('#' :: rest)) with
      | some rest => skipFiller bound rest
      | none => '#' :: rest
    | rest => rest

def filler (text : List Char) : List Char := skipFiller text.length text

/-- The items of an array, up to its bracket.  A comma may follow the last item. -/
def arrayItems (value : List Char -> Option (Datum × List Char)) :
    Nat -> List Char -> Option (List Datum × List Char)
  | 0, _ => none
  | bound + 1, text =>
    match filler text with
    | ']' :: rest => some ([], rest)
    | text => do
      let (item, rest) ← value text
      match filler rest with
      | ']' :: rest => return ([item], rest)
      | ',' :: rest => do
        let (items, rest) ← arrayItems value bound rest
        return (item :: items, rest)
      | _ => none

/-- A key with its value, and spaces around both. -/
def keyValue (value : List Char -> Option (Datum × List Char)) (text : List Char) :
    Option (((List String × String) × Datum) × List Char) := do
  let (name, rest) ← key text
  let rest ← after '=' rest
  let (datum, rest) ← value (skipSpaces rest)
  return ((name, datum), skipSpaces rest)

/-- The fields of a table in braces, up to its brace, added to `entries`. -/
def inlineFields (value : List Char -> Option (Datum × List Char)) :
    Nat -> Entries -> List Char -> Option (Entries × List Char)
  | 0, _, _ => none
  | bound + 1, entries, text => do
    let (((path, name), datum), rest) ← keyValue value text
    let entries ← entries.addValue path name datum
    match rest with
    | '}' :: rest => return (entries, rest)
    | ',' :: rest => inlineFields value bound entries rest
    | _ => none

/-- A value that may hold others down to a depth. -/
def value : Nat -> List Char -> Option (Datum × List Char)
  | depth, text =>
    match text with
    | '[' :: rest =>
      match depth with
      | 0 => none
      | inner + 1 => do
        let (items, rest) ← arrayItems (value inner) (rest.length + 1) rest
        return (.sequence items, rest)
    | '{' :: rest =>
      match depth with
      | 0 => none
      | inner + 1 =>
        match skipSpaces rest with
        | '}' :: rest => some (.record [], rest)
        | _ => do
          let (entries, rest) ← inlineFields (value inner) (rest.length + 1) [] rest
          return (.record (fieldsOf entries), rest)
    | '"' :: _ | '\'' :: _ =>
      (quoted text).map (fun (found, rest) => (.text (String.ofList found), rest))
    | _ => scalar text

inductive Statement where
  | blank
  | field (path : List String) (key : String) (value : Datum)
  | header (path : List String) (key : String)
  | element (path : List String) (key : String)

/-- What follows the end of a line: spaces, a comment and a line break, or the end of the text. -/
def endOfLine (text : List Char) : Option (List Char) :=
  match skipComment (skipSpaces text) with
  | [] => some []
  | rest => afterNewline rest

/-- What the line at the front of a text says, and what follows what it says. -/
def statement (text : List Char) : Option (Statement × List Char) :=
  match skipSpaces text with
  | [] => some (.blank, [])
  | '#' :: rest => some (.blank, '#' :: rest)
  | '\n' :: rest => some (.blank, '\n' :: rest)
  | '\r' :: rest => some (.blank, '\r' :: rest)
  | '[' :: '[' :: rest => do
    let ((path, name), rest) ← key rest
    return (.element path name, ← after ']' (← after ']' rest))
  | '[' :: rest => do
    let ((path, name), rest) ← key rest
    return (.header path name, ← after ']' rest)
  | text => do
    let (((path, name), datum), rest) ← keyValue (value greatestDepth) text
    return (.field path name datum, rest)

/-- What the lines of a text say.  The bound is at least the number of characters. -/
def statements : Nat -> List Char -> Option (List Statement)
  | 0, _ => none
  | bound + 1, text => do
    let (first, rest) ← statement text
    let rest ← endOfLine rest
    if rest.isEmpty then return [first] else return first :: (← statements bound rest)

def Statement.isHeader : Statement -> Bool
  | header _ _ => true
  | element _ _ => true
  | _ => false

def fill (fields : List Statement) (entries : Entries) : Option Entries :=
  fields.foldlM
    (fun entries statement =>
      match statement with
      | .field path name datum => entries.addValue path name datum
      | _ => some entries)
    entries

/-- Takes in the tables of a document, each with the statements up to the next header. -/
def build : Nat -> Entries -> List Statement -> Option Entries
  | 0, _, _ => none
  | _, root, [] => some root
  | bound + 1, root, first :: rest => do
    let fields := rest.takeWhile (!·.isHeader)
    let others := rest.dropWhile (!·.isHeader)
    let root ←
      match first with
      | .header path name => root.openTable path name (fill fields)
      | .element path name => root.openElement path name (fill fields)
      | other => fill (other :: fields) root
    build bound root others

def dropMark (text : List Char) : List Char :=
  match text with
  | c :: rest => if c.toNat = 0xFEFF then rest else text
  | [] => []

def parse (text : String) : Option (List (String × Datum)) := do
  let text := dropMark text.toList
  let found ← statements (text.length + 1) text
  let root ← build (found.length + 1) [] found
  return fieldsOf root

end Toml
end BaseLanguage
