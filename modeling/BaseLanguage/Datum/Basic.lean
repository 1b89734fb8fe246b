namespace BaseLanguage

/-!
# Plain data

A datum is what a configuration file holds and what a report shows: a tree of records and
sequences over texts, integers and truth values.  Numbers with a fraction play no part here; a
datum only tells that one stands there.

A record type may also be given by a sequence, which holds its fields in their order.
-/

/-- A tree of plain data. -/
inductive Datum where
  | null
  | boolean (value : Bool)
  | integer (value : Int)
  /-- A number with a fraction, as it was written. -/
  | scalar (text : String)
  | text (value : String)
  | sequence (items : List Datum)
  | record (fields : List (String × Datum))
  deriving Inhabited

namespace Datum

def text? : Datum -> Option String
  | text value => some value
  | _ => none

def integer? : Datum -> Option Int
  | integer value => some value
  | _ => none

def items? : Datum -> Option (List Datum)
  | sequence items => some items
  | _ => none

def fields? : Datum -> Option (List (String × Datum))
  | record fields => some fields
  | _ => none

/-- The fields of a record type with the given names: those of a record, or the items of a
sequence in the order of the names.  With `exact`, a sequence may not have more items. -/
def fieldsNamed? (exact : Bool) (names : List String) : Datum -> Option (List (String × Datum))
  | record fields => some fields
  | sequence items =>
    if exact && names.length < items.length then none else some (names.zip items)
  | _ => none

/-- A field that may be absent, but must be good if it is there. -/
def optional (read : Datum -> Option α) (fields : List (String × Datum)) (name : String) :
    Option (Option α) :=
  match fields.lookup name with
  | none => some none
  | some datum => (read datum).map some

def required (read : Datum -> Option α) (fields : List (String × Datum)) (name : String) :
    Option α :=
  (fields.lookup name).bind read

def ofOption (present : α -> Datum) : Option α -> Datum
  | none => null
  | some value => present value

/-!
## Data as JSON text

Records and sequences are laid out over lines, indented by two spaces a level, unless they are
empty.
-/

def hexDigit (value : Nat) : Char :=
  Nat.digitChar (value % 16)

/-- A character inside quotes.  Quote and backslash are escaped, and so are the control
characters, by a short name if they have one. -/
def jsonEscape (c : Char) : List Char :=
  if c = '"' then ['\\', '"']
  else if c = '\\' then ['\\', '\\']
  else if c = '\n' then ['\\', 'n']
  else if c = '\t' then ['\\', 't']
  else if c = '\r' then ['\\', 'r']
  else if c.toNat = 8 then ['\\', 'b']
  else if c.toNat = 12 then ['\\', 'f']
  else if c.toNat < 32 then
    ['\\', 'u', '0', '0', hexDigit (c.toNat / 16), hexDigit c.toNat]
  else [c]

def jsonText (value : String) : String :=
  "\"" ++ String.ofList (value.toList.flatMap jsonEscape) ++ "\""

def newLine (level : Nat) : String :=
  "\n" ++ String.ofList (List.replicate (2 * level) ' ')

mutual

def toJsonAt (level : Nat) : Datum -> String
  | null => "null"
  | boolean true => "true"
  | boolean false => "false"
  | integer value => toString value
  | scalar written => written
  | text value => jsonText value
  | sequence [] => "[]"
  | sequence (item :: more) =>
    "[" ++ newLine (level + 1) ++ toJsonAt (level + 1) item ++ itemsToJson (level + 1) more ++
      newLine level ++ "]"
  | record [] => "\x7b\x7d"
  | record ((key, value) :: more) =>
    "\x7b" ++ newLine (level + 1) ++ jsonText key ++ ": " ++ toJsonAt (level + 1) value ++
      fieldsToJson (level + 1) more ++ newLine level ++ "\x7d"

/-- The items behind the first, each behind a comma. -/
def itemsToJson (level : Nat) : List Datum -> String
  | [] => ""
  | item :: more => "," ++ newLine level ++ toJsonAt level item ++ itemsToJson level more

/-- The fields behind the first, each behind a comma. -/
def fieldsToJson (level : Nat) : List (String × Datum) -> String
  | [] => ""
  | (key, value) :: more =>
    "," ++ newLine level ++ jsonText key ++ ": " ++ toJsonAt level value ++
      fieldsToJson level more

end

def toJson (datum : Datum) : String :=
  toJsonAt 0 datum

end Datum
end BaseLanguage
