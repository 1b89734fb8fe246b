import BaseLanguage.Text.Numeral

namespace BaseLanguage
namespace Text

/-!
# Blank characters

Blank means the Unicode property White_Space: twenty-five characters, of which six are ASCII.
Readers skip blanks between tokens, and `trim` takes them off both ends of a text.
-/

/-- The characters with the property White_Space. -/
def isBlank (c : Char) : Bool :=
  let code := c.toNat
  (0x09 ≤ code && code ≤ 0x0D) || code == 0x20 || code == 0x85 || code == 0xA0 ||
    code == 0x1680 || (0x2000 ≤ code && code ≤ 0x200A) || code == 0x2028 || code == 0x2029 ||
    code == 0x202F || code == 0x205F || code == 0x3000

/-- Everything from the first character on that is not blank. -/
def skipBlank (text : List Char) : List Char := text.dropWhile isBlank

/-- Drops every trailing element that satisfies `drop`. -/
def dropTrailing (drop : α -> Bool) (items : List α) : List α :=
  (items.reverse.dropWhile drop).reverse

def trim (text : List Char) : List Char := dropTrailing isBlank (skipBlank text)

theorem isBlank_of_isWhitespace (c : Char) (white : c.isWhitespace = true) : isBlank c = true := by
  have cases : c = ' ' ∨ c = '\t' ∨ c = '\r' ∨ c = '\n' := by
    simpa [Char.isWhitespace, or_assoc] using white
  rcases cases with rfl | rfl | rfl | rfl <;> decide

@[simp] theorem skipBlank_nil : skipBlank [] = [] := rfl

theorem skipBlank_cons (c : Char) (text : List Char) :
    skipBlank (c :: text) = if isBlank c then skipBlank text else c :: text := by
  unfold skipBlank
  cases blank : isBlank c <;> simp [blank]

/-- What is skipped is a run of blanks in front of what is left. -/
theorem exists_append_skipBlank (text : List Char) :
    exists blanks, text = blanks ++ skipBlank text ∧ forall c, c ∈ blanks -> isBlank c = true := by
  refine ⟨text.takeWhile isBlank, (List.takeWhile_append_dropWhile).symm, ?_⟩
  intro c member
  exact List.all_eq_true.mp (List.all_takeWhile) c member

/-!
## Classes of characters

Patterns name sets of characters in brackets: single ones, ranges, and the classes that have names.
The classes hold ASCII characters only.
-/

/-- The blanks that stand between words, and those that end lines. -/
def isSpace (c : Char) : Bool := c = ' ' || ('\x09' ≤ c && c ≤ '\x0d')

/-- The characters that leave ink. -/
def isGraphic (c : Char) : Bool := '!' ≤ c && c ≤ '~'

def isAlphanumeric (c : Char) : Bool := c.isAlpha || isDigit c

def isHexDigit (c : Char) : Bool := isDigit c || ('a' ≤ c && c ≤ 'f') || ('A' ≤ c && c ≤ 'F')

def namedClass? (name : String) : Option (Char -> Bool) :=
  match name with
  | "alpha" => some Char.isAlpha
  | "digit" => some isDigit
  | "alnum" => some isAlphanumeric
  | "upper" => some Char.isUpper
  | "lower" => some Char.isLower
  | "space" => some isSpace
  | "blank" => some (fun c => c = ' ' || c = '\t')
  | "punct" => some (fun c => isGraphic c && !isAlphanumeric c)
  | "print" => some (fun c => isGraphic c || c = ' ')
  | "graph" => some isGraphic
  | "cntrl" => some (fun c => c < ' ' || c = '\x7f')
  | "xdigit" => some isHexDigit
  | _ => none

inductive SetItem where
  | range (first last : Char)
  | named (name : String)
  deriving Repr, DecidableEq

namespace SetItem

def holds (item : SetItem) (c : Char) : Bool :=
  match item with
  | .range first last => first ≤ c && c ≤ last
  | .named name => (namedClass? name).any (fun isMember => isMember c)

end SetItem

/-- A set of characters, or the characters that are not in it. -/
structure CharSet where
  opposite : Bool := false
  items : List SetItem
  deriving Repr, DecidableEq

namespace CharSet

def holds (set : CharSet) (c : Char) : Bool := set.items.any (·.holds c) != set.opposite

end CharSet
end Text
end BaseLanguage
