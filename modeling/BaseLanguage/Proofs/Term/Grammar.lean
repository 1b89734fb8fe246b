import Mathlib.Algebra.Group.Int.Defs
import Mathlib.Data.List.DropRight
import BaseLanguage.Term.Reader

namespace BaseLanguage
namespace Term

/-!
# The grammar of terms

What it means that a text spells a term, said without a reader.  The relations below hold of a
text and what it spells, and each of their rules cuts the text into the parts that it names:

* a term is a core between blanks, with at most one group of annotations behind it;
* a core is a name, a name with arguments, a tuple, a list, a string in quotes or a numeral;
* arguments are nothing, or terms between commas.

Blanks may stand wherever a rule names them and nowhere else, so a name and its parenthesis
belong together.  What annotations hold must be terms, which are not part of what is spelled.
Nothing here says which parts to prefer where a text could be cut in several ways.
-/

namespace Grammar

/-- A run of blanks, which may be empty. -/
def Blank (text : List Char) : Prop :=
  forall c, c ∈ text -> Text.isBlank c = true

/-- A letter or a low line. -/
def IsNameStart (c : Char) : Prop :=
  c.isAlpha = true ∨ c = '_'

/-- A letter, a digit, a low line, a hyphen or an apostrophe. -/
def IsNamePart (c : Char) : Prop :=
  c.isAlphanum = true ∨ c = '_' ∨ c = '-' ∨ c = '\''

/-- The texts that can be names: something that starts a name, and parts of names. -/
def IsName (text : List Char) : Prop :=
  exists first rest, text = first :: rest ∧ IsNameStart first ∧ forall c, c ∈ rest -> IsNamePart c

/-- A run of digits that is not empty. -/
def IsDigits (text : List Char) : Prop :=
  text ≠ [] ∧ forall c, c ∈ text -> c.isDigit = true

/-- The integers of sixty-four bits. -/
def IsLong (value : Int) : Prop :=
  -(2 ^ 63) ≤ value ∧ value < 2 ^ 63

/-- A character behind a backslash, and what the two stand for. -/
inductive Escape : Char -> Char -> Prop
  | lineFeed : Escape 'n' '\n'
  | tab : Escape 't' '\t'
  | carriageReturn : Escape 'r' '\r'
  | quote : Escape '"' '"'
  | backslash : Escape '\\' '\\'
  | apostrophe : Escape '\'' '\''

/-- What stands between quotes, and the value that it spells. -/
inductive Quoted : List Char -> List Char -> Prop
  | empty : Quoted [] []
  | plain (notQuote : c ≠ '"') (notBackslash : c ≠ '\\') (more : Quoted text value) :
      Quoted (c :: text) (c :: value)
  | escaped (escape : Escape c d) (more : Quoted text value) :
      Quoted ('\\' :: c :: text) (d :: value)

/-- Digits with or without a minus sign, and the integer that they spell. -/
inductive Numeral : List Char -> Int -> Prop
  | plain (digits : IsDigits text) : Numeral text (Nat.ofDigitChars 10 text 0)
  | negative (digits : IsDigits text) : Numeral ('-' :: text) (-(Nat.ofDigitChars 10 text 0 : Int))

mutual

/-- A term with the blanks in front of it, and what belongs to it behind it. -/
inductive Spelling : List Char -> Term -> Prop
  | plain (front : Blank before) (core : Core text term) (back : Blank after) :
      Spelling (before ++ (text ++ after)) term
  | annotated (front : Blank before) (core : Core text term) (back : Blank after)
      (annotations : Arguments inside terms) :
      Spelling (before ++ (text ++ (after ++ '{' :: (inside ++ ['}'])))) term

/-- A term from its first character to its last. -/
inductive Core : List Char -> Term -> Prop
  | name (name : IsName text) : Core text (.appl (String.ofList text) [])
  | application (name : IsName text) (arguments : Arguments inside children) :
      Core (text ++ '(' :: (inside ++ [')'])) (.appl (String.ofList text) children)
  | tuple (arguments : Arguments inside children) :
      Core ('(' :: (inside ++ [')'])) (.tuple children)
  | emptyList (blank : Blank inside) : Core ('[' :: (inside ++ [']'])) (.known [])
  | list (elements : Row inside elems) (back : Blank after) :
      Core ('[' :: (inside ++ (after ++ [']']))) (.known elems)
  | openList (elements : Row inside elems) (gap : Blank between) (rest : Spelling more tail)
      (back : Blank after) :
      Core ('[' :: (inside ++ (between ++ '|' :: (more ++ (after ++ [']'])))))
        (elems.foldr .cons tail)
  | string (quoted : Quoted inside value) :
      Core ('"' :: (inside ++ ['"'])) (.str (String.ofList value))
  | integer (numeral : Numeral text value) (long : IsLong value) : Core text (.int value)

/-- Terms between commas with the blanks around them, or blanks alone. -/
inductive Arguments : List Char -> List Term -> Prop
  | none (blank : Blank inside) : Arguments inside []
  | some (row : Row inside terms) (back : Blank after) : Arguments (inside ++ after) terms

/-- At least one term, with commas between neighbours. -/
inductive Row : List Char -> List Term -> Prop
  | one (term : Spelling text first) : Row text [first]
  | more (term : Spelling text first) (gap : Blank between) (others : Row rest terms) :
      Row (text ++ (between ++ ',' :: rest)) (first :: terms)

end

/-- A text that spells a term, with blanks around it. -/
def Whole (text : List Char) (term : Term) : Prop :=
  exists body after, text = body ++ after ∧ Spelling body term ∧ Blank after

/-! ## Blanks -/

theorem blank_nil : Blank [] := by
  intro c member
  cases member

/-- A core with nothing around it is a term. -/
theorem Core.spelling {text : List Char} {term : Term} (core : Core text term) :
    Spelling text term := by
  have spelled := Spelling.plain blank_nil core blank_nil
  rwa [List.nil_append, List.append_nil] at spelled

/-- Blanks in front of a text are skipped with those that it starts with. -/
theorem skipBlank_append {blanks : List Char} (blank : Blank blanks) (text : List Char) :
    Text.skipBlank (blanks ++ text) = Text.skipBlank text :=
  List.dropWhile_append_of_pos blank

theorem skipBlank_of_blank {blanks : List Char} (blank : Blank blanks) :
    Text.skipBlank blanks = [] := by
  have skipped := skipBlank_append blank []
  rwa [List.append_nil] at skipped

/-- A text is the blanks that are skipped and what is left. -/
theorem exists_blank_append (text : List Char) :
    exists blanks, text = blanks ++ Text.skipBlank text ∧ Blank blanks := by
  rcases Text.exists_append_skipBlank text with ⟨blanks, cut, blank⟩
  exact ⟨blanks, cut, blank⟩

/-! ## Characters -/

theorem isDigit_iff (c : Char) : Text.isDigit c = true <-> c.isDigit = true := by
  simp [Text.isDigit, Char.isDigit, Char.le_def]

/-- A character is a letter exactly if it is one of either case. -/
theorem isAlpha_iff (c : Char) :
    c.isAlpha = true <-> ('A' ≤ c ∧ c ≤ 'Z') ∨ 'a' ≤ c ∧ c ≤ 'z' := by
  change (decide ('A' ≤ c ∧ c ≤ 'Z') || ('a' ≤ c && c ≤ 'z')) = true <-> _
  simp only [Bool.or_eq_true, Bool.and_eq_true, decide_eq_true_eq]

theorem isNameStart_iff (c : Char) : Reader.isNameStart c = true <-> IsNameStart c := by
  simp [Reader.isNameStart, IsNameStart, isAlpha_iff, or_comm]

theorem isNameChar_iff (c : Char) : Reader.isNameChar c = true <-> IsNamePart c := by
  have start := isNameStart_iff c
  have digit := isDigit_iff c
  unfold Reader.isNameChar IsNamePart Char.isAlphanum
  unfold IsNameStart at start
  simp only [Bool.or_eq_true, start, digit, beq_iff_eq]
  constructor
  · rintro ((((alpha | low) | number) | hyphen) | apostrophe)
    · exact Or.inl (Or.inl alpha)
    · exact Or.inr (Or.inl low)
    · exact Or.inl (Or.inr number)
    · exact Or.inr (Or.inr (Or.inl hyphen))
    · exact Or.inr (Or.inr (Or.inr apostrophe))
  · rintro ((alpha | number) | low | hyphen | apostrophe)
    · exact Or.inl (Or.inl (Or.inl (Or.inl alpha)))
    · exact Or.inl (Or.inl (Or.inr number))
    · exact Or.inl (Or.inl (Or.inl (Or.inr low)))
    · exact Or.inl (Or.inr hyphen)
    · exact Or.inr apostrophe

/-! ## Runs of characters

A reader takes as many characters of a class as there are.  It takes exactly those that a rule
names if what follows does not go on with the class.
-/

/-- What does not start with a character of a class. -/
def Stops (isMember : Char -> Bool) (rest : List Char) : Prop :=
  forall c more, rest = c :: more -> isMember c = false

theorem Stops.takeWhile {isMember : Char -> Bool} {rest : List Char}
    (stops : Stops isMember rest) : rest.takeWhile isMember = [] := by
  cases rest with
  | nil => rfl
  | cons c more => exact List.takeWhile_cons_of_neg (by simp [stops c more rfl])

theorem Stops.dropWhile {isMember : Char -> Bool} {rest : List Char}
    (stops : Stops isMember rest) : rest.dropWhile isMember = rest := by
  cases rest with
  | nil => rfl
  | cons c more => exact List.dropWhile_cons_of_neg (by simp [stops c more rfl])

theorem Stops.of_dropWhile {isMember : Char -> Bool} {rest : List Char}
    (same : rest.dropWhile isMember = rest) : Stops isMember rest := by
  rintro c more rfl
  apply Bool.eq_false_iff.mpr
  intro member
  have shorter := (List.dropWhile_sublist isMember (l := more)).length_le
  rw [List.dropWhile_cons_of_pos member] at same
  rw [same, List.length_cons] at shorter
  omega

theorem stops_dropWhile (isMember : Char -> Bool) (text : List Char) :
    Stops isMember (text.dropWhile isMember) :=
  Stops.of_dropWhile (List.dropWhile_idempotent isMember text)

theorem takeWhile_of_stops {isMember : Char -> Bool} {text rest : List Char}
    (members : forall c, c ∈ text -> isMember c = true) (stops : Stops isMember rest) :
    (text ++ rest).takeWhile isMember = text := by
  rw [List.takeWhile_append_of_pos members, stops.takeWhile, List.append_nil]

theorem dropWhile_of_stops {isMember : Char -> Bool} {text rest : List Char}
    (members : forall c, c ∈ text -> isMember c = true) (stops : Stops isMember rest) :
    (text ++ rest).dropWhile isMember = rest := by
  rw [List.dropWhile_append_of_pos members, stops.dropWhile]

theorem IsName.all_nameChar {text : List Char} (name : IsName text) :
    forall c, c ∈ text -> Reader.isNameChar c = true := by
  rcases name with ⟨first, rest, rfl, start, parts⟩
  intro c member
  rcases List.mem_cons.mp member with same | later
  · subst c
    have isStart := (isNameStart_iff first).mpr start
    simp [Reader.isNameChar, isStart]
  · exact (isNameChar_iff c).mpr (parts c later)

/-- The run of name characters from a character that starts a name on is a name. -/
theorem isName_takeWhile {c : Char} (start : Reader.isNameStart c = true) (rest : List Char) :
    IsName ((c :: rest).takeWhile Reader.isNameChar) := by
  have first : Reader.isNameChar c = true := by simp [Reader.isNameChar, start]
  rw [List.takeWhile_cons_of_pos first]
  refine ⟨c, rest.takeWhile Reader.isNameChar, rfl, (isNameStart_iff c).mp start, ?_⟩
  intro d member
  exact (isNameChar_iff d).mp (List.all_eq_true.mp List.all_takeWhile d member)

/-! ## Numerals -/

theorem valueOf_eq (digits : List Char) :
    Text.valueOf digits = Nat.ofDigitChars 10 digits 0 := by
  unfold Text.valueOf Nat.ofDigitChars
  congr 1
  funext value c
  rw [Nat.mul_comm]
  rfl

/-- The integer that a sign and digits stand for. -/
def signedValue (negative : Bool) (digits : List Char) : Int :=
  if negative then -(Nat.ofDigitChars 10 digits 0 : Int) else Nat.ofDigitChars 10 digits 0

/-- A long is read from digits whose value fits sixty-four bits. -/
theorem long?_eq_ok_iff {negative : Bool} {digits : List Char} {value : Int} :
    Text.long? negative digits = .ok value <->
      digits ≠ [] ∧ value = signedValue negative digits ∧ IsLong value := by
  unfold Text.long? signedValue IsLong Text.longLeast Text.longBound
  rw [valueOf_eq]
  cases digits with
  | nil => simp
  | cons c more =>
    cases negative <;> simp only [List.isEmpty_cons, Bool.false_eq_true, if_false, if_true]
    · split
      · constructor
        · intro same
          injection same with same
          subst same
          refine ⟨by simp, rfl, ?_⟩
          omega
        · rintro ⟨_, rfl, _⟩
          rfl
      · constructor
        · intro impossible
          cases impossible
        · rintro ⟨_, rfl, long⟩
          omega
    · split
      · constructor
        · intro same
          injection same with same
          subst same
          refine ⟨by simp, rfl, ?_⟩
          omega
        · rintro ⟨_, rfl, _⟩
          rfl
      · constructor
        · intro impossible
          cases impossible
        · rintro ⟨_, rfl, long⟩
          omega

end Grammar
end Term
end BaseLanguage
