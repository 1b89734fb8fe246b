import BaseLanguage.Proofs.Term.Soundness

namespace BaseLanguage
namespace Term
namespace Grammar

/-!
# What is spelled is read

The readers never go back: a name takes all characters that a name can have, blanks are skipped
as far as they go, and the next character alone decides what is read.  So a text that is spelled
is read only if what follows it does not look like more of the same.  What follows a term ends
it, for nothing but blanks, a mark or the end of the text can stand there; and what starts a term
is neither a blank nor a mark.

As for soundness, the five readers that call each other have one statement together, by induction
on the bound.  It says how large the bound must be: four steps for each character are enough,
since every reader that calls itself again has taken a character in between.
-/

/-! ## What follows a term and what starts one -/

/-- The marks that can follow a term. -/
def IsMark (c : Char) : Prop :=
  c = ',' ∨ c = '|' ∨ c = ')' ∨ c = ']' ∨ c = '}'

/-- What can follow a term, be it with blanks in between. -/
def Ends (rest : List Char) : Prop :=
  forall c more, Text.skipBlank rest = c :: more -> IsMark c

/-- What cannot go on a name or a numeral and does not open arguments. -/
def Apart (rest : List Char) : Prop :=
  forall c more, rest = c :: more -> Reader.isNameChar c = false ∧ c ≠ '('

/-- What cannot go on the core in front of it: a name ends only where nothing more of a name and no
parenthesis follows, a numeral where no digit does, and every other core has an end of its own. -/
structure Leaves (core rest : List Char) : Prop where
  name : IsName core -> Apart rest
  numeral : forall value, Numeral core value -> Stops Text.isDigit rest

/-- The characters that a term can start with. -/
def Opens (c : Char) : Prop :=
  c = '[' ∨ c = '(' ∨ c = '"' ∨ c = '-' ∨ c.isDigit = true ∨ IsNameStart c

/-- The numbers of the characters that are blank. -/
theorem isBlank_iff (c : Char) :
    Text.isBlank c = true <->
      (9 ≤ c.toNat ∧ c.toNat ≤ 13) ∨ c.toNat = 32 ∨ 133 ≤ c.toNat ∧ Text.isBlank c = true := by
  unfold Text.isBlank
  simp only [Bool.or_eq_true, Bool.and_eq_true, decide_eq_true_eq, beq_iff_eq]
  omega

theorem toNat_le_of_isNameChar {c : Char} (part : Reader.isNameChar c = true) :
    c.toNat = 39 ∨ c.toNat = 45 ∨ 48 ≤ c.toNat ∧ c.toNat ≤ 122 := by
  have named := (isNameChar_iff c).mp part
  unfold IsNamePart at named
  simp only [Char.isAlphanum, isAlpha_iff, Char.isDigit, Char.le_def,
    Bool.or_eq_true, Bool.and_eq_true, decide_eq_true_eq, UInt32.le_iff_toNat_le,
    ge_iff_le] at named
  have number : c.val.toNat = c.toNat := rfl
  rw [number] at named
  change ((((65 ≤ c.toNat ∧ c.toNat ≤ 90) ∨ (97 ≤ c.toNat ∧ c.toNat ≤ 122)) ∨
    (48 ≤ c.toNat ∧ c.toNat ≤ 57)) ∨ c = '_' ∨ c = '-' ∨ c = '\'') at named
  rcases named with ((upper | lower) | digit) | rfl | rfl | rfl
  · omega
  · omega
  · omega
  · decide
  · decide
  · decide

theorem apart_of_isBlank {c : Char} (blank : Text.isBlank c = true) :
    Reader.isNameChar c = false ∧ c ≠ '(' := by
  have low := (isBlank_iff c).mp blank
  constructor
  · apply Bool.eq_false_iff.mpr
    intro part
    have high := toNat_le_of_isNameChar part
    omega
  · rintro rfl
    revert blank
    decide

theorem apart_of_isMark {c : Char} (mark : IsMark c) :
    Reader.isNameChar c = false ∧ c ≠ '(' := by
  rcases mark with rfl | rfl | rfl | rfl | rfl <;> decide

theorem isBlank_of_isMark {c : Char} (mark : IsMark c) : Text.isBlank c = false := by
  rcases mark with rfl | rfl | rfl | rfl | rfl <;> decide

theorem Opens.sign_or_nameChar {c : Char} (opens : Opens c) :
    c = '[' ∨ c = '(' ∨ c = '"' ∨ Reader.isNameChar c = true := by
  rcases opens with bracket | parenthesis | quote | hyphen | digit | start
  · exact Or.inl bracket
  · exact Or.inr (Or.inl parenthesis)
  · exact Or.inr (Or.inr (Or.inl quote))
  · exact Or.inr (Or.inr (Or.inr ((isNameChar_iff c).mpr (Or.inr (Or.inr (Or.inl hyphen))))))
  · have part : IsNamePart c := Or.inl (by simp [Char.isAlphanum, digit])
    exact Or.inr (Or.inr (Or.inr ((isNameChar_iff c).mpr part)))
  · have part : Reader.isNameChar c = true := by
      simp [Reader.isNameChar, (isNameStart_iff c).mpr start]
    exact Or.inr (Or.inr (Or.inr part))

/-- What starts a name starts nothing else. -/
theorem IsNameStart.not_token {c : Char} (start : IsNameStart c) :
    c ≠ '[' ∧ c ≠ '(' ∧ c ≠ '"' ∧ c ≠ '-' ∧ Text.isDigit c = false := by
  have part := (isNameStart_iff c).mpr start
  refine ⟨?_, ?_, ?_, ?_, ?_⟩
  · rintro rfl
    revert part
    decide
  · rintro rfl
    revert part
    decide
  · rintro rfl
    revert part
    decide
  · rintro rfl
    revert part
    decide
  · apply Bool.eq_false_iff.mpr
    intro digit
    simp only [Reader.isNameStart, Text.isDigit, Bool.or_eq_true, Bool.and_eq_true,
      decide_eq_true_eq, beq_iff_eq, Char.le_def, UInt32.le_iff_toNat_le] at part digit
    rcases part with (lower | upper) | rfl
    · exact absurd (lower.1.trans digit.2) (by decide)
    · exact absurd (upper.1.trans digit.2) (by decide)
    · exact absurd digit.2 (by decide)

/-- What starts a term is no blank. -/
theorem Opens.not_blank {c : Char} (opens : Opens c) : Text.isBlank c = false := by
  apply Bool.eq_false_iff.mpr
  intro blank
  rcases opens.sign_or_nameChar with rfl | rfl | rfl | part
  · revert blank; decide
  · revert blank; decide
  · revert blank; decide
  · have apart := (apart_of_isBlank blank).1
    rw [part] at apart
    cases apart

/-- What starts a term is no mark. -/
theorem Opens.not_mark {c : Char} (opens : Opens c) : ¬ IsMark c := by
  intro mark
  have apart := apart_of_isMark mark
  rcases opens.sign_or_nameChar with rfl | rfl | rfl | part
  · rcases mark with same | same | same | same | same <;> cases same
  · exact apart.2 rfl
  · rcases mark with same | same | same | same | same <;> cases same
  · rw [part] at apart
    cases apart.1

/-- Where a text ends or goes on with a mark behind blanks, a term can end. -/
theorem ends_of_mark {blanks : List Char} (blank : Blank blanks) {mark : Char}
    (isMark : IsMark mark) (rest : List Char) : Ends (blanks ++ mark :: rest) := by
  intro c more found
  rw [skipBlank_append blank, Text.skipBlank_cons, isBlank_of_isMark isMark] at found
  injection found with same
  exact same ▸ isMark

theorem ends_of_blank {blanks : List Char} (blank : Blank blanks) : Ends blanks := by
  intro c more found
  rw [skipBlank_of_blank blank] at found
  cases found

/-- Blanks cannot go on a name, nor can what stands behind them. -/
theorem apart_append {blanks rest : List Char} (blank : Blank blanks) (apart : Apart rest) :
    Apart (blanks ++ rest) := by
  intro c more cut
  cases blanks with
  | nil => exact apart c more cut
  | cons first others =>
    injection cut with same
    exact apart_of_isBlank (same ▸ blank first List.mem_cons_self)

/-- What ends a term cannot go on a name. -/
theorem Ends.apart {rest : List Char} (ends : Ends rest) : Apart rest := by
  intro c more cut
  subst cut
  cases blank : Text.isBlank c with
  | true => exact apart_of_isBlank blank
  | false =>
    have found : Text.skipBlank (c :: more) = c :: more := by
      rw [Text.skipBlank_cons, blank]
      rfl
    exact apart_of_isMark (ends c more found)

theorem Apart.stops {rest : List Char} (apart : Apart rest) : Stops Reader.isNameChar rest :=
  fun c more cut => (apart c more cut).1

theorem Apart.stops_digit {rest : List Char} (apart : Apart rest) : Stops Text.isDigit rest := by
  intro c more cut
  have outside := (apart c more cut).1
  simp only [Reader.isNameChar, Bool.or_eq_false_iff] at outside
  exact outside.1.1.2

theorem Apart.leaves {rest : List Char} (apart : Apart rest) (core : List Char) :
    Leaves core rest :=
  ⟨fun _ => apart, fun _ _ => apart.stops_digit⟩

/-! ## The first character -/

/-- A numeral starts with a minus sign or a digit. -/
theorem Numeral.starts {text : List Char} {value : Int} (numeral : Numeral text value) :
    exists c more, text = c :: more ∧ (c = '-' ∨ c.isDigit = true) := by
  cases numeral with
  | plain digits =>
    rcases digits with ⟨notEmpty, areDigits⟩
    cases text with
    | nil => exact absurd rfl notEmpty
    | cons c more => exact ⟨c, more, rfl, Or.inr (areDigits c List.mem_cons_self)⟩
  | negative digits => exact ⟨'-', _, rfl, Or.inl rfl⟩

theorem Numeral.opens {text : List Char} {value : Int} (numeral : Numeral text value) :
    exists c more, text = c :: more ∧ Opens c := by
  rcases numeral.starts with ⟨c, more, cut, hyphen | digit⟩
  · exact ⟨c, more, cut, Or.inr (Or.inr (Or.inr (Or.inl hyphen)))⟩
  · exact ⟨c, more, cut, Or.inr (Or.inr (Or.inr (Or.inr (Or.inl digit))))⟩

theorem IsName.opens {text : List Char} (name : IsName text) :
    exists c more, text = c :: more ∧ Opens c := by
  rcases name with ⟨c, more, rfl, start, _⟩
  exact ⟨c, more, rfl, Or.inr (Or.inr (Or.inr (Or.inr (Or.inr start))))⟩

theorem Core.opens {text : List Char} {term : Term} (core : Core text term) :
    exists c more, text = c :: more ∧ Opens c := by
  cases core with
  | name name => exact name.opens
  | application name arguments =>
    rcases name.opens with ⟨c, more, rfl, opens⟩
    exact ⟨c, _, rfl, opens⟩
  | tuple arguments => exact ⟨'(', _, rfl, Or.inr (Or.inl rfl)⟩
  | emptyList blank => exact ⟨'[', _, rfl, Or.inl rfl⟩
  | list elements back => exact ⟨'[', _, rfl, Or.inl rfl⟩
  | openList elements gap rest back => exact ⟨'[', _, rfl, Or.inl rfl⟩
  | string quoted => exact ⟨'"', _, rfl, Or.inr (Or.inr (Or.inl rfl))⟩
  | integer numeral long => exact numeral.opens

/-- A core is found behind the blanks in front of it. -/
theorem Core.skipBlank {text : List Char} {term : Term} (core : Core text term)
    {before : List Char} (front : Blank before) (rest : List Char) :
    Text.skipBlank (before ++ (text ++ rest)) = text ++ rest := by
  rcases core.opens with ⟨c, more, rfl, opens⟩
  rw [skipBlank_append front, List.cons_append, Text.skipBlank_cons, opens.not_blank]
  rfl

theorem Core.length_pos {text : List Char} {term : Term} (core : Core text term) :
    0 < text.length := by
  rcases core.opens with ⟨c, more, rfl, _⟩
  exact Nat.succ_pos _

theorem Spelling.length_pos {text : List Char} {term : Term} (spelled : Spelling text term) :
    0 < text.length := by
  cases spelled with
  | plain front core back =>
    have positive := core.length_pos
    simp only [List.length_append]
    omega
  | annotated front core back annotations =>
    have positive := core.length_pos
    simp only [List.length_append]
    omega

/-- Where a term is spelled, no mark is found. -/
theorem Spelling.eat?_eq_none {text : List Char} {term : Term} (spelled : Spelling text term)
    {mark : Char} (isMark : IsMark mark) (rest : List Char) :
    Reader.eat? mark (text ++ rest) = none := by
  have noMark : forall left, Text.skipBlank (text ++ rest) ≠ mark :: left := by
    intro left found
    cases spelled with
    | plain front core back =>
      rw [List.append_assoc, List.append_assoc, core.skipBlank front] at found
      rcases core.opens with ⟨c, more, rfl, opens⟩
      injection found with same
      exact opens.not_mark (same ▸ isMark)
    | annotated front core back annotations =>
      rw [List.append_assoc, List.append_assoc, core.skipBlank front] at found
      rcases core.opens with ⟨c, more, rfl, opens⟩
      injection found with same
      exact opens.not_mark (same ▸ isMark)
  cases eaten : Reader.eat? mark (text ++ rest) with
  | none => rfl
  | some left => exact absurd (eat?_eq_some_iff.mp eaten) (noMark left)

theorem Row.eat?_eq_none {text : List Char} {terms : List Term} (row : Row text terms)
    {mark : Char} (isMark : IsMark mark) (rest : List Char) :
    Reader.eat? mark (text ++ rest) = none := by
  cases row with
  | one spelled => exact spelled.eat?_eq_none isMark rest
  | more spelled gap others =>
    rw [List.append_assoc]
    exact spelled.eat?_eq_none isMark _

theorem ListBody.eat?_eq_none {inside : List Char} {term : Term} (body : ListBody inside term)
    {mark : Char} (isMark : IsMark mark) (rest : List Char) :
    Reader.eat? mark (inside ++ rest) = none := by
  cases body with
  | known elements back =>
    rw [List.append_assoc]
    exact elements.eat?_eq_none isMark _
  | opened elements gap more back =>
    rw [List.append_assoc]
    exact elements.eat?_eq_none isMark _

/-! ## Tokens -/

theorem unescape?_of_escape {c d : Char} (escape : Escape c d) :
    Reader.unescape? c = some d := by
  cases escape <;> rfl

theorem stringFrom_plain {c : Char} (notQuote : c ≠ '"') (notBackslash : c ≠ '\\')
    (front rest : List Char) :
    Reader.stringFrom front (c :: rest) = Reader.stringFrom (c :: front) rest := by
  rw [Reader.stringFrom]
  · exact notQuote
  · intro isBackslash
    exact absurd isBackslash notBackslash
  · intro other others isBackslash
    exact absurd isBackslash notBackslash

theorem stringFrom_escaped {c d : Char} (escape : Escape c d) (front rest : List Char) :
    Reader.stringFrom front ('\\' :: c :: rest) = Reader.stringFrom (d :: front) rest := by
  rw [Reader.stringFrom, unescape?_of_escape escape]

theorem stringFrom_of_quoted {inside value : List Char} (quoted : Quoted inside value)
    (front rest : List Char) :
    Reader.stringFrom front (inside ++ '"' :: rest) = .ok (front.reverse ++ value, rest) := by
  induction quoted generalizing front with
  | empty => simp [Reader.stringFrom]
  | plain notQuote notBackslash more inductionHypothesis =>
    rw [List.cons_append, stringFrom_plain notQuote notBackslash, inductionHypothesis]
    simp
  | escaped escape more inductionHypothesis =>
    rw [List.cons_append, List.cons_append, stringFrom_escaped escape, inductionHypothesis]
    simp

theorem isDigit_of_isDigits {text : List Char} (digits : IsDigits text) :
    forall c, c ∈ text -> Text.isDigit c = true :=
  fun c member => (isDigit_iff c).mpr (digits.2 c member)

/-- A numeral goes on with the digits that follow it. -/
theorem numeral_append {text : List Char} {value : Int} (spelled : Numeral text value)
    (rest : List Char) :
    exists negative digits,
      Reader.numeral (text ++ rest) = (negative, digits ++ rest.takeWhile Text.isDigit,
        rest.dropWhile Text.isDigit) ∧
      digits ≠ [] ∧ value = signedValue negative digits := by
  cases spelled with
  | plain digits =>
    refine ⟨false, text, ?_, digits.1, rfl⟩
    have notSigned : forall more, text ++ rest ≠ '-' :: more := by
      intro more cut
      rcases digits with ⟨notEmpty, areDigits⟩
      cases text with
      | nil => exact notEmpty rfl
      | cons c others =>
        injection cut with same
        subst same
        exact absurd (areDigits '-' List.mem_cons_self) (by decide)
    unfold Reader.numeral
    split
    · next more cut => exact absurd cut (notSigned more)
    · rw [List.takeWhile_append_of_pos (isDigit_of_isDigits digits),
        List.dropWhile_append_of_pos (isDigit_of_isDigits digits)]
  | @negative body digits =>
    refine ⟨true, body, ?_, digits.1, rfl⟩
    rw [List.cons_append, Reader.numeral,
      List.takeWhile_append_of_pos (isDigit_of_isDigits digits),
      List.dropWhile_append_of_pos (isDigit_of_isDigits digits)]

theorem integer_append {text rest : List Char} {value : Int} (spelled : Numeral text value)
    (long : IsLong value) (stops : Stops Text.isDigit rest) :
    Reader.integer (text ++ rest) = .ok (.int value, rest) := by
  rcases numeral_append spelled rest with ⟨negative, digits, cut, notEmpty, same⟩
  have read : Text.long? negative digits = .ok value :=
    long?_eq_ok_iff.mpr ⟨notEmpty, same, long⟩
  rw [stops.takeWhile, stops.dropWhile, List.append_nil] at cut
  unfold Reader.integer
  rw [cut]
  simp only [read]

/-! ## Terms -/

/-- Within a bound, the five readers that call each other take what is spelled. -/
structure ReadsFully (bound : Nat) : Prop where
  term : forall text found rest, Spelling text found -> 4 * text.length ≤ bound -> Ends rest ->
    exists left, Reader.term bound (text ++ rest) = .ok (found, left) ∧
      Text.skipBlank left = Text.skipBlank rest
  bare : forall text found rest, Core text found -> 4 * text.length ≤ bound + 1 ->
    Leaves text rest -> Reader.bare bound (text ++ rest) = .ok (found, rest)
  arguments : forall close inside found rest, IsMark close -> close ≠ ',' ->
    Arguments inside found -> 4 * inside.length + 2 ≤ bound ->
      Reader.arguments bound close (inside ++ close :: rest) = .ok (found, rest)
  terms : forall close inside after found rest, IsMark close -> close ≠ ',' ->
    Row inside found -> Blank after -> 4 * inside.length + 1 ≤ bound ->
      Reader.terms bound close (inside ++ (after ++ close :: rest)) = .ok (found, rest)
  elements : forall inside found rest, ListBody inside found -> 4 * inside.length + 1 ≤ bound ->
    Reader.elements bound (inside ++ ']' :: rest) = .ok (found, rest)

/-- The three ways that the body of a list can go on behind its first element. -/
inductive ListStep : List Char -> Term -> Prop
  | last (spelled : Spelling text first) (back : Blank after) :
      ListStep (text ++ after) (.known [first])
  | tail (spelled : Spelling text first) (gap : Blank between) (rest : Spelling more tail)
      (back : Blank after) :
      ListStep (text ++ (between ++ '|' :: (more ++ after))) (.cons first tail)
  | next (spelled : Spelling text first) (gap : Blank between) (others : ListBody inside rest) :
      ListStep (text ++ (between ++ ',' :: inside)) (.cons first rest)

theorem ListBody.step {inside : List Char} {term : Term} (body : ListBody inside term) :
    ListStep inside term := by
  cases body with
  | known elements back =>
    cases elements with
    | one spelled => exact .last spelled back
    | more spelled gap others =>
      have step := ListStep.next spelled gap (.known others back)
      rw [cons_known] at step
      simpa only [List.append_assoc, List.cons_append] using step
  | opened elements gap rest back =>
    cases elements with
    | one spelled => exact .tail spelled gap rest back
    | more spelled between others =>
      have step := ListStep.next spelled between (.opened others gap rest back)
      simpa only [List.append_assoc, List.cons_append, List.foldr_cons] using step

/-- A mark is found behind the blanks in front of it. -/
theorem skipBlank_mark {blanks : List Char} (blank : Blank blanks) {mark : Char}
    (notBlank : Text.isBlank mark = false) (rest : List Char) :
    Text.skipBlank (blanks ++ mark :: rest) = mark :: rest := by
  rw [skipBlank_append blank, Text.skipBlank_cons, notBlank]
  rfl

/-- Where one mark is found, no other is. -/
theorem eat?_eq_none_of_skipBlank {wanted found : Char} {text rest : List Char}
    (skipped : Text.skipBlank text = found :: rest) (different : found ≠ wanted) :
    Reader.eat? wanted text = none := by
  cases eaten : Reader.eat? wanted text with
  | none => rfl
  | some left =>
    have same := eat?_eq_some_iff.mp eaten
    rw [skipped] at same
    injection same with same
    exact absurd same different

namespace ReadsFully

/-- A core is a term where neither more of it nor a brace follows. -/
theorem term_plain {bound : Nat} (full : ReadsFully bound) {before core after : List Char}
    {found : Term} (front : Blank before) (isCore : Core core found) (back : Blank after)
    (enough : 4 * core.length ≤ bound + 1) {rest : List Char} (leaves : Leaves core (after ++ rest))
    (noBrace : forall inside, Text.skipBlank rest ≠ '{' :: inside) :
    Reader.term (bound + 1) (before ++ (core ++ after) ++ rest) =
      .ok (found, Text.skipBlank rest) := by
  have read := full.bare core found (after ++ rest) isCore enough leaves
  have skipped : Text.skipBlank (after ++ rest) = Text.skipBlank rest :=
    skipBlank_append back rest
  rw [Reader.term, List.append_assoc, List.append_assoc, isCore.skipBlank front]
  refine bind_eq_ok_iff.mpr ⟨_, read, ?_⟩
  dsimp only
  rw [skipped]
  split
  · next inside opened => exact absurd opened (noBrace inside)
  · rfl

/-- The brace behind a core opens its annotations. -/
theorem term_brace {bound : Nat} (full : ReadsFully bound) {before core after : List Char}
    {found : Term} (front : Blank before) (isCore : Core core found) (back : Blank after)
    (enough : 4 * core.length ≤ bound + 1) (inside : List Char) :
    Reader.term (bound + 1) (before ++ (core ++ (after ++ '{' :: inside))) = (do
      let (_, rest) ← Reader.arguments bound '}' inside
      return (found, rest)) := by
  have apart : Apart ('{' :: inside) := by
    intro c more cut
    injection cut with same
    subst same
    decide
  have read := full.bare core found (after ++ '{' :: inside) isCore enough
    ((apart_append back apart).leaves core)
  rw [Reader.term, isCore.skipBlank front, read, ok_bind]
  dsimp only
  rw [skipBlank_mark back (by decide)]
  rfl

theorem term_annotated {bound : Nat} (full : ReadsFully bound)
    {before core after inside : List Char} {found : Term} {terms : List Term}
    (front : Blank before) (isCore : Core core found) (back : Blank after)
    (annotations : Arguments inside terms)
    (enough : 4 * (core.length + inside.length) + 2 ≤ bound) (rest : List Char) :
    Reader.term (bound + 1) (before ++ (core ++ (after ++ '{' :: (inside ++ ['}']))) ++ rest) =
      .ok (found, rest) := by
  have readInside := full.arguments '}' inside terms rest (by unfold IsMark; decide)
    (by decide) annotations (by omega)
  simp only [List.append_assoc, List.cons_append, List.nil_append]
  rw [full.term_brace front isCore back (by omega)]
  exact bind_eq_ok_iff.mpr ⟨_, readInside, rfl⟩

theorem term_succ {bound : Nat} (full : ReadsFully bound) (text : List Char) (found : Term)
    (rest : List Char) (spelled : Spelling text found) (enough : 4 * text.length ≤ bound + 1)
    (ends : Ends rest) :
    exists left, Reader.term (bound + 1) (text ++ rest) = .ok (found, left) ∧
      Text.skipBlank left = Text.skipBlank rest := by
  cases spelled with
  | @plain before core _ after front isCore back =>
    simp only [List.length_append] at enough
    have noBrace : forall inside, Text.skipBlank rest ≠ '{' :: inside := by
      intro inside opened
      exact absurd (ends _ _ opened) (by unfold IsMark; decide)
    exact ⟨_, full.term_plain front isCore back (by omega)
      ((apart_append back ends.apart).leaves core) noBrace, List.dropWhile_idempotent _ _⟩
  | @annotated before core _ after inside terms front isCore back annotations =>
    simp only [List.length_append, List.length_cons, List.length_nil] at enough
    have positive := isCore.length_pos
    exact ⟨rest, full.term_annotated front isCore back annotations (by omega) rest, rfl⟩

end ReadsFully

/-- From a character that starts a name on, a name is read, and arguments if a parenthesis
follows it at once. -/
theorem bare_of_isNameStart {bound : Nat} {c : Char} (start : IsNameStart c) (rest : List Char) :
    Reader.bare (bound + 1) (c :: rest) =
      match (c :: rest).dropWhile Reader.isNameChar with
      | '(' :: inside => do
          let (children, left) ← Reader.arguments bound ')' inside
          return (.appl (String.ofList ((c :: rest).takeWhile Reader.isNameChar)) children, left)
      | left => .ok (.appl (String.ofList ((c :: rest).takeWhile Reader.isNameChar)) [], left) := by
  rcases start.not_token with ⟨notBracket, notParenthesis, notQuote, notHyphen, notDigit⟩
  rw [Reader.bare, if_neg notBracket, if_neg notParenthesis, if_neg notQuote]
  have notSigned : ¬ (decide (c = '-') || Text.isDigit c) = true := by simp [notHyphen, notDigit]
  exact (if_neg notSigned).trans (if_pos ((isNameStart_iff c).mpr start))

/-- A name that nothing goes on is a term without children. -/
theorem bare_name {bound : Nat} {text : List Char} (name : IsName text) {rest : List Char}
    (apart : Apart rest) :
    Reader.bare (bound + 1) (text ++ rest) = .ok (.appl (String.ofList text) [], rest) := by
  have taken := takeWhile_of_stops name.all_nameChar apart.stops
  have dropped := dropWhile_of_stops name.all_nameChar apart.stops
  rcases name with ⟨c, more, rfl, start, _⟩
  rw [List.cons_append] at taken dropped ⊢
  rw [bare_of_isNameStart start, taken, dropped]
  split
  · exact absurd rfl (apart '(' _ rfl).2
  · rfl

/-- A name goes with the arguments that follow it at once. -/
theorem bare_application {bound : Nat} {text : List Char} (name : IsName text)
    (inside : List Char) :
    Reader.bare (bound + 1) (text ++ '(' :: inside) = (do
      let (children, rest) ← Reader.arguments bound ')' inside
      return (.appl (String.ofList text) children, rest)) := by
  have stops : Stops Reader.isNameChar ('(' :: inside) := by
    intro c more cut
    injection cut with same
    subst same
    decide
  have taken := takeWhile_of_stops name.all_nameChar stops
  have dropped := dropWhile_of_stops name.all_nameChar stops
  rcases name with ⟨c, more, rfl, start, _⟩
  rw [List.cons_append] at taken dropped ⊢
  rw [bare_of_isNameStart start, taken, dropped]
  rfl

/-- From a minus sign or a digit on, an integer is read. -/
theorem bare_of_signed {bound : Nat} {c : Char} (signed : c = '-' ∨ c.isDigit = true)
    (rest : List Char) :
    Reader.bare (bound + 1) (c :: rest) = Reader.integer (c :: rest) := by
  have notBracket : c ≠ '[' := by
    rintro rfl
    revert signed
    decide
  have notParenthesis : c ≠ '(' := by
    rintro rfl
    revert signed
    decide
  have notQuote : c ≠ '"' := by
    rintro rfl
    revert signed
    decide
  have isSigned : (decide (c = '-') || Text.isDigit c) = true := by
    rcases signed with hyphen | digit
    · simp [hyphen]
    · simp [(isDigit_iff c).mpr digit]
  rw [Reader.bare, if_neg notBracket, if_neg notParenthesis, if_neg notQuote, if_pos isSigned]

theorem bare_numeral {bound : Nat} {text : List Char} {value : Int} (numeral : Numeral text value)
    (rest : List Char) :
    Reader.bare (bound + 1) (text ++ rest) = Reader.integer (text ++ rest) := by
  rcases numeral.starts with ⟨c, more, rfl, signed⟩
  exact bare_of_signed signed (more ++ rest)

/-! ## What follows a first term -/

section

variable {bound : Nat} {text rest others : List Char} {first : Term}

/-- Behind a comma the other terms are read. -/
theorem terms_comma {close : Char} (read : Reader.term bound text = .ok (first, rest))
    (comma : Text.skipBlank rest = ',' :: others) (notComma : close ≠ ',') :
    Reader.terms (bound + 1) close text = (do
      let (more, left) ← Reader.terms bound close others
      return (first :: more, left)) := by
  rw [Reader.terms, read, ok_bind]
  simp only [eat?_eq_none_of_skipBlank comma notComma.symm, take_eq_ok_iff.mpr comma, ok_bind]

/-- Behind a comma the other elements are read. -/
theorem elements_comma (read : Reader.term bound text = .ok (first, rest))
    (comma : Text.skipBlank rest = ',' :: others) :
    Reader.elements (bound + 1) text = (do
      let (more, left) ← Reader.elements bound others
      return (.cons first more, left)) := by
  have notClosed : Reader.eat? ']' rest = none := eat?_eq_none_of_skipBlank comma (by decide)
  have notBarred : Reader.eat? '|' rest = none := eat?_eq_none_of_skipBlank comma (by decide)
  rw [Reader.elements, read, ok_bind]
  simp only [notClosed, notBarred, take_eq_ok_iff.mpr comma, ok_bind]

/-- Behind a bar the tail is read, and the bracket. -/
theorem elements_bar (read : Reader.term bound text = .ok (first, rest))
    (bar : Text.skipBlank rest = '|' :: others) :
    Reader.elements (bound + 1) text = (do
      let (tail, behind) ← Reader.term bound others
      let left ← Reader.take ']' behind
      return (.cons first tail, left)) := by
  have notClosed : Reader.eat? ']' rest = none := eat?_eq_none_of_skipBlank bar (by decide)
  rw [Reader.elements, read, ok_bind]
  simp only [notClosed, eat?_eq_some_iff.mpr bar]

end

namespace ReadsFully

/-- A list that is not empty is read as its body. -/
theorem bare_list {bound : Nat} (full : ReadsFully bound) {inside : List Char} {found : Term}
    (body : ListBody inside found) (enough : 4 * inside.length + 1 ≤ bound) (rest : List Char) :
    Reader.bare (bound + 1) ('[' :: (inside ++ ']' :: rest)) = .ok (found, rest) := by
  have notClosed : Reader.eat? ']' (inside ++ ']' :: rest) = none :=
    body.eat?_eq_none (by unfold IsMark; decide) _
  rw [Reader.bare, if_pos rfl]
  simp only [notClosed]
  exact full.elements inside found rest body enough

theorem bare_succ {bound : Nat} (full : ReadsFully bound) (text : List Char) (found : Term)
    (rest : List Char) (core : Core text found) (enough : 4 * text.length ≤ bound + 1 + 1)
    (leaves : Leaves text rest) :
    Reader.bare (bound + 1) (text ++ rest) = .ok (found, rest) := by
  cases core with
  | name name => exact bare_name name (leaves.name name)
  | @application _ inside children name arguments =>
    simp only [List.length_append, List.length_cons, List.length_nil] at enough
    have readInside := full.arguments ')' inside children rest (by unfold IsMark; decide)
      (by decide) arguments (by omega)
    simp only [List.append_assoc, List.cons_append, List.nil_append]
    rw [bare_application name]
    exact bind_eq_ok_iff.mpr ⟨_, readInside, rfl⟩
  | @tuple inside children arguments =>
    simp only [List.length_append, List.length_cons, List.length_nil] at enough
    have readInside := full.arguments ')' inside children rest (by unfold IsMark; decide)
      (by decide) arguments (by omega)
    rw [List.cons_append, List.append_assoc, Reader.bare]
    exact bind_eq_ok_iff.mpr ⟨_, readInside, rfl⟩
  | @emptyList inside blank =>
    have closed : Reader.eat? ']' (inside ++ ']' :: rest) = some rest :=
      eat?_eq_some_iff.mpr (skipBlank_mark blank (by decide) rest)
    rw [List.cons_append, List.append_assoc, List.cons_append, List.nil_append, Reader.bare]
    simp only [if_true, closed]
  | @list inside elems after elements back =>
    have read := full.bare_list (.known elements back) (by simp at enough ⊢; omega) rest
    simpa only [List.append_assoc, List.cons_append, List.nil_append] using read
  | @openList inside elems between more tail after elements gap others back =>
    have read := full.bare_list (.opened elements gap others back)
      (by simp at enough ⊢; omega) rest
    simpa only [List.append_assoc, List.cons_append, List.nil_append] using read
  | @string inside value quoted =>
    have read := stringFrom_of_quoted quoted [] rest
    rw [List.cons_append, List.append_assoc, List.cons_append, List.nil_append, Reader.bare]
    exact bind_eq_ok_iff.mpr ⟨_, read, rfl⟩
  | @integer _ value numeral long =>
    rw [bare_numeral numeral]
    exact integer_append numeral long (leaves.numeral value numeral)

theorem arguments_succ {bound : Nat} (full : ReadsFully bound) (close : Char)
    (inside : List Char) (found : List Term) (rest : List Char) (isMark : IsMark close)
    (notComma : close ≠ ',') (spelled : Arguments inside found)
    (enough : 4 * inside.length + 2 ≤ bound + 1) :
    Reader.arguments (bound + 1) close (inside ++ close :: rest) = .ok (found, rest) := by
  cases spelled with
  | none blank =>
    have closed : Reader.eat? close (inside ++ close :: rest) = some rest :=
      eat?_eq_some_iff.mpr (skipBlank_mark blank (isBlank_of_isMark isMark) rest)
    rw [Reader.arguments, closed]
  | @some row _ after terms back =>
    have notClosed : Reader.eat? close (row ++ (after ++ close :: rest)) = none :=
      terms.eat?_eq_none isMark _
    simp only [List.length_append] at enough
    rw [List.append_assoc, Reader.arguments, notClosed]
    exact full.terms close row after found rest isMark notComma terms back (by omega)

theorem terms_succ {bound : Nat} (full : ReadsFully bound) (close : Char)
    (inside after : List Char) (found : List Term) (rest : List Char) (isMark : IsMark close)
    (notComma : close ≠ ',') (row : Row inside found) (back : Blank after)
    (enough : 4 * inside.length + 1 ≤ bound + 1) :
    Reader.terms (bound + 1) close (inside ++ (after ++ close :: rest)) = .ok (found, rest) := by
  cases row with
  | @one _ first spelled =>
    rcases full.term inside first (after ++ close :: rest) spelled (by omega)
      (ends_of_mark back isMark rest) with ⟨left, read, skipped⟩
    have closed : Reader.eat? close left = some rest := by
      rw [eat?_eq_some_iff, skipped]
      exact skipBlank_mark back (isBlank_of_isMark isMark) rest
    rw [Reader.terms]
    refine bind_eq_ok_iff.mpr ⟨_, read, ?_⟩
    simp only [closed]
    rfl
  | @more text first between others terms spelled gap row =>
    simp only [List.length_append, List.length_cons] at enough
    have isComma : IsMark ',' := Or.inl rfl
    rcases full.term text first (between ++ ',' :: (others ++ (after ++ close :: rest))) spelled
      (by omega) (ends_of_mark gap isComma _) with ⟨left, read, skipped⟩
    have comma := skipBlank_mark gap (isBlank_of_isMark isComma)
      (others ++ (after ++ close :: rest))
    rw [← skipped] at comma
    have readOthers := full.terms close others after terms rest isMark notComma row back
      (by omega)
    simp only [List.append_assoc, List.cons_append]
    rw [terms_comma read comma notComma]
    exact bind_eq_ok_iff.mpr ⟨_, readOthers, rfl⟩

theorem elements_succ {bound : Nat} (full : ReadsFully bound) (inside : List Char)
    (found : Term) (rest : List Char) (body : ListBody inside found)
    (enough : 4 * inside.length + 1 ≤ bound + 1) :
    Reader.elements (bound + 1) (inside ++ ']' :: rest) = .ok (found, rest) := by
  have isBracket : IsMark ']' := by unfold IsMark; decide
  have isBar : IsMark '|' := by unfold IsMark; decide
  have isComma : IsMark ',' := Or.inl rfl
  cases body.step with
  | @last text first after spelled back =>
    simp only [List.length_append] at enough
    rcases full.term text first (after ++ ']' :: rest) spelled (by omega)
      (ends_of_mark back isBracket rest) with ⟨left, read, skipped⟩
    have closed : Reader.eat? ']' left = some rest := by
      rw [eat?_eq_some_iff, skipped]
      exact skipBlank_mark back (isBlank_of_isMark isBracket) rest
    rw [List.append_assoc, Reader.elements]
    refine bind_eq_ok_iff.mpr ⟨_, read, ?_⟩
    simp only [closed]
    rfl
  | @tail text first between more tail after spelled gap others back =>
    simp only [List.length_append, List.length_cons] at enough
    rcases full.term text first (between ++ '|' :: (more ++ (after ++ ']' :: rest))) spelled
      (by omega) (ends_of_mark gap isBar _) with ⟨left, read, skipped⟩
    have bar := skipBlank_mark gap (isBlank_of_isMark isBar) (more ++ (after ++ ']' :: rest))
    rw [← skipped] at bar
    rcases full.term more tail (after ++ ']' :: rest) others (by omega)
      (ends_of_mark back isBracket rest) with ⟨behind, readTail, skippedTail⟩
    have closed : Reader.take ']' behind = .ok rest := by
      rw [take_eq_ok_iff, skippedTail]
      exact skipBlank_mark back (isBlank_of_isMark isBracket) rest
    simp only [List.append_assoc, List.cons_append]
    rw [elements_bar read bar]
    refine bind_eq_ok_iff.mpr ⟨_, readTail, ?_⟩
    exact bind_eq_ok_iff.mpr ⟨_, closed, rfl⟩
  | @next text first between others more spelled gap bodyMore =>
    simp only [List.length_append, List.length_cons] at enough
    rcases full.term text first (between ++ ',' :: (others ++ ']' :: rest)) spelled
      (by omega) (ends_of_mark gap isComma _) with ⟨left, read, skipped⟩
    have comma := skipBlank_mark gap (isBlank_of_isMark isComma) (others ++ ']' :: rest)
    rw [← skipped] at comma
    have readOthers := full.elements others more rest bodyMore (by omega)
    simp only [List.append_assoc, List.cons_append]
    rw [elements_comma read comma]
    exact bind_eq_ok_iff.mpr ⟨_, readOthers, rfl⟩

theorem all (bound : Nat) : ReadsFully bound := by
  induction bound with
  | zero =>
    refine ⟨?_, ?_, ?_, ?_, ?_⟩
    · intro text found rest spelled enough
      have positive := spelled.length_pos
      omega
    · intro text found rest core enough
      have positive := core.length_pos
      omega
    · intro close inside found rest isMark notComma spelled enough
      omega
    · intro close inside after found rest isMark notComma row back enough
      omega
    · intro inside found rest body enough
      omega
  | succ bound full =>
    exact ⟨full.term_succ, full.bare_succ, full.arguments_succ, full.terms_succ,
      full.elements_succ⟩

end ReadsFully

/-- A text that spells a term is read as that term. -/
theorem parse_of_whole {text : String} {term : Term} (whole : Whole text.toList term) :
    parse text = .ok term := by
  rcases whole with ⟨body, after, cut, spelled, back⟩
  have enough : 4 * body.length ≤ Reader.bound text.toList := by
    rw [cut]
    simp only [Reader.bound, List.length_append]
    omega
  rcases (ReadsFully.all _).term body term after spelled enough (ends_of_blank back) with
    ⟨left, read, skipped⟩
  rw [skipBlank_of_blank back, ← cut] at *
  have readChars : Reader.whole text.toList = .ok term := by
    unfold Reader.whole
    refine bind_eq_ok_iff.mpr ⟨_, read, ?_⟩
    simp only [skipped]
    rfl
  unfold parse
  rw [readChars]

/-- Although the grammar prefers no way to cut a text, a text spells one term at most. -/
theorem Whole.unique {text : List Char} {first second : Term} (one : Whole text first)
    (other : Whole text second) : first = second := by
  have readOne : parse (String.ofList text) = .ok first := parse_of_whole (by simpa using one)
  have readOther : parse (String.ofList text) = .ok second := parse_of_whole (by simpa using other)
  exact Except.ok.inj (readOne.symm.trans readOther)

end Grammar

/-- The reader accepts exactly the texts of the grammar, and answers with what they spell. -/
theorem parse_eq_ok_iff_whole (text : String) (term : Term) :
    parse text = .ok term <-> Grammar.Whole text.toList term :=
  ⟨Grammar.whole_of_parse, Grammar.parse_of_whole⟩

end Term
end BaseLanguage
