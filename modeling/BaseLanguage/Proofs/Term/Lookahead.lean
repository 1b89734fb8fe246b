import BaseLanguage.Proofs.Term.Completeness

namespace BaseLanguage
namespace Term
namespace Grammar

/-!
# One character of lookahead

A reader that succeeds has looked at what it took and at one character more.  So it takes the
same front of every text that goes on with the same character, and what stands behind that
character never matters.  For a term this needs the whole way that it was spelled: a name or a
numeral ends where the next character does not go on with it, and a term without annotations ends
where no brace follows.

The second half is about fronts of a text that show what is found behind its blanks.  A mark that
is not found in the text is not found in any text with such a front either.
-/

/-! ## What does not go on with a core -/

theorem Stops.of_head? {isMember : Char -> Bool} {rest other : List Char}
    (stops : Stops isMember rest) (same : other.head? = rest.head?) : Stops isMember other := by
  rintro c more rfl
  rcases List.head?_eq_some_iff.mp same.symm with ⟨others, cut⟩
  exact stops c others cut

theorem Apart.of_head? {rest other : List Char} (apart : Apart rest)
    (same : other.head? = rest.head?) : Apart other := by
  rintro c more rfl
  rcases List.head?_eq_some_iff.mp same.symm with ⟨others, cut⟩
  exact apart c others cut

theorem Leaves.of_head? {core rest other : List Char} (leaves : Leaves core rest)
    (same : other.head? = rest.head?) : Leaves core other :=
  ⟨fun name => (leaves.name name).of_head? same,
    fun value numeral => (leaves.numeral value numeral).of_head? same⟩

/-- Where a name alone is read, nothing that goes on with it follows. -/
theorem apart_of_bare {bound : Nat} {text left : List Char} {found : Term} (name : IsName text)
    (read : Reader.bare (bound + 1) (text ++ left) = .ok (found, left)) : Apart left := by
  have dropped : (text ++ left).dropWhile Reader.isNameChar = left.dropWhile Reader.isNameChar :=
    List.dropWhile_append_of_pos name.all_nameChar
  have shorter := (List.dropWhile_sublist Reader.isNameChar (l := left)).length_le
  rcases name with ⟨c, more, rfl, start, _⟩
  rw [List.cons_append] at read dropped
  rw [bare_of_isNameStart start, dropped] at read
  split at read
  · -- Arguments would leave less than what follows the name.
    next inside opened =>
      rcases bind_eq_ok_iff.mp read with ⟨⟨children, others⟩, readInside, read⟩
      cases read
      rcases (ReadsSoundly.all _).arguments _ _ _ _ readInside with ⟨arguments, cut, _⟩
      rw [opened, cut] at shorter
      simp only [List.length_cons, List.length_append] at shorter
      omega
  · next notOpened =>
      injection read with same
      injection same with _ same
      intro d others cut
      refine ⟨Stops.of_dropWhile same d others cut, ?_⟩
      rintro rfl
      exact notOpened others (same.trans cut)

/-- Where a numeral alone is read, no digit follows. -/
theorem stops_of_bare {bound : Nat} {text left : List Char} {found : Term} {value : Int}
    (numeral : Numeral text value)
    (read : Reader.bare (bound + 1) (text ++ left) = .ok (found, left)) :
    Stops Text.isDigit left := by
  rcases numeral_append numeral left with ⟨negative, digits, cut, _, _⟩
  rw [bare_numeral numeral, Reader.integer, cut] at read
  dsimp only at read
  split at read
  · injection read with same
    injection same with _ same
    exact Stops.of_dropWhile same
  · cases read

theorem leaves_of_bare {bound : Nat} {text left : List Char} {found : Term}
    (read : Reader.bare bound (text ++ left) = .ok (found, left)) : Leaves text left := by
  cases bound with
  | zero => simp [Reader.bare] at read
  | succ bound =>
    exact ⟨fun name => apart_of_bare name read, fun _ numeral => stops_of_bare numeral read⟩

/-! ## Terms -/

/-- Blanks are not skipped twice. -/
theorem skipBlank_of_head? {text other : List Char}
    (same : other.head? = (Text.skipBlank text).head?) : Text.skipBlank other = other := by
  have stops : Stops Text.isBlank (Text.skipBlank text) := stops_dropWhile Text.isBlank text
  exact (stops.of_head? same).dropWhile

/-- A term that is read spells what it took, and the same is read from every text that goes on with
the same character behind it. -/
theorem term_lookahead {bound : Nat} {text rest : List Char} {found : Term}
    (read : Reader.term bound text = .ok (found, rest)) :
    exists body, text = body ++ rest ∧ Spelling body found ∧
      forall more other, 4 * body.length ≤ more -> other.head? = rest.head? ->
        Reader.term more (body ++ other) = .ok (found, other) := by
  cases bound with
  | zero => simp [Reader.term] at read
  | succ bound =>
    rw [Reader.term] at read
    rcases bind_eq_ok_iff.mp read with ⟨⟨term, left⟩, readCore, read⟩
    rcases exists_blank_append text with ⟨before, cut, front⟩
    rcases (ReadsSoundly.all _).bare _ _ _ readCore with ⟨core, cutCore, isCore⟩
    rcases exists_blank_append left with ⟨after, cutLeft, back⟩
    have positive := isCore.length_pos
    dsimp only at read
    split at read
    · next inside opened =>
        rcases bind_eq_ok_iff.mp read with ⟨⟨terms, others⟩, readInside, read⟩
        cases read
        rcases (ReadsSoundly.all _).arguments _ _ _ _ readInside with
          ⟨notes, cutInside, annotations⟩
        refine ⟨_, ?_, .annotated front isCore back annotations, ?_⟩
        · rw [cut, cutCore, cutLeft, opened, cutInside]
          simp only [List.append_assoc, List.cons_append, List.nil_append]
        · intro more other enough _
          simp only [List.length_append, List.length_cons, List.length_nil] at enough
          cases more with
          | zero => omega
          | succ more =>
            exact (ReadsFully.all more).term_annotated front isCore back annotations
              (by omega) other
    · next notOpened =>
        cases read
        refine ⟨_, ?_, .plain front isCore back, ?_⟩
        · rw [cut, cutCore, List.append_assoc, List.append_assoc, ← cutLeft]
        · intro more other enough same
          have skipped := skipBlank_of_head? same
          have noBrace : forall inside, Text.skipBlank other ≠ '{' :: inside := by
            intro inside opened
            rw [skipped] at opened
            rw [opened] at same
            rcases List.head?_eq_some_iff.mp same.symm with ⟨others, cut⟩
            exact notOpened others cut
          have leaves : Leaves core (after ++ other) := by
            rw [cutCore] at readCore
            refine (leaves_of_bare readCore).of_head? ?_
            conv => rhs; rw [cutLeft]
            rw [List.head?_append, List.head?_append, same]
          simp only [List.length_append] at enough
          cases more with
          | zero => omega
          | succ more =>
            have readAgain := (ReadsFully.all more).term_plain front isCore back (by omega)
              leaves noBrace
            rw [skipped] at readAgain
            exact readAgain

/-- A term and the mark behind it are found again, whatever follows the mark. -/
theorem term_mark {bound : Nat} {text rest others : List Char} {first : Term} {mark : Char}
    (read : Reader.term bound text = .ok (first, rest))
    (found : Text.skipBlank rest = mark :: others) :
    exists body between, text = (body ++ (between ++ [mark])) ++ others ∧ Spelling body first ∧
      Blank between ∧ forall more behind, 4 * text.length ≤ more -> exists left,
        Reader.term more ((body ++ (between ++ [mark])) ++ behind) = .ok (first, left) ∧
          Text.skipBlank left = mark :: behind := by
  rcases term_lookahead read with ⟨body, cut, spelled, again⟩
  rcases exists_blank_of_skipBlank found with ⟨between, cutRest, gap⟩
  have notBlank : Text.isBlank mark = false := stops_dropWhile Text.isBlank rest mark others found
  refine ⟨body, between, ?_, spelled, gap, ?_⟩
  · rw [cut, cutRest]
    simp only [List.append_assoc, List.singleton_append]
  · intro more behind enough
    rw [cut, List.length_append] at enough
    have same : (between ++ mark :: behind).head? = rest.head? := by
      rw [cutRest, List.head?_append, List.head?_append]
      rfl
    refine ⟨between ++ mark :: behind, ?_, skipBlank_mark gap notBlank behind⟩
    simp only [List.append_assoc, List.singleton_append]
    exact again more _ (by omega) same

/-! ## Fronts that show a character -/

/-- A front of a text that does not end before the first character that is no blank. -/
structure Shows (seen text : List Char) : Prop where
  front : seen <+: text
  visible : Text.skipBlank seen ≠ []

theorem skipBlank_append_of_visible {seen : List Char} (visible : Text.skipBlank seen ≠ [])
    (rest : List Char) : Text.skipBlank (seen ++ rest) = Text.skipBlank seen ++ rest := by
  unfold Text.skipBlank at visible ⊢
  rw [List.dropWhile_append, if_neg (by simpa using visible)]

theorem visible_append {seen : List Char} (visible : Text.skipBlank seen ≠ [])
    (before : List Char) : Text.skipBlank (before ++ seen) ≠ [] := by
  unfold Text.skipBlank at visible ⊢
  rw [List.dropWhile_append]
  split
  · exact visible
  · intro nothing
    rw [(List.append_eq_nil_iff.mp nothing).2] at visible
    exact visible rfl

theorem visible_concat {c : Char} (notBlank : Text.isBlank c = false) (before : List Char) :
    Text.skipBlank (before ++ [c]) ≠ [] :=
  visible_append (by simp [Text.skipBlank_cons, notBlank]) before

namespace Shows

variable {seen text : List Char}

theorem ne_nil (shows : Shows seen text) : seen ≠ [] := by
  rintro rfl
  exact shows.visible rfl

/-- What goes on from the front starts as the text does. -/
theorem head?_append (shows : Shows seen text) (rest : List Char) :
    (seen ++ rest).head? = text.head? := by
  rcases shows.front with ⟨others, rfl⟩
  rw [List.head?_append_of_ne_nil _ shows.ne_nil, List.head?_append_of_ne_nil _ shows.ne_nil]

theorem head?_skipBlank (shows : Shows seen text) (rest : List Char) :
    (Text.skipBlank (seen ++ rest)).head? = (Text.skipBlank text).head? := by
  rcases shows.front with ⟨others, rfl⟩
  rw [skipBlank_append_of_visible shows.visible, skipBlank_append_of_visible shows.visible,
    List.head?_append_of_ne_nil _ shows.visible, List.head?_append_of_ne_nil _ shows.visible]

/-- Behind the blanks of a text there is no blank to skip in front of what a front shows. -/
theorem skipBlank_append (shows : Shows seen (Text.skipBlank text)) (rest : List Char) :
    Text.skipBlank (seen ++ rest) = seen ++ rest :=
  skipBlank_of_head? (shows.head?_append rest)

/-- A mark that a text does not have first is not there whatever follows the front. -/
theorem eat?_eq_none (shows : Shows seen text) {mark : Char}
    (missing : Reader.eat? mark text = none) (rest : List Char) : Reader.eat? mark (seen ++ rest) = none := by
  cases eaten : Reader.eat? mark (seen ++ rest) with
  | none => rfl
  | some left =>
    have same := shows.head?_skipBlank rest
    rw [eat?_eq_some_iff.mp eaten] at same
    rcases List.head?_eq_some_iff.mp same.symm with ⟨others, found⟩
    rw [eat?_eq_some_iff.mpr found] at missing
    cases missing

end Shows

end Grammar
end Term
end BaseLanguage
