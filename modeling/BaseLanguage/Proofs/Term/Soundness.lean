import BaseLanguage.Proofs.Stepwise
import BaseLanguage.Proofs.Term.Grammar

namespace BaseLanguage
namespace Term
namespace Grammar

/-!
# What is read is spelled

Each reader takes a front of the text that spells what it answers with.  The readers of strings
and numerals come first, each with its own statement.  The five readers that call each other have
one statement together, by induction on the bound: what a reader says about its front is put
together from what the readers that it called say about theirs.
-/

/-! ## Tokens -/

theorem unescape?_eq_some {c d : Char} (found : Reader.unescape? c = some d) : Escape c d := by
  unfold Reader.unescape? at found
  split at found
  · next same =>
      subst same
      cases found
      exact .lineFeed
  · split at found
    · next same =>
        subst same
        cases found
        exact .tab
    · split at found
      · next same =>
          subst same
          cases found
          exact .carriageReturn
      · split at found
        · next itself =>
            cases found
            simp only [Bool.or_eq_true, decide_eq_true_eq] at itself
            rcases itself with (rfl | rfl) | rfl
            · exact .quote
            · exact .backslash
            · exact .apostrophe
        · cases found

theorem stringFrom_sound {front text value left : List Char}
    (read : Reader.stringFrom front text = .ok (value, left)) :
    exists inside spelled, text = inside ++ '"' :: left ∧
      value = front.reverse ++ spelled ∧ Quoted inside spelled := by
  fun_induction Reader.stringFrom front text with
  | case1 => cases read
  | case2 front rest =>
    cases read
    exact ⟨[], [], rfl, by simp, .empty⟩
  | case3 => cases read
  | case4 front c rest d found inductionHypothesis =>
    rcases inductionHypothesis read with ⟨inside, spelled, rfl, same, quoted⟩
    refine ⟨'\\' :: c :: inside, d :: spelled, rfl, ?_, .escaped (unescape?_eq_some found) quoted⟩
    simpa using same
  | case5 => cases read
  | case6 front c rest notQuote notBackslash notEscape inductionHypothesis =>
    rcases inductionHypothesis read with ⟨inside, spelled, rfl, same, quoted⟩
    have apart : c ≠ '\\' := by
      intro isBackslash
      cases inside with
      | nil => exact notEscape '"' left isBackslash rfl
      | cons next others => exact notEscape next _ isBackslash rfl
    refine ⟨c :: inside, c :: spelled, rfl, ?_, .plain notQuote apart quoted⟩
    simpa using same

theorem numeral_of_signedValue {negative : Bool} {digits : List Char} (found : IsDigits digits) :
    Numeral (if negative then '-' :: digits else digits) (signedValue negative digits) := by
  cases negative
  · exact .plain found
  · exact .negative found

/-- A numeral is cut into a sign, all the digits behind it, and what is left. -/
theorem numeral_cut (text : List Char) :
    exists negative digits left, Reader.numeral text = (negative, digits, left) ∧
      text = (if negative then '-' :: digits else digits) ++ left ∧
      (forall c, c ∈ digits -> c.isDigit = true) ∧ Stops Text.isDigit left := by
  have areDigits : forall rest c, c ∈ List.takeWhile Text.isDigit rest -> c.isDigit = true := by
    intro rest c member
    exact (isDigit_iff c).mp (List.all_eq_true.mp List.all_takeWhile c member)
  unfold Reader.numeral
  split
  · next rest =>
      refine ⟨true, _, _, rfl, ?_, areDigits rest, stops_dropWhile _ rest⟩
      simp only [if_true, List.cons_append, List.takeWhile_append_dropWhile]
  · refine ⟨false, _, _, rfl, ?_, areDigits text, stops_dropWhile _ text⟩
    simp only [Bool.false_eq_true, if_false, List.takeWhile_append_dropWhile]

theorem integer_sound {text left : List Char} {term : Term}
    (read : Reader.integer text = .ok (term, left)) :
    exists body, text = body ++ left ∧ Core body term := by
  rcases numeral_cut text with ⟨negative, digits, rest, cut, whole, areDigits, _⟩
  unfold Reader.integer at read
  rw [cut] at read
  cases value : Text.long? negative digits with
  | error fault =>
    simp only [value] at read
    cases read
  | ok found =>
    simp only [value, Except.ok.injEq, Prod.mk.injEq] at read
    rcases read with ⟨rfl, rfl⟩
    rcases long?_eq_ok_iff.mp value with ⟨notEmpty, rfl, long⟩
    exact ⟨_, whole, .integer (numeral_of_signedValue ⟨notEmpty, areDigits⟩) long⟩

/-! ## Marks -/

theorem take_eq_ok_iff {wanted : Char} {text left : List Char} :
    Reader.take wanted text = .ok left <-> Text.skipBlank text = wanted :: left := by
  unfold Reader.take
  split
  · next none => simp [none]
  · next c rest found =>
      rw [found]
      split
      · next same => simp [same]
      · next different => simp [different]

theorem eat?_eq_some_iff {wanted : Char} {text left : List Char} :
    Reader.eat? wanted text = some left <-> Text.skipBlank text = wanted :: left := by
  unfold Reader.eat?
  split
  · next none => simp [none]
  · next c rest found =>
      rw [found]
      split
      · next same => simp [same]
      · next different => simp [different]

/-- A mark that is found stands behind blanks. -/
theorem exists_blank_of_skipBlank {text left : List Char} {mark : Char}
    (found : Text.skipBlank text = mark :: left) :
    exists blanks, text = blanks ++ mark :: left ∧ Blank blanks := by
  rcases exists_blank_append text with ⟨blanks, cut, blank⟩
  exact ⟨blanks, found ▸ cut, blank⟩

/-! ## Terms -/

/-- What stands between the brackets of a list that is not empty. -/
inductive ListBody : List Char -> Term -> Prop
  | known (elements : Row inside elems) (back : Blank after) :
      ListBody (inside ++ after) (.known elems)
  | opened (elements : Row inside elems) (gap : Blank between) (rest : Spelling more tail)
      (back : Blank after) :
      ListBody (inside ++ (between ++ '|' :: (more ++ after))) (elems.foldr .cons tail)

theorem ListBody.core {inside : List Char} {term : Term} (body : ListBody inside term) :
    Core ('[' :: (inside ++ [']'])) term := by
  cases body with
  | known elements back =>
    rw [List.append_assoc]
    exact .list elements back
  | opened elements gap rest back =>
    simp only [List.append_assoc, List.cons_append]
    exact .openList elements gap rest back

/-- A list with one more element in front. -/
theorem ListBody.cons {text between inside : List Char} {first term : Term}
    (spelled : Spelling text first) (gap : Blank between) (body : ListBody inside term) :
    ListBody (text ++ (between ++ ',' :: inside)) (.cons first term) := by
  cases body with
  | known elements back =>
    have row := Row.more spelled gap elements
    have longer := ListBody.known row back
    rw [cons_known]
    simpa only [List.append_assoc, List.cons_append] using longer
  | opened elements others rest back =>
    have row := Row.more spelled gap elements
    have longer := ListBody.opened row others rest back
    simpa only [List.append_assoc, List.cons_append, List.foldr_cons] using longer

/-- What the five readers that call each other answer with is what they took. -/
structure ReadsSoundly (bound : Nat) : Prop where
  term : forall text found left, Reader.term bound text = .ok (found, left) ->
    exists body, text = body ++ left ∧ Spelling body found
  bare : forall text found left, Reader.bare bound text = .ok (found, left) ->
    exists body, text = body ++ left ∧ Core body found
  arguments : forall close text found left,
    Reader.arguments bound close text = .ok (found, left) ->
      exists inside, text = inside ++ close :: left ∧ Arguments inside found
  terms : forall close text found left, Reader.terms bound close text = .ok (found, left) ->
    exists inside after, text = inside ++ (after ++ close :: left) ∧ Row inside found ∧ Blank after
  elements : forall text found left, Reader.elements bound text = .ok (found, left) ->
    exists inside, text = inside ++ ']' :: left ∧ ListBody inside found

namespace ReadsSoundly

theorem term_succ {bound : Nat} (sound : ReadsSoundly bound) (text : List Char) (found : Term)
    (left : List Char) (read : Reader.term (bound + 1) text = .ok (found, left)) :
    exists body, text = body ++ left ∧ Spelling body found := by
  rw [Reader.term] at read
  rcases bind_eq_ok_iff.mp read with ⟨⟨core, rest⟩, readCore, read⟩
  rcases exists_blank_append text with ⟨before, cut, front⟩
  rcases sound.bare _ _ _ readCore with ⟨coreText, cutCore, isCore⟩
  rcases exists_blank_append rest with ⟨after, cutRest, back⟩
  dsimp only at read
  split at read
  · next inside opened =>
      rcases bind_eq_ok_iff.mp read with ⟨⟨terms, others⟩, readInside, read⟩
      cases read
      rcases sound.arguments _ _ _ _ readInside with ⟨notes, cutInside, annotations⟩
      refine ⟨before ++ (coreText ++ (after ++ '{' :: (notes ++ ['}']))), ?_,
        .annotated front isCore back annotations⟩
      rw [cut, cutCore, cutRest, opened, cutInside]
      simp only [List.append_assoc, List.cons_append, List.nil_append]
  · cases read
    refine ⟨before ++ (coreText ++ after), ?_, .plain front isCore back⟩
    rw [cut, cutCore, List.append_assoc, List.append_assoc, ← cutRest]

theorem bare_succ {bound : Nat} (sound : ReadsSoundly bound) (text : List Char) (found : Term)
    (left : List Char) (read : Reader.bare (bound + 1) text = .ok (found, left)) :
    exists body, text = body ++ left ∧ Core body found := by
  cases text with
  | nil => simp [Reader.bare] at read
  | cons c rest =>
    rw [Reader.bare] at read
    split at read
    · next isBracket =>
        subst isBracket
        split at read
        · next others closed =>
            cases read
            rcases exists_blank_of_skipBlank (eat?_eq_some_iff.mp closed) with
              ⟨blanks, cut, blank⟩
            refine ⟨'[' :: (blanks ++ [']']), ?_, .emptyList blank⟩
            rw [cut]
            simp only [List.cons_append, List.append_assoc, List.nil_append]
        · rcases sound.elements _ _ _ read with ⟨inside, cut, body⟩
          refine ⟨'[' :: (inside ++ [']']), ?_, body.core⟩
          rw [cut]
          simp only [List.cons_append, List.append_assoc, List.nil_append]
    · split at read
      · next isParenthesis =>
          subst isParenthesis
          rcases bind_eq_ok_iff.mp read with ⟨⟨children, others⟩, readInside, read⟩
          cases read
          rcases sound.arguments _ _ _ _ readInside with ⟨inside, cut, arguments⟩
          refine ⟨'(' :: (inside ++ [')']), ?_, .tuple arguments⟩
          rw [cut]
          simp only [List.cons_append, List.append_assoc, List.nil_append]
      · split at read
        · next isQuote =>
            subst isQuote
            rcases bind_eq_ok_iff.mp read with ⟨⟨value, others⟩, readString, read⟩
            cases read
            rcases stringFrom_sound readString with ⟨inside, spelled, cut, same, quoted⟩
            refine ⟨'"' :: (inside ++ ['"']), ?_, ?_⟩
            · rw [cut]
              simp only [List.cons_append, List.append_assoc, List.nil_append]
            · rw [same]
              exact .string quoted
        · split at read
          · exact integer_sound read
          · split at read
            · next start =>
                have name := isName_takeWhile start rest
                have cut : (c :: rest) = (c :: rest).takeWhile Reader.isNameChar ++
                    (c :: rest).dropWhile Reader.isNameChar :=
                  (List.takeWhile_append_dropWhile).symm
                split at read
                · next inside opened =>
                    rcases bind_eq_ok_iff.mp read with ⟨⟨children, others⟩, readInside, read⟩
                    cases read
                    rcases sound.arguments _ _ _ _ readInside with ⟨body, cutInside, arguments⟩
                    refine ⟨_, ?_, .application name arguments⟩
                    rw [opened, cutInside] at cut
                    refine cut.trans ?_
                    simp only [List.append_assoc, List.cons_append, List.nil_append]
                · cases read
                  exact ⟨_, cut, .name name⟩
            · cases read

theorem arguments_succ {bound : Nat} (sound : ReadsSoundly bound) (close : Char)
    (text : List Char) (found : List Term) (left : List Char)
    (read : Reader.arguments (bound + 1) close text = .ok (found, left)) :
    exists inside, text = inside ++ close :: left ∧ Arguments inside found := by
  rw [Reader.arguments] at read
  split at read
  · next rest closed =>
      cases read
      rcases exists_blank_of_skipBlank (eat?_eq_some_iff.mp closed) with ⟨blanks, cut, blank⟩
      exact ⟨blanks, cut, .none blank⟩
  · rcases sound.terms _ _ _ _ read with ⟨inside, after, cut, row, back⟩
    exact ⟨inside ++ after, by rw [cut, List.append_assoc], .some row back⟩

theorem terms_succ {bound : Nat} (sound : ReadsSoundly bound) (close : Char)
    (text : List Char) (found : List Term) (left : List Char)
    (read : Reader.terms (bound + 1) close text = .ok (found, left)) :
    exists inside after, text = inside ++ (after ++ close :: left) ∧ Row inside found ∧
      Blank after := by
  rw [Reader.terms] at read
  rcases bind_eq_ok_iff.mp read with ⟨⟨first, rest⟩, readFirst, read⟩
  rcases sound.term _ _ _ readFirst with ⟨body, cut, spelled⟩
  dsimp only at read
  split at read
  · next others closed =>
      cases read
      rcases exists_blank_of_skipBlank (eat?_eq_some_iff.mp closed) with ⟨after, cutRest, back⟩
      exact ⟨body, after, by rw [cut, cutRest], .one spelled, back⟩
  · rcases bind_eq_ok_iff.mp read with ⟨others, comma, read⟩
    rcases bind_eq_ok_iff.mp read with ⟨⟨more, last⟩, readMore, read⟩
    cases read
    rcases exists_blank_of_skipBlank (take_eq_ok_iff.mp comma) with ⟨between, cutRest, gap⟩
    rcases sound.terms _ _ _ _ readMore with ⟨inside, after, cutOthers, row, back⟩
    refine ⟨body ++ (between ++ ',' :: inside), after, ?_, .more spelled gap row, back⟩
    rw [cut, cutRest, cutOthers]
    simp only [List.append_assoc, List.cons_append]

theorem elements_succ {bound : Nat} (sound : ReadsSoundly bound) (text : List Char)
    (found : Term) (left : List Char)
    (read : Reader.elements (bound + 1) text = .ok (found, left)) :
    exists inside, text = inside ++ ']' :: left ∧ ListBody inside found := by
  rw [Reader.elements] at read
  rcases bind_eq_ok_iff.mp read with ⟨⟨first, rest⟩, readFirst, read⟩
  rcases sound.term _ _ _ readFirst with ⟨body, cut, spelled⟩
  dsimp only at read
  split at read
  · next others closed =>
      cases read
      rcases exists_blank_of_skipBlank (eat?_eq_some_iff.mp closed) with ⟨after, cutRest, back⟩
      refine ⟨body ++ after, ?_, .known (.one spelled) back⟩
      rw [cut, cutRest, List.append_assoc]
  · split at read
    · next others barred =>
        rcases bind_eq_ok_iff.mp read with ⟨⟨tail, behind⟩, readTail, read⟩
        dsimp only at read
        rcases bind_eq_ok_iff.mp read with ⟨last, closed, read⟩
        cases read
        rcases exists_blank_of_skipBlank (eat?_eq_some_iff.mp barred) with ⟨between, cutRest, gap⟩
        rcases sound.term _ _ _ readTail with ⟨tailBody, cutOthers, spelledTail⟩
        rcases exists_blank_of_skipBlank (take_eq_ok_iff.mp closed) with ⟨after, cutBehind, back⟩
        refine ⟨body ++ (between ++ '|' :: (tailBody ++ after)), ?_,
          .opened (.one spelled) gap spelledTail back⟩
        rw [cut, cutRest, cutOthers, cutBehind]
        simp only [List.append_assoc, List.cons_append]
    · rcases bind_eq_ok_iff.mp read with ⟨others, comma, read⟩
      rcases bind_eq_ok_iff.mp read with ⟨⟨more, last⟩, readMore, read⟩
      cases read
      rcases exists_blank_of_skipBlank (take_eq_ok_iff.mp comma) with ⟨between, cutRest, gap⟩
      rcases sound.elements _ _ _ readMore with ⟨inside, cutOthers, listBody⟩
      refine ⟨body ++ (between ++ ',' :: inside), ?_, .cons spelled gap listBody⟩
      rw [cut, cutRest, cutOthers]
      simp only [List.append_assoc, List.cons_append]

theorem all (bound : Nat) : ReadsSoundly bound := by
  induction bound with
  | zero =>
    refine ⟨?_, ?_, ?_, ?_, ?_⟩
    · intro text found left read
      simp [Reader.term] at read
    · intro text found left read
      simp [Reader.bare] at read
    · intro close text found left read
      simp [Reader.arguments] at read
    · intro close text found left read
      simp [Reader.terms] at read
    · intro text found left read
      simp [Reader.elements] at read
  | succ bound sound =>
    exact ⟨sound.term_succ, sound.bare_succ, sound.arguments_succ, sound.terms_succ,
      sound.elements_succ⟩

end ReadsSoundly

/-- A text that is read as a term spells it. -/
theorem whole_of_parse {text : String} {term : Term} (read : parse text = .ok term) :
    Whole text.toList term := by
  have readChars : Reader.whole text.toList = .ok term := by
    unfold parse at read
    split at read
    · next found readFound =>
        cases read
        exact readFound
    · cases read
  unfold Reader.whole at readChars
  rcases bind_eq_ok_iff.mp readChars with ⟨⟨found, rest⟩, readTerm, atEnd⟩
  rcases (ReadsSoundly.all _).term _ _ _ readTerm with ⟨body, cut, spelled⟩
  rcases exists_blank_append rest with ⟨after, cutRest, back⟩
  dsimp only at atEnd
  split at atEnd
  · next ended =>
      cases atEnd
      rw [ended, List.append_nil] at cutRest
      exact ⟨body, after, by rw [cut, cutRest], spelled, back⟩
  · cases atEnd

end Grammar
end Term
end BaseLanguage
