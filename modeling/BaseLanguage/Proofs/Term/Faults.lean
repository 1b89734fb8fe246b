import BaseLanguage.Proofs.Term.Lookahead

namespace BaseLanguage
namespace Term
namespace Grammar

/-!
# Where reading fails

An error names the first character with which the text cannot be the start of a term any more.
Two things make it exact.  What was taken in front of the error can be completed: every list,
application or group of annotations that is open there can be closed.  And with the character
that the error names, no text is read any more: a reader that succeeds looks at one character
behind what it took, so all texts with that front lead it to the same place.

Each reader has its own way to spell what it reads, its own texts to complete a front with, and
its own texts that it cannot read.  `Faults` says both about one reader and one failure, and
`Faults.behind` carries it from a reader to the one that called it.  As for soundness, the five
readers that call each other have one statement together, by induction on the bound.
-/

/-! ## What an error says -/

/-- A text that starts with a numeral, taken as far as its digits go, which is no long. -/
def IsUnlong (numeral : List Char) (fault : Text.LongFault) (text : List Char) : Prop :=
  exists negative digits rest, text = numeral ++ rest ∧
    numeral = (if negative then '-' :: digits else digits) ∧
    (forall c, c ∈ digits -> c.isDigit = true) ∧ Stops Text.isDigit rest ∧
    Text.long? negative digits = .error fault

/-- What the cause of an error says about the text in front of it and the text from it on.
`viable` are the fronts that can go on to what is read, `doomed` those that cannot. -/
def Explains (viable doomed : List Char -> Prop) (front left : List Char) : Reader.Cause -> Prop
  | .unexpected found | .expectedEnd found | .expected _ (some found) =>
    (exists more, left = found :: more) ∧ viable front ∧ doomed (front ++ [found])
  | .unexpectedEnd | .unterminatedString | .unterminatedEscape | .expected _ none =>
    left = [] ∧ viable front
  | .unknownEscape found => (exists before, front = before ++ ['\\', found]) ∧ doomed front
  | .invalidInteger numeral fault =>
    IsUnlong numeral fault left ∧ viable front ∧
      forall other value, Numeral other value -> IsLong value -> viable (front ++ other)

/-- What an error says is said of a longer text if its front keeps what can go on and what
cannot. -/
theorem Explains.behind {viable doomed viable' doomed' : List Char -> Prop}
    {front left : List Char} {cause : Reader.Cause}
    (explained : Explains viable doomed front left cause) (before : List Char)
    (completes : forall begun, viable begun -> viable' (before ++ begun))
    (dooms : forall seen, seen <+: front ++ left -> doomed seen -> doomed' (before ++ seen)) :
    Explains viable' doomed' (before ++ front) left cause := by
  match cause, explained with
  | .unexpected found, ⟨⟨more, cut⟩, isViable, isDoomed⟩
  | .expectedEnd found, ⟨⟨more, cut⟩, isViable, isDoomed⟩
  | .expected _ (some found), ⟨⟨more, cut⟩, isViable, isDoomed⟩ =>
    have seen : front ++ [found] <+: front ++ left := ⟨more, by simp [cut]⟩
    have isDoomed' := dooms _ seen isDoomed
    rw [← List.append_assoc] at isDoomed'
    exact ⟨⟨more, cut⟩, completes _ isViable, isDoomed'⟩
  | .unexpectedEnd, ⟨ended, isViable⟩ | .unterminatedString, ⟨ended, isViable⟩
  | .unterminatedEscape, ⟨ended, isViable⟩ | .expected _ none, ⟨ended, isViable⟩ =>
    exact ⟨ended, completes _ isViable⟩
  | .unknownEscape found, ⟨⟨others, cut⟩, isDoomed⟩ =>
    refine ⟨⟨before ++ others, by rw [cut, List.append_assoc]⟩, dooms _ ?_ isDoomed⟩
    exact List.prefix_append front left
  | .invalidInteger numeral fault, ⟨isUnlong, isViable, opens⟩ =>
    refine ⟨isUnlong, completes _ isViable, ?_⟩
    intro other value spelled long
    rw [List.append_assoc]
    exact completes _ (opens other value spelled long)

/-- A front that something completes. -/
def Begins (Spelled : List Char -> Prop) (front : List Char) : Prop :=
  exists back, Spelled (front ++ back)

/-- A front, not of blanks alone, with which no text is read within a bound or a larger one. -/
structure Dooms (read : Nat -> List Char -> Except Reader.Failure α) (bound : Nat)
    (seen : List Char) : Prop where
  visible : Text.skipBlank seen ≠ []
  fails : forall more rest result, bound ≤ more -> read more (seen ++ rest) ≠ .ok result

/-- A reader of what `Spelled` says fails on a text, and the failure is explained. -/
def Faults (Spelled : List Char -> Prop) (read : Nat -> List Char -> Except Reader.Failure α)
    (bound : Nat) (text : List Char) (failure : Reader.Failure) : Prop :=
  exists front, text = front ++ failure.left ∧
    Explains (Begins Spelled) (Dooms read bound) front failure.left failure.cause

/-- The failure of a reader is one of the reader that called it behind `before`, if what the former
reads can be completed to what the latter reads, and the latter succeeds only if the former does. -/
theorem Faults.behind {Spelled Outer : List Char -> Prop}
    {read : Nat -> List Char -> Except Reader.Failure α}
    {outer : Nat -> List Char -> Except Reader.Failure β} {bound : Nat} {text : List Char}
    {failure : Reader.Failure} (fault : Faults Spelled read bound text failure)
    (before : List Char)
    (completes : forall body, Spelled body -> exists after, Outer (before ++ (body ++ after)))
    (reads : forall seen more rest result, Shows seen text -> bound ≤ more ->
      outer (more + 1) (before ++ (seen ++ rest)) = .ok result ->
        exists part, read more (seen ++ rest) = .ok part) :
    Faults Outer outer (bound + 1) (before ++ text) failure := by
  rcases fault with ⟨front, cut, explained⟩
  refine ⟨before ++ front, by rw [cut, List.append_assoc], explained.behind before ?_ ?_⟩
  · rintro begun ⟨back, spelled⟩
    rcases completes _ spelled with ⟨after, whole⟩
    exact ⟨back ++ after, by simpa only [List.append_assoc] using whole⟩
  · rintro seen isFront ⟨visible, fails⟩
    refine ⟨visible_append visible before, ?_⟩
    intro more rest result enough readAll
    cases more with
    | zero => omega
    | succ more =>
      rw [List.append_assoc] at readAll
      rcases reads seen more rest result ⟨cut ▸ isFront, visible⟩ (by omega) readAll with
        ⟨part, readPart⟩
      exact fails more rest part (by omega) readPart

/-! ## Marks, strings and numerals -/

/-- A mark with the blanks in front of it. -/
def IsMarked (mark : Char) (text : List Char) : Prop :=
  exists blanks, text = blanks ++ [mark] ∧ Blank blanks

theorem faults_take {wanted : Char} {text : List Char} {failure : Reader.Failure}
    (failed : Reader.take wanted text = .error failure) (bound : Nat) :
    Faults (IsMarked wanted) (fun _ => Reader.take wanted) bound text failure := by
  rcases exists_blank_append text with ⟨blanks, cut, blank⟩
  have begins : Begins (IsMarked wanted) blanks := ⟨[wanted], blanks, rfl, blank⟩
  unfold Reader.take at failed
  split at failed
  · next ended =>
      cases failed
      exact ⟨blanks, ended ▸ cut, rfl, begins⟩
  · next c rest found =>
      have notBlank : Text.isBlank c = false := stops_dropWhile Text.isBlank text c rest found
      split at failed
      · cases failed
      · next different =>
          cases failed
          refine ⟨blanks, found ▸ cut, ⟨rest, rfl⟩, begins, visible_concat notBlank blanks, ?_⟩
          intro more others result _ taken
          have same := take_eq_ok_iff.mp taken
          rw [List.append_assoc, List.singleton_append, skipBlank_mark blank notBlank] at same
          injection same with same
          exact different same

/-- What is left of a string behind its first quote. -/
def IsString (text : List Char) : Prop :=
  exists inside value, text = inside ++ ['"'] ∧ Quoted inside value

theorem IsString.plain {c : Char} (notQuote : c ≠ '"') (notBackslash : c ≠ '\\')
    {text : List Char} : IsString text -> IsString (c :: text)
  | ⟨inside, value, cut, quoted⟩ =>
    ⟨c :: inside, c :: value, by rw [cut]; rfl, .plain notQuote notBackslash quoted⟩

theorem IsString.escaped {c d : Char} (escape : Escape c d) {text : List Char} :
    IsString text -> IsString ('\\' :: c :: text)
  | ⟨inside, value, cut, quoted⟩ =>
    ⟨'\\' :: c :: inside, d :: value, by rw [cut]; rfl, .escaped escape quoted⟩

/-- A string that is not read ends too early, or has a backslash where none can stand. -/
theorem explains_stringFrom {front text : List Char} {failure : Reader.Failure}
    (failed : Reader.stringFrom front text = .error failure) :
    exists taken, text = taken ++ failure.left ∧
      Explains (Begins IsString)
        (fun seen => Text.skipBlank seen ≠ [] ∧
          forall rest result, Reader.stringFrom front (seen ++ rest) ≠ .ok result)
        taken failure.left failure.cause := by
  fun_induction Reader.stringFrom front text with
  | case1 =>
    cases failed
    exact ⟨[], rfl, rfl, ['"'], [], [], rfl, .empty⟩
  | case2 => cases failed
  | case3 =>
    cases failed
    exact ⟨['\\'], rfl, rfl, ['n', '"'], IsString.escaped .lineFeed ⟨[], [], rfl, .empty⟩⟩
  | case4 front c rest d found inductionHypothesis =>
    have escape := unescape?_eq_some found
    rcases inductionHypothesis failed with ⟨taken, cut, explained⟩
    refine ⟨'\\' :: c :: taken, by rw [cut]; rfl, explained.behind ['\\', c] ?_ ?_⟩
    · rintro begun ⟨back, spelled⟩
      exact ⟨back, spelled.escaped escape⟩
    · rintro seen _ ⟨visible, fails⟩
      refine ⟨visible_append visible ['\\', c], ?_⟩
      intro others result read
      exact fails others result ((stringFrom_escaped escape front _).symm.trans read)
  | case5 front c rest unknown =>
    cases failed
    refine ⟨['\\', c], rfl, ⟨[], rfl⟩, by simp [Text.skipBlank_cons, Text.isBlank], ?_⟩
    intro others result read
    simp [Reader.stringFrom, unknown] at read
  | case6 front c rest notQuote notBackslash notEscape inductionHypothesis =>
    have apart : c ≠ '\\' := by
      intro isBackslash
      cases rest with
      | nil => exact notBackslash isBackslash rfl
      | cons next others => exact notEscape next others isBackslash rfl
    rcases inductionHypothesis failed with ⟨taken, cut, explained⟩
    refine ⟨c :: taken, by rw [cut]; rfl, explained.behind [c] ?_ ?_⟩
    · rintro begun ⟨back, spelled⟩
      exact ⟨back, spelled.plain notQuote apart⟩
    · rintro seen _ ⟨visible, fails⟩
      refine ⟨visible_append visible [c], ?_⟩
      intro others result read
      exact fails others result ((stringFrom_plain notQuote apart front _).symm.trans read)

theorem isUnlong_of_integer {text : List Char} {failure : Reader.Failure}
    (failed : Reader.integer text = .error failure) :
    failure.left = text ∧ exists numeral fault,
      failure.cause = .invalidInteger numeral fault ∧ IsUnlong numeral fault text := by
  rcases numeral_cut text with ⟨negative, digits, rest, cut, whole, areDigits, stops⟩
  unfold Reader.integer at failed
  rw [cut] at failed
  cases value : Text.long? negative digits with
  | ok found =>
    simp only [value] at failed
    cases failed
  | error fault =>
    simp only [value] at failed
    cases failed
    exact ⟨rfl, _, fault, rfl, negative, digits, rest, whole, rfl, areDigits, stops, value⟩

/-! ## Terms

What each reader takes from a text, up to the mark that it ends at.
-/

def IsTerm (text : List Char) : Prop :=
  exists term, Spelling text term

def IsCore (text : List Char) : Prop :=
  exists term, Core text term

def IsArguments (close : Char) (text : List Char) : Prop :=
  exists inside terms, text = inside ++ [close] ∧ Arguments inside terms

def IsRow (close : Char) (text : List Char) : Prop :=
  exists inside after terms, text = inside ++ (after ++ [close]) ∧ Row inside terms ∧ Blank after

def IsListBody (text : List Char) : Prop :=
  exists inside term, text = inside ++ [']'] ∧ ListBody inside term

/-- The shortest of names, with which a front is completed where a term is missing. -/
theorem core_letter : Core ['a'] (.appl "a" []) :=
  .name ⟨'a', [], rfl, Or.inl (by decide), nofun⟩

theorem string_fault {inside : List Char} {failure : Reader.Failure}
    (failed : Reader.stringFrom [] inside = .error failure) (bound : Nat) :
    Faults IsCore Reader.bare (bound + 1) ('"' :: inside) failure := by
  rcases explains_stringFrom failed with ⟨taken, cut, explained⟩
  refine ⟨'"' :: taken, by rw [cut]; rfl, explained.behind ['"'] ?_ ?_⟩
  · rintro begun ⟨back, characters, value, cut, quoted⟩
    have string := Core.string quoted
    rw [← cut] at string
    exact ⟨back, _, by simpa using string⟩
  · rintro seen _ ⟨visible, fails⟩
    refine ⟨visible_append visible ['"'], ?_⟩
    intro more rest result enough read
    cases more with
    | zero => omega
    | succ more =>
      rw [List.append_assoc, List.singleton_append, Reader.bare] at read
      rcases bind_eq_ok_iff.mp read with ⟨part, readPart, _⟩
      exact fails rest part readPart

/-- Where an integer fails, a term could stand, and so could any integer that is a long. -/
theorem integer_fault {text : List Char} {failure : Reader.Failure}
    (failed : Reader.integer text = .error failure) (bound : Nat) :
    Faults IsCore Reader.bare bound text failure := by
  rcases isUnlong_of_integer failed with ⟨same, numeral, fault, isCause, isUnlong⟩
  refine ⟨[], same.symm, ?_⟩
  rw [isCause, same]
  refine ⟨isUnlong, ⟨['a'], _, core_letter⟩, ?_⟩
  intro other value spelled long
  exact ⟨[], _, by simpa using Core.integer spelled long⟩

/-- The failures of the five readers that call each other are explained, if their bounds are never
met.  A reader that calls another one on the same text needs one step more than that one. -/
structure FailsExactly (bound : Nat) : Prop where
  term : forall text failure, 4 * text.length + 2 ≤ bound ->
    Reader.term bound text = .error failure -> Faults IsTerm Reader.term bound text failure
  bare : forall text failure, 4 * text.length + 1 ≤ bound -> Text.skipBlank text = text ->
    Reader.bare bound text = .error failure -> Faults IsCore Reader.bare bound text failure
  arguments : forall close text failure, close ≠ ',' -> 4 * text.length + 4 ≤ bound ->
    Reader.arguments bound close text = .error failure ->
      Faults (IsArguments close) (Reader.arguments · close) bound text failure
  terms : forall close text failure, close ≠ ',' -> 4 * text.length + 3 ≤ bound ->
    Reader.terms bound close text = .error failure ->
      Faults (IsRow close) (Reader.terms · close) bound text failure
  elements : forall text failure, 4 * text.length + 3 ≤ bound ->
    Reader.elements bound text = .error failure ->
      Faults IsListBody Reader.elements bound text failure

namespace FailsExactly

variable {bound : Nat} {failure : Reader.Failure}

theorem term_succ (fails : FailsExactly bound) (text : List Char)
    (failure : Reader.Failure) (enough : 4 * text.length + 2 ≤ bound + 1)
    (failed : Reader.term (bound + 1) text = .error failure) :
    Faults IsTerm Reader.term (bound + 1) text failure := by
  rw [Reader.term] at failed
  rcases exists_blank_append text with ⟨before, cut, front⟩
  have length := congrArg List.length cut
  rw [List.length_append] at length
  rcases bind_eq_error_iff.mp failed with failed | ⟨⟨found, rest⟩, readCore, failed⟩
  · have fault := fails.bare _ failure (by omega) (skipBlank_of_head? rfl) failed
    have whole : Faults IsTerm Reader.term (bound + 1) (before ++ Text.skipBlank text) failure := by
      refine fault.behind before ?_ ?_
      · rintro body ⟨term, core⟩
        exact ⟨[], term, .plain front core blank_nil⟩
      · intro seen more others result shows _ read
        rw [Reader.term, Grammar.skipBlank_append front, shows.skipBlank_append] at read
        exact exists_ok_of_bind read
    rwa [← cut] at whole
  · rcases (ReadsSoundly.all _).bare _ _ _ readCore with ⟨core, cutCore, isCore⟩
    rcases exists_blank_append rest with ⟨after, cutRest, back⟩
    dsimp only at failed
    split at failed
    · next inside opened =>
        have whole : text = (before ++ (core ++ (after ++ ['{']))) ++ inside := by
          rw [cut, cutCore, cutRest, opened]
          simp only [List.append_assoc, List.singleton_append]
        have shorter := congrArg List.length whole
        simp only [List.length_append, List.length_singleton] at shorter
        have fault := fails.arguments '}' inside failure (by decide) (by omega)
          (error_of_bind (fun _ => ⟨_, rfl⟩) failed)
        rw [whole]
        refine fault.behind _ ?_ ?_
        · rintro body ⟨notes, terms, rfl, annotations⟩
          have spelled := Spelling.annotated front isCore back annotations
          exact ⟨[], found, by simpa using spelled⟩
        · intro seen more others result _ enough read
          simp only [List.append_assoc, List.singleton_append] at read
          rw [(ReadsFully.all more).term_brace front isCore back (by omega)] at read
          exact exists_ok_of_bind read
    · cases failed

theorem list_fault (fails : FailsExactly bound) {inside : List Char}
    (enough : 4 * inside.length + 3 ≤ bound) (missing : Reader.eat? ']' inside = none)
    (failed : Reader.elements bound inside = .error failure) :
    Faults IsCore Reader.bare (bound + 1) ('[' :: inside) failure := by
  refine (fails.elements inside failure enough failed).behind ['['] ?_ ?_
  · rintro _ ⟨elements, term, rfl, body⟩
    exact ⟨[], term, by simpa using body.core⟩
  · intro seen more rest result shows _ read
    rw [List.singleton_append, Reader.bare, if_pos rfl, shows.eat?_eq_none missing] at read
    exact ⟨result, read⟩

theorem tuple_fault (fails : FailsExactly bound) {inside : List Char}
    (enough : 4 * inside.length + 4 ≤ bound)
    (failed : Reader.arguments bound ')' inside = .error failure) :
    Faults IsCore Reader.bare (bound + 1) ('(' :: inside) failure := by
  refine (fails.arguments ')' inside failure (by decide) enough failed).behind ['('] ?_ ?_
  · rintro _ ⟨arguments, children, rfl, spelled⟩
    exact ⟨[], _, by simpa using Core.tuple spelled⟩
  · intro seen more rest result _ _ read
    rw [List.singleton_append, Reader.bare] at read
    exact exists_ok_of_bind read

theorem application_fault (fails : FailsExactly bound) {text inside : List Char}
    (name : IsName text) (enough : 4 * inside.length + 4 ≤ bound)
    (failed : Reader.arguments bound ')' inside = .error failure) :
    Faults IsCore Reader.bare (bound + 1) (text ++ '(' :: inside) failure := by
  rw [List.append_cons]
  refine (fails.arguments ')' inside failure (by decide) enough failed).behind _ ?_ ?_
  · rintro _ ⟨arguments, children, rfl, spelled⟩
    exact ⟨[], _, by simpa using Core.application name spelled⟩
  · intro seen more rest result _ _ read
    rw [List.append_assoc, List.singleton_append, bare_application name] at read
    exact exists_ok_of_bind read

theorem bare_succ (fails : FailsExactly bound) (text : List Char)
    (failure : Reader.Failure) (enough : 4 * text.length + 1 ≤ bound + 1)
    (skipped : Text.skipBlank text = text)
    (failed : Reader.bare (bound + 1) text = .error failure) :
    Faults IsCore Reader.bare (bound + 1) text failure := by
  cases text with
  | nil =>
    have ended : Reader.bare (bound + 1) [] = .error ⟨[], .unexpectedEnd⟩ := by simp [Reader.bare]
    rw [ended] at failed
    cases failed
    exact ⟨[], rfl, rfl, ['a'], _, core_letter⟩
  | cons c rest =>
    rw [List.length_cons] at enough
    rw [Reader.bare] at failed
    split at failed
    · next isBracket =>
        subst isBracket
        split at failed
        · cases failed
        · next missing => exact fails.list_fault (by omega) missing failed
    · next notBracket =>
        split at failed
        · next isParenthesis =>
            subst isParenthesis
            exact fails.tuple_fault (by omega) (error_of_bind (fun _ => ⟨_, rfl⟩) failed)
        · next notParenthesis =>
            split at failed
            · next isQuote =>
                subst isQuote
                exact string_fault (error_of_bind (fun _ => ⟨_, rfl⟩) failed) bound
            · next notQuote =>
                split at failed
                · exact integer_fault failed (bound + 1)
                · next notSigned =>
                    split at failed
                    · next start =>
                        have name := isName_takeWhile start rest
                        have cut : (c :: rest).takeWhile Reader.isNameChar ++
                            (c :: rest).dropWhile Reader.isNameChar = c :: rest :=
                          List.takeWhile_append_dropWhile
                        split at failed
                        · next inside opened =>
                            rw [opened] at cut
                            have shorter := congrArg List.length cut
                            simp only [List.length_append, List.length_cons] at shorter
                            rw [← cut]
                            exact fails.application_fault name (by omega)
                              (error_of_bind (fun _ => ⟨_, rfl⟩) failed)
                        · cases failed
                    · next notStart =>
                        cases failed
                        have notBlank : Text.isBlank c = false :=
                          stops_dropWhile Text.isBlank (c :: rest) c rest skipped
                        refine ⟨[], rfl, ⟨rest, rfl⟩, ⟨['a'], _, core_letter⟩,
                          visible_concat notBlank [], ?_⟩
                        intro more others result enough read
                        cases more with
                        | zero => omega
                        | succ more =>
                          rw [List.nil_append, List.singleton_append, Reader.bare,
                            if_neg notBracket, if_neg notParenthesis, if_neg notQuote,
                            if_neg notSigned, if_neg notStart] at read
                          cases read

theorem arguments_succ (fails : FailsExactly bound) (close : Char) (text : List Char)
    (failure : Reader.Failure) (notComma : close ≠ ',')
    (enough : 4 * text.length + 4 ≤ bound + 1)
    (failed : Reader.arguments (bound + 1) close text = .error failure) :
    Faults (IsArguments close) (Reader.arguments · close) (bound + 1) text failure := by
  rw [Reader.arguments] at failed
  split at failed
  · cases failed
  · next missing =>
      refine (fails.terms close text failure notComma (by omega) failed).behind [] ?_ ?_
      · rintro body ⟨inside, after, terms, rfl, row, back⟩
        exact ⟨[], inside ++ after, terms, by simp, .some row back⟩
      · intro seen more others result shows _ read
        rw [List.nil_append, Reader.arguments, shows.eat?_eq_none missing] at read
        exact ⟨result, read⟩

theorem terms_succ (fails : FailsExactly bound) (close : Char) (text : List Char)
    (failure : Reader.Failure) (notComma : close ≠ ',')
    (enough : 4 * text.length + 3 ≤ bound + 1)
    (failed : Reader.terms (bound + 1) close text = .error failure) :
    Faults (IsRow close) (Reader.terms · close) (bound + 1) text failure := by
  rw [Reader.terms] at failed
  rcases bind_eq_error_iff.mp failed with failed | ⟨⟨first, rest⟩, readFirst, failed⟩
  · refine (fails.term text failure (by omega) failed).behind [] ?_ ?_
    · rintro body ⟨term, spelled⟩
      exact ⟨[close], body, [], [term], rfl, .one spelled, blank_nil⟩
    · intro seen more others result _ _ read
      rw [List.nil_append, Reader.terms] at read
      exact exists_ok_of_bind read
  · dsimp only at failed
    split at failed
    · cases failed
    · next missing =>
        rcases bind_eq_error_iff.mp failed with failed | ⟨others, comma, failed⟩
        · rcases term_lookahead readFirst with ⟨body, cut, spelled, again⟩
          have shorter := congrArg List.length cut
          rw [List.length_append] at shorter
          rw [cut]
          refine (faults_take failed bound).behind body ?_ ?_
          · rintro _ ⟨blanks, rfl, gap⟩
            have row := Row.more spelled gap (.one core_letter.spelling)
            exact ⟨['a', close], _, [], _, by simp, row, blank_nil⟩
          · intro seen more left result shows enough read
            rw [Reader.terms, again more _ (by omega) (shows.head?_append left), ok_bind] at read
            simp only [shows.eat?_eq_none missing] at read
            exact exists_ok_of_bind read
        · rcases term_mark readFirst (take_eq_ok_iff.mp comma) with
            ⟨body, between, cut, spelled, gap, again⟩
          have shorter := congrArg List.length cut
          simp only [List.length_append, List.length_singleton] at shorter
          have fault := fails.terms close others failure notComma (by omega)
            (error_of_bind (fun _ => ⟨_, rfl⟩) failed)
          rw [cut]
          refine fault.behind _ ?_ ?_
          · rintro _ ⟨inside, after, terms, rfl, row, back⟩
            exact ⟨[], _, after, _, by simp, .more spelled gap row, back⟩
          · intro seen more left result _ enough read
            rcases again more (seen ++ left) (by omega) with ⟨rest, first, found⟩
            rw [terms_comma first found notComma] at read
            exact exists_ok_of_bind read

/-- Behind a bar the tail fails, or the bracket behind it is missing. -/
theorem tail_fault (fails : FailsExactly bound) {text rest others : List Char} {first : Term}
    (readFirst : Reader.term bound text = .ok (first, rest))
    (bar : Text.skipBlank rest = '|' :: others) (enough : 4 * text.length + 3 ≤ bound + 1)
    (failed : (do
      let (tail, behind) ← Reader.term bound others
      let left ← Reader.take ']' behind
      return (Term.cons first tail, left)) = .error failure) :
    Faults IsListBody Reader.elements (bound + 1) text failure := by
  rcases term_mark readFirst bar with ⟨body, between, cut, spelled, gap, again⟩
  have shorter := congrArg List.length cut
  simp only [List.length_append, List.length_singleton] at shorter
  have barred : forall more behind, bound ≤ more ->
      Reader.elements (more + 1) ((body ++ (between ++ ['|'])) ++ behind) = (do
        let (tail, behind) ← Reader.term more behind
        let left ← Reader.take ']' behind
        return (.cons first tail, left)) := by
    intro more behind enough
    rcases again more behind (by omega) with ⟨left, read, found⟩
    exact elements_bar read found
  rcases bind_eq_error_iff.mp failed with failed | ⟨⟨tail, behind⟩, readTail, failed⟩
  · conv => arg 4; rw [cut]
    refine (fails.term others failure (by omega) failed).behind _ ?_ ?_
    · rintro more ⟨tail, spelledTail⟩
      have body := ListBody.opened (.one spelled) gap spelledTail blank_nil
      exact ⟨[']'], _, _, by simp, body⟩
    · intro seen more left result _ enough read
      rw [barred more _ enough] at read
      exact exists_ok_of_bind read
  · rcases term_lookahead readTail with ⟨tailBody, cutOthers, spelledTail, tailAgain⟩
    have longer := congrArg List.length cutOthers
    rw [List.length_append] at longer
    have unclosed := error_of_bind (fun _ => ⟨_, rfl⟩) failed
    rw [cut, cutOthers, ← List.append_assoc]
    refine (faults_take unclosed bound).behind _ ?_ ?_
    · rintro _ ⟨blanks, rfl, back⟩
      exact ⟨[], _, _, by simp, .opened (.one spelled) gap spelledTail back⟩
    · intro seen more left result shows enough read
      rw [List.append_assoc, barred more _ enough,
        tailAgain more _ (by omega) (shows.head?_append left), ok_bind] at read
      exact exists_ok_of_bind read

theorem elements_succ (fails : FailsExactly bound) (text : List Char)
    (failure : Reader.Failure) (enough : 4 * text.length + 3 ≤ bound + 1)
    (failed : Reader.elements (bound + 1) text = .error failure) :
    Faults IsListBody Reader.elements (bound + 1) text failure := by
  rw [Reader.elements] at failed
  rcases bind_eq_error_iff.mp failed with failed | ⟨⟨first, rest⟩, readFirst, failed⟩
  · refine (fails.term text failure (by omega) failed).behind [] ?_ ?_
    · rintro body ⟨term, spelled⟩
      exact ⟨[']'], body, _, rfl, by simpa using ListBody.known (.one spelled) blank_nil⟩
    · intro seen more others result _ _ read
      rw [List.nil_append, Reader.elements] at read
      exact exists_ok_of_bind read
  · dsimp only at failed
    split at failed
    · cases failed
    · next notClosed =>
        split at failed
        · next others barred =>
            exact fails.tail_fault readFirst (eat?_eq_some_iff.mp barred) enough failed
        · next notBarred =>
            rcases bind_eq_error_iff.mp failed with failed | ⟨others, comma, failed⟩
            · rcases term_lookahead readFirst with ⟨body, cut, spelled, again⟩
              have shorter := congrArg List.length cut
              rw [List.length_append] at shorter
              rw [cut]
              refine (faults_take failed bound).behind body ?_ ?_
              · rintro _ ⟨blanks, rfl, gap⟩
                have row := Row.more spelled gap (.one core_letter.spelling)
                exact ⟨['a', ']'], _, _, by simp, .known row blank_nil⟩
              · intro seen more left result shows enough read
                rw [Reader.elements, again more _ (by omega) (shows.head?_append left),
                  ok_bind] at read
                simp only [shows.eat?_eq_none notClosed, shows.eat?_eq_none notBarred] at read
                exact exists_ok_of_bind read
            · rcases term_mark readFirst (take_eq_ok_iff.mp comma) with
                ⟨body, between, cut, spelled, gap, again⟩
              have shorter := congrArg List.length cut
              simp only [List.length_append, List.length_singleton] at shorter
              have fault := fails.elements others failure (by omega)
                (error_of_bind (fun _ => ⟨_, rfl⟩) failed)
              rw [cut]
              refine fault.behind _ ?_ ?_
              · rintro _ ⟨inside, term, rfl, others⟩
                exact ⟨[], _, _, by simp, .cons spelled gap others⟩
              · intro seen more left result _ enough read
                rcases again more (seen ++ left) (by omega) with ⟨rest, first, found⟩
                rw [elements_comma first found] at read
                exact exists_ok_of_bind read

theorem all (bound : Nat) : FailsExactly bound := by
  induction bound with
  | zero =>
    refine ⟨?_, ?_, ?_, ?_, ?_⟩
    · intro text failure enough
      omega
    · intro text failure enough
      omega
    · intro close text failure notComma enough
      omega
    · intro close text failure notComma enough
      omega
    · intro text failure enough
      omega
  | succ bound fails =>
    exact ⟨fails.term_succ, fails.bare_succ, fails.arguments_succ, fails.terms_succ,
      fails.elements_succ⟩

end FailsExactly

/-! ## Whole texts -/

def IsWhole (text : List Char) : Prop :=
  exists term, Whole text term

theorem reads_of_whole {text : List Char} {term : Term} (whole : Whole text term) {bound : Nat}
    (enough : 4 * text.length ≤ bound) :
    exists left, Reader.term bound text = .ok (term, left) ∧ Text.skipBlank left = [] := by
  rcases whole with ⟨body, after, rfl, spelled, back⟩
  rw [List.length_append] at enough
  rcases (ReadsFully.all bound).term body term after spelled (by omega) (ends_of_blank back) with
    ⟨left, read, skipped⟩
  exact ⟨left, read, skipped.trans (skipBlank_of_blank back)⟩

/-- What follows a term that was read spoils every text that starts so. -/
theorem not_isWhole_of_found {bound : Nat} {text rest others : List Char} {found : Term} {c : Char}
    (read : Reader.term bound text = .ok (found, rest))
    (follows : Text.skipBlank rest = c :: others) :
    exists front, text = front ++ c :: others ∧ IsWhole front ∧
      forall more, ¬ IsWhole (front ++ [c] ++ more) := by
  rcases term_mark read follows with ⟨body, between, cut, spelled, gap, again⟩
  have regroup : forall more : List Char,
      (body ++ (between ++ [c])) ++ more = body ++ between ++ [c] ++ more := by
    simp only [List.append_assoc, implies_true]
  refine ⟨body ++ between, ?_, ⟨found, body, between, rfl, spelled, gap⟩, ?_⟩
  · rw [cut, regroup, List.append_assoc, List.singleton_append]
  · rintro more ⟨term, whole⟩
    rw [← regroup] at whole
    have large := Nat.le_max_left (4 * text.length)
      (4 * ((body ++ (between ++ [c])) ++ more).length)
    rcases reads_of_whole whole (Nat.le_max_right (4 * text.length) _) with ⟨left, readAll, ended⟩
    rcases again _ more large with ⟨other, readAgain, shown⟩
    rw [readAll] at readAgain
    cases readAgain
    rw [ended] at shown
    cases shown

theorem explains_whole {text : List Char} {failure : Reader.Failure}
    (failed : Reader.whole text = .error failure) :
    exists front, text = front ++ failure.left ∧
      Explains (Begins IsWhole) (fun seen => ¬ Begins IsWhole seen) front failure.left
        failure.cause := by
  unfold Reader.whole at failed
  rcases bind_eq_error_iff.mp failed with failed | ⟨⟨found, rest⟩, read, failed⟩
  · have enough : 4 * text.length + 2 ≤ Reader.bound text := by
      unfold Reader.bound
      omega
    rcases (FailsExactly.all _).term text failure enough failed with ⟨front, cut, explained⟩
    refine ⟨front, cut, explained.behind [] ?_ ?_⟩
    · rintro begun ⟨back, term, spelled⟩
      exact ⟨back, term, _, [], (List.append_nil _).symm, spelled, blank_nil⟩
    · rintro seen _ ⟨_, fails⟩ ⟨back, term, whole⟩
      have large := Nat.le_max_left (Reader.bound text) (4 * (seen ++ back).length)
      rcases reads_of_whole whole (Nat.le_max_right (Reader.bound text) _) with ⟨left, readAll, _⟩
      exact fails _ back _ large readAll
  · dsimp only at failed
    split at failed
    · cases failed
    · next c others follows =>
        cases failed
        rcases not_isWhole_of_found read follows with ⟨front, cut, whole, spoiled⟩
        refine ⟨front, cut, ⟨others, rfl⟩, ⟨[], by rwa [List.append_nil]⟩, ?_⟩
        rintro ⟨back, isWhole⟩
        exact spoiled back isWhole

end Grammar

/-! ## Positions -/

theorem byteLength_eq (text : List Char) :
    byteLength text = (String.ofList text).utf8ByteSize := by
  induction text with
  | nil => rfl
  | cons c rest inductionHypothesis =>
    rw [byteLength, inductionHypothesis, String.ofList_cons, String.utf8ByteSize_append,
      String.utf8ByteSize_singleton]

/-- A front of a text that is read. -/
def IsViable (front : List Char) : Prop :=
  exists back term, parse (String.ofList (front ++ back)) = .ok term

theorem isViable_iff (front : List Char) :
    IsViable front <-> Grammar.Begins Grammar.IsWhole front := by
  unfold IsViable Grammar.Begins Grammar.IsWhole
  simp only [parse_eq_ok_iff_whole, String.toList_ofList]

/-- An error is located exactly.  Its position lies between two characters of the text, and what
`Explains` says of its cause holds of the text in front of the position and of the text from it on:
a front is viable exactly if it can go on to a text that is read. -/
structure IsLocated (text : String) (error : ReadError) : Prop where
  within : error.position ≤ text.utf8ByteSize
  boundary : (String.Pos.Raw.mk error.position).IsValid text
  explained : exists front left, text = String.ofList front ++ String.ofList left ∧
    (String.ofList front).utf8ByteSize = error.position ∧
    Grammar.Explains IsViable (fun seen => ¬ IsViable seen) front left error.cause

/-- Every reading error is located exactly. -/
theorem isLocated_of_parse {text : String} {error : ReadError}
    (failed : parse text = .error error) : IsLocated text error := by
  unfold parse at failed
  split at failed
  · cases failed
  · next failure failedChars =>
      cases failed
      rcases Grammar.explains_whole failedChars with ⟨front, cut, explained⟩
      have whole : text = String.ofList front ++ String.ofList failure.left := by
        rw [← String.ofList_append, ← cut, String.ofList_toList]
      have position : byteLength text.toList - byteLength failure.left =
          (String.ofList front).utf8ByteSize := by
        rw [cut, byteLength_eq, byteLength_eq, String.ofList_append, String.utf8ByteSize_append]
        omega
      rw [position]
      refine ⟨?_, ?_, front, failure.left, whole, rfl, ?_⟩
      · rw [whole, String.utf8ByteSize_append]
        exact Nat.le_add_right _ _
      · exact String.Pos.Raw.isValid_iff_exists_append.mpr ⟨_, _, whole, rfl⟩
      · refine explained.behind [] ?_ ?_
        · intro begun begins
          exact (isViable_iff begun).mpr begins
        · intro seen _ ends viable
          exact ends ((isViable_iff seen).mp viable)

/-- The semicolon spoils what could have gone on with a comma. -/
theorem isLocated_of_parse_semicolon :
    parse "f(a;b)" = .error ⟨3, .expected ',' (some ';')⟩ ∧
      IsLocated "f(a;b)" ⟨3, .expected ',' (some ';')⟩ := by
  have failed : parse "f(a;b)" = .error ⟨3, .expected ',' (some ';')⟩ := by rfl
  exact ⟨failed, isLocated_of_parse failed⟩

/-- A false escape is located behind it, an integer that is no long where it starts, and what a
string lacks at the end of the text. -/
example :
    parse "[\"ä\\q\"]" = .error ⟨6, .unknownEscape 'q'⟩ ∧
      parse "f( 9223372036854775808)" =
        .error ⟨3, .invalidInteger "9223372036854775808".toList .tooLarge⟩ ∧
      parse "f(\"a" = .error ⟨4, .unterminatedString⟩ := by
  decide +kernel

end Term
end BaseLanguage
