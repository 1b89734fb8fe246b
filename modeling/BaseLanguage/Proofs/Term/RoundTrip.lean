import BaseLanguage.Proofs.Term.Completeness

namespace BaseLanguage
namespace Term

/-!
# Terms that survive being written

Not every term has a text of its own.  A constructor can be any string, but only identifiers are
read back, and the empty one is written as a tuple; an integer can be of any size, but only those
of sixty-four bits are read; and an explicit tail without an element in front of it, or one that
is a list, is spliced or rejected by the reader.  What is left are the readable terms.  Their text
spells them, and whatever the grammar spells is readable, so that printing and reading are
inverse on these terms and on no others.
-/

mutual

/-- Whether a term is one that the reader can answer with. -/
def IsReadable : Term -> Prop
  | appl name children => (name = "" ∨ Grammar.IsName name.toList) ∧ AreReadable children
  | list elems none => AreReadable elems
  | list elems (some tail) =>
    elems ≠ [] ∧ tail.kind ≠ .list ∧ AreReadable elems ∧ tail.IsReadable
  | str _ => True
  | int value => Grammar.IsLong value

/-- Whether every term of a row is readable. -/
def AreReadable : List Term -> Prop
  | [] => True
  | term :: more => term.IsReadable ∧ AreReadable more

end

namespace Grammar

/-! ## Readable terms are spelled by their text -/

/-- Escaping spells the value that is escaped. -/
theorem quoted_escape (value : List Char) : Quoted (value.flatMap escape) value := by
  induction value with
  | nil => exact .empty
  | cons c more inductionHypothesis =>
    rw [List.flatMap_cons]
    unfold escape
    split
    · next same =>
        subst same
        exact .escaped .quote inductionHypothesis
    · next notQuote =>
        split
        · next same =>
            subst same
            exact .escaped .backslash inductionHypothesis
        · next notBackslash =>
            split
            · next same =>
                subst same
                exact .escaped .lineFeed inductionHypothesis
            · split
              · next same =>
                  subst same
                  exact .escaped .tab inductionHypothesis
              · split
                · next same =>
                    subst same
                    exact .escaped .carriageReturn inductionHypothesis
                · exact .plain notQuote notBackslash inductionHypothesis

theorem isDigits_decimal (n : Nat) : IsDigits (Text.decimal n) :=
  ⟨Nat.toDigits_ne_nil, fun _ member => Nat.isDigit_of_mem_toDigits (by decide) (by decide) member⟩

/-- The decimal text of an integer spells it. -/
theorem numeral_signedDecimal (value : Int) : Numeral (Text.signedDecimal value) value := by
  cases value with
  | ofNat n =>
    have spelled := Numeral.plain (isDigits_decimal n)
    have same : Nat.ofDigitChars 10 (Text.decimal n) 0 = n := Nat.ofDigitChars_ten_toDigits
    rw [same] at spelled
    exact spelled
  | negSucc n =>
    have spelled := Numeral.negative (isDigits_decimal (n + 1))
    have same : Nat.ofDigitChars 10 (Text.decimal (n + 1)) 0 = n + 1 :=
      Nat.ofDigitChars_ten_toDigits
    rw [same] at spelled
    exact spelled

theorem Row.arguments {text : List Char} {terms : List Term} (row : Row text terms) :
    Arguments text terms := by
  have spelled := Arguments.some row blank_nil
  rwa [List.append_nil] at spelled

/-- Elements in front of a tail that is no list. -/
theorem foldr_cons_of_not_list {elems : List Term} {tail : Term} (notEmpty : elems ≠ [])
    (notList : tail.kind ≠ .list) : elems.foldr cons tail = list elems (some tail) := by
  induction elems with
  | nil => exact absurd rfl notEmpty
  | cons elem more inductionHypothesis =>
    rw [List.foldr_cons]
    cases more with
    | nil =>
      cases tail with
      | list => exact absurd rfl notList
      | appl | str | int => rfl
    | cons next others =>
      rw [inductionHypothesis (by simp)]
      rfl

mutual

/-- The text of a readable term spells it. -/
theorem core_render : forall term : Term, term.IsReadable -> Core term.render term
  | .appl name [], readable => by
      rw [render]
      split
      · next isEmpty =>
          subst isEmpty
          exact .tuple (.none blank_nil)
      · next notEmpty =>
          rw [IsReadable] at readable
          have spelled := Core.name (readable.1.resolve_left notEmpty)
          rwa [String.ofList_toList] at spelled
  | .appl name (child :: more), readable => by
      rw [IsReadable, AreReadable] at readable
      have first := (core_render child readable.2.1).spelling
      have row := row_renderMore more readable.2.2 first
      rw [render, ← List.append_assoc child.render]
      rcases readable.1 with rfl | isName
      · exact .tuple row.arguments
      · have spelled := Core.application isName row.arguments
        rwa [String.ofList_toList] at spelled
  | .list [] none, _ => .emptyList blank_nil
  | .list [] (some tail), readable => by
      rw [IsReadable] at readable
      exact absurd rfl readable.1
  | .list (elem :: more) none, readable => by
      rw [IsReadable, AreReadable] at readable
      have first := (core_render elem readable.1).spelling
      have row := row_renderMore more readable.2 first
      rw [render, ← List.append_assoc elem.render]
      exact .list row blank_nil
  | .list (elem :: more) (some tail), readable => by
      rw [IsReadable, AreReadable] at readable
      rcases readable with ⟨notEmpty, notList, readableElems, readableTail⟩
      have first := (core_render elem readableElems.1).spelling
      have row := row_renderMore more readableElems.2 first
      have last := (core_render tail readableTail).spelling
      have spelled := Core.openList row blank_nil last blank_nil
      rw [foldr_cons_of_not_list notEmpty notList] at spelled
      rw [render, ← List.append_assoc elem.render]
      exact spelled
  | .str value, _ => by
      have spelled := Core.string (quoted_escape value.toList)
      rw [String.ofList_toList] at spelled
      exact spelled
  | .int value, readable => .integer (numeral_signedDecimal value) readable

/-- So does the text of readable terms behind a first one. -/
theorem row_renderMore : forall more : List Term, AreReadable more ->
    forall {text : List Char} {first : Term}, Spelling text first ->
      Row (text ++ renderMore more) (first :: more)
  | [], _, text, first, spelled => by
      rw [renderMore, List.append_nil]
      exact .one spelled
  | next :: others, readable, text, first, spelled => by
      rw [AreReadable] at readable
      have following := (core_render next readable.1).spelling
      rw [renderMore]
      exact .more spelled blank_nil (row_renderMore others readable.2 following)

end

/-! ## What is spelled is readable -/

theorem isReadable_known {elems : List Term} (readable : AreReadable elems) :
    (known elems).IsReadable := by
  unfold known
  rwa [IsReadable]

/-- Putting a readable element in front of a readable term gives a readable list. -/
theorem isReadable_cons {first term : Term} (readable : first.IsReadable)
    (behind : term.IsReadable) : (cons first term).IsReadable := by
  cases term with
  | list elems tail =>
    cases tail with
    | none =>
      rw [IsReadable] at behind
      rw [cons, IsReadable, AreReadable]
      exact ⟨readable, behind⟩
    | some tail =>
      rw [IsReadable] at behind
      rcases behind with ⟨_, notList, readableElems, readableTail⟩
      rw [cons, IsReadable, AreReadable]
      exact ⟨by simp, notList, ⟨readable, readableElems⟩, readableTail⟩
  | appl | str | int =>
    simp only [cons, IsReadable, AreReadable]
    exact ⟨by simp, by simp [kind], ⟨readable, trivial⟩, behind⟩

theorem isReadable_foldr_cons {elems : List Term} (readable : AreReadable elems) {tail : Term}
    (readableTail : tail.IsReadable) : (elems.foldr cons tail).IsReadable := by
  induction elems with
  | nil => exact readableTail
  | cons elem more inductionHypothesis =>
    rw [AreReadable] at readable
    exact isReadable_cons readable.1 (inductionHypothesis readable.2)

mutual

theorem Spelling.isReadable {text : List Char} {term : Term} :
    Spelling text term -> term.IsReadable
  | .plain _ core _ => core.isReadable
  | .annotated _ core _ _ => core.isReadable

theorem Core.isReadable {text : List Char} {term : Term} : Core text term -> term.IsReadable
  | .name name => by
      rw [IsReadable, String.toList_ofList]
      exact ⟨Or.inr name, trivial⟩
  | .application name arguments => by
      rw [IsReadable, String.toList_ofList]
      exact ⟨Or.inr name, arguments.areReadable⟩
  | .tuple arguments => by
      unfold tuple
      rw [IsReadable]
      exact ⟨Or.inl rfl, arguments.areReadable⟩
  | .emptyList _ => isReadable_known trivial
  | .list elements _ => isReadable_known elements.areReadable
  | .openList elements _ rest _ =>
    isReadable_foldr_cons elements.areReadable rest.isReadable
  | .string _ => trivial
  | .integer _ long => long

theorem Arguments.areReadable {text : List Char} {terms : List Term} :
    Arguments text terms -> AreReadable terms
  | .none _ => trivial
  | .some row _ => row.areReadable

theorem Row.areReadable {text : List Char} {terms : List Term} :
    Row text terms -> AreReadable terms
  | .one term => ⟨term.isReadable, trivial⟩
  | .more term _ others => ⟨term.isReadable, others.areReadable⟩

end

end Grammar

/-- The reader answers with readable terms only. -/
theorem isReadable_of_parse {text : String} {term : Term} (read : parse text = .ok term) :
    term.IsReadable := by
  rcases Grammar.whole_of_parse read with ⟨body, after, _, spelled, _⟩
  exact spelled.isReadable

/-- Rows of readable terms are those all of whose terms are readable. -/
theorem areReadable_iff {terms : List Term} :
    AreReadable terms <-> forall term, term ∈ terms -> term.IsReadable := by
  induction terms with
  | nil => simp [AreReadable]
  | cons term more inductionHypothesis => simp [AreReadable, inductionHypothesis]

/-- A readable term is read back from its text, with blanks behind it or not. -/
theorem parse_print_append_of_isReadable {term : Term} (readable : term.IsReadable) {after : String}
    (blank : Grammar.Blank after.toList) : parse (term.print ++ after) = .ok term := by
  have core := Grammar.core_render term readable
  refine Grammar.parse_of_whole ⟨term.render, after.toList, ?_, core.spelling, blank⟩
  rw [print, String.toList_append, String.toList_ofList]

/-- A readable term is read back from its text. -/
theorem parse_print_of_isReadable {term : Term} (readable : term.IsReadable) :
    parse term.print = .ok term := by
  have core := Grammar.core_render term readable
  have whole : Grammar.Whole term.print.toList term := by
    refine ⟨term.render, [], ?_, core.spelling, Grammar.blank_nil⟩
    rw [print, String.toList_ofList, List.append_nil]
  exact Grammar.parse_of_whole whole

/-- Printing and reading are inverse exactly on the readable terms, and the reader answers with
no others. -/
theorem print_parse_inverse :
    (forall term : Term, parse term.print = .ok term <-> term.IsReadable) ∧
    (forall (text : String) (term : Term), parse text = .ok term ->
      term.IsReadable ∧ parse term.print = .ok term) := by
  constructor
  · intro term
    exact ⟨isReadable_of_parse, parse_print_of_isReadable⟩
  · intro text term read
    have readable := isReadable_of_parse read
    exact ⟨readable, parse_print_of_isReadable readable⟩

end Term
end BaseLanguage
