import BaseLanguage.Placeholder
import Mathlib.Data.List.Perm.Basic

namespace BaseLanguage
namespace Placeholder

/-!
# Placeholders are replaced all at once

A text with placeholders is written as texts with placeholders between them: a `Writing`.  It marks
the placeholders of the text if the names in it are bound, and if wherever a bound name stands in
braces, one of its placeholders opens.  Nothing in this says in which order a text is read.

The main statement is that expanding a text gives what any such writing says with the values in the
place of the placeholders, and that there is one.  Names without braces are what makes it true: a
name with an opening brace could hide a placeholder, and a name with a closing one is never found.
-/

/-! ## Bindings -/

/-- A name stands for a value: no later binding has the same name. -/
def Binds (bindings : Bindings) (name value : String) : Prop :=
  exists earlier later, bindings = earlier ++ (name, value) :: later ∧
    forall binding, binding ∈ later -> binding.1 ≠ name

theorem value?_eq_some_iff {bindings : Bindings} {name value : List Char} :
    value? bindings name = some value <->
      Binds bindings (String.ofList name) (String.ofList value) := by
  unfold value? Binds
  rw [Option.map_eq_some_iff]
  constructor
  · rintro ⟨found, isFound, rfl⟩
    rcases List.lookup_eq_some_iff.mp isFound with ⟨later, earlier, cut, others⟩
    refine ⟨earlier.reverse, later.reverse, ?_, ?_⟩
    · rw [← List.reverse_reverse bindings, cut, String.ofList_toList]
      simp only [List.reverse_append, List.reverse_cons, List.append_assoc, List.singleton_append]
    · intro binding among same
      have different := others binding (List.mem_reverse.mp among)
      simp [same] at different
  · rintro ⟨earlier, later, rfl, others⟩
    refine ⟨String.ofList value, List.lookup_eq_some_iff.mpr ?_, String.toList_ofList⟩
    refine ⟨later.reverse, earlier.reverse, ?_, ?_⟩
    · simp only [List.reverse_append, List.reverse_cons, List.append_assoc, List.singleton_append]
    · intro binding among
      exact bne_iff_ne.mpr (others binding (List.mem_reverse.mp among)).symm

theorem Binds.mem {bindings : Bindings} {name value : String} (binds : Binds bindings name value) :
    (name, value) ∈ bindings := by
  rcases binds with ⟨earlier, later, rfl, _⟩
  simp

/-- Where no two bindings have one name, their order says nothing. -/
theorem binds_iff_mem {bindings : Bindings} (distinct : (bindings.map Prod.fst).Nodup)
    {name value : String} : Binds bindings name value <-> (name, value) ∈ bindings := by
  constructor
  · exact Binds.mem
  · intro among
    rcases List.append_of_mem among with ⟨earlier, later, rfl⟩
    refine ⟨earlier, later, rfl, ?_⟩
    intro binding behind same
    rw [List.map_append, List.map_cons, List.nodup_append, List.nodup_cons] at distinct
    exact distinct.2.1.1 (List.mem_map.mpr ⟨binding, behind, same⟩)

/-- No name of a binding has a brace in it. -/
def Braceless (bindings : Bindings) : Prop :=
  forall binding, binding ∈ bindings -> '{' ∉ binding.1.toList ∧ '}' ∉ binding.1.toList

theorem Binds.braceless {bindings : Bindings} (braceless : Braceless bindings)
    {name value : String} (binds : Binds bindings name value) :
    '{' ∉ name.toList ∧ '}' ∉ name.toList :=
  braceless (name, value) binds.mem

/-! ## Writings -/

/-- A name in braces. -/
def bracketed (name : String) : List Char :=
  '{' :: (name.toList ++ ['}'])

theorem bracketed_append (name : String) (after : List Char) :
    bracketed name ++ after = '{' :: (name.toList ++ '}' :: after) := by
  simp [bracketed]

/-- A placeholder, what it stands for, and the text between it and the next one. -/
structure Token where
  name : String
  value : String
  behind : List Char

namespace Token

/-- A placeholder and the text behind it. -/
def written (token : Token) : List Char :=
  bracketed token.name ++ token.behind

/-- The value in the place of the placeholder. -/
def replaced (token : Token) : List Char :=
  token.value.toList ++ token.behind

end Token

/-- A text cut at placeholders: what stands in front of the first one, and the placeholders. -/
structure Writing where
  front : List Char
  tokens : List Token

/-- Where the placeholders of a row open, the first of them at a given place. -/
def placesFrom (place : Nat) : List Token -> List Nat
  | [] => []
  | token :: more => place :: placesFrom (place + token.written.length) more

namespace Writing

/-- The text that is cut. -/
def text (writing : Writing) : List Char :=
  writing.front ++ writing.tokens.flatMap Token.written

/-- The text with the values in the place of all placeholders. -/
def replaced (writing : Writing) : List Char :=
  writing.front ++ writing.tokens.flatMap Token.replaced

/-- The numbers of characters in front of the placeholders. -/
def places (writing : Writing) : List Nat :=
  placesFrom writing.front.length writing.tokens

end Writing

/-- A text starts with a bound name in braces. -/
def Opens (bindings : Bindings) (text : List Char) : Prop :=
  exists name value after, text = bracketed name ++ after ∧ Binds bindings name value

/-- A writing of a text whose placeholders are all that there are in the text. -/
structure Writing.Marks (writing : Writing) (bindings : Bindings) (text : List Char) : Prop where
  text_eq : writing.text = text
  bound : forall token, token ∈ writing.tokens -> Binds bindings token.name token.value
  complete : forall place, Opens bindings (text.drop place) -> place ∈ writing.places

theorem le_of_mem_placesFrom {start place : Nat} {tokens : List Token}
    (among : place ∈ placesFrom start tokens) : start ≤ place := by
  induction tokens generalizing start with
  | nil => cases among
  | cons token more inductionHypothesis =>
    rcases List.mem_cons.mp among with same | later
    · omega
    · have behind := inductionHypothesis later
      omega

theorem mem_placesFrom_add {start place : Nat} (width : Nat) {tokens : List Token} :
    place + width ∈ placesFrom (start + width) tokens <-> place ∈ placesFrom start tokens := by
  induction tokens generalizing start with
  | nil => simp [placesFrom]
  | cons token more inductionHypothesis =>
    have swap : start + width + token.written.length = start + token.written.length + width := by
      omega
    simp only [placesFrom, List.mem_cons, swap, inductionHypothesis, Nat.add_right_cancel_iff]

/-- Within a name in braces that has none itself, no placeholder opens but the one in front. -/
theorem opens_drop_bracketed {bindings : Bindings} {name : String} {after : List Char}
    (closed : '{' ∉ name.toList) {place : Nat}
    (opens : Opens bindings ((bracketed name ++ after).drop place)) :
    place = 0 ∨ exists later, place = later + (bracketed name).length ∧
      Opens bindings (after.drop later) := by
  by_cases inside : place < (bracketed name).length
  · refine .inl ?_
    rcases opens with ⟨other, _, left, cut, _⟩
    have brace : (bracketed name)[place]? = some '{' := by
      rw [← List.getElem?_append_left inside, ← List.head?_drop, cut]
      rfl
    cases place with
    | zero => rfl
    | succ place =>
      have among : '{' ∈ name.toList ++ ['}'] := List.mem_of_getElem? brace
      simp [closed] at among
  · refine .inr ⟨place - (bracketed name).length, by omega, ?_⟩
    rwa [List.drop_append, List.drop_eq_nil_of_le (by omega), List.nil_append] at opens

/-! ## What is found -/

/-- The text up to a closing brace has none in it. -/
theorem closed?_eq_some_iff {text name after : List Char} :
    closed? text = some (name, after) <-> text = name ++ '}' :: after ∧ '}' ∉ name := by
  induction text generalizing name with
  | nil => simp [closed?]
  | cons c rest inductionHypothesis =>
    by_cases closes : c = '}'
    · subst closes
      rw [closed?]
      cases name with
      | nil => simp
      | cons first more =>
        simp only [Option.some.injEq, Prod.mk.injEq, List.cons_append, List.cons.injEq,
          List.mem_cons]
        constructor
        · rintro ⟨impossible, _⟩
          cases impossible
        · rintro ⟨⟨same, _⟩, others⟩
          exact absurd (.inl same) others
    · rw [closed?]
      · cases name with
        | nil => simp [closes]
        | cons first more =>
          simp only [Option.map_eq_some_iff, Prod.mk.injEq, Prod.exists, List.cons.injEq,
            List.cons_append, List.mem_cons, not_or]
          constructor
          · rintro ⟨front, left, found, ⟨rfl, rfl⟩, rfl⟩
            rcases inductionHypothesis.mp found with ⟨cut, others⟩
            exact ⟨⟨rfl, cut⟩, Ne.symm closes, others⟩
          · rintro ⟨⟨rfl, cut⟩, _, others⟩
            exact ⟨more, after, inductionHypothesis.mpr ⟨cut, others⟩, ⟨rfl, rfl⟩, rfl⟩
      · exact closes

/-- A placeholder is found if a name that is bound stands in front of the first closing brace. -/
theorem placeholder?_eq_some_iff {bindings : Bindings} (braceless : Braceless bindings)
    {text value after : List Char} :
    placeholder? bindings text = some (value, after) <->
      exists name : String, text = name.toList ++ '}' :: after ∧
        Binds bindings name (String.ofList value) := by
  unfold placeholder?
  constructor
  · intro found
    cases closed : closed? text with
    | none =>
      rw [closed] at found
      cases found
    | some cut =>
      rcases cut with ⟨name, left⟩
      rw [closed] at found
      rcases Option.map_eq_some_iff.mp found with ⟨value, isValue, same⟩
      cases same
      rcases closed?_eq_some_iff.mp closed with ⟨cut, _⟩
      refine ⟨String.ofList name, ?_, value?_eq_some_iff.mp isValue⟩
      rw [String.toList_ofList]
      exact cut
  · rintro ⟨name, cut, binds⟩
    have closed : closed? text = some (name.toList, after) :=
      closed?_eq_some_iff.mpr ⟨cut, (binds.braceless braceless).2⟩
    have isValue : value? bindings name.toList = some value :=
      value?_eq_some_iff.mpr (by rwa [String.ofList_toList])
    rw [closed]
    simp only [isValue, Option.map_some]

/-- A placeholder in front gives way to its value. -/
theorem expandChars_placeholder {bindings : Bindings} (braceless : Braceless bindings)
    {name value : String} (binds : Binds bindings name value) (after : List Char) :
    expandChars bindings (bracketed name ++ after) =
      value.toList ++ expandChars bindings after := by
  have found : placeholder? bindings (name.toList ++ '}' :: after) = some (value.toList, after) :=
    (placeholder?_eq_some_iff braceless).mpr ⟨name, rfl, by rwa [String.ofList_toList]⟩
  rw [bracketed_append, expandChars, if_pos rfl]
  split
  · next other left isFound =>
      rw [found] at isFound
      cases isFound
      rfl
  · next none =>
      rw [found] at none
      cases none

/-- A character at which no placeholder opens stays. -/
theorem expandChars_cons {bindings : Bindings} (braceless : Braceless bindings) {c : Char}
    {rest : List Char} (closed : ¬ Opens bindings (c :: rest)) :
    expandChars bindings (c :: rest) = c :: expandChars bindings rest := by
  rw [expandChars]
  split
  · next isBrace =>
      subst isBrace
      split
      · next value after found =>
          rcases (placeholder?_eq_some_iff braceless).mp found with ⟨name, cut, binds⟩
          refine absurd ⟨name, String.ofList value, after, ?_, binds⟩ closed
          rw [bracketed_append, cut]
      · rfl
  · rfl

/-! ## What a writing says -/

namespace Writing.Marks

variable {bindings : Bindings} {text : List Char}

/-- In front of the first placeholder, none opens. -/
theorem of_cons {c : Char} {front : List Char} {tokens : List Token}
    (marks : Marks ⟨c :: front, tokens⟩ bindings text) :
    exists rest, text = c :: rest ∧ ¬ Opens bindings (c :: rest) ∧
      Marks ⟨front, tokens⟩ bindings rest := by
  refine ⟨_, marks.text_eq.symm, ?_, rfl, marks.bound, ?_⟩
  · intro opens
    have first := marks.complete 0 (by rw [← marks.text_eq]; exact opens)
    have behind := le_of_mem_placesFrom first
    exact absurd behind (by simp)
  · intro place opens
    have later := marks.complete (place + 1) (by rw [← marks.text_eq]; exact opens)
    exact (mem_placesFrom_add 1).mp later

/-- Behind the first placeholder, the others are marked. -/
theorem of_token {token : Token} {more : List Token}
    (marks : Marks ⟨[], token :: more⟩ bindings text) :
    exists after, text = bracketed token.name ++ after ∧
      Binds bindings token.name token.value ∧ Marks ⟨token.behind, more⟩ bindings after := by
  have isText : text = bracketed token.name ++
      (token.behind ++ more.flatMap Token.written) := by
    rw [← marks.text_eq]
    simp [Writing.text, Token.written]
  refine ⟨_, isText, marks.bound token List.mem_cons_self, rfl,
    fun other among => marks.bound other (List.mem_cons_of_mem token among), ?_⟩
  intro place opens
  have dropped : text.drop (place + (bracketed token.name).length) =
      (token.behind ++ more.flatMap Token.written).drop place := by
    rw [isText, Nat.add_comm, ← List.drop_drop, List.drop_left]
  have width : token.written.length = token.behind.length + (bracketed token.name).length := by
    rw [Token.written, List.length_append, Nat.add_comm]
  rcases List.mem_cons.mp (marks.complete _ (dropped ▸ opens)) with first | later
  · simp [bracketed] at first
  · simp only [List.length_nil, Nat.zero_add, width] at later
    exact (mem_placesFrom_add _).mp later

/-- Expanding a text gives what a writing says that marks its placeholders. -/
theorem expandChars_eq (braceless : Braceless bindings) {writing : Writing}
    (marks : writing.Marks bindings text) : expandChars bindings text = writing.replaced := by
  rcases writing with ⟨front, tokens⟩
  induction tokens generalizing front text with
  | nil =>
    induction front generalizing text with
    | nil =>
      rw [← marks.text_eq]
      exact expandChars.eq_1 bindings
    | cons c front inductionHypothesis =>
      rcases marks.of_cons with ⟨rest, rfl, closed, marksRest⟩
      rw [expandChars_cons braceless closed, inductionHypothesis marksRest]
      rfl
  | cons token more others =>
    induction front generalizing text with
    | nil =>
      rcases marks.of_token with ⟨after, rfl, binds, marksAfter⟩
      rw [expandChars_placeholder braceless binds, others token.behind marksAfter]
      simp [Writing.replaced, Token.replaced]
    | cons c front inductionHypothesis =>
      rcases marks.of_cons with ⟨rest, rfl, closed, marksRest⟩
      rw [expandChars_cons braceless closed, inductionHypothesis marksRest]
      rfl

/-- A character at which no placeholder opens is written in front. -/
theorem cons {c : Char} {rest : List Char} {writing : Writing}
    (marks : writing.Marks bindings rest) (closed : ¬ Opens bindings (c :: rest)) :
    Marks ⟨c :: writing.front, writing.tokens⟩ bindings (c :: rest) := by
  refine ⟨congrArg (c :: ·) marks.text_eq, marks.bound, ?_⟩
  intro place opens
  cases place with
  | zero => exact absurd opens closed
  | succ place => exact (mem_placesFrom_add 1).mpr (marks.complete place opens)

/-- A placeholder without braces in its name hides no other. -/
theorem token (braceless : Braceless bindings) {name value : String}
    (binds : Binds bindings name value) {after : List Char} {writing : Writing}
    (marks : writing.Marks bindings after) :
    Marks ⟨[], ⟨name, value, writing.front⟩ :: writing.tokens⟩ bindings
      (bracketed name ++ after) := by
  refine ⟨?_, ?_, ?_⟩
  · rw [← marks.text_eq]
    simp [Writing.text, Token.written]
  · intro token among
    rcases List.mem_cons.mp among with rfl | later
    · exact binds
    · exact marks.bound token later
  · intro place opens
    rcases opens_drop_bracketed (binds.braceless braceless).1 opens with
      rfl | ⟨later, rfl, opensLater⟩
    · exact List.mem_cons_self
    · have width : 0 + (Token.written ⟨name, value, writing.front⟩).length =
          writing.front.length + (bracketed name).length := by
        simp only [Token.written, List.length_append]
        omega
      refine List.mem_cons_of_mem _ ?_
      rw [List.length_nil, width]
      exact (mem_placesFrom_add _).mpr (marks.complete later opensLater)

end Writing.Marks

/-- The placeholders of every text can be marked. -/
theorem exists_marks {bindings : Bindings} (braceless : Braceless bindings) (text : List Char) :
    exists writing : Writing, writing.Marks bindings text := by
  induction isLength : text.length using Nat.strongRecOn generalizing text with
  | ind length inductionHypothesis =>
    subst isLength
    by_cases opens : Opens bindings text
    · rcases opens with ⟨name, value, after, rfl, binds⟩
      have shorter : after.length < (bracketed name ++ after).length := by
        simp only [bracketed, List.length_append, List.length_cons]
        omega
      rcases inductionHypothesis _ shorter after rfl with ⟨writing, marks⟩
      exact ⟨_, marks.token braceless binds⟩
    · cases text with
      | nil =>
        refine ⟨⟨[], []⟩, rfl, nofun, ?_⟩
        intro place opensLater
        rw [List.drop_nil] at opensLater
        exact absurd opensLater opens
      | cons c rest =>
        rcases inductionHypothesis _ (Nat.lt_succ_self _) rest rfl with ⟨writing, marks⟩
        exact ⟨_, marks.cons opens⟩

/-- The placeholders of a text are replaced all at once.  They can be marked in it, and however they
are marked, expanding the text puts the values in their place and keeps everything else.  Bindings
of different names may stand in any order. -/
theorem expand_replaces_marked (bindings : Bindings) (braceless : Braceless bindings)
    (text : String) :
    (exists writing : Writing, writing.Marks bindings text.toList) ∧
    (forall writing : Writing, writing.Marks bindings text.toList ->
      (expand bindings text).toList = writing.replaced) ∧
    forall others : Bindings, (bindings.map Prod.fst).Nodup -> others.Perm bindings ->
      expand others text = expand bindings text := by
  have expands : forall used : Bindings, Braceless used -> forall writing : Writing,
      writing.Marks used text.toList -> (expand used text).toList = writing.replaced := by
    intro used braceless writing marks
    rw [expand, String.toList_ofList]
    exact marks.expandChars_eq braceless
  refine ⟨exists_marks braceless text.toList, expands bindings braceless, ?_⟩
  intro others distinct same
  have alike : forall name value, Binds others name value <-> Binds bindings name value := by
    intro name value
    rw [binds_iff_mem distinct, binds_iff_mem ((same.map Prod.fst).nodup_iff.mpr distinct),
      same.mem_iff]
  have alsoBraceless : Braceless others := fun binding among =>
    braceless binding (same.mem_iff.mp among)
  rcases exists_marks braceless text.toList with ⟨writing, marks⟩
  have alsoMarks : writing.Marks others text.toList := by
    refine ⟨marks.text_eq, fun token among => (alike _ _).mpr (marks.bound token among), ?_⟩
    rintro place ⟨name, value, after, cut, binds⟩
    exact marks.complete place ⟨name, value, after, cut, (alike name value).mp binds⟩
  rw [← String.toList_inj, expands others alsoBraceless writing alsoMarks,
    expands bindings braceless writing marks]

/-- Two bindings, of which the value of the first is a placeholder for the second. -/
def sampleBindings : Bindings :=
  [("tool", "\x7bfolder\x7d"), ("folder", "/opt")]

/-- An argument with an unmatched brace in front, an unknown name, and a brace at its end. -/
def sampleArgument : String :=
  "\x7b\x7btool\x7d/\x7bother\x7d\x7bfolder\x7d\x7b"

/-- The value of the first placeholder is not looked into, whichever binding stands first. -/
theorem expand_replaces_marked_sample :
    Braceless sampleBindings ∧
    (exists writing : Writing, writing.Marks sampleBindings sampleArgument.toList ∧
      (expand sampleBindings sampleArgument).toList = writing.replaced) ∧
    expand sampleBindings.reverse sampleArgument = expand sampleBindings sampleArgument := by
  have braceless : Braceless sampleBindings := by
    unfold Braceless
    decide
  rcases expand_replaces_marked sampleBindings braceless sampleArgument with
    ⟨⟨writing, marks⟩, replaced, anyOrder⟩
  exact ⟨braceless, ⟨writing, marks, replaced writing marks⟩,
    anyOrder sampleBindings.reverse (by decide) (List.reverse_perm sampleBindings)⟩

example : expand sampleBindings sampleArgument = "\x7b\x7bfolder\x7d/\x7bother\x7d/opt\x7b" := by
  cbv

end Placeholder
end BaseLanguage
