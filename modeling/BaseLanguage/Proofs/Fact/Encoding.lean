import BaseLanguage.Proofs.Fact.Chains
import BaseLanguage.Proofs.Rewriting.Rules
import BaseLanguage.Proofs.Term.RoundTrip

namespace BaseLanguage

open Term.Grammar

/-!
# Encoded facts and how they are decoded

`IsEncoding` says which rows of declarations encode the facts of a language: one declaration for
each fact that is given, in any order, with lists in any order, and any declarations of no fact in
between.  Decoding undoes the encoding.  While it walks through the declarations, what it has
collected is the facts declared so far and nothing else, which `LanguageFacts.only` expresses.
-/

/-! ## Encoded elements -/

/-- The wrapper that every part of a constant is in. -/
def wrapped (term : Term) : Term :=
  .appl "NoAnnoList" [term]

/-- A text between quotes, as a part of a constant. -/
def quotedPart (text : String) : Term :=
  wrapped (.appl "Str" [.str ("\"" ++ text ++ "\"")])

/-- A number by its decimal text, as a part of a constant. -/
def numberPart (number : Nat) : Term :=
  wrapped (.appl "Int" [.str (String.ofList (Text.decimal number))])

/-- A constructor and an index, as a part of a constant. -/
def argumentPart (argument : ConstructorArgument) : Term :=
  wrapped (.appl "Tuple" [.known [quotedPart argument.constructor, numberPart argument.index]])

/-- A list as nested cells.  The last cell may hold the last element or nothing. -/
inductive EncodesList : List Term -> Term -> Prop where
  | empty : EncodesList [] (wrapped (.appl "List" [.known []]))
  | single {element : Term} : EncodesList [element] (wrapped (.appl "List" [.known [element]]))
  | cell {element rest : Term} {elements : List Term} (further : EncodesList elements rest) :
      EncodesList (element :: elements) (wrapped (.appl "ListTail" [.known [element], rest]))

/-- The chain that encodes a list has the elements of the list, and no fault. -/
theorem EncodesList.ofTerm {elements : List Term} {chain : Term}
    (encodes : EncodesList elements chain) : Chain.ofTerm chain = ⟨elements, none⟩ := by
  have listed : exists rows elems, Cells chain rows elems ∧ AreVisitable rows elems ∧
      firstsOf rows elems = elements := by
    induction encodes with
    | empty => exact ⟨[], [], .last, ⟨by simp, by simp⟩, rfl⟩
    | @single element => exact ⟨[], [element], .last, ⟨by simp, by simp⟩, rfl⟩
    | @cell element rest elements further inductionHypothesis =>
      rcases inductionHypothesis with ⟨rows, elems, cells, visitable, same⟩
      refine ⟨[element] :: rows, elems, .inner cells, ⟨?_, visitable.length_le⟩, ?_⟩
      · exact List.forall_mem_cons.mpr ⟨by simp, visitable.inhabited⟩
      · rw [firstsOf_cons, same]
  rcases listed with ⟨rows, elems, cells, visitable, same⟩
  rw [Chain.ofTerm_of_cells cells visitable, same]

/-- The quotes that are put around a text are those that are taken off, whatever the text. -/
theorem unquote_quoted (text : String) : unquote ("\"" ++ text ++ "\"") = text := by
  have chars : ("\"" ++ text ++ "\"").toList = '"' :: (text.toList ++ ['"']) := by
    simp [String.toList_append]
  unfold unquote unquoteChars
  rw [chars]
  simp

theorem stringElement_quotedPart (text : String) : stringElement (quotedPart text) = .ok text := by
  have read : stringElement (quotedPart text) = .ok (unquote ("\"" ++ text ++ "\"")) := rfl
  rw [read, unquote_quoted]

/-! ## Indexes -/

theorem isBlank_of_isDigit {c : Char} (digit : c.isDigit = true) : Text.isBlank c = false := by
  simp only [Char.isDigit, Bool.and_eq_true, decide_eq_true_eq, UInt32.le_iff_toNat_le] at digit
  have number : c.val.toNat = c.toNat := rfl
  rw [number] at digit
  have low : 48 ≤ c.toNat := digit.1
  have high : c.toNat ≤ 57 := digit.2
  simp only [Text.isBlank, Bool.or_eq_false_iff, Bool.and_eq_false_iff, decide_eq_false_iff_not,
    beq_eq_false_iff_ne]
  omega

/-- Digits with or without a plus sign, and the number that they spell. -/
inductive Unsigned : List Char -> Nat -> Prop where
  | plain {text : List Char} (digits : IsDigits text) :
      Unsigned text (Nat.ofDigitChars 10 text 0)
  | positive {text : List Char} (digits : IsDigits text) :
      Unsigned ('+' :: text) (Nat.ofDigitChars 10 text 0)

theorem unsigned_decimal (number : Nat) : Unsigned (Text.decimal number) number := by
  have spelled := Unsigned.plain (isDigits_decimal number)
  have same : Nat.ofDigitChars 10 (Text.decimal number) 0 = number :=
    Nat.ofDigitChars_ten_toDigits
  rwa [same] at spelled

theorem Unsigned.visible {text : List Char} {number : Nat} (spelled : Unsigned text number) :
    forall c, c ∈ text -> Text.isBlank c = false := by
  cases spelled with
  | plain digits => exact fun c among => isBlank_of_isDigit (digits.2 c among)
  | positive digits =>
    exact List.forall_mem_cons.mpr
      ⟨by decide, fun c among => isBlank_of_isDigit (digits.2 c among)⟩

theorem Unsigned.unique {text : List Char} {number other : Nat} (spelled : Unsigned text number)
    (again : Unsigned text other) : number = other := by
  cases spelled with
  | plain digits =>
    cases again with
    | plain => rfl
    | positive => exact absurd (digits.2 '+' (by simp)) (by decide)
  | positive =>
    cases again with
    | plain digits => exact absurd (digits.2 '+' (by simp)) (by decide)
    | positive => rfl

/-- Nothing is trimmed off a text without blanks. -/
theorem trim_of_visible {text : List Char}
    (visible : forall c, c ∈ text -> Text.isBlank c = false) : Text.trim text = text := by
  have notBlank : forall c, c ∈ text -> ¬ Text.isBlank c = true := fun c among => by
    simp [visible c among]
  have unskipped : Text.skipBlank text = text :=
    List.dropWhile_eq_self_iff.mpr (fun notEmpty => notBlank _ (List.getElem_mem notEmpty))
  have undropped : text.rdropWhile Text.isBlank = text :=
    List.rdropWhile_eq_self_iff.mpr (fun notEmpty => notBlank _ (List.getLast_mem notEmpty))
  unfold Text.trim
  rw [unskipped]
  exact undropped

/-- A word is read from digits whose value fits sixty-four bits. -/
theorem wordOfDigits?_eq_some_iff {digits : List Char} {number : Nat} :
    Text.wordOfDigits? digits = some number <->
      IsDigits digits ∧ Nat.ofDigitChars 10 digits 0 = number ∧ number < Text.wordBound := by
  unfold Text.wordOfDigits? IsDigits
  rw [valueOf_eq]
  simp only [Bool.and_eq_true, Bool.not_eq_true', List.isEmpty_eq_false_iff, List.all_eq_true,
    isDigit_iff, decide_eq_true_eq, ne_eq, Option.ite_none_right_eq_some, Option.some.injEq]
  constructor
  · rintro ⟨⟨digits, fits⟩, rfl⟩
    exact ⟨digits, rfl, fits⟩
  · rintro ⟨digits, rfl, fits⟩
    exact ⟨⟨digits, fits⟩, rfl⟩

/-- A word is read exactly from the texts that spell a number of sixty-four bits. -/
theorem word?_eq_some_iff {text : List Char} {number : Nat} :
    Text.word? text = some number <-> Unsigned text number ∧ number < Text.wordBound := by
  constructor
  · intro read
    unfold Text.word? at read
    split at read <;> rcases wordOfDigits?_eq_some_iff.mp read with ⟨digits, rfl, fits⟩
    · exact ⟨.positive digits, fits⟩
    · exact ⟨.plain digits, fits⟩
  · rintro ⟨spelled, fits⟩
    cases spelled with
    | positive digits => exact wordOfDigits?_eq_some_iff.mpr ⟨digits, rfl, fits⟩
    | plain digits =>
      unfold Text.word?
      split
      · exact absurd (digits.2 '+' (by simp)) (by decide)
      · exact wordOfDigits?_eq_some_iff.mpr ⟨digits, rfl, fits⟩

/-- The decimal text of a word is read as that word. -/
theorem indexElement_numberPart {number : Nat} (isWord : number < Text.wordBound) :
    indexElement (numberPart number) = .ok number := by
  have spelled := unsigned_decimal number
  have read : Text.word? (Text.trim (String.ofList (Text.decimal number)).toList) =
      some number := by
    rw [String.toList_ofList, trim_of_visible spelled.visible]
    exact word?_eq_some_iff.mpr ⟨spelled, isWord⟩
  unfold indexElement
  refine bind_eq_ok_iff.mpr ⟨_, rfl, bind_eq_ok_iff.mpr ⟨_, rfl, bind_eq_ok_iff.mpr ⟨_, rfl, ?_⟩⟩⟩
  rw [read]
  rfl

theorem argumentElement_argumentPart {argument : ConstructorArgument}
    (isWord : argument.index < Text.wordBound) :
    argumentElement (argumentPart argument) = .ok argument := by
  unfold argumentElement
  refine bind_eq_ok_iff.mpr ⟨_, rfl, bind_eq_ok_iff.mpr ⟨_, rfl, bind_eq_ok_iff.mpr ⟨_, rfl, ?_⟩⟩⟩
  exact bind_eq_ok_iff.mpr ⟨_, stringElement_quotedPart argument.constructor,
    bind_eq_ok_iff.mpr ⟨_, indexElement_numberPart isWord, rfl⟩⟩

/-! ## Encoded facts -/

/-- The declaration of a fact: a strategy of its name that builds a constant. -/
def declarationOf (lead : String) (fact : Fact) (built : Term) : Term :=
  .appl "Strategies" [.known
    [.appl "SDefNoArgs" [.str (fact.strategyName lead), .appl "Build" [built]]]]

/-- A declaration that is taken for that of a fact: the first strategy of a section without
arguments has the name of the fact. -/
def DeclaresFact (lead : String) (fact : Fact) (rhs declaration : Term) : Prop :=
  exists others tail more, declaration = .appl "Strategies"
    (.list (.appl "SDefNoArgs" [.str (fact.strategyName lead), rhs] :: others) tail :: more)

/-- A constant encodes what the facts of a language say about one fact. -/
inductive EncodesFact (facts : LanguageFacts) : Fact -> Term -> Prop where
  | toplevelDeclaration {value : String} (given : facts.toplevelNonterminal = some value) :
      EncodesFact facts .toplevelDeclaration (quotedPart value)
  | extensibleFileExtension {value : String} (given : facts.extendedFileExtension = some value) :
      EncodesFact facts .extensibleFileExtension (quotedPart value)
  | baseFileExtension {value : String} (given : facts.baseFileExtension = some value) :
      EncodesFact facts .baseFileExtension (quotedPart value)
  | namespaceDeclaration {argument : ConstructorArgument}
      (given : facts.namespaceDeclaration = some argument) :
      EncodesFact facts .namespaceDeclaration (argumentPart argument)
  | bodyDeclarations {names : List String} {chain : Term}
      (listing : names.Perm facts.bodyDeclarations.toList)
      (encodes : EncodesList (names.map quotedPart) chain) :
      EncodesFact facts .bodyDeclarations chain
  | importDeclarations {entries : List (String × Nat)} {chain : Term}
      (listing : entries.Perm facts.importDeclarations.toList)
      (encodes : EncodesList (entries.map (fun entry => argumentPart ⟨entry.1, entry.2⟩)) chain) :
      EncodesFact facts .importDeclarations chain

/-- Whether facts say anything about one fact. -/
def IsGiven (facts : LanguageFacts) : Fact -> Prop
  | .toplevelDeclaration => facts.toplevelNonterminal ≠ none
  | .extensibleFileExtension => facts.extendedFileExtension ≠ none
  | .baseFileExtension => facts.baseFileExtension ≠ none
  | .bodyDeclarations => facts.bodyDeclarations ≠ ∅
  | .namespaceDeclaration => facts.namespaceDeclaration ≠ none
  | .importDeclarations => facts.importDeclarations ≠ ∅

/-- A row of declarations encodes some facts, in the order in which they are declared. -/
inductive EncodesFacts (lead : String) (facts : LanguageFacts) : List Fact -> List Term -> Prop where
  | none : EncodesFacts lead facts [] []
  | fact {fact : Fact} {built : Term} {more : List Fact} {declarations : List Term}
      (encodes : EncodesFact facts fact built)
      (further : EncodesFacts lead facts more declarations) :
      EncodesFacts lead facts (fact :: more) (declarationOf lead fact built :: declarations)
  | other {declaration : Term} {more : List Fact} {declarations : List Term}
      (unrecognised : forall fact rhs, ¬ DeclaresFact lead fact rhs declaration)
      (further : EncodesFacts lead facts more declarations) :
      EncodesFacts lead facts more (declaration :: declarations)

/-- A row of declarations encodes the facts of a language: each fact that is given is declared,
and none twice. -/
def IsEncoding (lead : String) (facts : LanguageFacts) (declarations : List Term) : Prop :=
  exists declared, EncodesFacts lead facts declared declarations ∧ declared.Nodup ∧
    forall fact, IsGiven facts fact -> fact ∈ declared

/-- The indexes of facts are words. -/
structure HasWords (facts : LanguageFacts) : Prop where
  inNamespace : forall argument, facts.namespaceDeclaration = some argument ->
    argument.index < Text.wordBound
  inImports : forall (constructor : String) (index : Nat),
    facts.importDeclarations[constructor]? = some index -> index < Text.wordBound

/-! ## Recognising declarations -/

/-- Facts have different strategies. -/
theorem strategyName_inj {lead : String} {fact other : Fact}
    (same : fact.strategyName lead = other.strategyName lead) : fact = other := by
  unfold Fact.strategyName at same
  rw [String.append_right_inj] at same
  cases fact <;> cases other <;> first | rfl | exact absurd same (by decide)

theorem ofStrategyName?_eq_some_iff {lead name : String} {fact : Fact} :
    Fact.ofStrategyName? lead name = some fact <-> name = fact.strategyName lead := by
  unfold Fact.ofStrategyName?
  constructor
  · intro found
    simpa using List.find?_some found
  · rintro rfl
    cases found : Fact.all.find? (fun other =>
        fact.strategyName lead == other.strategyName lead) with
    | none =>
      have missed := List.find?_eq_none.mp found fact fact.mem_all
      simp at missed
    | some other =>
      have same := List.find?_some found
      rw [strategyName_inj (eq_of_beq same)]

/-- A fact is recognised in exactly the declarations that declare it. -/
theorem recognise?_eq_some_iff {lead : String} {declaration rhs : Term} {fact : Fact} :
    recognise? lead declaration = some (fact, rhs) <-> DeclaresFact lead fact rhs declaration := by
  constructor
  · intro recognised
    unfold recognise? at recognised
    split at recognised
    · rename_i name found others tail more
      rcases Option.map_eq_some_iff.mp recognised with ⟨other, named, same⟩
      cases same
      rw [ofStrategyName?_eq_some_iff.mp named]
      exact ⟨others, tail, more, rfl⟩
    · cases recognised
  · rintro ⟨others, tail, more, rfl⟩
    have named := ofStrategyName?_eq_some_iff.mpr (Eq.refl (fact.strategyName lead))
    change (Fact.ofStrategyName? lead (fact.strategyName lead)).map (fun fact => (fact, rhs)) = _
    rw [named]
    rfl

/-! ## Decoding one fact -/

/-- The facts that have been declared so far; nothing is known of the others. -/
def LanguageFacts.only (facts : LanguageFacts) (declared : List Fact) : LanguageFacts where
  toplevelNonterminal :=
    if Fact.toplevelDeclaration ∈ declared then facts.toplevelNonterminal else none
  baseFileExtension :=
    if Fact.baseFileExtension ∈ declared then facts.baseFileExtension else none
  extendedFileExtension :=
    if Fact.extensibleFileExtension ∈ declared then facts.extendedFileExtension else none
  bodyDeclarations :=
    if Fact.bodyDeclarations ∈ declared then facts.bodyDeclarations else ∅
  namespaceDeclaration :=
    if Fact.namespaceDeclaration ∈ declared then facts.namespaceDeclaration else none
  importDeclarations :=
    if Fact.importDeclarations ∈ declared then facts.importDeclarations else ∅

theorem only_nil (facts : LanguageFacts) : facts.only [] = {} := by
  simp [LanguageFacts.only]

/-- Once every fact that is given has been declared, everything is known. -/
theorem only_of_complete {facts : LanguageFacts} {declared : List Fact}
    (complete : forall fact, IsGiven facts fact -> fact ∈ declared) :
    facts.only declared = facts := by
  have left : forall fact, fact ∉ declared -> ¬ IsGiven facts fact := fun fact missing given =>
    missing (complete fact given)
  rcases facts with ⟨toplevel, base, extended, bodies, inNamespace, imports⟩
  simp only [LanguageFacts.only, LanguageFacts.mk.injEq, ite_eq_left_iff]
  exact ⟨fun missing => (not_not.mp (left _ missing)).symm,
    fun missing => (not_not.mp (left _ missing)).symm,
    fun missing => (not_not.mp (left _ missing)).symm,
    fun missing => (not_not.mp (left _ missing)).symm,
    fun missing => (not_not.mp (left _ missing)).symm,
    fun missing => (not_not.mp (left _ missing)).symm⟩

namespace Decoding

/-- What is read is put among the facts. -/
theorem ending_setFacts_of_read {reading : Except FactFault α} {value : α}
    (read : reading = .ok value) (change : α -> LanguageFacts -> LanguageFacts)
    (state : Decoding) :
    ending (do let found ← liftM reading; setFacts (change found)) state =
      (.ok (), { state with facts := change value state.facts }) := by
  rw [read]
  rfl

/-- Taking in quoted names adds them to the body declarations. -/
theorem ending_forM_addBody (names : List String) (state : Decoding) :
    ending ((names.map quotedPart).forM addBody) state =
      (.ok (), { state with facts := { state.facts with
        bodyDeclarations := state.facts.bodyDeclarations.insertMany names } }) := by
  induction names generalizing state with
  | nil => rfl
  | cons name more inductionHypothesis =>
    have first := addBody_eq_ok_iff.mpr ⟨name, stringElement_quotedPart name, Eq.refl
      { state with facts := { state.facts with
        bodyDeclarations := state.facts.bodyDeclarations.insert name } }⟩
    rw [Std.ExtTreeSet.insertMany_cons]
    exact ending_bind_eq_ok_iff.mpr ⟨(), _, first, inductionHypothesis _⟩

/-- Taking in arguments of different constructors, none of which is known, adds them to the import
declarations without a warning. -/
theorem ending_forM_addImport (entries : List (String × Nat)) (state : Decoding)
    (words : forall entry, entry ∈ entries -> entry.2 < Text.wordBound)
    (different : (entries.map Prod.fst).Nodup)
    (new : forall entry, entry ∈ entries -> entry.1 ∉ state.facts.importDeclarations) :
    ending ((entries.map (fun entry => argumentPart ⟨entry.1, entry.2⟩)).forM addImport) state =
      (.ok (), { state with facts := { state.facts with
        importDeclarations := state.facts.importDeclarations.insertMany entries } }) := by
  induction entries generalizing state with
  | nil => rfl
  | cons entry more inductionHypothesis =>
    rcases entry with ⟨constructor, index⟩
    have unknown : state.facts.importDeclarations[constructor]? = none := by
      simpa using new (constructor, index) (by simp)
    have first : ending (addImport (argumentPart ⟨constructor, index⟩)) state =
        (.ok (), { state with facts := { state.facts with
          importDeclarations := state.facts.importDeclarations.insert constructor index } }) :=
      addImport_eq_ok_iff.mpr ⟨⟨constructor, index⟩,
        argumentElement_argumentPart (words (constructor, index) (by simp)), rfl, by
          dsimp only
          rw [unknown]⟩
    have parts := List.nodup_cons.mp different
    have wordsRest : forall other, other ∈ more -> other.2 < Text.wordBound :=
      fun other among => words other (by simp [among])
    have newRest : forall other, other ∈ more ->
        other.1 ∉ state.facts.importDeclarations.insert constructor index := by
      intro other among known
      rcases Std.ExtTreeMap.mem_insert.mp known with same | before
      · rw [Std.LawfulEqCmp.compare_eq_iff_eq] at same
        have again : constructor ∈ more.map Prod.fst := by
          rw [same]
          exact List.mem_map_of_mem among
        exact parts.1 again
      · exact new other (by simp [among]) before
    rw [Std.ExtTreeMap.insertMany_cons]
    exact ending_bind_eq_ok_iff.mpr
      ⟨(), _, first, inductionHypothesis _ wordsRest parts.2 newRest⟩

/-- The names of a set, put into no set in any order, make it up again. -/
theorem insertMany_of_perm {names : List String} {set : Std.ExtTreeSet String}
    (listing : names.Perm set.toList) : (∅ : Std.ExtTreeSet String).insertMany names = set := by
  apply Std.ExtTreeSet.ext_mem
  intro name
  rw [Std.ExtTreeSet.mem_insertMany_list, List.contains_iff_mem, listing.mem_iff,
    Std.ExtTreeSet.mem_toList]
  simp

/-- The constructors that a map lists are different. -/
theorem nodup_of_perm {entries : List (String × Nat)} {map : Positions}
    (listing : entries.Perm map.toList) : (entries.map Prod.fst).Nodup := by
  have distinct : (map.toList.map Prod.fst).Nodup := by
    rw [List.nodup_iff_pairwise_ne, List.pairwise_map]
    exact Std.ExtTreeMap.distinct_keys_toList.imp (fun apart same => apart (by simp [same]))
  exact (listing.map Prod.fst).nodup_iff.mpr distinct

/-- The entries of a map, put into no map in any order, make it up again. -/
theorem insertMany_entries_of_perm {entries : List (String × Nat)} {map : Positions}
    (listing : entries.Perm map.toList) : (∅ : Positions).insertMany entries = map := by
  have isEntry : forall name index, (name, index) ∈ entries <-> map[name]? = some index :=
    fun name index => listing.mem_iff.trans Std.ExtTreeMap.mem_toList_iff_getElem?_eq_some
  apply Std.ExtTreeMap.ext_getElem?
  intro name
  cases found : map[name]? with
  | some index =>
    have distinct := List.pairwise_map.mp (List.nodup_iff_pairwise_ne.mp (nodup_of_perm listing))
    exact Std.ExtTreeMap.getElem?_insertMany_list_of_mem Std.ReflCmp.compare_self
      (distinct.imp (fun different same =>
        different (Std.LawfulEqCmp.compare_eq_iff_eq.mp same)))
      ((isEntry name index).mpr found)
  | none =>
    have unlisted : name ∉ entries.map Prod.fst := by
      intro among
      rcases List.mem_map.mp among with ⟨⟨_, index⟩, isListed, rfl⟩
      rw [(isEntry _ index).mp isListed] at found
      cases found
    rw [Std.ExtTreeMap.getElem?_insertMany_list_of_contains_eq_false (by simpa using unlisted)]
    rfl

variable {facts : LanguageFacts} {declared : List Fact} {fact : Fact} {built : Term}

/-- The namespace declaration is the argument that is built. -/
theorem addFact_namespaceDeclaration (built : Term) :
    addFact .namespaceDeclaration (.appl "Build" [built]) = (do
      let found ← liftM (argumentElement built)
      setFacts (fun facts => { facts with namespaceDeclaration := some found })) := rfl

/-- Taking in an encoded fact that was not declared before adds that fact, as it is given. -/
theorem addFact_of_encodes (encodes : EncodesFact facts fact built) (words : HasWords facts)
    (new : fact ∉ declared) :
    ending (addFact fact (.appl "Build" [built])) ⟨facts.only declared, []⟩ =
      (.ok (), ⟨facts.only (fact :: declared), []⟩) := by
  cases encodes with
  | toplevelDeclaration given =>
    refine (ending_setFacts_of_read (stringElement_quotedPart _)
      (fun value facts => { facts with toplevelNonterminal := some value }) _).trans ?_
    simp [LanguageFacts.only, given]
  | extensibleFileExtension given =>
    refine (ending_setFacts_of_read (stringElement_quotedPart _)
      (fun value facts => { facts with extendedFileExtension := some value }) _).trans ?_
    simp [LanguageFacts.only, given]
  | baseFileExtension given =>
    refine (ending_setFacts_of_read (stringElement_quotedPart _)
      (fun value facts => { facts with baseFileExtension := some value }) _).trans ?_
    simp [LanguageFacts.only, given]
  | namespaceDeclaration given =>
    rw [addFact_namespaceDeclaration, ending_setFacts_of_read
      (argumentElement_argumentPart (words.inNamespace _ given))
      (fun argument facts => { facts with namespaceDeclaration := some argument })]
    simp [LanguageFacts.only, given]
  | @bodyDeclarations names chain listing encodes =>
    refine (visitAll_eq_ok_iff.mpr ?_ : ending (visitAll addBody (Chain.ofTerm built)) _ = _)
    rw [encodes.ofTerm]
    refine ⟨rfl, (ending_forM_addBody names _).trans ?_⟩
    simp [LanguageFacts.only, new, insertMany_of_perm listing]
  | @importDeclarations entries chain listing encodes =>
    refine (visitAll_eq_ok_iff.mpr ?_ : ending (visitAll addImport (Chain.ofTerm built)) _ = _)
    rw [encodes.ofTerm]
    have among : forall entry, entry ∈ entries -> entry.2 < Text.wordBound := by
      intro entry isEntry
      have found := Std.ExtTreeMap.mem_toList_iff_getElem?_eq_some.mp (listing.mem_iff.mp isEntry)
      exact words.inImports entry.1 entry.2 found
    have known : forall entry, entry ∈ entries ->
        entry.1 ∉ (facts.only declared).importDeclarations := by
      simp [LanguageFacts.only, new]
    refine ⟨rfl, (ending_forM_addImport entries _ among (nodup_of_perm listing) known).trans ?_⟩
    simp [LanguageFacts.only, new, insertMany_entries_of_perm listing]

end Decoding

/-! ## Decoding all facts -/

variable {lead : String} {facts : LanguageFacts} {declared before : List Fact}
  {declarations : List Term}

/-- A declaration that encodes a fact is taken in as that fact. -/
theorem addDeclaration_declarationOf {fact : Fact} {built : Term} {state after : Decoding}
    (decoded : ending (Decoding.addFact fact (.appl "Build" [built])) state = (.ok (), after)) :
    ending (addDeclaration lead (declarationOf lead fact built)) state = (.ok (), after) := by
  have recognised : recognise? lead (declarationOf lead fact built) =
      some (fact, .appl "Build" [built]) :=
    recognise?_eq_some_iff.mpr ⟨[], none, [], rfl⟩
  unfold addDeclaration
  rw [recognised]
  change ((ending (Decoding.addFact fact (.appl "Build" [built])) state).1.mapError _,
    (ending (Decoding.addFact fact (.appl "Build" [built])) state).2) = _
  rw [decoded]
  rfl

/-- Walking through declarations adds the facts that they encode, and nothing else. -/
theorem forM_addDeclaration_of_encodes (encodes : EncodesFacts lead facts declared declarations)
    (words : HasWords facts) (different : declared.Nodup)
    (new : forall fact, fact ∈ declared -> fact ∉ before) :
    exists after, (forall fact, fact ∈ after <-> fact ∈ declared ∨ fact ∈ before) ∧
      ending (declarations.forM (addDeclaration lead)) ⟨facts.only before, []⟩ =
        (.ok (), ⟨facts.only after, []⟩) := by
  induction encodes generalizing before with
  | none => exact ⟨before, by simp, rfl⟩
  | @fact fact built more declarations encodes further inductionHypothesis =>
    have parts := List.nodup_cons.mp different
    have newRest : forall other, other ∈ more -> other ∉ fact :: before := by
      intro other among again
      rcases List.mem_cons.mp again with rfl | earlier
      · exact parts.1 among
      · exact new other (by simp [among]) earlier
    have first := Decoding.addFact_of_encodes encodes words (new fact (by simp))
    rcases inductionHypothesis parts.2 newRest with ⟨after, isDeclared, later⟩
    refine ⟨after, fun other => ?_, ending_bind_eq_ok_iff.mpr
      ⟨(), _, addDeclaration_declarationOf first, later⟩⟩
    rw [isDeclared, List.mem_cons, List.mem_cons]
    tauto
  | @other declaration more declarations unrecognised further inductionHypothesis =>
    have missed : recognise? lead declaration = none := by
      cases recognised : recognise? lead declaration with
      | none => rfl
      | some found =>
        exact absurd (recognise?_eq_some_iff.mp recognised) (unrecognised found.1 found.2)
    rcases inductionHypothesis different new with ⟨after, isDeclared, later⟩
    refine ⟨after, isDeclared, ending_bind_eq_ok_iff.mpr ⟨(), _, ?_, later⟩⟩
    rw [addDeclaration_of_unrecognised lead declaration missed]
    rfl

/-- Decoding undoes encoding: from a module whose declarations encode the facts of a language,
exactly these facts are decoded, without a warning.  The lead may be any text, and so may the
names; lists and declarations may come in any order. -/
theorem decode_of_isEncoding (encoding : IsEncoding lead facts declarations)
    (words : HasWords facts) (constructor : String) (header : Term) (more : List Term) :
    decode lead (.appl constructor (header :: .known declarations :: more)) = (.ok facts, []) := by
  rcases encoding with ⟨declared, encodes, different, complete⟩
  rcases forM_addDeclaration_of_encodes encodes words different
    (fun fact _ => List.not_mem_nil) with ⟨after, isDeclared, ended⟩
  have completeAfter : forall fact, IsGiven facts fact -> fact ∈ after := fun fact given =>
    (isDeclared fact).mpr (.inl (complete fact given))
  rw [only_nil, only_of_complete completeAfter] at ended
  have found : declarationsOf (.appl constructor (header :: .known declarations :: more)) =
      .ok declarations := declarationsOf_eq_ok_iff.mpr ⟨constructor, header, more, rfl⟩
  rw [decode_of_declarations lead found, ended]

/-- Facts of which some are left open, with a quote in a name. -/
def sampleFacts : LanguageFacts where
  toplevelNonterminal := some "Dec"
  bodyDeclarations := (∅ : Std.ExtTreeSet String).insertMany ["A", "a\"b"]
  importDeclarations := (∅ : Positions).insertMany [("Import", 1)]

/-- The sample facts out of order, with an import in between. -/
def sampleDeclarations : List Term :=
  [declarationOf "x" .importDeclarations
      (wrapped (.appl "ListTail" [.known [argumentPart ⟨"Import", 1⟩],
        wrapped (.appl "List" [.known []])])),
    .appl "Imports" [.known []],
    declarationOf "x" .bodyDeclarations
      (wrapped (.appl "ListTail" [.known [quotedPart "a\"b"],
        wrapped (.appl "List" [.known [quotedPart "A"]])])),
    declarationOf "x" .toplevelDeclaration (quotedPart "Dec")]

theorem isEncoding_sampleDeclarations : IsEncoding "x" sampleFacts sampleDeclarations := by
  have imports : [("Import", 1)].Perm sampleFacts.importDeclarations.toList := by
    decide +kernel
  have bodies : ["a\"b", "A"].Perm sampleFacts.bodyDeclarations.toList := by
    decide +kernel
  refine ⟨[.importDeclarations, .bodyDeclarations, .toplevelDeclaration], ?_, by decide, ?_⟩
  · refine .fact (.importDeclarations imports (.cell .empty)) (.other ?_
      (.fact (.bodyDeclarations bodies (.cell .single))
        (.fact (.toplevelDeclaration rfl) .none)))
    rintro fact rhs ⟨others, tail, more, same⟩
    exact absurd (Term.appl.inj same).1 (by decide)
  · intro fact given
    cases fact with
    | extensibleFileExtension => exact absurd rfl given
    | baseFileExtension => exact absurd rfl given
    | namespaceDeclaration => exact absurd rfl given
    | _ => simp

theorem hasWords_sampleFacts : HasWords sampleFacts where
  inNamespace := fun argument given => by cases given
  inImports := fun constructor index found => by
    have listed : (constructor, index) ∈ sampleFacts.importDeclarations.toList :=
      Std.ExtTreeMap.mem_toList_iff_getElem?_eq_some.mpr found
    have entries : sampleFacts.importDeclarations.toList = [("Import", 1)] := by
      decide +kernel
    rw [entries, List.mem_singleton, Prod.mk.injEq] at listed
    rw [listed.2]
    decide

/-- The sample facts are decoded from the sample declarations. -/
theorem decode_sampleDeclarations :
    IsEncoding "x" sampleFacts sampleDeclarations ∧ HasWords sampleFacts ∧
      decode "x" (.appl "Module" [.str "x", .known sampleDeclarations]) = (.ok sampleFacts, []) :=
  ⟨isEncoding_sampleDeclarations, hasWords_sampleFacts,
    decode_of_isEncoding isEncoding_sampleDeclarations hasWords_sampleFacts "Module" (.str "x") []⟩

end BaseLanguage
