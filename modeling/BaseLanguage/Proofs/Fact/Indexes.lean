import Mathlib.Algebra.Group.Nat.Defs
import BaseLanguage.Proofs.Fact.Shapes
import BaseLanguage.Proofs.Report

namespace BaseLanguage

open Term.Grammar

/-!
# Indexes of arguments

The index of an argument selects a child of a declaration later on.  A number that wraps round or
is cut off would select another child without a word.  So an index must be the number that stands
there, or the fact is malformed.

`SpellsIndex` says which number a text spells, apart from how it is read: the text is taken apart
into blanks, a sign and digits.  An integer in the place of a text goes by its decimal text, so
that both are covered by one statement about texts.

The place of an index is looked at twice.  In one element, decoding gives the index or the fault,
whatever else there is in the element.  In a module, it goes by what stands in front of the place
and behind it, which `IndexPlace` holds together.
-/

/-! ## Texts of indexes -/

/-- A text spells an index: without the blanks around it, it is a run of digits with or without a
plus sign, and the number fits sixty-four bits. -/
def SpellsIndex (text : String) (index : Nat) : Prop :=
  exists core, Text.IsTrimmed core text.toList ∧ Unsigned core index ∧ index < 2 ^ 64

/-- The text of a leaf in the place of an index. -/
inductive ShowsText : Term -> String -> Prop where
  | string {text : String} : ShowsText (.str text) text
  | integer {value : Int} : ShowsText (.int value) (toString value)

variable {leaf element pair rhs : Term} {text name : String} {index : Nat} {fact : Fact}

/-- What is spelled is what is read from the trimmed text. -/
theorem spellsIndex_iff :
    SpellsIndex text index <-> Text.word? (Text.trim text.toList) = some index := by
  rw [word?_eq_some_iff]
  constructor
  · rintro ⟨core, trimmed, spelled, fits⟩
    rw [trimmed.eq_trim] at spelled
    exact ⟨spelled, fits⟩
  · rintro ⟨spelled, fits⟩
    exact ⟨_, Text.isTrimmed_trim _, spelled, fits⟩

theorem toList_toString (value : Int) : (toString value).toList = Text.signedDecimal value := by
  cases value with
  | ofNat number => exact String.toList_ofList
  | negSucc number =>
    change ("-" ++ Nat.repr (number + 1)).toList = _
    rw [String.toList_append]
    exact congrArg ('-' :: ·) String.toList_ofList

theorem ShowsText.indexText (shows : ShowsText leaf text) : indexText leaf = .ok text := by
  cases shows with
  | string => rfl
  | integer =>
    change Except.ok (String.ofList _) = _
    rw [← toList_toString, String.ofList_toList]

/-- The decimal text of an integer spells it if it is not negative, and nothing otherwise. -/
theorem spellsIndex_toString_iff {value : Int} :
    SpellsIndex (toString value) index <-> (index : Int) = value ∧ index < 2 ^ 64 := by
  rw [spellsIndex_iff, toList_toString]
  cases value with
  | ofNat number =>
    have spelled := unsigned_decimal number
    change Text.word? (Text.trim (Text.decimal number)) = some index <-> _
    rw [trim_of_visible spelled.visible, word?_eq_some_iff]
    constructor
    · rintro ⟨read, fits⟩
      exact ⟨congrArg Int.ofNat (read.unique spelled), fits⟩
    · rintro ⟨same, fits⟩
      rw [Int.ofNat.inj same]
      exact ⟨spelled, Int.ofNat.inj same ▸ fits⟩
  | negSucc number =>
    -- A minus sign is no blank, so that it stays, and it is no digit.
    have visible : forall c, c ∈ '-' :: Text.decimal (number + 1) -> Text.isBlank c = false :=
      List.forall_mem_cons.mpr ⟨by decide, (unsigned_decimal _).visible⟩
    change Text.word? (Text.trim ('-' :: Text.decimal (number + 1))) = some index <-> _
    rw [trim_of_visible visible, word?_eq_some_iff]
    constructor
    · rintro ⟨read, _⟩
      cases read with
      | plain digits => exact absurd (digits.2 '-' (by simp)) (by decide)
    · rintro ⟨same, _⟩
      cases same

/-! ## Elements -/

/-- An index is read from the trimmed text, and what cannot be read is the fault, untrimmed. -/
theorem indexElement_of_isPart (isPart : IsPart False "Int" leaf element)
    (shows : ShowsText leaf text) :
    indexElement element =
      match Text.word? (Text.trim text.toList) with
      | some index => .ok index
      | none => .error (.index text) := by
  rcases isPart with ⟨node, outer, inner⟩
  unfold indexElement
  rw [(isNode_iff _).mp outer, ok_bind, (isNode_iff _).mp inner, ok_bind, shows.indexText, ok_bind]
  rfl

theorem indexElement_eq_ok_iff (isPart : IsPart False "Int" leaf element)
    (shows : ShowsText leaf text) :
    indexElement element = .ok index <-> SpellsIndex text index := by
  rw [indexElement_of_isPart isPart shows, spellsIndex_iff]
  cases Text.word? (Text.trim text.toList) <;> simp

theorem indexElement_eq_error_iff (isPart : IsPart False "Int" leaf element)
    (shows : ShowsText leaf text) {fault : FactFault} :
    indexElement element = .error fault <->
      fault = .index text ∧ forall index, ¬ SpellsIndex text index := by
  simp only [indexElement_of_isPart isPart shows, spellsIndex_iff]
  cases Text.word? (Text.trim text.toList) <;> simp [eq_comm]

/-! ## Pairs -/

/-- A pair names a constructor and has an element in the place of the index. -/
def IsPair (name : String) (element pair : Term) : Prop :=
  exists constructor, IsPart False "Tuple" (.known [constructor, element]) pair ∧
    stringElement constructor = .ok name

/-- The index of a pair is decoded as it is for itself. -/
theorem argumentElement_of_isPair (isPair : IsPair name element pair) :
    argumentElement pair = (indexElement element).map (ConstructorArgument.mk name) := by
  rcases isPair with ⟨constructor, ⟨node, outer, inner⟩, named⟩
  unfold argumentElement
  rw [(isNode_iff _).mp outer, ok_bind, (isNode_iff _).mp inner, ok_bind]
  change (do
    let constructor ← stringElement constructor
    let index ← indexElement element
    return ConstructorArgument.mk constructor index) = _
  rw [named, ok_bind]
  cases indexElement element <;> rfl

/-- The pairs that a right-hand side lists, and what is wrong behind them.  Only two facts have
pairs, one of them a single pair. -/
inductive ListsPairs : Fact -> Term -> Chain -> Prop where
  | single {built rhs : Term} (node : IsNode False "Build" [built] rhs) :
      ListsPairs .namespaceDeclaration rhs ⟨[built], none⟩
  | chain {built rhs : Term} (node : IsNode False "Build" [built] rhs) :
      ListsPairs .importDeclarations rhs (Chain.ofTerm built)

/-- An argument is what facts say of its fact, or of its constructor if there may be several. -/
def HoldsArgument (facts : LanguageFacts) (fact : Fact) (argument : ConstructorArgument) : Prop :=
  match fact with
  | .namespaceDeclaration => facts.namespaceDeclaration = some argument
  | .importDeclarations =>
    facts.importDeclarations[argument.constructor]? = some argument.index
  | _ => False

namespace Decoding

/-- One more argument of a fact that has arguments. -/
def withArgument (fact : Fact) (state : Decoding) (argument : ConstructorArgument) : Decoding :=
  match fact with
  | .namespaceDeclaration =>
    { state with facts := { state.facts with namespaceDeclaration := some argument } }
  | .importDeclarations => state.withImport argument
  | _ => state

/-- A right-hand side says what its pairs say, one after the other. -/
theorem reading_of_listsPairs {chain : Chain} (lists : ListsPairs fact rhs chain) :
    reading fact rhs = (do
      let arguments ← readChain argumentElement chain
      return fun state => arguments.foldl (withArgument fact) state) := by
  cases lists with
  | single node =>
    unfold reading readArgument
    rw [(isNode_iff _).mp node, ok_bind, readChain, List.mapM_cons, List.mapM_nil]
    cases argumentElement _ <;> rfl
  | chain node =>
    unfold reading readRow
    rw [(isNode_iff _).mp node, ok_bind]
    rfl

theorem holdsArgument_withArgument {chain : Chain} (lists : ListsPairs fact rhs chain)
    (state : Decoding) (argument : ConstructorArgument) :
    HoldsArgument (withArgument fact state argument).facts fact argument := by
  cases lists with
  | single => rfl
  | chain => exact Std.ExtTreeMap.getElem?_insert_self

theorem AgreeOn.holdsArgument_iff {left right : Decoding} (agree : AgreeOn left right fact)
    (argument : ConstructorArgument) :
    HoldsArgument left.facts fact argument <-> HoldsArgument right.facts fact argument := by
  cases fact <;> simp_all [AgreeOn, HoldsArgument]

end Decoding

/-! ## Places in modules -/

/-- A leaf in the place of an index in a module. -/
structure IndexPlace (leaf : Term) where
  lead : String
  module : Term
  /-- The declarations in front of the one that has the place. -/
  before : List Term
  declaration : Term
  after : List Term
  fact : Fact
  rhs : Term
  /-- The pairs in front of the one that has the place. -/
  front : List Term
  pair : Term
  back : List Term
  /-- What is wrong behind the last pair. -/
  fault : Option FactFault
  /-- The constructor that the pair names. -/
  name : String
  element : Term
  found : declarationsOf module = .ok (before ++ declaration :: after)
  recognised : recognise? lead declaration = some (fact, rhs)
  lists : ListsPairs fact rhs ⟨front ++ pair :: back, fault⟩
  isPair : IsPair name element pair
  isPart : IsPart False "Int" leaf element

namespace IndexPlace

/-- Nothing in front of the place is malformed, so that decoding comes to it. -/
structure IsReached (place : IndexPlace leaf) : Prop where
  before : forall earlier, earlier ∈ place.before -> IsShaped False place.lead earlier
  front : forall pair, pair ∈ place.front -> IsArgument False pair

/-- Nothing behind the place is malformed. -/
structure IsLeft (place : IndexPlace leaf) : Prop where
  after : forall later, later ∈ place.after -> IsShaped False place.lead later
  back : forall pair, pair ∈ place.back -> IsArgument False pair
  faultless : place.fault = none

/-- Nothing behind the place is said about the same fact. -/
structure IsLast (place : IndexPlace leaf) : Prop where
  after : forall later rhs, later ∈ place.after ->
    recognise? place.lead later ≠ some (place.fact, rhs)
  back : place.back = []

variable (place : IndexPlace leaf)

/-- Around the place, the pairs are read one after the other. -/
theorem reading_eq : Decoding.reading place.fact place.rhs = (do
    let early ← place.front.mapM argumentElement
    let index ← indexElement place.element
    let late ← place.back.mapM argumentElement
    match place.fault with
    | some fault => throw fault
    | none => return fun state =>
      (early ++ ⟨place.name, index⟩ :: late).foldl (Decoding.withArgument place.fact) state) := by
  rw [Decoding.reading_of_listsPairs place.lists, readChain, List.mapM_append, List.mapM_cons,
    argumentElement_of_isPair place.isPair]
  cases place.front.mapM argumentElement with
  | error fault => rfl
  | ok early =>
    cases indexElement place.element with
    | error fault => rfl
    | ok index =>
      cases place.back.mapM argumentElement with
      | error fault => rfl
      | ok late => cases place.fault <;> rfl

/-- What can be read has the index among its arguments. -/
theorem exists_index_of_reading {change : Decoding -> Decoding}
    (reads : Decoding.reading place.fact place.rhs = .ok change) :
    exists early index late, indexElement place.element = .ok index ∧
      place.back.mapM argumentElement = .ok late ∧
      change = fun state =>
        (early ++ ⟨place.name, index⟩ :: late).foldl (Decoding.withArgument place.fact) state := by
  rw [place.reading_eq] at reads
  rcases bind_eq_ok_iff.mp reads with ⟨early, _, reads⟩
  rcases bind_eq_ok_iff.mp reads with ⟨index, read, reads⟩
  rcases bind_eq_ok_iff.mp reads with ⟨late, readBack, reads⟩
  split at reads
  · cases reads
  · cases reads
    exact ⟨early, index, late, read, readBack, rfl⟩

/-- The first place that spells no index is why decoding fails. -/
theorem decode_of_unspelled (reached : place.IsReached) (shows : ShowsText leaf text)
    (unspelled : forall index, ¬ SpellsIndex text index) :
    (decode place.lead place.module).1 = .error (.fact place.fact (.index text)) := by
  have malformed : Decoding.reading place.fact place.rhs = .error (.index text) := by
    rcases (exists_mapM_iff place.front).mpr fun pair among =>
      exists_argumentElement_iff.mpr (reached.front pair among) with ⟨early, readFront⟩
    rw [place.reading_eq, readFront, ok_bind,
      (indexElement_eq_error_iff place.isPart shows).mpr ⟨rfl, unspelled⟩]
    rfl
  exact decode_of_firstMalformed place.found
    ⟨place.before, place.declaration, place.after, rfl, ⟨place.rhs, place.recognised, malformed⟩,
      fun earlier among => isSound_iff.mpr (reached.before earlier among)⟩

/-- Where nothing else is malformed, an index that is spelled is decoded. -/
theorem exists_decode_of_spelled (reached : place.IsReached) (left : place.IsLeft)
    (shows : ShowsText leaf text) (spelled : SpellsIndex text index) :
    exists facts, (decode place.lead place.module).1 = .ok facts := by
  have reads : exists change, Decoding.reading place.fact place.rhs = .ok change := by
    rcases (exists_mapM_iff place.front).mpr fun pair among =>
      exists_argumentElement_iff.mpr (reached.front pair among) with ⟨early, readFront⟩
    rcases (exists_mapM_iff place.back).mpr fun pair among =>
      exists_argumentElement_iff.mpr (left.back pair among) with ⟨late, readBack⟩
    rw [place.reading_eq, readFront, ok_bind,
      (indexElement_eq_ok_iff place.isPart shows).mpr spelled, ok_bind, readBack, ok_bind,
      left.faultless]
    exact ⟨_, rfl⟩
  have here : IsShaped False place.lead place.declaration := by
    intro fact rhs recognised
    cases place.recognised.symm.trans recognised
    exact exists_reading_iff.mp reads
  refine (exists_decode_iff_isSound place.found).mpr fun declaration among => isSound_iff.mpr ?_
  rcases List.mem_append.mp among with earlier | later
  · exact reached.before declaration earlier
  · rcases List.mem_cons.mp later with rfl | later
    · exact here
    · exact left.after declaration later

/-- If nothing more is said about the fact behind the place, its right-hand side is the last one of
the fact. -/
theorem rightHandSides_of_isLast (last : place.IsLast) :
    rightHandSides place.lead place.fact (place.before ++ place.declaration :: place.after) =
      rightHandSides place.lead place.fact place.before ++ [place.rhs] := by
  have nothing : rightHandSides place.lead place.fact place.after = [] := by
    refine List.filterMap_eq_nil_iff.mpr fun later among => ?_
    split
    · next other rhs recognised =>
      refine if_neg fun same => ?_
      exact last.after later rhs among (same ▸ recognised)
    · rfl
  unfold rightHandSides at nothing ⊢
  rw [List.filterMap_append, List.filterMap_cons, nothing, place.recognised]
  simp

/-- Where decoding succeeds, the leaf spells an index, and this index is known in the end unless
more is said about the fact behind it. -/
theorem spells_of_decode (shows : ShowsText leaf text) {facts : LanguageFacts}
    (decoded : (decode place.lead place.module).1 = .ok facts) :
    exists index, SpellsIndex text index ∧
      (place.IsLast -> HoldsArgument facts place.fact ⟨place.name, index⟩) := by
  have sound := (exists_decode_iff_isSound place.found).mp ⟨facts, decoded⟩
  have here := isSound_iff.mp (sound place.declaration (by simp)) _ _ place.recognised
  rcases exists_reading_iff.mpr here with ⟨change, reads⟩
  rcases place.exists_index_of_reading reads with ⟨early, index, late, read, readBack, same⟩
  refine ⟨index, (indexElement_eq_ok_iff place.isPart shows).mp read, fun last => ?_⟩
  -- About this fact, a module says what its right-hand sides say alone, the last one at the end.
  have alone := agreeOn_foldl_taking place.lead place.fact
    (place.before ++ place.declaration :: place.after) (.refl {} _)
  have nothingLate : late = [] := by
    rw [last.back] at readBack
    exact (Except.ok.inj readBack).symm
  rw [decode_of_isSound place.found sound, Except.ok.injEq] at decoded
  rw [place.rightHandSides_of_isLast last, List.foldl_concat] at alone
  rw [← decoded, alone.holdsArgument_iff, Decoding.take, reads, same, nothingLate]
  dsimp only
  rw [List.foldl_concat]
  exact Decoding.holdsArgument_withArgument place.lists _ _

end IndexPlace

/-! ## Exact indexes -/

/-- A leaf in the place of an index is decoded to the index that its text spells, and rejected with
all of its text if it spells none. -/
structure DecodesIndex (leaf : Term) (text : String) : Prop where
  ok_iff : forall element, IsPart False "Int" leaf element -> forall index,
    indexElement element = .ok index <-> SpellsIndex text index
  error_iff : forall element, IsPart False "Int" leaf element -> forall fault,
    indexElement element = .error fault <->
      fault = .index text ∧ forall index, ¬ SpellsIndex text index
  /-- In a module where nothing in front of it is malformed, it is why decoding fails. -/
  rejected : forall place : IndexPlace leaf, place.IsReached ->
    (forall index, ¬ SpellsIndex text index) ->
      (decode place.lead place.module).1 = .error (.fact place.fact (.index text))
  /-- In a module where nothing else is malformed, decoding succeeds. -/
  accepted : forall place : IndexPlace leaf, place.IsReached -> place.IsLeft ->
    (exists index, SpellsIndex text index) ->
      exists facts, (decode place.lead place.module).1 = .ok facts
  /-- Where decoding succeeds, it is known in the end, unless more is said behind it. -/
  known : forall (place : IndexPlace leaf) (facts : LanguageFacts),
    (decode place.lead place.module).1 = .ok facts ->
      exists index, SpellsIndex text index ∧
        (place.IsLast -> HoldsArgument facts place.fact ⟨place.name, index⟩)

theorem ShowsText.decodesIndex (shows : ShowsText leaf text) : DecodesIndex leaf text where
  ok_iff _ isPart _ := indexElement_eq_ok_iff isPart shows
  error_iff _ isPart _ := indexElement_eq_error_iff isPart shows
  rejected place reached := place.decode_of_unspelled reached shows
  accepted place reached left := fun ⟨_, spelled⟩ =>
    place.exists_decode_of_spelled reached left shows spelled
  known place _ := place.spells_of_decode shows

/-- An index is exact or rejected.  A text in its place, in an element as in a module, is decoded to
the number that it spells, if this fits sixty-four bits, and else it is the fault as it stands.  An
integer is decoded like its decimal text: to itself, unless it is negative. -/
theorem indexes_exact_or_rejected :
    (forall text, DecodesIndex (.str text) text) ∧
    forall value, IsLong value ->
      DecodesIndex (.int value) (toString value) ∧
      forall element, IsPart False "Int" (.int value) element ->
        (0 ≤ value -> indexElement element = .ok value.toNat) ∧
        (value < 0 -> indexElement element = .error (.index (toString value))) ∧
        forall other, IsPart False "Int" (.str (toString value)) other ->
          indexElement other = indexElement element := by
  refine ⟨fun text => ShowsText.string.decodesIndex, fun value long =>
    ⟨ShowsText.integer.decodesIndex, fun element isPart => ⟨fun notNegative => ?_,
      fun negative => ?_, fun other otherPart => ?_⟩⟩⟩
  · refine (indexElement_eq_ok_iff isPart .integer).mpr (spellsIndex_toString_iff.mpr ?_)
    have below := long.2
    omega
  · refine (indexElement_eq_error_iff isPart .integer).mpr ⟨rfl, fun index spelled => ?_⟩
    have same := (spellsIndex_toString_iff.mp spelled).1
    omega
  · rw [indexElement_of_isPart otherPart .string, indexElement_of_isPart isPart .integer]

/-- A pair with a leaf in the place of the index. -/
def samplePair (leaf : Term) : Term :=
  wrapped (.appl "Tuple" [.known [quotedPart "Module", wrapped (.appl "Int" [leaf])]])

/-- A module with one namespace declaration. -/
def samplePlace (leaf : Term) : IndexPlace leaf where
  lead := "x"
  module := .appl "Module" [.str "x",
    .known [declarationOf "x" .namespaceDeclaration (samplePair leaf)]]
  before := []
  declaration := declarationOf "x" .namespaceDeclaration (samplePair leaf)
  after := []
  fact := .namespaceDeclaration
  rhs := .appl "Build" [samplePair leaf]
  front := []
  pair := samplePair leaf
  back := []
  fault := none
  name := "Module"
  element := wrapped (.appl "Int" [leaf])
  found := rfl
  recognised := recognise?_eq_some_iff.mpr ⟨[], none, [], rfl⟩
  lists := .single ⟨"Build", [], rfl, nofun⟩
  isPair := ⟨_, ⟨_, ⟨_, [], rfl, nofun⟩, ⟨_, [], rfl, nofun⟩⟩, stringElement_quotedPart "Module"⟩
  isPart := ⟨_, ⟨_, [], rfl, nofun⟩, ⟨_, [], rfl, nofun⟩⟩

/-- The greatest index is decoded; one more is rejected with its blanks, and so is a negative
integer. -/
theorem indexes_exact_or_rejected_atBounds :
    indexElement (samplePlace (.str "\u3000+0018446744073709551615\n")).element =
      .ok 18446744073709551615 ∧
    (decode "x" (samplePlace (.str " 18446744073709551616")).module).1 =
      .error (.fact .namespaceDeclaration (.index " 18446744073709551616")) ∧
    IsLong (-1) ∧ indexElement (samplePlace (.int (-1))).element = .error (.index "-1") := by
  have greatest : SpellsIndex "\u3000+0018446744073709551615\n" 18446744073709551615 :=
    spellsIndex_iff.mpr (by decide +kernel)
  have tooLarge : forall index, ¬ SpellsIndex " 18446744073709551616" index := by
    have unread : Text.word? (Text.trim " 18446744073709551616".toList) = none := by
      decide +kernel
    intro index spelled
    rw [spellsIndex_iff, unread] at spelled
    cases spelled
  have long : IsLong (-1) := ⟨by decide, by decide⟩
  exact ⟨((indexes_exact_or_rejected.1 _).ok_iff _ (samplePlace _).isPart _).mpr greatest,
    (indexes_exact_or_rejected.1 _).rejected (samplePlace _) ⟨nofun, nofun⟩ tooLarge,
    long, ((indexes_exact_or_rejected.2 _ long).2 _ (samplePlace _).isPart).2.1 (by decide)⟩

end BaseLanguage
