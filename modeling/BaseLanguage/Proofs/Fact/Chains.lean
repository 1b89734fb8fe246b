import BaseLanguage.Fact.Decoder
import BaseLanguage.Proofs.Stepwise

namespace BaseLanguage

/-!
# Chains and what is visited of them

The elements of a body or an import fact come as a chain.  `Cells` tells which elements are listed
in a term, cell by cell, without a word about decoding.  Decoding visits the first element of each
inner cell and the one of the last cell, if there is one, in the order of the chain and each of
them once.  It does so exactly on the chains that have no empty inner cell and at most one element
in the last one.

The last cell is checked for more elements than one, the others are not.  So an element that is
not the first one of an inner cell is dropped without a word, and the last section says that
nothing else is.
-/

/-- The elements that are listed in a chain: those of each inner cell, and those of the last. -/
inductive Cells : Term -> List (List Term) -> List Term -> Prop where
  | last {wrapper : String} {elems rest more : List Term} :
      Cells (.appl wrapper (.appl "List" (.known elems :: rest) :: more)) [] elems
  | inner {wrapper : String} {row rest more : List Term} {next : Term}
      {rows : List (List Term)} {elems : List Term} (further : Cells next rows elems) :
      Cells (.appl wrapper (.appl "ListTail" (.known row :: next :: rest) :: more))
        (row :: rows) elems

/-- The elements that stand first in their inner cell, and those of the last cell. -/
def firstsOf (rows : List (List Term)) (elems : List Term) : List Term :=
  rows.filterMap List.head? ++ elems

theorem firstsOf_cons (first : Term) (row : List Term) (rows : List (List Term))
    (elems : List Term) :
    firstsOf ((first :: row) :: rows) elems = first :: firstsOf rows elems := by
  simp [firstsOf]

/-- Every inner cell lists an element, and the last one not more than one. -/
structure AreVisitable (rows : List (List Term)) (elems : List Term) : Prop where
  inhabited : forall row, row ∈ rows -> row ≠ []
  length_le : elems.length ≤ 1

namespace Chain

theorem elems_eq_ok_iff {cell : String} {children elems : List Term} :
    (Term.appl cell children).child 0 >>= Term.knownElems = .ok elems <->
      exists rest, children = .known elems :: rest := by
  rw [bind_eq_ok_iff]
  constructor
  · rintro ⟨part, isFirst, isKnown⟩
    rcases Term.child_eq_ok_iff.mp isFirst with ⟨_, found, same, atZero⟩
    rw [(Term.appl.inj same).2, ← Term.knownElems_eq_ok_iff.mp isKnown]
    cases found with
    | nil => simp at atZero
    | cons first rest =>
      rw [List.getElem?_cons_zero, Option.some.injEq] at atZero
      exact ⟨rest, by rw [atZero]⟩
  · rintro ⟨rest, rfl⟩
    exact ⟨_, rfl, rfl⟩

theorem ofTerminal_of_length_le {elems : List Term} (few : elems.length ≤ 1) :
    ofTerminal elems = ⟨elems, none⟩ := by
  cases elems with
  | nil => rfl
  | cons element more =>
    cases more with
    | nil => rfl
    | cons second others => simp at few

theorem length_le_of_ofTerminal {elems : List Term}
    (sound : (ofTerminal elems).fault = none) : elems.length ≤ 1 := by
  cases elems with
  | nil => simp
  | cons element more =>
    cases more with
    | nil => simp
    | cons second others => simp [ofTerminal, broken] at sound

/-- A chain that can be visited is visited at the first element of each cell. -/
theorem ofTerm_of_cells {term : Term} {rows : List (List Term)} {elems : List Term}
    (cells : Cells term rows elems) (visitable : AreVisitable rows elems) :
    ofTerm term = ⟨firstsOf rows elems, none⟩ := by
  induction cells with
  | @last wrapper elems rest more =>
    have listed : (Term.appl "List" (.known elems :: rest)).child 0 >>= Term.knownElems =
        .ok elems := elems_eq_ok_iff.mpr ⟨rest, rfl⟩
    unfold ofTerm
    rw [if_pos rfl, listed]
    exact ofTerminal_of_length_le visitable.length_le
  | @inner wrapper row rest more next rows elems further inductionHypothesis =>
    have listed : (Term.appl "ListTail" (.known row :: next :: rest)).child 0 >>=
        Term.knownElems = .ok row := elems_eq_ok_iff.mpr ⟨next :: rest, rfl⟩
    have visitableNext : AreVisitable rows elems :=
      ⟨fun other among => visitable.inhabited other (List.mem_cons_of_mem row among),
        visitable.length_le⟩
    unfold ofTerm
    rw [if_neg (by decide), if_pos rfl, listed]
    cases row with
    | nil => exact absurd rfl (visitable.inhabited [] (by simp))
    | cons first others =>
      dsimp only
      rw [inductionHypothesis visitableNext, firstsOf_cons]
      rfl

/-- Only chains that can be visited are found to be without fault. -/
theorem cells_of_ofTerm (term : Term) (sound : (ofTerm term).fault = none) :
    exists rows elems, Cells term rows elems ∧ AreVisitable rows elems := by
  fun_induction ofTerm term with
  | case1 wrapper children more elems listed =>
    rcases elems_eq_ok_iff.mp listed with ⟨rest, rfl⟩
    exact ⟨[], elems, .last, by simp, length_le_of_ofTerminal sound⟩
  | case4 wrapper more first others head next rest notList listed inductionHypothesis =>
    rcases elems_eq_ok_iff.mp listed with ⟨_, same⟩
    rcases inductionHypothesis sound with ⟨rows, elems, further, visitable⟩
    rw [(List.cons.inj same).1]
    refine ⟨(first :: others) :: rows, elems, .inner further, ?_, visitable.length_le⟩
    intro row among
    rcases List.mem_cons.mp among with rfl | later
    · simp
    · exact visitable.inhabited row later
  | _ => simp [broken, push] at sound

end Chain

/-! ## Elements of facts -/

namespace Decoding

/-- The step that takes in one element, for the facts that list elements. -/
def elementStep? : Fact -> Option (Term -> DecodeStep Unit)
  | .bodyDeclarations => some addBody
  | .importDeclarations => some addImport
  | _ => none

/-- The constructor that an element of a fact declares. -/
def constructorOf (fact : Fact) (element : Term) : Except FactFault String :=
  match fact with
  | .importDeclarations => (argumentElement element).map ConstructorArgument.constructor
  | _ => stringElement element

/-- Whether a constructor has an entry among those that are declared by a fact. -/
def HasEntry (facts : LanguageFacts) (fact : Fact) (name : String) : Prop :=
  match fact with
  | .bodyDeclarations => name ∈ facts.bodyDeclarations
  | .importDeclarations => name ∈ facts.importDeclarations
  | _ => False

/-- Taking in a body declaration reads its constructor and adds it. -/
theorem addBody_eq_ok_iff {element : Term} {state after : Decoding} :
    ending (addBody element) state = (.ok (), after) <->
      exists name, stringElement element = .ok name ∧
        after = { state with facts := { state.facts with
          bodyDeclarations := state.facts.bodyDeclarations.insert name } } := by
  unfold addBody
  rw [ending_bind_eq_ok_iff]
  simp only [ending_liftM, Prod.mk.injEq]
  constructor
  · rintro ⟨name, middle, ⟨read, rfl⟩, added⟩
    rw [ending_modify, Prod.mk.injEq] at added
    exact ⟨name, read, added.2.symm⟩
  · rintro ⟨name, read, rfl⟩
    exact ⟨name, state, ⟨read, rfl⟩, rfl⟩

/-- Taking in an import declaration reads its argument, adds it, and warns if its constructor was
there already. -/
theorem addImport_eq_ok_iff {element : Term} {state after : Decoding} :
    ending (addImport element) state = (.ok (), after) <->
      exists argument, argumentElement element = .ok argument ∧
        after.facts = { state.facts with
          importDeclarations :=
            state.facts.importDeclarations.insert argument.constructor argument.index } ∧
        after.warnings =
          match state.facts.importDeclarations[argument.constructor]? with
          | some previous =>
            state.warnings ++ [.importRedeclared argument.constructor previous argument.index]
          | none => state.warnings := by
  unfold addImport
  rw [ending_bind_eq_ok_iff]
  simp only [ending_liftM, Prod.mk.injEq]
  constructor
  · rintro ⟨argument, middle, ⟨read, rfl⟩, added⟩
    rw [ending_modify, Prod.mk.injEq] at added
    rw [← added.2]
    exact ⟨argument, read, rfl, rfl⟩
  · rintro ⟨argument, read, facts, warnings⟩
    refine ⟨argument, state, ⟨read, rfl⟩, ?_⟩
    rcases after with ⟨afterFacts, afterWarnings⟩
    dsimp only at facts warnings
    rw [facts, warnings]
    rfl

/-- A fact that lists elements is taken in by visiting a chain. -/
theorem addFact_eq_visitAll {fact : Fact} {visit : Term -> DecodeStep Unit}
    (listed : elementStep? fact = some visit) (rhs : Term) :
    addFact fact rhs = (do
      let built ← liftM (inFact (rhs.child 0))
      visitAll visit (Chain.ofTerm built)) := by
  cases fact with
  | bodyDeclarations => cases listed; rfl
  | importDeclarations => cases listed; rfl
  | _ => cases listed

/-- A visit to a chain succeeds if the chain has no fault and the visit to each element does. -/
theorem visitAll_eq_ok_iff {visit : Term -> DecodeStep Unit} {chain : Chain}
    {state after : Decoding} :
    ending (visitAll visit chain) state = (.ok (), after) <->
      chain.fault = none ∧ ending (chain.elements.forM visit) state = (.ok (), after) := by
  unfold visitAll
  rw [ending_bind_eq_ok_iff]
  cases fault : chain.fault with
  | none =>
    constructor
    · rintro ⟨_, middle, visited, done⟩
      rw [ending_pure, Prod.mk.injEq] at done
      exact ⟨rfl, done.2 ▸ visited⟩
    · rintro ⟨_, visited⟩
      exact ⟨(), after, visited, ending_pure () after⟩
  | some found =>
    constructor
    · rintro ⟨_, middle, _, failed⟩
      rw [ending_throw] at failed
      cases failed
    · rintro ⟨sound, _⟩
      cases sound

/-- An element that is visited has its entry, and those before keep theirs. -/
theorem hasEntry_of_visit {fact : Fact} {visit : Term -> DecodeStep Unit}
    (listed : elementStep? fact = some visit) {element : Term} {state after : Decoding}
    (visited : ending (visit element) state = (.ok (), after)) :
    (exists name, constructorOf fact element = .ok name ∧ HasEntry after.facts fact name) ∧
      forall name, HasEntry state.facts fact name -> HasEntry after.facts fact name := by
  cases fact with
  | bodyDeclarations =>
    cases listed
    rcases addBody_eq_ok_iff.mp visited with ⟨name, read, rfl⟩
    exact ⟨⟨name, read, by simp [HasEntry]⟩, fun other present => by
      simp only [HasEntry] at present ⊢
      simp [present]⟩
  | importDeclarations =>
    cases listed
    rcases addImport_eq_ok_iff.mp visited with ⟨argument, read, facts, _⟩
    refine ⟨⟨argument.constructor, ?_, ?_⟩, fun other present => ?_⟩
    · simp [constructorOf, read, Except.map]
    · simp [HasEntry, facts]
    · simp only [HasEntry] at present ⊢
      simp [facts, present]
  | _ => cases listed

/-- All elements that are visited have their entries in the end. -/
theorem hasEntry_of_forM_visit {fact : Fact} {visit : Term -> DecodeStep Unit}
    (listed : elementStep? fact = some visit) (elements : List Term) {state after : Decoding}
    (visited : ending (elements.forM visit) state = (.ok (), after)) :
    (forall element, element ∈ elements ->
      exists name, constructorOf fact element = .ok name ∧ HasEntry after.facts fact name) ∧
      forall name, HasEntry state.facts fact name -> HasEntry after.facts fact name := by
  induction elements generalizing state with
  | nil =>
    have same : state = after := congrArg Prod.snd visited
    exact ⟨by simp, fun name present => same ▸ present⟩
  | cons element more inductionHypothesis =>
    rcases ending_bind_eq_ok_iff.mp visited with ⟨_, middle, first, later⟩
    rcases hasEntry_of_visit listed first with ⟨⟨name, read, entered⟩, kept⟩
    rcases inductionHypothesis later with ⟨entries, keptLater⟩
    refine ⟨fun other among => ?_, fun other present => keptLater other (kept other present)⟩
    rcases List.mem_cons.mp among with rfl | behind
    · exact ⟨name, read, keptLater name entered⟩
    · exact entries other behind

end Decoding

/-! ## What is dropped -/

theorem length_firstsOf_le {rows : List (List Term)}
    (inhabited : forall row, row ∈ rows -> row ≠ []) (elems : List Term) :
    (firstsOf rows elems).length ≤ (rows.flatten ++ elems).length := by
  induction rows with
  | nil => simp [firstsOf]
  | cons row rows inductionHypothesis =>
    have further := inductionHypothesis (fun other among =>
      inhabited other (List.mem_cons_of_mem row among))
    cases row with
    | nil => exact absurd rfl (inhabited [] (by simp))
    | cons first others =>
      rw [firstsOf_cons]
      simp only [List.length_cons, List.flatten_cons, List.length_append] at further ⊢
      omega

/-- The first elements are all there are exactly if no inner cell has a second one. -/
theorem firstsOf_eq_flatten_iff {rows : List (List Term)}
    (inhabited : forall row, row ∈ rows -> row ≠ []) (elems : List Term) :
    firstsOf rows elems = rows.flatten ++ elems <-> forall row, row ∈ rows -> row.length = 1 := by
  induction rows with
  | nil => simp [firstsOf]
  | cons row rows inductionHypothesis =>
    have inhabitedRest : forall other, other ∈ rows -> other ≠ [] := fun other among =>
      inhabited other (List.mem_cons_of_mem row among)
    have further := inductionHypothesis inhabitedRest
    have few := length_firstsOf_le inhabitedRest elems
    cases row with
    | nil => exact absurd rfl (inhabited [] (by simp))
    | cons first others =>
      rw [firstsOf_cons, List.forall_mem_cons, ← further]
      simp only [List.flatten_cons, List.cons_append, List.cons.injEq, true_and,
        List.append_assoc, List.length_cons, Nat.add_eq_right, List.length_eq_zero_iff]
      constructor
      · intro same
        have lengths := congrArg List.length same
        rw [List.length_append] at lengths
        have none : others = [] := List.length_eq_zero_iff.mp (by omega)
        rw [none, List.nil_append] at same
        exact ⟨none, same⟩
      · rintro ⟨rfl, same⟩
        rw [List.nil_append, same]

/-- A fact that lists elements is taken in by visiting the first element of each inner cell of its
chain and the elements of the last cell, in this order and each of them once, and every element
that is visited has its entry in the end.  These are all elements that are listed exactly if no
inner cell lists more than one. -/
theorem addFact_visits_firsts {fact : Fact} {visit : Term -> DecodeStep Unit}
    (listed : Decoding.elementStep? fact = some visit) {rhs : Term} {state after : Decoding}
    (decoded : ending (Decoding.addFact fact rhs) state = (.ok (), after)) :
    exists built rows elems, rhs.child 0 = .ok built ∧ Cells built rows elems ∧
      ending ((firstsOf rows elems).forM visit) state = (.ok (), after) ∧
      (forall element, element ∈ firstsOf rows elems ->
        exists name, Decoding.constructorOf fact element = .ok name ∧
          Decoding.HasEntry after.facts fact name) ∧
      (firstsOf rows elems = rows.flatten ++ elems <->
        forall row, row ∈ rows -> row.length = 1) := by
  rw [Decoding.addFact_eq_visitAll listed] at decoded
  rcases ending_bind_eq_ok_iff.mp decoded with ⟨built, middle, asked, visitedAll⟩
  rw [ending_liftM, Prod.mk.injEq] at asked
  rcases asked with ⟨isBuilt, rfl⟩
  rcases Decoding.visitAll_eq_ok_iff.mp visitedAll with ⟨sound, visited⟩
  rcases Chain.cells_of_ofTerm built sound with ⟨rows, elems, cells, visitable⟩
  rw [Chain.ofTerm_of_cells cells visitable] at visited
  exact ⟨built, rows, elems, mapError_eq_ok_iff.mp isBuilt, cells, visited,
    (Decoding.hasEntry_of_forM_visit listed _ visited).1,
    firstsOf_eq_flatten_iff visitable.inhabited elems⟩

/-- A constructor as it is listed in a chain. -/
def sampleElement (name : String) : Term :=
  .appl "NoAnnoList" [.appl "Str" [.str name]]

/-- A chain with two elements in its one inner cell. -/
def sampleChain : Term :=
  .appl "NoAnnoList" [.appl "ListTail" [.known [sampleElement "A", sampleElement "B"],
    .appl "NoAnnoList" [.appl "List" [.known []]]]]

/-- What is left after taking in the sample chain. -/
def sampleDecoding : Decoding where
  facts := { bodyDeclarations := Std.ExtTreeSet.empty.insert "A" }

theorem decoded_sampleChain :
    ending (Decoding.addFact .bodyDeclarations (.appl "Build" [sampleChain])) {} =
      (.ok (), sampleDecoding) := by
  rfl

/-- The sample chain is taken in, and visited at its first element alone. -/
theorem addFact_visits_sampleChain :
    Decoding.elementStep? .bodyDeclarations = some Decoding.addBody ∧
    ending (Decoding.addFact .bodyDeclarations (.appl "Build" [sampleChain])) {} =
      (.ok (), sampleDecoding) ∧
    exists built rows elems, (Term.appl "Build" [sampleChain]).child 0 = .ok built ∧
      Cells built rows elems ∧
      ending ((firstsOf rows elems).forM Decoding.addBody) {} = (.ok (), sampleDecoding) ∧
      (forall element, element ∈ firstsOf rows elems ->
        exists name, Decoding.constructorOf .bodyDeclarations element = .ok name ∧
          Decoding.HasEntry sampleDecoding.facts .bodyDeclarations name) ∧
      (firstsOf rows elems = rows.flatten ++ elems <->
        forall row, row ∈ rows -> row.length = 1) :=
  ⟨rfl, decoded_sampleChain, addFact_visits_firsts rfl decoded_sampleChain⟩

/-- Not every element that is listed in a chain has an entry. -/
theorem not_forall_listed_hasEntry :
    ¬ forall (fact : Fact) (visit : Term -> DecodeStep Unit) (rhs : Term)
      (state after : Decoding), Decoding.elementStep? fact = some visit ->
      ending (Decoding.addFact fact rhs) state = (.ok (), after) ->
      forall built rows elems, rhs.child 0 = .ok built -> Cells built rows elems ->
      forall element, element ∈ rows.flatten ++ elems ->
        exists name, Decoding.constructorOf fact element = .ok name ∧
          Decoding.HasEntry after.facts fact name := by
  intro always
  rcases always .bodyDeclarations Decoding.addBody (.appl "Build" [sampleChain]) {} sampleDecoding
    rfl decoded_sampleChain sampleChain [[sampleElement "A", sampleElement "B"]] [] rfl
    (.inner .last) (sampleElement "B") (by simp) with ⟨name, read, entered⟩
  have isB : "B" = name := Except.ok.inj read
  rw [← isB] at entered
  simp [Decoding.HasEntry, sampleDecoding] at entered

end BaseLanguage
