import BaseLanguage.Proofs.Fact.Encoding

namespace BaseLanguage

/-!
# Which declarations decoding depends on

The name of a strategy is a lead, a hyphen and the suffix of a fact.  Leads may be any texts and
suffixes have hyphens of their own, so that a name could be cut in more than one place.  But no
suffix ends in a hyphen and another suffix, and so a name belongs to one lead and one fact only:
the facts of one language are nothing to another.

Among the declarations that are recognised, those of different facts do not touch the same part of
what is collected.  What a declaration says can be read off it alone.  So a run of declarations is
malformed at the first that cannot be read, and where all can be read, each part of the result
comes from the declarations of one fact, in their order, however the others stand between them.
-/

/-! ## Leads -/

/-- No suffix of a fact ends in a hyphen and the suffix of another. -/
theorem eq_of_suffix_of_suffix (fact other : Fact)
    (ends : ('-' :: fact.suffix.toList) <:+ ('-' :: other.suffix.toList)) : fact = other := by
  revert ends
  cases fact <;> cases other <;> decide

/-- The name of a strategy tells its lead and its fact. -/
theorem eq_of_strategyName_eq {lead otherLead : String} {fact otherFact : Fact}
    (same : fact.strategyName lead = otherFact.strategyName otherLead) :
    lead = otherLead ∧ fact = otherFact := by
  have characters : lead.toList ++ '-' :: fact.suffix.toList =
      otherLead.toList ++ '-' :: otherFact.suffix.toList := by
    simpa [Fact.strategyName] using congrArg String.toList same
  have sameFact : fact = otherFact := by
    have ends : ('-' :: fact.suffix.toList) <:+ lead.toList ++ '-' :: fact.suffix.toList :=
      List.suffix_append _ _
    have otherEnds : ('-' :: otherFact.suffix.toList) <:+
        lead.toList ++ '-' :: fact.suffix.toList :=
      characters ▸ List.suffix_append _ _
    rcases List.suffix_or_suffix_of_suffix ends otherEnds with inside | around
    · exact eq_of_suffix_of_suffix fact otherFact inside
    · exact (eq_of_suffix_of_suffix otherFact fact around).symm
  subst sameFact
  exact ⟨String.toList_inj.mp (List.append_cancel_right characters), rfl⟩

/-- The name of a definition of a strategy, of whatever form, if it has one. -/
def definitionName? : Term -> Option String
  | .appl _ (.str name :: _) => some name
  | _ => none

/-- The name of the first definition of a strategy section. -/
def sectionName? : Term -> Option String
  | .appl "Strategies" (.list (definition :: _) _ :: _) => definitionName? definition
  | _ => none

/-- Whether a declaration is a strategy section whose first definition is named like a fact under
a lead.  It may be malformed in any other way. -/
def isNamedUnder (lead : String) (declaration : Term) : Bool :=
  (sectionName? declaration).any fun name =>
    Fact.all.any fun fact => name == fact.strategyName lead

/-- A rule module without the declarations that are named like facts under a lead.  The tail of
the list, if there is one, and all other parts stay. -/
def withoutNamedUnder (lead : String) : Term -> Term
  | .appl constructor (header :: .list declarations tail :: more) =>
    .appl constructor (header ::
      .list (declarations.filter fun declaration => !isNamedUnder lead declaration) tail :: more)
  | other => other

/-- What is recognised under a lead is named under this lead. -/
theorem sectionName?_of_recognise? {lead : String} {declaration rhs : Term} {fact : Fact}
    (recognised : recognise? lead declaration = some (fact, rhs)) :
    sectionName? declaration = some (fact.strategyName lead) := by
  rcases recognise?_eq_some_iff.mp recognised with ⟨others, tail, more, rfl⟩
  rfl

/-- What is named under another lead is not recognised. -/
theorem recognise?_of_isNamedUnder {lead other : String} (different : lead ≠ other)
    {declaration : Term} (named : isNamedUnder other declaration = true) :
    recognise? lead declaration = none := by
  cases recognised : recognise? lead declaration with
  | none => rfl
  | some found =>
    rcases found with ⟨fact, rhs⟩
    unfold isNamedUnder at named
    rw [sectionName?_of_recognise? recognised, Option.any_some, List.any_eq_true] at named
    rcases named with ⟨otherFact, _, same⟩
    exact absurd (eq_of_strategyName_eq (eq_of_beq same)).1 different

/-- The declarations that are left are those that are not named under the lead, and where a module
has no declarations to be had, it has none afterwards for the same reason. -/
theorem declarationsOf_withoutNamedUnder (lead : String) (module : Term) :
    declarationsOf (withoutNamedUnder lead module) = (declarationsOf module).map
      (List.filter fun declaration => !isNamedUnder lead declaration) := by
  cases module with
  | appl constructor children =>
    match children with
    | header :: .list declarations none :: more => rfl
    | header :: .list declarations (some tail) :: more => rfl
    | [] | [_] => rfl
    | _ :: .appl _ _ :: _ | _ :: .str _ :: _ | _ :: .int _ :: _ => rfl
  | list | str | int => rfl

/-- The facts of one language are nothing to another.  A name is recognised under one lead and as
one fact at most; and a module without the declarations that are named like facts under another
lead, well formed or not, is decoded to the same facts or the same failure, with the same
warnings. -/
theorem decode_withoutNamedUnder {lead other : String} (different : lead ≠ other) :
    (forall (name someLead otherLead : String) (fact otherFact : Fact),
      Fact.ofStrategyName? someLead name = some fact ->
        Fact.ofStrategyName? otherLead name = some otherFact ->
          someLead = otherLead ∧ fact = otherFact) ∧
    forall module : Term, decode lead (withoutNamedUnder other module) = decode lead module := by
  constructor
  · intro name someLead otherLead fact otherFact named otherNamed
    have same := (ofStrategyName?_eq_some_iff.mp named).symm.trans
      (ofStrategyName?_eq_some_iff.mp otherNamed)
    exact eq_of_strategyName_eq same
  · intro module
    have alike : addModule lead (withoutNamedUnder other module) = addModule lead module := by
      cases found : declarationsOf module with
      | error shape =>
        unfold addModule
        rw [declarationsOf_withoutNamedUnder, found]
        rfl
      | ok declarations =>
        have left := declarationsOf_withoutNamedUnder other module
        rw [found] at left
        rw [addModule_of_declarations lead found, addModule_of_declarations lead left]
        refine forM_filter_eq (addDeclaration lead)
          (fun declaration => !isNamedUnder other declaration) ?_ declarations
        intro declaration isDropped
        have named : isNamedUnder other declaration = true := by simpa using isDropped
        exact addDeclaration_of_unrecognised lead declaration
          (recognise?_of_isNamedUnder different named)
    unfold decode
    rw [alike]

/-- A module with a fact under the empty lead and a malformed one under a hyphen. -/
def sampleMixture : Term :=
  .appl "Module" [.str "x", .known
    [.appl "Strategies" [.known [.appl "SDef" [.str "--body-decs"]]],
      declarationOf "" .toplevelDeclaration (quotedPart "Dec")]]

/-- A lead that ends in another one does not interfere. -/
theorem decode_withoutNamedUnder_sampleMixture :
    ("" : String) ≠ "-" ∧
      withoutNamedUnder "-" sampleMixture = .appl "Module" [.str "x", .known
        [declarationOf "" .toplevelDeclaration (quotedPart "Dec")]] ∧
      decode "" (withoutNamedUnder "-" sampleMixture) = decode "" sampleMixture :=
  ⟨by decide, by decide, (decode_withoutNamedUnder (by decide)).2 sampleMixture⟩

/-! ## What a declaration says -/

/-- The text that a right-hand side builds. -/
def readQuoted (rhs : Term) : Except FactFault String := do
  let built ← inFact (rhs.child 0)
  stringElement built

/-- The constructor and the index that a right-hand side builds. -/
def readArgument (rhs : Term) : Except FactFault ConstructorArgument := do
  let built ← inFact (rhs.child 0)
  argumentElement built

/-- What the elements of a chain say.  What is wrong behind them counts after them. -/
def readChain (read : Term -> Except FactFault α) (chain : Chain) : Except FactFault (List α) := do
  let values ← chain.elements.mapM read
  match chain.fault with
  | some fault => throw fault
  | none => return values

theorem readChain_eq_ok_iff {read : Term -> Except FactFault α} {chain : Chain}
    {values : List α} : readChain read chain = .ok values <->
      chain.fault = none ∧ chain.elements.mapM read = .ok values := by
  unfold readChain
  rw [bind_eq_ok_iff]
  cases chain.fault <;> simp [pure, Except.pure, throw, throwThe, MonadExceptOf.throw]

/-- What the elements of the chain say that a right-hand side builds. -/
def readRow (read : Term -> Except FactFault α) (rhs : Term) : Except FactFault (List α) := do
  let built ← inFact (rhs.child 0)
  readChain read (Chain.ofTerm built)

namespace Decoding

/-- One more body declaration. -/
def withBody (state : Decoding) (name : String) : Decoding :=
  { state with facts := { state.facts with
      bodyDeclarations := state.facts.bodyDeclarations.insert name } }

/-- One more import declaration, with a warning if its constructor was there already. -/
def withImport (state : Decoding) (argument : ConstructorArgument) : Decoding where
  facts := { state.facts with
    importDeclarations :=
      state.facts.importDeclarations.insert argument.constructor argument.index }
  warnings :=
    match state.facts.importDeclarations[argument.constructor]? with
    | some previous =>
      state.warnings ++ [.importRedeclared argument.constructor previous argument.index]
    | none => state.warnings

/-- What a right-hand side does to what is collected, if it is well formed, and what is wrong with
it otherwise. -/
def reading (fact : Fact) (rhs : Term) : Except FactFault (Decoding -> Decoding) :=
  match fact with
  | .toplevelDeclaration => do
      let value ← readQuoted rhs
      return fun state =>
        { state with facts := { state.facts with toplevelNonterminal := some value } }
  | .extensibleFileExtension => do
      let value ← readQuoted rhs
      return fun state =>
        { state with facts := { state.facts with extendedFileExtension := some value } }
  | .baseFileExtension => do
      let value ← readQuoted rhs
      return fun state =>
        { state with facts := { state.facts with baseFileExtension := some value } }
  | .namespaceDeclaration => do
      let argument ← readArgument rhs
      return fun state =>
        { state with facts := { state.facts with namespaceDeclaration := some argument } }
  | .bodyDeclarations => do
      let names ← readRow stringElement rhs
      return fun state => names.foldl withBody state
  | .importDeclarations => do
      let arguments ← readRow argumentElement rhs
      return fun state => arguments.foldl withImport state

/-! ## Steps that do what a reading says -/

/-- A step realises a reading if it makes the change that is read, or fails for the same reason,
whatever has been collected before. -/
def Realises (step : ExceptT ε (StateM Decoding) Unit) : Except ε (Decoding -> Decoding) -> Prop
  | .ok change => forall state, ending step state = (.ok (), change state)
  | .error fault => forall state, exists after, ending step state = (.error fault, after)

variable {ε α β : Type} {first next : ExceptT ε (StateM Decoding) Unit}
  {reading further : Except ε (Decoding -> Decoding)}

/-- What is looked up first, without a change, may decide what is done. -/
theorem realises_liftM_bind {outcome : Except ε α} {step : α -> ExceptT ε (StateM Decoding) Unit}
    {reading : α -> Except ε (Decoding -> Decoding)}
    (realises : forall value, Realises (step value) (reading value)) :
    Realises (do let value ← liftM outcome; step value) (outcome >>= reading) := by
  cases outcome with
  | error fault => exact fun state => ⟨state, rfl⟩
  | ok value => exact realises value

/-- A step on a value that is looked up makes the change that the value stands for. -/
theorem realises_modify {outcome : Except ε α} (enter : α -> Decoding -> Decoding) :
    Realises (do let value ← liftM outcome; modify (enter value))
      (do let value ← outcome; return enter value) :=
  realises_liftM_bind fun _ _ => rfl

/-- Two steps make two changes in a row, unless one of them fails. -/
theorem realises_seq (realises : Realises first reading) (realisesNext : Realises next further) :
    Realises (do first; next) (do
      let change ← reading
      let more ← further
      return fun state => more (change state)) := by
  cases reading with
  | error fault =>
    intro state
    rcases realises state with ⟨after, failed⟩
    exact ⟨after, ending_bind_eq_error_iff.mpr (.inl failed)⟩
  | ok change =>
    cases further with
    | error fault =>
      intro state
      rcases realisesNext (change state) with ⟨after, failed⟩
      exact ⟨after, ending_bind_eq_error_iff.mpr (.inr ⟨(), _, realises state, failed⟩)⟩
    | ok more =>
      intro state
      exact ending_bind_eq_ok_iff.mpr
        ⟨(), change state, realises state, realisesNext (change state)⟩

/-- A run over a row makes the changes that its items stand for, one after the other, and fails at
the first item that cannot be read. -/
theorem realises_forM {step : β -> ExceptT ε (StateM Decoding) Unit} {read : β -> Except ε α}
    {enter : Decoding -> α -> Decoding}
    (realises : forall item,
      Realises (step item) (do let value ← read item; return fun state => enter state value))
    (items : List β) :
    Realises (items.forM step)
      (do let values ← items.mapM read; return fun state => values.foldl enter state) := by
  induction items with
  | nil => exact fun state => rfl
  | cons item more inductionHypothesis =>
    have both := realises_seq (realises item) inductionHypothesis
    rw [List.mapM_cons]
    cases head : read item with
    | error fault =>
      rw [head] at both
      exact both
    | ok value =>
      rw [head] at both
      cases rest : more.mapM read with
      | error fault =>
        rw [rest] at both
        exact both
      | ok values =>
        rw [rest] at both
        exact both

/-- A visit to a chain makes the changes that its elements stand for. -/
theorem realises_visitAll {visit : Term -> DecodeStep Unit} {read : Term -> Except FactFault α}
    {enter : Decoding -> α -> Decoding}
    (realises : forall element,
      Realises (visit element) (do
        let value ← read element
        return fun state => enter state value))
    (chain : Chain) :
    Realises (visitAll visit chain) (do
      let values ← readChain read chain
      return fun state => values.foldl enter state) := by
  have visited := realises_forM realises chain.elements
  unfold visitAll readChain
  cases values : chain.elements.mapM read with
  | error fault =>
    rw [values] at visited
    intro state
    rcases visited state with ⟨after, failed⟩
    exact ⟨after, ending_bind_eq_error_iff.mpr (.inl failed)⟩
  | ok found =>
    rw [values] at visited
    cases chain.fault with
    | some fault =>
      intro state
      exact ⟨_, ending_bind_eq_error_iff.mpr (.inr ⟨(), _, visited state, rfl⟩)⟩
    | none =>
      intro state
      exact ending_bind_eq_ok_iff.mpr ⟨(), _, visited state, rfl⟩

/-- Taking in a fact does what is read off its right-hand side. -/
theorem realises_addFact (fact : Fact) (rhs : Term) :
    Realises (addFact fact rhs) (Decoding.reading fact rhs) := by
  cases fact with
  | toplevelDeclaration | extensibleFileExtension | baseFileExtension =>
    unfold Decoding.reading readQuoted
    simp only [bind_assoc]
    exact realises_liftM_bind fun built => realises_modify _
  | namespaceDeclaration =>
    unfold Decoding.reading readArgument
    simp only [bind_assoc]
    exact realises_liftM_bind fun built => realises_modify _
  | bodyDeclarations =>
    unfold Decoding.reading readRow
    simp only [bind_assoc]
    exact realises_liftM_bind fun built =>
      realises_visitAll (fun element => realises_modify _) (Chain.ofTerm built)
  | importDeclarations =>
    unfold Decoding.reading readRow
    simp only [bind_assoc]
    exact realises_liftM_bind fun built =>
      realises_visitAll (fun element => realises_modify _) (Chain.ofTerm built)

/-! ## What declarations of one fact touch -/

/-- What has been collected is the same as far as one fact goes.  Warnings are about imports. -/
def AgreeOn (left right : Decoding) : Fact -> Prop
  | .toplevelDeclaration => left.facts.toplevelNonterminal = right.facts.toplevelNonterminal
  | .extensibleFileExtension =>
    left.facts.extendedFileExtension = right.facts.extendedFileExtension
  | .baseFileExtension => left.facts.baseFileExtension = right.facts.baseFileExtension
  | .bodyDeclarations => left.facts.bodyDeclarations = right.facts.bodyDeclarations
  | .namespaceDeclaration => left.facts.namespaceDeclaration = right.facts.namespaceDeclaration
  | .importDeclarations =>
    left.facts.importDeclarations = right.facts.importDeclarations ∧
      left.warnings = right.warnings

theorem AgreeOn.refl (state : Decoding) (fact : Fact) : AgreeOn state state fact := by
  cases fact <;> simp [AgreeOn]

theorem AgreeOn.symm {left right : Decoding} {fact : Fact} (agree : AgreeOn left right fact) :
    AgreeOn right left fact := by
  cases fact <;> simp_all [AgreeOn]

theorem AgreeOn.trans {left middle right : Decoding} {fact : Fact}
    (early : AgreeOn left middle fact) (late : AgreeOn middle right fact) :
    AgreeOn left right fact := by
  cases fact <;> simp_all [AgreeOn]

/-- The facts are all there is. -/
theorem eq_of_agreeOn {left right : Decoding} (agree : forall fact, AgreeOn left right fact) :
    left = right := by
  rcases left with ⟨⟨toplevel, base, extended, bodies, inNamespace, imports⟩, warnings⟩
  rcases right with ⟨⟨toplevel', base', extended', bodies', inNamespace', imports'⟩, warnings'⟩
  have sameToplevel := agree .toplevelDeclaration
  have sameBase := agree .baseFileExtension
  have sameExtended := agree .extensibleFileExtension
  have sameBodies := agree .bodyDeclarations
  have sameNamespace := agree .namespaceDeclaration
  have sameImports := agree .importDeclarations
  simp only [AgreeOn] at sameToplevel sameBase sameExtended sameBodies sameNamespace sameImports
  rcases sameImports with ⟨sameImports, sameWarnings⟩
  subst sameToplevel sameBase sameExtended sameBodies sameNamespace sameImports sameWarnings
  rfl

/-- What has been collected after a right-hand side.  One that is malformed adds nothing. -/
def take (fact : Fact) (state : Decoding) (rhs : Term) : Decoding :=
  match Decoding.reading fact rhs with
  | .ok change => change state
  | .error _ => state

/-- A run that never touches a fact leaves it as it was. -/
theorem agreeOn_foldl {enter : Decoding -> α -> Decoding} {fact : Fact}
    (keeps : forall state value, AgreeOn (enter state value) state fact) (values : List α)
    (state : Decoding) : AgreeOn (values.foldl enter state) state fact := by
  induction values generalizing state with
  | nil => exact .refl state fact
  | cons value more inductionHypothesis =>
    exact (inductionHypothesis (enter state value)).trans (keeps state value)

/-- A run that makes the same of a fact at every step makes the same of it in the end. -/
theorem agreeOn_foldl_foldl {enter : Decoding -> α -> Decoding} {fact : Fact}
    (respects : forall left right value, AgreeOn left right fact ->
      AgreeOn (enter left value) (enter right value) fact) (values : List α)
    {left right : Decoding} (agree : AgreeOn left right fact) :
    AgreeOn (values.foldl enter left) (values.foldl enter right) fact := by
  induction values generalizing left right with
  | nil => exact agree
  | cons value more inductionHypothesis =>
    exact inductionHypothesis (respects left right value agree)

/-- A right-hand side is of no concern to other facts. -/
theorem agreeOn_take_of_ne {fact other : Fact} (different : other ≠ fact) (state : Decoding)
    (rhs : Term) : AgreeOn (take fact state rhs) state other := by
  unfold take
  cases outcome : Decoding.reading fact rhs with
  | error fault => exact .refl state other
  | ok change =>
    cases fact with
    | bodyDeclarations =>
      rcases bind_eq_ok_iff.mp outcome with ⟨names, _, same⟩
      cases same
      refine agreeOn_foldl (fun state name => ?_) names state
      cases other <;> first | exact absurd rfl different | simp [AgreeOn, withBody]
    | importDeclarations =>
      rcases bind_eq_ok_iff.mp outcome with ⟨arguments, _, same⟩
      cases same
      refine agreeOn_foldl (fun state argument => ?_) arguments state
      cases other <;> first | exact absurd rfl different | simp [AgreeOn, withImport]
    | toplevelDeclaration | extensibleFileExtension | baseFileExtension
      | namespaceDeclaration =>
        rcases bind_eq_ok_iff.mp outcome with ⟨value, _, same⟩
        cases same
        cases other <;> first | exact absurd rfl different | simp [AgreeOn]

/-- What a right-hand side makes of one fact depends on no other. -/
theorem agreeOn_take {left right : Decoding} {fact : Fact} (agree : AgreeOn left right fact)
    (rhs : Term) : AgreeOn (take fact left rhs) (take fact right rhs) fact := by
  unfold take
  cases outcome : Decoding.reading fact rhs with
  | error fault => exact agree
  | ok change =>
    cases fact with
    | bodyDeclarations =>
      rcases bind_eq_ok_iff.mp outcome with ⟨names, _, same⟩
      cases same
      refine agreeOn_foldl_foldl (fun left right name agree => ?_) names agree
      simp_all [AgreeOn, withBody]
    | importDeclarations =>
      rcases bind_eq_ok_iff.mp outcome with ⟨arguments, _, same⟩
      cases same
      refine agreeOn_foldl_foldl (fun left right argument agree => ?_) arguments agree
      simp_all [AgreeOn, withImport]
    | toplevelDeclaration | extensibleFileExtension | baseFileExtension
      | namespaceDeclaration =>
        rcases bind_eq_ok_iff.mp outcome with ⟨value, _, same⟩
        cases same
        rfl

end Decoding

/-! ## Runs of declarations -/

/-- The right-hand sides of the declarations that are recognised for a fact, in their order. -/
def rightHandSides (lead : String) (fact : Fact) (declarations : List Term) : List Term :=
  declarations.filterMap fun declaration =>
    match recognise? lead declaration with
    | some (found, rhs) => if found = fact then some rhs else none
    | none => none

/-- What has been collected after a declaration. -/
def taking (lead : String) (state : Decoding) (declaration : Term) : Decoding :=
  match recognise? lead declaration with
  | some (fact, rhs) => Decoding.take fact state rhs
  | none => state

/-- A run of declarations makes the same of a fact as the right-hand sides of this fact alone. -/
theorem agreeOn_foldl_taking (lead : String) (fact : Fact) (declarations : List Term)
    {left right : Decoding} (agree : Decoding.AgreeOn left right fact) :
    Decoding.AgreeOn (declarations.foldl (taking lead) left)
      ((rightHandSides lead fact declarations).foldl (Decoding.take fact) right) fact := by
  induction declarations generalizing left right with
  | nil => exact agree
  | cons declaration more inductionHypothesis =>
    rw [List.foldl_cons]
    unfold rightHandSides taking
    rw [List.filterMap_cons]
    cases recognised : recognise? lead declaration with
    | none => exact inductionHypothesis agree
    | some found =>
      rcases found with ⟨other, rhs⟩
      by_cases same : other = fact
      · subst same
        simp only [if_true]
        exact inductionHypothesis (Decoding.agreeOn_take agree rhs)
      · simp only [same, if_false]
        have untouched := Decoding.agreeOn_take_of_ne (Ne.symm same) left rhs
        exact inductionHypothesis (untouched.trans agree)

/-- A declaration is recognised for a fact, and something is wrong with its right-hand side. -/
def IsMalformed (lead : String) (fact : Fact) (fault : FactFault) (declaration : Term) : Prop :=
  exists rhs, recognise? lead declaration = some (fact, rhs) ∧
    Decoding.reading fact rhs = .error fault

/-- A declaration that is of no fact or well formed. -/
def IsSound (lead : String) (declaration : Term) : Prop :=
  forall fact fault, ¬ IsMalformed lead fact fault declaration

/-- The first declaration of a row that is malformed, and what is wrong with it. -/
def FirstMalformed (lead : String) (declarations : List Term) (fact : Fact) (fault : FactFault) :
    Prop :=
  exists before declaration after, declarations = before ++ declaration :: after ∧
    IsMalformed lead fact fault declaration ∧
    forall earlier, earlier ∈ before -> IsSound lead earlier

/-- Taking in a recognised declaration is taking in its fact. -/
theorem ending_addDeclaration_of_recognised {lead : String} {declaration rhs : Term} {fact : Fact}
    (recognised : recognise? lead declaration = some (fact, rhs)) (state : Decoding) :
    ending (addDeclaration lead declaration) state =
      ((ending (Decoding.addFact fact rhs) state).1.mapError (.fact fact),
        (ending (Decoding.addFact fact rhs) state).2) := by
  unfold addDeclaration
  rw [recognised]
  rfl

theorem ending_addDeclaration_of_isSound {lead : String} {declaration : Term}
    (sound : IsSound lead declaration) (state : Decoding) :
    ending (addDeclaration lead declaration) state = (.ok (), taking lead state declaration) := by
  unfold taking
  cases recognised : recognise? lead declaration with
  | none =>
    rw [addDeclaration_of_unrecognised lead declaration recognised]
    rfl
  | some found =>
    rcases found with ⟨fact, rhs⟩
    have realises := Decoding.realises_addFact fact rhs
    rw [ending_addDeclaration_of_recognised recognised]
    simp only [Decoding.take]
    cases outcome : Decoding.reading fact rhs with
    | error fault => exact absurd ⟨rhs, recognised, outcome⟩ (sound fact fault)
    | ok change =>
      rw [outcome] at realises
      rw [realises state]
      rfl

theorem ending_addDeclaration_of_isMalformed {lead : String} {declaration : Term} {fact : Fact}
    {fault : FactFault} (malformed : IsMalformed lead fact fault declaration) (state : Decoding) :
    exists after, ending (addDeclaration lead declaration) state =
      (.error (.fact fact fault), after) := by
  rcases malformed with ⟨rhs, recognised, outcome⟩
  have realises := Decoding.realises_addFact fact rhs
  rw [outcome] at realises
  rcases realises state with ⟨after, failed⟩
  refine ⟨after, ?_⟩
  rw [ending_addDeclaration_of_recognised recognised, failed]
  rfl

/-- A run of sound declarations succeeds. -/
theorem ending_forM_of_isSound {lead : String} {declarations : List Term}
    (sound : forall declaration, declaration ∈ declarations -> IsSound lead declaration)
    (state : Decoding) :
    ending (declarations.forM (addDeclaration lead)) state =
      (.ok (), declarations.foldl (taking lead) state) := by
  induction declarations generalizing state with
  | nil => rfl
  | cons declaration more inductionHypothesis =>
    have first := ending_addDeclaration_of_isSound (sound declaration (by simp)) state
    have later := inductionHypothesis (fun other among => sound other (by simp [among]))
      (taking lead state declaration)
    exact ending_bind_eq_ok_iff.mpr ⟨(), _, first, later⟩

/-- A run fails at the first declaration that is malformed. -/
theorem ending_forM_of_firstMalformed {lead : String} {declarations : List Term} {fact : Fact}
    {fault : FactFault} (malformed : FirstMalformed lead declarations fact fault)
    (state : Decoding) :
    exists after, ending (declarations.forM (addDeclaration lead)) state =
      (.error (.fact fact fault), after) := by
  rcases malformed with ⟨before, declaration, behind, rfl, here, sound⟩
  induction before generalizing state with
  | nil =>
    rcases ending_addDeclaration_of_isMalformed here state with ⟨after, failed⟩
    exact ⟨after, ending_bind_eq_error_iff.mpr (.inl failed)⟩
  | cons earlier others inductionHypothesis =>
    have first := ending_addDeclaration_of_isSound (sound earlier (by simp)) state
    rcases inductionHypothesis (taking lead state earlier)
      (fun other among => sound other (by simp [among])) with ⟨after, failed⟩
    exact ⟨after, ending_bind_eq_error_iff.mpr (.inr ⟨(), _, first, failed⟩)⟩

/-- A row is sound, or there is a first declaration that is malformed. -/
theorem isSound_or_firstMalformed (lead : String) (declarations : List Term) :
    (forall declaration, declaration ∈ declarations -> IsSound lead declaration) ∨
      exists fact fault, FirstMalformed lead declarations fact fault := by
  induction declarations with
  | nil => exact .inl (by simp)
  | cons declaration more inductionHypothesis =>
    by_cases here : IsSound lead declaration
    · rcases inductionHypothesis with sound | ⟨fact, fault, before, other, after, rfl, rest⟩
      · exact .inl (List.forall_mem_cons.mpr ⟨here, sound⟩)
      · exact .inr ⟨fact, fault, declaration :: before, other, after, rfl, rest.1,
          List.forall_mem_cons.mpr ⟨here, rest.2⟩⟩
    · unfold IsSound at here
      simp only [not_forall, not_not] at here
      rcases here with ⟨fact, fault, malformed⟩
      exact .inr ⟨fact, fault, [], declaration, more, rfl, malformed, by simp⟩

/-! ## What rows of right-hand sides give -/

/-- Something is what the last right-hand side of a row says, and nothing if there is none. -/
def IsLastOf (read : Term -> Except FactFault α) (rows : List Term) (said : Option α) : Prop :=
  match rows.getLast? with
  | some rhs => exists value, read rhs = .ok value ∧ said = some value
  | none => said = none

/-- The facts that are collected from a row of declarations: the last word on each fact that has
one value, and every body that any declaration lists. -/
structure CollectedFrom (lead : String) (declarations : List Term) (facts : LanguageFacts) :
    Prop where
  toplevel : IsLastOf readQuoted (rightHandSides lead .toplevelDeclaration declarations)
    facts.toplevelNonterminal
  extended : IsLastOf readQuoted (rightHandSides lead .extensibleFileExtension declarations)
    facts.extendedFileExtension
  base : IsLastOf readQuoted (rightHandSides lead .baseFileExtension declarations)
    facts.baseFileExtension
  inNamespace : IsLastOf readArgument (rightHandSides lead .namespaceDeclaration declarations)
    facts.namespaceDeclaration
  bodies : forall name, name ∈ facts.bodyDeclarations <->
    exists rhs, rhs ∈ rightHandSides lead .bodyDeclarations declarations ∧
      exists names, readRow stringElement rhs = .ok names ∧ name ∈ names

/-- Bodies are added to those that are there. -/
theorem mem_foldl_withBody (names : List String) (state : Decoding) (name : String) :
    name ∈ (names.foldl Decoding.withBody state).facts.bodyDeclarations <->
      name ∈ state.facts.bodyDeclarations ∨ name ∈ names := by
  induction names generalizing state with
  | nil => simp
  | cons first more inductionHypothesis =>
    rw [List.foldl_cons, inductionHypothesis, List.mem_cons]
    have added : name ∈ (state.withBody first).facts.bodyDeclarations <->
        first = name ∨ name ∈ state.facts.bodyDeclarations := by
      simp only [Decoding.withBody, Std.ExtTreeSet.mem_insert,
        Std.LawfulEqCmp.compare_eq_iff_eq]
    rw [added, @eq_comm _ first name, or_left_comm, or_assoc]

/-- The bodies of a row of right-hand sides are added to those that are there. -/
theorem mem_foldl_take_bodies (rows : List Term) (state : Decoding) (name : String) :
    name ∈ (rows.foldl (Decoding.take .bodyDeclarations) state).facts.bodyDeclarations <->
      name ∈ state.facts.bodyDeclarations ∨
        exists rhs, rhs ∈ rows ∧
          exists names, readRow stringElement rhs = .ok names ∧ name ∈ names := by
  induction rows generalizing state with
  | nil => simp
  | cons rhs more inductionHypothesis =>
    have first : name ∈
        (Decoding.take .bodyDeclarations state rhs).facts.bodyDeclarations <->
          name ∈ state.facts.bodyDeclarations ∨
            exists names, readRow stringElement rhs = .ok names ∧ name ∈ names := by
      unfold Decoding.take Decoding.reading
      cases readRow stringElement rhs with
      | error fault => simp [bind, Except.bind]
      | ok names =>
        simp only [Except.ok.injEq, exists_eq_left']
        exact mem_foldl_withBody names state name
    rw [List.foldl_cons, inductionHypothesis, first]
    simp only [List.mem_cons, exists_eq_or_imp]
    rw [or_assoc]

/-- Right-hand sides of sound declarations can be read. -/
theorem reading_of_isSound {lead : String} {declarations : List Term}
    (sound : forall declaration, declaration ∈ declarations -> IsSound lead declaration)
    {fact : Fact} {rhs : Term} (member : rhs ∈ rightHandSides lead fact declarations) :
    exists change, Decoding.reading fact rhs = .ok change := by
  rcases List.mem_filterMap.mp member with ⟨declaration, among, recognisedFor⟩
  have recognised : recognise? lead declaration = some (fact, rhs) := by
    split at recognisedFor
    · next found side recognised =>
        split at recognisedFor
        · next same =>
            cases recognisedFor
            rw [recognised, same]
        · cases recognisedFor
    · cases recognisedFor
  cases outcome : Decoding.reading fact rhs with
  | ok change => exact ⟨change, rfl⟩
  | error fault => exact absurd ⟨rhs, recognised, outcome⟩ (sound declaration among fact fault)

/-- Where every right-hand side of a fact replaces a value, the last one of a sound row stays. -/
theorem isLastOf_of_isSound {lead : String} {declarations : List Term} {fact : Fact}
    {read : Term -> Except FactFault α} {replace : α -> Decoding -> Decoding}
    (view : Decoding -> Option α)
    (sound : forall declaration, declaration ∈ declarations -> IsSound lead declaration)
    (replaces : forall rhs, Decoding.reading fact rhs = do
      let value ← read rhs
      return replace value)
    (seen : forall value state, view (replace value state) = some value)
    (nothing : view {} = none) :
    IsLastOf read (rightHandSides lead fact declarations)
      (view ((rightHandSides lead fact declarations).foldl (Decoding.take fact) {})) := by
  rcases (rightHandSides lead fact declarations).eq_nil_or_concat' with empty | ⟨front, last, split⟩
  · rw [empty]
    exact nothing
  · have isLast : last ∈ rightHandSides lead fact declarations := by simp [split]
    rcases reading_of_isSound sound isLast with ⟨change, outcome⟩
    have changes := outcome
    rw [replaces] at outcome
    rcases bind_eq_ok_iff.mp outcome with ⟨value, said, same⟩
    cases same
    unfold IsLastOf
    rw [split, List.getLast?_concat, List.foldl_concat]
    refine ⟨value, said, ?_⟩
    unfold Decoding.take
    rw [changes]
    exact seen value _

/-- What a sound row leaves is collected from it. -/
theorem collectedFrom_of_isSound {lead : String} {declarations : List Term}
    (sound : forall declaration, declaration ∈ declarations -> IsSound lead declaration) :
    CollectedFrom lead declarations (declarations.foldl (taking lead) {}).facts := by
  have alone : forall fact, Decoding.AgreeOn (declarations.foldl (taking lead) {})
      ((rightHandSides lead fact declarations).foldl (Decoding.take fact) {}) fact :=
    fun fact => agreeOn_foldl_taking lead fact declarations (.refl {} fact)
  refine { toplevel := ?_, extended := ?_, base := ?_, inNamespace := ?_, bodies := ?_ }
  · rw [alone .toplevelDeclaration]
    exact isLastOf_of_isSound (fun state => state.facts.toplevelNonterminal) sound
      (fun _ => rfl) (fun _ _ => rfl) rfl
  · rw [alone .extensibleFileExtension]
    exact isLastOf_of_isSound (fun state => state.facts.extendedFileExtension) sound
      (fun _ => rfl) (fun _ _ => rfl) rfl
  · rw [alone .baseFileExtension]
    exact isLastOf_of_isSound (fun state => state.facts.baseFileExtension) sound
      (fun _ => rfl) (fun _ _ => rfl) rfl
  · rw [alone .namespaceDeclaration]
    exact isLastOf_of_isSound (fun state => state.facts.namespaceDeclaration) sound
      (fun _ => rfl) (fun _ _ => rfl) rfl
  · intro name
    rw [alone .bodyDeclarations, mem_foldl_take_bodies]
    simp

/-! ## Decoding rows of declarations -/

/-- The declarations of a row that are recognised for a fact, in their order. -/
def declarationsFor (lead : String) (fact : Fact) (declarations : List Term) : List Term :=
  declarations.filter fun declaration =>
    (recognise? lead declaration).any fun found => decide (found.1 = fact)

/-- The right-hand sides of a fact are those of its declarations. -/
theorem rightHandSides_declarationsFor (lead : String) (fact : Fact) (declarations : List Term) :
    rightHandSides lead fact (declarationsFor lead fact declarations) =
      rightHandSides lead fact declarations := by
  unfold rightHandSides declarationsFor
  rw [List.filterMap_filter]
  congr 1
  funext declaration
  cases recognise? lead declaration with
  | none => rfl
  | some found => by_cases same : found.1 = fact <;> simp [same]

/-- A row is sound exactly if all right-hand sides of every fact can be read. -/
theorem isSound_iff_reading {lead : String} {declarations : List Term} :
    (forall declaration, declaration ∈ declarations -> IsSound lead declaration) <->
      forall fact rhs, rhs ∈ rightHandSides lead fact declarations ->
        exists change, Decoding.reading fact rhs = .ok change := by
  constructor
  · intro sound fact rhs member
    exact reading_of_isSound sound member
  · rintro readable declaration among fact fault ⟨rhs, recognised, malformed⟩
    have member : rhs ∈ rightHandSides lead fact declarations := by
      refine List.mem_filterMap.mpr ⟨declaration, among, ?_⟩
      simp [recognised]
    rcases readable fact rhs member with ⟨change, outcome⟩
    rw [malformed] at outcome
    cases outcome

variable {lead : String} {module other : Term} {declarations others : List Term}

theorem decode_of_isSound (found : declarationsOf module = .ok declarations)
    (sound : forall declaration, declaration ∈ declarations -> IsSound lead declaration) :
    decode lead module = (.ok (declarations.foldl (taking lead) {}).facts,
      (declarations.foldl (taking lead) {}).warnings) := by
  rw [decode_of_declarations lead found, ending_forM_of_isSound sound]

theorem decode_of_firstMalformed {fact : Fact} {fault : FactFault}
    (found : declarationsOf module = .ok declarations)
    (malformed : FirstMalformed lead declarations fact fault) :
    (decode lead module).1 = .error (.fact fact fault) := by
  rcases ending_forM_of_firstMalformed malformed {} with ⟨after, failed⟩
  rw [decode_of_declarations lead found, failed]

/-- Decoding succeeds on exactly the rows that are sound. -/
theorem exists_decode_iff_isSound (found : declarationsOf module = .ok declarations) :
    (exists facts, (decode lead module).1 = .ok facts) <->
      forall declaration, declaration ∈ declarations -> IsSound lead declaration := by
  rcases isSound_or_firstMalformed lead declarations with sound | ⟨fact, fault, malformed⟩
  · rw [decode_of_isSound found sound]
    simpa using sound
  · rw [decode_of_firstMalformed found malformed]
    rcases malformed with ⟨before, declaration, after, rfl, here, _⟩
    simp only [reduceCtorEq, exists_false, false_iff]
    intro sound
    exact sound declaration (by simp) fact fault here

/-- Decoding depends on nothing but the declarations of each fact, in their order.  If two modules
have the same declarations for each fact, however these are interleaved and whatever stands between
them, decoding succeeds on both or on neither, and then with the same facts and the same warnings.
The facts are then the last word on each that has one value, and the bodies of all declarations;
and if decoding fails, it is for the first declaration of the row that is malformed. -/
theorem decode_of_declarationsFor_eq (found : declarationsOf module = .ok declarations)
    (foundOther : declarationsOf other = .ok others)
    (same : forall fact,
      declarationsFor lead fact declarations = declarationsFor lead fact others) :
    ((exists facts, (decode lead module).1 = .ok facts) <->
      exists facts, (decode lead other).1 = .ok facts) ∧
    (forall facts warnings, decode lead module = (.ok facts, warnings) ->
      decode lead other = (.ok facts, warnings) ∧ CollectedFrom lead declarations facts) ∧
    forall error, (decode lead module).1 = .error error <->
      exists fact fault, error = .fact fact fault ∧
        FirstMalformed lead declarations fact fault := by
  have sameSides : forall fact,
      rightHandSides lead fact declarations = rightHandSides lead fact others := by
    intro fact
    rw [← rightHandSides_declarationsFor, same fact, rightHandSides_declarationsFor]
  have bothSound : (forall declaration, declaration ∈ declarations -> IsSound lead declaration) <->
      forall declaration, declaration ∈ others -> IsSound lead declaration := by
    rw [isSound_iff_reading, isSound_iff_reading]
    simp only [sameSides]
  have agree : declarations.foldl (taking lead) {} = others.foldl (taking lead) {} := by
    apply Decoding.eq_of_agreeOn
    intro fact
    have left := agreeOn_foldl_taking lead fact declarations (.refl {} fact)
    have right := agreeOn_foldl_taking lead fact others (.refl {} fact)
    rw [sameSides fact] at left
    exact left.trans right.symm
  refine ⟨?_, ?_, ?_⟩
  · rw [exists_decode_iff_isSound found, exists_decode_iff_isSound foundOther, bothSound]
  · intro facts warnings decoded
    have sound := (exists_decode_iff_isSound found).mp ⟨facts, by rw [decoded]⟩
    rw [decode_of_isSound found sound, Prod.mk.injEq, Except.ok.injEq] at decoded
    rcases decoded with ⟨rfl, rfl⟩
    rw [decode_of_isSound foundOther (bothSound.mp sound), agree]
    exact ⟨rfl, agree ▸ collectedFrom_of_isSound sound⟩
  · intro error
    constructor
    · intro failed
      rcases isSound_or_firstMalformed lead declarations with sound | ⟨fact, fault, malformed⟩
      · rw [decode_of_isSound found sound] at failed
        cases failed
      · rw [decode_of_firstMalformed found malformed] at failed
        cases failed
        exact ⟨fact, fault, rfl, malformed⟩
    · rintro ⟨fact, fault, rfl, malformed⟩
      exact decode_of_firstMalformed found malformed

/-- The declaration of one import, as an encoding of it. -/
def sampleImport (index : Nat) : Term :=
  declarationOf "x" .importDeclarations
    (wrapped (.appl "List" [.known [argumentPart ⟨"Import", index⟩]]))

/-- Two imports of one constructor, with other declarations between them. -/
def sampleRow : List Term :=
  [sampleImport 1, .appl "Imports" [.known []],
    declarationOf "x" .toplevelDeclaration (quotedPart "Dec"), sampleImport 2]

/-- The same facts with the toplevel declaration in front. -/
def sampleOtherRow : List Term :=
  [declarationOf "x" .toplevelDeclaration (quotedPart "Dec"), sampleImport 1, sampleImport 2]

theorem declarationsFor_sampleRow (fact : Fact) :
    declarationsFor "x" fact sampleRow = declarationsFor "x" fact sampleOtherRow := by
  cases fact <;> decide

/-- Both rows give the later import, and a warning that it replaces the earlier one. -/
theorem decode_of_declarationsFor_eq_sampleRow :
    exists facts,
      declarationsOf (.appl "Module" [.str "x", .known sampleRow]) = .ok sampleRow ∧
      declarationsOf (.appl "Module" [.str "x", .known sampleOtherRow]) = .ok sampleOtherRow ∧
      (forall fact,
        declarationsFor "x" fact sampleRow = declarationsFor "x" fact sampleOtherRow) ∧
      decode "x" (.appl "Module" [.str "x", .known sampleRow]) =
        (.ok facts, [.importRedeclared "Import" 1 2]) ∧
      decode "x" (.appl "Module" [.str "x", .known sampleOtherRow]) =
        (.ok facts, [.importRedeclared "Import" 1 2]) := by
  have decoded : decode "x" (.appl "Module" [.str "x", .known sampleRow]) =
      (.ok { toplevelNonterminal := some "Dec"
             importDeclarations := (∅ : Positions).insert "Import" 2 },
        [.importRedeclared "Import" 1 2]) := by
    decide +kernel
  exact ⟨_, rfl, rfl, declarationsFor_sampleRow, decoded,
    ((decode_of_declarationsFor_eq rfl rfl declarationsFor_sampleRow).2.1 _ _ decoded).1⟩

end BaseLanguage
