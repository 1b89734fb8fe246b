import BaseLanguage.Fact.Decoder
import BaseLanguage.Proofs.Stepwise
import BaseLanguage.Rewriting.Grammar

namespace BaseLanguage

/-!
# Rewritten rule modules

A rule module is rewritten only as far as its imports go.  The first statements below say what
rewriting gives, and on which modules.  The others compare what is decoded before with what is
decoded afterwards: an import is no strategy section, so that none which is dropped, and not the
one that is put in front either, is ever recognised as a fact.  A run that makes the artifacts
anew decodes the generated module and a later run decodes the rewritten one, and both find out
the same.
-/

namespace Rewriting

/-- Two children at least, when there is one at the second place. -/
theorem exists_of_second {children : List Term} {second : Term}
    (found : children[1]? = some second) :
    exists first more, children = first :: second :: more := by
  rcases children with _ | ⟨first, _ | ⟨other, more⟩⟩
  · simp at found
  · simp at found
  · have same : other = second := by simpa using found
    exact ⟨first, more, by rw [same]⟩

/-- The modules that can be rewritten: applications whose second child is a list without explicit
tail.  Children behind the second one are not carried over. -/
theorem replaceRuleImports_eq_ok_iff {module rewritten : Term} :
    replaceRuleImports module = .ok rewritten <->
      exists constructor header declarations more,
        module = .appl constructor (header :: .known declarations :: more) ∧
          rewritten = .appl constructor [header, .known (importShared declarations)] := by
  unfold replaceRuleImports
  rw [mapError_eq_ok_iff, bind_eq_ok_iff]
  constructor
  · rintro ⟨⟨constructor, children⟩, isAppl, rest⟩
    have shape := Term.application_eq_ok_iff.mp isAppl
    rcases bind_eq_ok_iff.mp rest with ⟨header, first, rest⟩
    rcases bind_eq_ok_iff.mp rest with ⟨body, second, rest⟩
    rcases bind_eq_ok_iff.mp rest with ⟨declarations, known, result⟩
    have atZero := Term.Application.child_eq_ok_iff.mp first
    have isKnown := Term.knownElems_eq_ok_iff.mp known
    rcases exists_of_second (Term.Application.child_eq_ok_iff.mp second) with
      ⟨firstChild, more, same⟩
    simp only at same
    subst shape isKnown same
    simp only [List.getElem?_cons_zero, Option.some.injEq] at atZero
    subst atZero
    exact ⟨constructor, firstChild, declarations, more, rfl, (Except.ok.inj result).symm⟩
  · rintro ⟨constructor, header, declarations, more, rfl, rfl⟩
    exact ⟨⟨constructor, header :: .known declarations :: more⟩, rfl, rfl⟩

end Rewriting

/-- The modules that have declarations, and which these are. -/
theorem declarationsOf_eq_ok_iff {module : Term} {declarations : List Term} :
    declarationsOf module = .ok declarations <->
      exists constructor header more,
        module = .appl constructor (header :: .known declarations :: more) := by
  unfold declarationsOf
  rw [bind_eq_ok_iff]
  constructor
  · rintro ⟨body, second, known⟩
    rcases Term.child_eq_ok_iff.mp second with ⟨constructor, children, rfl, atOne⟩
    have isKnown := Term.knownElems_eq_ok_iff.mp known
    subst isKnown
    rcases Rewriting.exists_of_second atOne with ⟨header, more, rfl⟩
    exact ⟨constructor, header, more, rfl⟩
  · rintro ⟨constructor, header, more, rfl⟩
    exact ⟨.known declarations, rfl, rfl⟩

/-! ## Declarations that are no facts -/

/-- An import is no fact, whatever it imports. -/
theorem recognise?_of_isImport (lead : String) (declaration : Term)
    (isImport : declaration.isApplicationOf "Imports" = true) :
    recognise? lead declaration = none := by
  rcases (Term.isApplicationOf_iff declaration "Imports").mp isImport with ⟨children, rfl⟩
  rfl

/-- A declaration that is no fact changes nothing and warns of nothing. -/
theorem addDeclaration_of_unrecognised (lead : String) (declaration : Term)
    (unrecognised : recognise? lead declaration = none) :
    addDeclaration lead declaration = pure () := by
  unfold addDeclaration
  rw [unrecognised]

/-- Steps that do nothing on the items that are left out need not be taken on them. -/
theorem forM_filter_eq [Monad m] [LawfulMonad m] (step : α -> m PUnit) (keeps : α -> Bool)
    (idle : forall item, keeps item = false -> step item = pure ()) (items : List α) :
    (items.filter keeps).forM step = items.forM step := by
  induction items with
  | nil => rfl
  | cons item more inductionHypothesis =>
    cases kept : keeps item with
    | true =>
      rw [List.filter_cons_of_pos kept]
      change (do step item; (more.filter keeps).forM step) = (do step item; more.forM step)
      rw [inductionHypothesis]
    | false =>
      rw [List.filter_cons_of_neg (by simp [kept]), inductionHypothesis]
      change more.forM step = (do step item; more.forM step)
      rw [idle item kept, pure_bind]

/-- The declarations of a rewritten module are taken in like those it was made from. -/
theorem forM_importShared (lead : String) (declarations : List Term) :
    (Rewriting.importShared declarations).forM (addDeclaration lead) =
      declarations.forM (addDeclaration lead) := by
  have shared : addDeclaration lead Rewriting.ruleImport = pure () :=
    addDeclaration_of_unrecognised lead _ (recognise?_of_isImport lead _ rfl)
  have dropped := forM_filter_eq (addDeclaration lead)
    (fun declaration => !declaration.isApplicationOf "Imports")
    (fun declaration isDropped => addDeclaration_of_unrecognised lead declaration
      (recognise?_of_isImport lead declaration (by simpa using isDropped)))
    declarations
  change (do addDeclaration lead Rewriting.ruleImport; List.forM _ (addDeclaration lead)) = _
  rw [shared, pure_bind, dropped]

/-! ## Decoding -/

/-- Once the declarations are known, taking in a module is taking in each of them. -/
theorem addModule_of_declarations (lead : String) {module : Term} {declarations : List Term}
    (found : declarationsOf module = .ok declarations) :
    addModule lead module = declarations.forM (addDeclaration lead) := by
  unfold addModule
  rw [found]
  rfl

/-- Decoding a module ends as taking in its declarations does. -/
theorem decode_of_declarations (lead : String) {module : Term} {declarations : List Term}
    (found : declarationsOf module = .ok declarations) :
    decode lead module =
      match ending (declarations.forM (addDeclaration lead)) {} with
      | (.ok (), state) => (.ok state.facts, state.warnings)
      | (.error error, state) => (.error error, state.warnings) := by
  unfold decode
  rw [addModule_of_declarations lead found]
  rfl

/-- Modules whose declarations are taken in alike are decoded alike. -/
theorem decode_eq_of_forM_eq (lead : String) {module other : Term} {declarations others : List Term}
    (found : declarationsOf module = .ok declarations)
    (foundOther : declarationsOf other = .ok others)
    (same : declarations.forM (addDeclaration lead) = others.forM (addDeclaration lead)) :
    decode lead module = decode lead other := by
  unfold decode
  rw [addModule_of_declarations lead found, addModule_of_declarations lead foundOther, same]

/-- Decoding a declaration can only fail inside a fact. -/
theorem addDeclaration_error (lead : String) (declaration : Term) (state after : Decoding)
    (error : DecodeError)
    (failed : ending (addDeclaration lead declaration) state = (.error error, after)) :
    exists fact fault, error = .fact fact fault := by
  unfold addDeclaration at failed
  cases recognised : recognise? lead declaration with
  | none =>
    rw [recognised] at failed
    cases failed
  | some found =>
    rcases found with ⟨fact, rhs⟩
    rw [recognised] at failed
    have outcome : (ending (Decoding.addFact fact rhs) state).1.mapError (DecodeError.fact fact) =
        .error error := congrArg Prod.fst failed
    cases inside : (ending (Decoding.addFact fact rhs) state).1 with
    | ok value =>
      rw [inside] at outcome
      cases outcome
    | error fault =>
      rw [inside] at outcome
      exact ⟨fact, fault, (Except.error.inj outcome).symm⟩

/-- Decoding a row of declarations can only fail inside a fact. -/
theorem forM_addDeclaration_error (lead : String) (declarations : List Term)
    (state after : Decoding) (error : DecodeError)
    (failed : ending (declarations.forM (addDeclaration lead)) state = (.error error, after)) :
    exists fact fault, error = .fact fact fault := by
  induction declarations generalizing state with
  | nil => cases failed
  | cons declaration more inductionHypothesis =>
    rcases ending_bind_eq_error_iff.mp failed with here | ⟨_, middle, _, later⟩
    · exact addDeclaration_error lead declaration state after error here
    · exact inductionHypothesis middle later

/-- Decoding fails for want of declarations exactly if there are none to be had. -/
theorem decode_eq_module_error_iff (lead : String) (module : Term) (shape : Term.ShapeError) :
    (decode lead module).1 = .error (.module shape) <-> declarationsOf module = .error shape := by
  cases found : declarationsOf module with
  | error failure =>
    have failed : decode lead module = (.error (.module failure), []) := by
      unfold decode addModule
      rw [found]
      rfl
    rw [failed]
    simp
  | ok declarations =>
    rw [decode_of_declarations lead found]
    cases ended : ending (declarations.forM (addDeclaration lead)) {} with
    | mk outcome state =>
      cases outcome with
      | ok value => simp
      | error failure =>
        rcases forM_addDeclaration_error lead declarations {} state failure ended with
          ⟨fact, fault, rfl⟩
        simp

/-- Decoding before or after rewriting gives the same.  Rewriting fails on exactly the modules in
which decoding finds no declarations; on all others both modules give the same facts or the same
failure, and the same warnings in the same order. -/
theorem decode_replaceRuleImports (lead : String) (module : Term) :
    ((exists error, Rewriting.replaceRuleImports module = .error error) <->
      exists shape, (decode lead module).1 = .error (.module shape)) ∧
    forall rewritten, Rewriting.replaceRuleImports module = .ok rewritten ->
      decode lead rewritten = decode lead module := by
  constructor
  · have sameModules : (exists rewritten, Rewriting.replaceRuleImports module = .ok rewritten) <->
        exists declarations, declarationsOf module = .ok declarations := by
      constructor
      · rintro ⟨rewritten, done⟩
        rcases Rewriting.replaceRuleImports_eq_ok_iff.mp done with
          ⟨constructor, header, declarations, more, shape, _⟩
        exact ⟨declarations, declarationsOf_eq_ok_iff.mpr ⟨constructor, header, more, shape⟩⟩
      · rintro ⟨declarations, found⟩
        rcases declarationsOf_eq_ok_iff.mp found with ⟨constructor, header, more, shape⟩
        exact ⟨_, Rewriting.replaceRuleImports_eq_ok_iff.mpr
          ⟨constructor, header, declarations, more, shape, rfl⟩⟩
    simp only [decode_eq_module_error_iff]
    rw [exists_error_iff, exists_error_iff, sameModules]
  · intro rewritten done
    rcases Rewriting.replaceRuleImports_eq_ok_iff.mp done with
      ⟨constructor, header, declarations, more, rfl, rfl⟩
    have before : declarationsOf (.appl constructor (header :: .known declarations :: more)) =
        .ok declarations := rfl
    have after : declarationsOf
        (.appl constructor [header, .known (Rewriting.importShared declarations)]) =
        .ok (Rewriting.importShared declarations) := rfl
    unfold decode
    rw [addModule_of_declarations lead before, addModule_of_declarations lead after,
      forM_importShared]

end BaseLanguage
