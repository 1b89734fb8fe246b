import BaseLanguage.Proofs.Rewriting.Readable
import BaseLanguage.Proofs.Term.Building

namespace BaseLanguage
namespace Rewriting

/-!
# What rewriting changes, keeps and drops

A rewriting puts a module together again from the children that it knows: two of a rule module,
three of a grammar.  It looks for these and does not ask whether there are more, so that further
children are dropped without a word.  On a module of exactly the expected arity, nothing but the
imports changes, and the body of a grammar.

What is done to these places is precise.  The declarations of a rule module go through a filter that
takes the imports out.  A grammar gets its production whatever the order of the two passes is, since
one of them reads the body and the other leaves it alone; and the old body is what is left behind
the production.  The last statement asks for a body that can be built: where an explicit tail had no
element in front of it, that tail alone would be left.
-/

variable {language nonterminal : String} {module rewritten : Term} {arity : Nat}
  {places : List Nat}

/-! ## Children that are kept -/

/-- One constructor with equally many children, which are the same but at some places. -/
def DifferOnlyAt (places : List Nat) (module rewritten : Term) : Prop :=
  exists constructor children others,
    module = .appl constructor children ∧ rewritten = .appl constructor others ∧
      others.length = children.length ∧
      forall place, place ∉ places -> others[place]? = children[place]?

/-- One constructor, with the first children only, which are the same but at some places. -/
def CutsTo (arity : Nat) (places : List Nat) (module rewritten : Term) : Prop :=
  exists constructor children others,
    module = .appl constructor children ∧ rewritten = .appl constructor others ∧
      others.length = arity ∧ arity ≤ children.length ∧
      forall place, place < arity -> place ∉ places -> others[place]? = children[place]?

/-- An application to so many children. -/
def HasArity (arity : Nat) (module : Term) : Prop :=
  exists constructor children, module = .appl constructor children ∧ children.length = arity

/-- Nothing is dropped exactly if there are no further children. -/
theorem differOnlyAt_iff_of_cutsTo (cut : CutsTo arity places module rewritten) :
    DifferOnlyAt places module rewritten <-> HasArity arity module := by
  rcases cut with ⟨constructor, children, others, rfl, rfl, size, enough, same⟩
  constructor
  · rintro ⟨_, _, _, before, after, sizes, _⟩
    cases before
    cases after
    exact ⟨constructor, children, rfl, sizes.symm.trans size⟩
  · rintro ⟨_, _, before, exactly⟩
    cases before
    refine ⟨constructor, children, others, rfl, rfl, size.trans exactly.symm, ?_⟩
    intro place outside
    by_cases inside : place < arity
    · exact same place inside outside
    · rw [List.getElem?_eq_none (by omega), List.getElem?_eq_none (by omega)]

/-- Where only the header is to stay, it is enough that it does. -/
theorem cutsTo_of_header {constructor : String} {header : Term} {children others : List Term}
    (size : others.length + 1 = arity) (enough : arity ≤ children.length + 1)
    (elsewhere : forall place, place < arity -> place ∉ places -> place = 0) :
    CutsTo arity places (.appl constructor (header :: children))
      (.appl constructor (header :: others)) := by
  refine ⟨constructor, _, _, rfl, rfl, size, enough, fun place inside outside => ?_⟩
  rw [elsewhere place inside outside]
  rfl

theorem cutsTo_replaceRuleImports (done : replaceRuleImports module = .ok rewritten) :
    CutsTo 2 [1] module rewritten := by
  rcases replaceRuleImports_eq_ok_iff.mp done with
    ⟨constructor, header, declarations, more, rfl, rfl⟩
  exact cutsTo_of_header rfl (by simp) (by simp; omega)

/-- Grammars can be rewritten that are applications to at least three children, the third of which
is a list. -/
theorem rewriteGrammar_eq_ok_iff :
    rewriteGrammar language nonterminal module = .ok rewritten <->
      exists constructor header imports elems tail more,
        module = .appl constructor (header :: imports :: .list elems tail :: more) ∧
          rewritten = .appl constructor [header, .known [grammarImport],
            .list (toplevelProduction language nonterminal :: elems) tail] := by
  unfold rewriteGrammar
  simp only [bind_eq_ok_iff, replaceGrammarImports_eq_ok_iff, injectToplevelProduction_eq_ok_iff]
  constructor
  · rintro ⟨_, ⟨constructor, header, imports, body, more, rfl, rfl⟩,
      _, _, _, elems, tail, _, same, rfl⟩
    cases same
    exact ⟨constructor, header, imports, elems, tail, more, rfl, rfl⟩
  · rintro ⟨constructor, header, imports, elems, tail, more, rfl, rfl⟩
    exact ⟨_, ⟨constructor, header, imports, _, more, rfl, rfl⟩,
      constructor, header, _, elems, tail, [], rfl, rfl⟩

theorem cutsTo_rewriteGrammar (done : rewriteGrammar language nonterminal module = .ok rewritten) :
    CutsTo 3 [1, 2] module rewritten := by
  rcases rewriteGrammar_eq_ok_iff.mp done with
    ⟨constructor, header, imports, elems, tail, more, rfl, rfl⟩
  exact cutsTo_of_header rfl (by simp) (by simp; omega)

/-- Rewriting keeps the constructor and the header, and of a rule module no more than the first two
children, of a grammar no more than the first three.  It drops nothing but imports exactly if there
are no others. -/
theorem rewriting_cuts (module : Term) :
    (forall rewritten, replaceRuleImports module = .ok rewritten ->
      CutsTo 2 [1] module rewritten ∧
        (DifferOnlyAt [1] module rewritten <-> HasArity 2 module)) ∧
    forall language nonterminal rewritten,
      rewriteGrammar language nonterminal module = .ok rewritten ->
        CutsTo 3 [1, 2] module rewritten ∧
          (DifferOnlyAt [1, 2] module rewritten <-> HasArity 3 module) := by
  constructor
  · intro rewritten done
    have cut := cutsTo_replaceRuleImports done
    exact ⟨cut, differOnlyAt_iff_of_cutsTo cut⟩
  · intro language nonterminal rewritten done
    have cut := cutsTo_rewriteGrammar done
    exact ⟨cut, differOnlyAt_iff_of_cutsTo cut⟩

/-- A note behind the declarations of a rule module is dropped, and so is one behind the body of a
grammar. -/
theorem not_forall_differOnlyAt :
    (¬ forall module rewritten, replaceRuleImports module = .ok rewritten ->
      DifferOnlyAt [1] module rewritten) ∧
    ¬ forall language nonterminal module rewritten,
      rewriteGrammar language nonterminal module = .ok rewritten ->
        DifferOnlyAt [1, 2] module rewritten := by
  constructor
  · intro always
    rcases always (.appl "Module" [.str "x", .known [], .str "note"]) _ rfl with
      ⟨_, _, _, before, after, sizes, _⟩
    cases before
    cases after
    cases sizes
  · intro always
    rcases always "x" "Exp" (.appl "module" [.str "x", .known [], .known [], .str "note"]) _ rfl
      with ⟨_, _, _, before, after, sizes, _⟩
    cases before
    cases after
    cases sizes

/-! ## Declarations that are kept -/

/-- Taking the imports out once is enough. -/
theorem importShared_importShared (declarations : List Term) :
    importShared (importShared declarations) = importShared declarations := by
  have isImport : (!ruleImport.isApplicationOf "Imports") = false := rfl
  unfold importShared
  rw [List.filter_cons_of_neg (by simp [isImport]), List.filter_filter]
  simp

/-- The declarations of a rewritten rule module are the import of the shared module and then those
that were there and are no imports, each as often as before and in the same order.  So there is one
import, and rewriting again changes nothing. -/
theorem replaceRuleImports_filters (done : replaceRuleImports module = .ok rewritten) :
    exists declarations kept, declarationsOf module = .ok declarations ∧
      declarationsOf rewritten = .ok (ruleImport :: kept) ∧
      kept.Sublist declarations ∧
      (forall children, .appl "Imports" children ∉ kept) ∧
      (forall declaration, (forall children, declaration ≠ .appl "Imports" children) ->
        kept.count declaration = declarations.count declaration) ∧
      (ruleImport :: kept).countP (Term.isApplicationOf "Imports") = 1 ∧
      replaceRuleImports rewritten = .ok rewritten := by
  rcases replaceRuleImports_eq_ok_iff.mp done with
    ⟨constructor, header, declarations, more, rfl, rfl⟩
  refine ⟨declarations, _, rfl, rfl, List.filter_sublist, ?_, ?_, ?_, ?_⟩
  · intro children among
    have kept := (List.mem_filter.mp among).2
    simp [Term.isApplicationOf] at kept
  · intro declaration noImport
    apply List.count_filter
    cases isImport : declaration.isApplicationOf "Imports" with
    | false => rfl
    | true =>
      rcases (Term.isApplicationOf_iff declaration "Imports").mp isImport with ⟨children, same⟩
      exact absurd same (noImport children)
  · rw [List.countP_cons_of_pos rfl, List.countP_filter]
    simp
  · refine replaceRuleImports_eq_ok_iff.mpr
      ⟨constructor, header, importShared declarations, [], rfl, ?_⟩
    rw [importShared_importShared]

/-- Imports between other terms, one of them inside a list. -/
def sampleDeclarationRow : List Term :=
  [.str "note", .appl "Imports" [], .int 42, .known [.appl "Imports" []],
    .appl "Imports" [.str "x"], .str "note"]

/-- Two imports go, and the one inside a list stays. -/
theorem replaceRuleImports_filters_sampleDeclarationRow :
    exists rewritten,
      replaceRuleImports (.appl "Module" [.str "x", .known sampleDeclarationRow]) = .ok rewritten ∧
      exists declarations kept,
        declarationsOf (.appl "Module" [.str "x", .known sampleDeclarationRow]) =
          .ok declarations ∧
        declarationsOf rewritten = .ok (ruleImport :: kept) ∧
        kept.Sublist declarations ∧
        (forall children, .appl "Imports" children ∉ kept) ∧
        (forall declaration, (forall children, declaration ≠ .appl "Imports" children) ->
          kept.count declaration = declarations.count declaration) ∧
        (ruleImport :: kept).countP (Term.isApplicationOf "Imports") = 1 ∧
        replaceRuleImports rewritten = .ok rewritten :=
  ⟨_, rfl, replaceRuleImports_filters rfl⟩

/-! ## Grammars -/

/-- The production that connects a sort to the shared one. -/
def productionFrom (sort : String) : Term :=
  .appl "exports"
    [.appl "context-free-syntax"
      [.known
        [.appl "prod" [.known [sortTerm sort], sortTerm sharedSort, .appl "no-attrs" []]]]]

/-- What a rewritten grammar has from the one it was made from, and what it has instead. -/
structure IsRewrittenFrom (language nonterminal : String) (module rewritten : Term) : Prop where
  constructor : exists name, module.constructor? = some name ∧ rewritten.constructor? = some name
  header : exists header, module.child 0 = .ok header ∧ rewritten.child 0 = .ok header
  imports : rewritten.child 1 = .ok (.known [grammarImport])
  /-- Behind the production stands the old body, whatever it ends in. -/
  body : exists body extended spine, module.child 2 = .ok body ∧
    rewritten.child 2 = .ok extended ∧ extended.spine = .ok spine ∧
    spine.head = .ok (productionFrom (language ++ "Gnd" ++ nonterminal)) ∧
    spine.rest = .ok body

/-- Nothing but the list decides whether a grammar can be rewritten. -/
theorem exists_rewriteGrammar_iff :
    (exists rewritten, rewriteGrammar language nonterminal module = .ok rewritten) <->
      exists constructor header imports elems tail more,
        module = .appl constructor (header :: imports :: .list elems tail :: more) := by
  simp only [rewriteGrammar_eq_ok_iff]
  constructor
  · rintro ⟨_, constructor, header, imports, elems, tail, more, shape, _⟩
    exact ⟨constructor, header, imports, elems, tail, more, shape⟩
  · rintro ⟨constructor, header, imports, elems, tail, more, shape⟩
    exact ⟨_, constructor, header, imports, elems, tail, more, shape, rfl⟩

/-- The two passes may be made in either order. -/
theorem inject_then_replace_eq_ok_iff :
    (do replaceGrammarImports (← injectToplevelProduction language nonterminal module)) =
        .ok rewritten <->
      rewriteGrammar language nonterminal module = .ok rewritten := by
  simp only [bind_eq_ok_iff, rewriteGrammar_eq_ok_iff, replaceGrammarImports_eq_ok_iff,
    injectToplevelProduction_eq_ok_iff]
  constructor
  · rintro ⟨_, ⟨constructor, header, imports, elems, tail, more, rfl, rfl⟩,
      _, _, _, _, _, same, rfl⟩
    cases same
    exact ⟨constructor, header, imports, elems, tail, more, rfl, rfl⟩
  · rintro ⟨constructor, header, imports, elems, tail, more, rfl, rfl⟩
    exact ⟨_, ⟨constructor, header, imports, elems, tail, more, rfl, rfl⟩,
      constructor, header, imports, _, [], rfl, rfl⟩

/-- Replacing imports once is enough. -/
theorem replaceGrammarImports_again (done : replaceGrammarImports module = .ok rewritten) :
    replaceGrammarImports rewritten = .ok rewritten := by
  rcases replaceGrammarImports_eq_ok_iff.mp done with
    ⟨constructor, header, imports, body, more, rfl, rfl⟩
  rfl

theorem replaceGrammarImports_of_rewriteGrammar
    (done : rewriteGrammar language nonterminal module = .ok rewritten) :
    replaceGrammarImports rewritten = .ok rewritten := by
  rcases rewriteGrammar_eq_ok_iff.mp done with
    ⟨constructor, header, imports, elems, tail, more, rfl, rfl⟩
  rfl

theorem isRewrittenFrom_of_built (built : module.IsBuilt)
    (done : rewriteGrammar language nonterminal module = .ok rewritten) :
    IsRewrittenFrom language nonterminal module rewritten := by
  rcases rewriteGrammar_eq_ok_iff.mp done with
    ⟨constructor, header, imports, elems, tail, more, rfl, rfl⟩
  have isBody : (Term.appl constructor (header :: imports :: .list elems tail :: more)).child 2 =
    .ok (.list elems tail) := rfl
  have proper := Term.isProper_of_isBuilt (built.child isBody)
  rcases proper.exists_spine_cons (toplevelProduction language nonterminal) with
    ⟨spine, isList, isHead, isRest⟩
  exact {
    constructor := ⟨constructor, rfl, rfl⟩
    header := ⟨header, rfl, rfl⟩
    imports := rfl
    body := ⟨_, _, spine, rfl, rfl, isList, isHead, isRest⟩ }

/-- Grammars are rewritten exactly if they have a list for a body, in either order of the two
passes; the header stays, there is one import, and the body has one production more in front. -/
theorem rewriteGrammar_of_built (built : module.IsBuilt) (language nonterminal : String) :
    ((exists rewritten, rewriteGrammar language nonterminal module = .ok rewritten) <->
      exists constructor header imports elems tail more,
        module = .appl constructor (header :: imports :: .list elems tail :: more)) ∧
    (forall rewritten,
      (do replaceGrammarImports (← injectToplevelProduction language nonterminal module)) =
          .ok rewritten <->
        rewriteGrammar language nonterminal module = .ok rewritten) ∧
    (forall rewritten, rewriteGrammar language nonterminal module = .ok rewritten ->
      IsRewrittenFrom language nonterminal module rewritten ∧
        replaceGrammarImports rewritten = .ok rewritten) ∧
    forall replaced, replaceGrammarImports module = .ok replaced ->
      replaceGrammarImports replaced = .ok replaced := by
  exact ⟨exists_rewriteGrammar_iff, fun _ => inject_then_replace_eq_ok_iff,
    fun _ done => ⟨isRewrittenFrom_of_built built done, replaceGrammarImports_of_rewriteGrammar done⟩,
    fun _ => replaceGrammarImports_again⟩

theorem isBuilt_sampleGrammar : sampleGrammar.IsBuilt := by
  have body : (Term.list [.str "first"] (some (.str "rest"))).IsBuilt :=
    .cons (.str "first") (.str "rest")
  have header : (Term.known []).IsBuilt := .known (by simp)
  exact .appl "module" (by simp [body, header, Term.IsBuilt.str])

/-- A body that ends in an explicit tail is left behind the production. -/
theorem rewriteGrammar_of_built_sampleGrammar :
    sampleGrammar.IsBuilt ∧
      exists rewritten, rewriteGrammar "x" "Exp" sampleGrammar = .ok rewritten ∧
        IsRewrittenFrom "x" "Exp" sampleGrammar rewritten ∧
        replaceGrammarImports rewritten = .ok rewritten :=
  ⟨isBuilt_sampleGrammar, _, rfl,
    (rewriteGrammar_of_built isBuilt_sampleGrammar "x" "Exp").2.2.1 _ rfl⟩

end Rewriting
end BaseLanguage
