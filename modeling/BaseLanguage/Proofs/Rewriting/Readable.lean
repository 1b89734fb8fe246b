import BaseLanguage.Proofs.Rewriting.Rules
import BaseLanguage.Proofs.Term.RoundTrip
import BaseLanguage.Tool.Program

namespace BaseLanguage

/-!
# Rewritten modules on their way to the tools

Tools are handed a module as text, and a pretty printer or a normaliser answers with text.  So a
rewritten module must be a term that survives being written.  A rewriting takes the module apart
and puts some of its parts together again with parts of its own; the parts of a readable term are
readable, and so is what the rewritings add, whatever the language and its nonterminal are called.
Only the body of a grammar may end in an explicit tail, and a production in front of it leaves the
tail as it was.
-/

namespace Term

namespace Grammar

/-- The names are the texts that start like a name and go on like one. -/
theorem isName_cons_iff {first : Char} {rest : List Char} :
    IsName (first :: rest) <->
      Reader.isNameStart first = true ∧ rest.all Reader.isNameChar = true := by
  rw [isNameStart_iff, List.all_eq_true]
  simp only [isNameChar_iff]
  constructor
  · rintro ⟨c, parts, same, start, areParts⟩
    cases same
    exact ⟨start, areParts⟩
  · rintro ⟨start, areParts⟩
    exact ⟨first, rest, rfl, start, areParts⟩

instance decidableIsName : forall text : List Char, Decidable (IsName text)
  | [] => isFalse (by rintro ⟨first, rest, same, _⟩; cases same)
  | _ :: _ => decidable_of_iff _ isName_cons_iff.symm

end Grammar

/-! ## Parts of readable terms -/

theorem isReadable_appl {name : String} {children : List Term}
    (isName : Grammar.IsName name.toList) (readable : AreReadable children) :
    (appl name children).IsReadable := by
  rw [IsReadable]
  exact ⟨Or.inr isName, readable⟩

theorem areReadable_children {constructor : String} {children : List Term}
    (readable : (appl constructor children).IsReadable) : AreReadable children := by
  rw [IsReadable] at readable
  exact readable.2

theorem isReadable_child {constructor : String} {children : List Term} {child : Term}
    (readable : (appl constructor children).IsReadable) (member : child ∈ children) :
    child.IsReadable :=
  areReadable_iff.mp (areReadable_children readable) child member

theorem areReadable_of_known {elems : List Term} (readable : (known elems).IsReadable) :
    AreReadable elems := by
  unfold known at readable
  rwa [IsReadable] at readable

theorem isReadable_singleton {term : Term} (readable : term.IsReadable) :
    (known [term]).IsReadable :=
  Grammar.isReadable_known ⟨readable, trivial⟩

/-- The constructor of a readable term may be given other children. -/
theorem isReadable_of_children {constructor : String} {children others : List Term}
    (readable : (appl constructor children).IsReadable) (areReadable : AreReadable others) :
    (appl constructor others).IsReadable := by
  rw [IsReadable] at readable ⊢
  exact ⟨readable.1, areReadable⟩

end Term

namespace Rewriting

/-! ## Which grammars can be rewritten -/

/-- Three children at least, when there is one at the third place. -/
theorem exists_of_third {children : List Term} {third : Term} (found : children[2]? = some third) :
    exists first second more, children = first :: second :: third :: more := by
  cases children with
  | nil => simp at found
  | cons first others =>
    rcases exists_of_second found with ⟨second, more, rfl⟩
    exact ⟨first, second, more, rfl⟩

/-- Imports can be replaced in applications to three children at least.  Children behind the third
are not carried over. -/
theorem replaceGrammarImports_eq_ok_iff {module rewritten : Term} :
    replaceGrammarImports module = .ok rewritten <->
      exists constructor header imports body more,
        module = .appl constructor (header :: imports :: body :: more) ∧
          rewritten = .appl constructor [header, .known [grammarImport], body] := by
  unfold replaceGrammarImports inGrammar
  rw [mapError_eq_ok_iff, bind_eq_ok_iff]
  constructor
  · rintro ⟨⟨constructor, children⟩, isAppl, rest⟩
    have shape := Term.application_eq_ok_iff.mp isAppl
    rcases bind_eq_ok_iff.mp rest with ⟨header, first, rest⟩
    rcases bind_eq_ok_iff.mp rest with ⟨body, third, result⟩
    rcases exists_of_third (Term.Application.child_eq_ok_iff.mp third) with
      ⟨firstChild, imports, more, same⟩
    have atZero := Term.Application.child_eq_ok_iff.mp first
    simp only at same
    subst shape same
    simp only [List.getElem?_cons_zero, Option.some.injEq] at atZero
    subst atZero
    exact ⟨constructor, firstChild, imports, body, more, rfl, (Except.ok.inj result).symm⟩
  · rintro ⟨constructor, header, imports, body, more, rfl, rfl⟩
    exact ⟨⟨constructor, header :: imports :: body :: more⟩, rfl, rfl⟩

/-- A production can be put in front of the body in applications to three children at least, the
third of which is a list.  Its explicit tail, if there is one, stays. -/
theorem injectToplevelProduction_eq_ok_iff {language nonterminal : String}
    {module rewritten : Term} :
    injectToplevelProduction language nonterminal module = .ok rewritten <->
      exists constructor header imports elems tail more,
        module = .appl constructor (header :: imports :: .list elems tail :: more) ∧
          rewritten = .appl constructor [header, imports,
            .list (toplevelProduction language nonterminal :: elems) tail] := by
  unfold injectToplevelProduction inGrammar
  rw [mapError_eq_ok_iff, bind_eq_ok_iff]
  constructor
  · rintro ⟨⟨constructor, children⟩, isAppl, rest⟩
    have shape := Term.application_eq_ok_iff.mp isAppl
    rcases bind_eq_ok_iff.mp rest with ⟨imports, second, rest⟩
    rcases bind_eq_ok_iff.mp rest with ⟨header, first, rest⟩
    rcases bind_eq_ok_iff.mp rest with ⟨body, third, rest⟩
    rcases bind_eq_ok_iff.mp rest with ⟨spine, isList, result⟩
    rcases exists_of_third (Term.Application.child_eq_ok_iff.mp third) with
      ⟨firstChild, secondChild, more, same⟩
    have atZero := Term.Application.child_eq_ok_iff.mp first
    have atOne := Term.Application.child_eq_ok_iff.mp second
    simp only at same
    subst shape same
    simp only [List.getElem?_cons_zero, List.getElem?_cons_succ, Option.some.injEq] at atZero atOne
    subst atZero atOne
    cases body with
    | list elems tail =>
      exact ⟨constructor, firstChild, secondChild, elems, tail, more, rfl,
        (Except.ok.inj result).symm⟩
    | appl | str | int => cases isList
  · rintro ⟨constructor, header, imports, elems, tail, more, rfl, rfl⟩
    exact ⟨⟨constructor, header :: imports :: .list elems tail :: more⟩, rfl, rfl⟩

/-! ## What the rewritings add -/

theorem isReadable_ruleImport : ruleImport.IsReadable := by
  have imported : (Term.appl "Import" [.str sharedModule]).IsReadable :=
    Term.isReadable_appl (by decide) ⟨trivial, trivial⟩
  exact Term.isReadable_appl (by decide) ⟨Term.isReadable_singleton imported, trivial⟩

theorem isReadable_grammarImport : grammarImport.IsReadable := by
  have header : (Term.appl "unparameterized" [.str sharedModule]).IsReadable :=
    Term.isReadable_appl (by decide) ⟨trivial, trivial⟩
  have imported : (Term.appl "module" [.appl "unparameterized" [.str sharedModule]]).IsReadable :=
    Term.isReadable_appl (by decide) ⟨header, trivial⟩
  exact Term.isReadable_appl (by decide) ⟨imported, trivial⟩

theorem isReadable_sortTerm (name : String) : (sortTerm name).IsReadable :=
  Term.isReadable_appl (by decide) ⟨trivial, trivial⟩

/-- The production is readable whatever the language and the nonterminal are called: their names
stand between quotes. -/
theorem isReadable_toplevelProduction (language nonterminal : String) :
    (toplevelProduction language nonterminal).IsReadable := by
  have plain : (Term.appl "no-attrs" []).IsReadable := Term.isReadable_appl (by decide) trivial
  have sorts := Term.isReadable_singleton (isReadable_sortTerm (toplevelSort language nonterminal))
  have production : (Term.appl "prod" [.known [sortTerm (toplevelSort language nonterminal)],
      sortTerm sharedSort, .appl "no-attrs" []]).IsReadable :=
    Term.isReadable_appl (by decide) ⟨sorts, isReadable_sortTerm _, plain, trivial⟩
  have productions := Term.isReadable_singleton production
  exact Term.isReadable_appl (by decide)
    ⟨Term.isReadable_appl (by decide) ⟨productions, trivial⟩, trivial⟩

/-! ## What the rewritings give -/

variable {language nonterminal : String} {module rewritten : Term}

theorem isReadable_replaceRuleImports (readable : module.IsReadable)
    (done : replaceRuleImports module = .ok rewritten) : rewritten.IsReadable := by
  rcases replaceRuleImports_eq_ok_iff.mp done with
    ⟨constructor, header, declarations, more, rfl, rfl⟩
  have headerReadable : header.IsReadable := Term.isReadable_child readable (by simp)
  have listReadable : (Term.known declarations).IsReadable :=
    Term.isReadable_child readable (by simp)
  have areReadable := Term.areReadable_of_known listReadable
  have kept : Term.AreReadable (importShared declarations) := by
    refine ⟨isReadable_ruleImport, Term.areReadable_iff.mpr ?_⟩
    intro declaration member
    exact Term.areReadable_iff.mp areReadable declaration (List.mem_filter.mp member).1
  exact Term.isReadable_of_children readable
    ⟨headerReadable, Term.Grammar.isReadable_known kept, trivial⟩

theorem isReadable_replaceGrammarImports (readable : module.IsReadable)
    (done : replaceGrammarImports module = .ok rewritten) : rewritten.IsReadable := by
  rcases replaceGrammarImports_eq_ok_iff.mp done with
    ⟨constructor, header, imports, body, more, rfl, rfl⟩
  have headerReadable : header.IsReadable := Term.isReadable_child readable (by simp)
  have bodyReadable : body.IsReadable := Term.isReadable_child readable (by simp)
  have imported := Term.isReadable_singleton isReadable_grammarImport
  exact Term.isReadable_of_children readable ⟨headerReadable, imported, bodyReadable, trivial⟩

theorem isReadable_injectToplevelProduction (readable : module.IsReadable)
    (done : injectToplevelProduction language nonterminal module = .ok rewritten) :
    rewritten.IsReadable := by
  rcases injectToplevelProduction_eq_ok_iff.mp done with
    ⟨constructor, header, imports, elems, tail, more, rfl, rfl⟩
  have headerReadable : header.IsReadable := Term.isReadable_child readable (by simp)
  have importsReadable : imports.IsReadable := Term.isReadable_child readable (by simp)
  have bodyReadable : (Term.list elems tail).IsReadable := Term.isReadable_child readable (by simp)
  have extended := Term.Grammar.isReadable_cons
    (isReadable_toplevelProduction language nonterminal) bodyReadable
  exact Term.isReadable_of_children readable
    ⟨headerReadable, importsReadable, extended, trivial⟩

theorem isReadable_rewriteGrammar (readable : module.IsReadable)
    (done : rewriteGrammar language nonterminal module = .ok rewritten) :
    rewritten.IsReadable := by
  rcases bind_eq_ok_iff.mp done with ⟨replaced, first, second⟩
  have replacedReadable := isReadable_replaceGrammarImports readable first
  exact isReadable_injectToplevelProduction replacedReadable second

/-- The rewritings of generated modules, for a language and its toplevel nonterminal. -/
def rewritings (language nonterminal : String) : List (Term -> Except RewriteError Term) :=
  [replaceRuleImports, replaceGrammarImports, injectToplevelProduction language nonterminal,
    rewriteGrammar language nonterminal]

/-- Every rewriting gives readable terms for readable terms. -/
theorem isReadable_of_rewriting {rewriting : Term -> Except RewriteError Term}
    (isRewriting : rewriting ∈ rewritings language nonterminal) (readable : module.IsReadable)
    (done : rewriting module = .ok rewritten) : rewritten.IsReadable := by
  simp only [rewritings, List.mem_cons, List.not_mem_nil, or_false] at isRewriting
  rcases isRewriting with rfl | rfl | rfl | rfl
  · exact isReadable_replaceRuleImports readable done
  · exact isReadable_replaceGrammarImports readable done
  · exact isReadable_injectToplevelProduction readable done
  · exact isReadable_rewriteGrammar readable done

end Rewriting

namespace ProgramTools

/-! ## Programs that echo -/

variable {σ : Type} {launch : Launcher σ} {commands : ToolCommands} {command : ToolCommand}

/-- A program that gives back what it is given.  What it says besides, and what it does to the
files, is its own affair. -/
def Echoes (launch : Launcher σ) (program : String) : Prop :=
  forall (arguments : List String) (input : ByteArray) (workshop : Workshop σ),
    exists stderr after, (launch program arguments (some input)).run workshop =
      (some { status := 0, stdout := input, stderr }, after)

/-- A command of such a program gives back the text of a term. -/
theorem runOn_of_echoes (echoes : Echoes launch command.program) (term : Term)
    (workshop : Workshop σ) :
    exists result after, ending (runOn launch command term) workshop = (.ok result, after) ∧
      textOf command.program result = .ok term.print := by
  rcases echoes (command.arguments.map (Placeholder.expand [])) (Text.toBytes term.print) workshop
    with ⟨stderr, after, answered⟩
  refine ⟨{ status := 0, stdout := Text.toBytes term.print, stderr }, after, ?_, ?_⟩
  · unfold runOn run
    rw [ending_bind]
    have started : ending (liftM (launch command.program
        (command.arguments.map (Placeholder.expand [])) (some (Text.toBytes term.print))) :
          ToolWork σ (Option ProgramResult)) workshop =
        (.ok (some { status := 0, stdout := Text.toBytes term.print, stderr }), after) :=
      congrArg (fun answer => (Except.ok answer.1, answer.2)) answered
    rw [started]
    rfl
  · have spelled : Text.ofBytes? (Text.toBytes term.print) = some term.print :=
      dif_pos term.print.isValidUTF8
    have given : outputOf command.program { status := 0, stdout := Text.toBytes term.print, stderr } =
        .ok (Text.toBytes term.print) := rfl
    refine bind_eq_ok_iff.mpr ⟨_, given, ?_⟩
    rw [spelled]
    rfl

/-- A pretty printer that echoes shows a term by its text. -/
theorem ending_prettyPrint_of_echoes {dialect : Dialect}
    (configured : commands.get? (prettyPrinter dialect) = some command)
    (echoes : Echoes launch command.program) (term : Term) (workshop : Workshop σ) :
    exists after, ending ((toolchain launch commands).prettyPrint dialect term) workshop =
      (.ok term.print, after) := by
  rcases runOn_of_echoes echoes term workshop with ⟨result, after, ran, text⟩
  refine ⟨after, ?_⟩
  have found : (ProgramTools.command commands (prettyPrinter dialect) : ToolWork σ ToolCommand) =
      pure command := by
    unfold ProgramTools.command
    rw [configured]
  change ending (do
    let command ← ProgramTools.command commands (prettyPrinter dialect)
    let result ← runOn launch command term
    liftM (textOf command.program result)) workshop = _
  rw [found, pure_bind, ending_bind, ran]
  exact congrArg (fun outcome => (outcome, after)) text

/-- A normaliser that echoes gives back every term that survives being written. -/
theorem ending_normalizeGrammar_of_echoes (configured : commands.normalizeGrammar = some command)
    (echoes : Echoes launch command.program) {term : Term} (readable : term.IsReadable)
    (workshop : Workshop σ) :
    exists after, ending ((toolchain launch commands).normalizeGrammar term) workshop =
      (.ok term, after) := by
  rcases runOn_of_echoes echoes term workshop with ⟨result, after, ran, text⟩
  refine ⟨after, ?_⟩
  have read : termOf command.program result = .ok term := by
    unfold termOf
    rw [text]
    exact mapError_eq_ok_iff.mpr (Term.parse_print_of_isReadable readable)
  unfold toolchain
  dsimp only
  rw [configured]
  dsimp only
  rw [ending_bind, ran]
  exact congrArg (fun outcome => (outcome, after)) read

end ProgramTools

/-! ## Rewritten modules survive being handed over -/

/-- A rewritten module is read back from its text if the module was read from a text, whatever the
language and its nonterminal are called.  So a pretty printer that echoes answers with a text of
exactly this module, and a normaliser that echoes answers with the module itself. -/
theorem parse_print_of_rewriting {language nonterminal text : String} {module rewritten : Term}
    {rewriting : Term -> Except RewriteError Term} (read : Term.parse text = .ok module)
    (isRewriting : rewriting ∈ Rewriting.rewritings language nonterminal)
    (done : rewriting module = .ok rewritten) :
    Term.parse rewritten.print = .ok rewritten ∧
    forall (σ : Type) (launch : Launcher σ) (commands : ToolCommands) (workshop : Workshop σ)
      (command : ToolCommand), ProgramTools.Echoes launch command.program ->
        (forall dialect, commands.get? (ProgramTools.prettyPrinter dialect) = some command ->
          exists after, ending
            ((ProgramTools.toolchain launch commands).prettyPrint dialect rewritten) workshop =
              (.ok rewritten.print, after)) ∧
        (commands.normalizeGrammar = some command ->
          exists after, ending
            ((ProgramTools.toolchain launch commands).normalizeGrammar rewritten) workshop =
              (.ok rewritten, after)) := by
  have readable := Rewriting.isReadable_of_rewriting isRewriting
    (Term.isReadable_of_parse read) done
  refine ⟨Term.parse_print_of_isReadable readable, ?_⟩
  intro σ launch commands workshop command echoes
  constructor
  · intro dialect configured
    exact ProgramTools.ending_prettyPrint_of_echoes configured echoes rewritten workshop
  · intro configured
    exact ProgramTools.ending_normalizeGrammar_of_echoes configured echoes readable workshop

/-- A grammar whose body ends in an explicit tail. -/
def sampleGrammar : Term :=
  .appl "module" [.str "x", .known [], .list [.str "first"] (some (.str "rest"))]

/-- The only program of this launcher gives back its input. -/
def echoing : Launcher Unit := fun _ _ input =>
  return input.map fun bytes => { status := 0, stdout := bytes, stderr := ByteArray.empty }

theorem echoes_echoing (program : String) : ProgramTools.Echoes echoing program := by
  intro arguments input workshop
  exact ⟨ByteArray.empty, workshop, rfl⟩

/-- A language with a quote in its name, in a grammar with an explicit tail. -/
theorem parse_print_of_rewriting_sampleGrammar :
    exists rewritten,
      Term.parse "module(\"x\",[],[\"first\"|\"rest\"])" = .ok sampleGrammar ∧
      Rewriting.rewriteGrammar "a\"b" "Exp" ∈ Rewriting.rewritings "a\"b" "Exp" ∧
      Rewriting.rewriteGrammar "a\"b" "Exp" sampleGrammar = .ok rewritten ∧
      ProgramTools.Echoes echoing "cat" ∧
      Term.parse rewritten.print = .ok rewritten ∧
      exists after, ending ((ProgramTools.toolchain echoing
        { normalizeGrammar := some ⟨"cat", []⟩ }).normalizeGrammar rewritten)
          ⟨.rooted [] ⟨0, 0⟩, ()⟩ = (.ok rewritten, after) := by
  have read : Term.parse "module(\"x\",[],[\"first\"|\"rest\"])" = .ok sampleGrammar := by
    decide +kernel
  have isRewriting : Rewriting.rewriteGrammar "a\"b" "Exp" ∈ Rewriting.rewritings "a\"b" "Exp" := by
    simp [Rewriting.rewritings]
  have survives := parse_print_of_rewriting read isRewriting rfl
  exact ⟨_, read, isRewriting, rfl, echoes_echoing "cat", survives.1,
    (survives.2 Unit echoing { normalizeGrammar := some ⟨"cat", []⟩ } ⟨.rooted [] ⟨0, 0⟩, ()⟩
      ⟨"cat", []⟩ (echoes_echoing "cat")).2 rfl⟩

end BaseLanguage
