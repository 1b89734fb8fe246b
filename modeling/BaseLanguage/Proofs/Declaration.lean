import BaseLanguage.Declaration
import BaseLanguage.Proofs.Fact.Encoding

namespace BaseLanguage

/-!
# Which class a declaration has

The facts of a language list constructors for namespaces, imports and bodies; the constructors of
extensions are the same in every language.  The lists come from the definition, and nothing keeps a
constructor from being listed twice.  Each question about a declaration looks at one list only, so
that for such a constructor several are answered with yes.

A declaration has one class nevertheless: the first one, in the order in which they are asked for,
whose question is answered with yes.  So the class and the questions agree on a declaration exactly
if its constructor is not listed for two classes, and they agree on all declarations of a language
exactly if no constructor is.
-/

namespace DeclarationClass

/-- The classes that come first where a declaration belongs to them too. -/
def before : DeclarationClass -> List DeclarationClass
  | namespaceName => []
  | importation => [namespaceName]
  | body => [namespaceName, importation]
  | extension => [namespaceName, importation, body]
  | other => [namespaceName, importation, body, extension]

theorem not_mem_before (kind : DeclarationClass) : kind ∉ kind.before := by
  cases kind <;> decide

end DeclarationClass

namespace LanguageDescriptor

/-- Whether a declaration is of a class, as far as the question for this class goes.  No question is
asked for what is no declaration of the language. -/
def isOf (language : LanguageDescriptor) (declaration : Term) : DeclarationClass -> Bool
  | .namespaceName => language.isNamespaceDeclaration declaration
  | .importation => language.isImportDeclaration declaration
  | .body => language.isBodyDeclaration declaration
  | .extension => language.isExtensionDeclaration declaration
  | .other => false

/-- Whether a constructor is listed for a class. -/
def Lists (language : LanguageDescriptor) (name : String) : DeclarationClass -> Prop
  | .namespaceName => exists index, language.facts.namespaceDeclaration = some ⟨name, index⟩
  | .importation => name ∈ language.facts.importDeclarations
  | .body => name ∈ language.facts.bodyDeclarations
  | .extension => name ∈ extensionConstructors
  | .other => False

/-- The class of a declaration and the questions about it give the same answers. -/
structure Agrees (language : LanguageDescriptor) (declaration : Term) : Prop where
  base : language.isBaseDeclaration declaration = true <->
    language.classify declaration = .namespaceName ∨ language.classify declaration = .body
  class_iff : forall kind, kind ≠ .other ->
    (language.classify declaration = kind <-> language.isOf declaration kind = true)

variable {language : LanguageDescriptor} {declaration : Term} {kind second : DeclarationClass}

/-- The question for a class looks at the constructors that are listed for it. -/
theorem isOf_iff : language.isOf declaration kind = true <->
    exists name children, declaration = .appl name children ∧ language.Lists name kind := by
  cases kind with
  | namespaceName =>
    unfold isOf isNamespaceDeclaration Lists
    cases found : language.facts.namespaceDeclaration with
    | none => simp
    | some argument =>
      rcases argument with ⟨constructor, index⟩
      simp only [Term.isApplicationOf_iff, Option.some.injEq, ConstructorArgument.mk.injEq]
      grind
  | importation =>
    unfold isOf isImportDeclaration Lists
    cases declaration <;> simp [Term.constructor?]
  | body =>
    unfold isOf isBodyDeclaration Lists
    cases declaration <;> simp [Term.constructor?]
  | extension =>
    unfold isOf isExtensionDeclaration Lists
    simp only [List.any_eq_true, Term.isApplicationOf_iff]
    grind
  | other => simp [isOf, Lists]

/-- A declaration has the first class whose question is answered with yes. -/
theorem classify_eq_iff : language.classify declaration = kind <->
    (kind = .other ∨ language.isOf declaration kind = true) ∧
      forall earlier, earlier ∈ kind.before -> language.isOf declaration earlier = false := by
  unfold classify
  cases inNamespace : language.isNamespaceDeclaration declaration <;>
  cases isImport : language.isImportDeclaration declaration <;>
  cases isBody : language.isBodyDeclaration declaration <;>
  cases isExtension : language.isExtensionDeclaration declaration <;>
  cases kind <;>
  simp [DeclarationClass.before, isOf, inNamespace, isImport, isBody, isExtension]

/-- The class and the questions agree exactly if not more than one question is answered with
yes. -/
theorem agrees_iff : language.Agrees declaration <-> forall kind second,
    language.isOf declaration kind = true -> language.isOf declaration second = true ->
      kind = second := by
  have notOther : forall kind, language.isOf declaration kind = true -> kind ≠ .other := by
    rintro _ holds rfl
    cases holds
  constructor
  · intro agrees kind second holds holdsSecond
    have isKind := (agrees.class_iff kind (notOther kind holds)).mpr holds
    have isSecond := (agrees.class_iff second (notOther second holdsSecond)).mpr holdsSecond
    exact isKind.symm.trans isSecond
  · intro single
    have class_iff : forall kind, kind ≠ .other ->
        (language.classify declaration = kind <-> language.isOf declaration kind = true) := by
      intro kind different
      rw [classify_eq_iff, or_iff_right different, and_iff_left_iff_imp]
      intro holds earlier among
      rw [← Bool.not_eq_true]
      intro holdsEarlier
      exact kind.not_mem_before (single earlier kind holdsEarlier holds ▸ among)
    refine ⟨?_, class_iff⟩
    rw [class_iff .namespaceName nofun, class_iff .body nofun]
    exact Bool.or_eq_true_iff

/-- What is passed through to the compiler of the base language is a namespace, a body, or
an import whose constructor is listed for bodies, too. -/
theorem isBaseDeclaration_iff : language.isBaseDeclaration declaration = true <->
    language.classify declaration = .namespaceName ∨ language.classify declaration = .body ∨
      language.classify declaration = .importation ∧
        language.isBodyDeclaration declaration = true := by
  simp only [classify_eq_iff, DeclarationClass.before]
  unfold isBaseDeclaration isOf
  cases language.isNamespaceDeclaration declaration <;>
  cases language.isImportDeclaration declaration <;>
  cases language.isBodyDeclaration declaration <;> simp

/-- A declaration has one class, the first one whose question is answered with yes.  The class and
the questions agree on it exactly if no other one is; otherwise an import may be passed through to
the compiler of the base language like a body.  They agree on every declaration exactly if no
constructor is listed for two classes. -/
theorem classify_takes_first (language : LanguageDescriptor) :
    (forall declaration kind, language.classify declaration = kind <->
      (kind = .other ∨ language.isOf declaration kind = true) ∧
        forall earlier, earlier ∈ kind.before -> language.isOf declaration earlier = false) ∧
    (forall declaration, language.isBaseDeclaration declaration = true <->
      language.classify declaration = .namespaceName ∨ language.classify declaration = .body ∨
        language.classify declaration = .importation ∧
          language.isBodyDeclaration declaration = true) ∧
    (forall declaration, language.Agrees declaration <-> forall kind second,
      language.isOf declaration kind = true -> language.isOf declaration second = true ->
        kind = second) ∧
    ((forall declaration, language.Agrees declaration) <-> forall name kind second,
      language.Lists name kind -> language.Lists name second -> kind = second) := by
  refine ⟨fun _ _ => classify_eq_iff, fun _ => isBaseDeclaration_iff, fun _ => agrees_iff, ?_⟩
  constructor
  · intro agree name kind second listed listedSecond
    exact agrees_iff.mp (agree (.appl name [])) kind second
      (isOf_iff.mpr ⟨name, [], rfl, listed⟩) (isOf_iff.mpr ⟨name, [], rfl, listedSecond⟩)
  · intro single declaration
    refine agrees_iff.mpr fun kind second holds holdsSecond => ?_
    rcases isOf_iff.mp holds with ⟨name, children, rfl, listed⟩
    rcases isOf_iff.mp holdsSecond with ⟨_, _, same, listedSecond⟩
    cases same
    exact single name kind second listed listedSecond

/-- The facts of a definition that lists one constructor for imports and for bodies. -/
def overlappingFacts : LanguageFacts where
  bodyDeclarations := (∅ : Std.ExtTreeSet String).insert "Use"
  importDeclarations := (∅ : Positions).insert "Use" 0

theorem decode_overlapping : (decode "x" (.appl "Module" [.str "x", .known
    [declarationOf "x" .bodyDeclarations (wrapped (.appl "List" [.known [quotedPart "Use"]])),
      declarationOf "x" .importDeclarations
        (wrapped (.appl "List" [.known [argumentPart ⟨"Use", 0⟩]]))]])).1 =
      .ok overlappingFacts := by
  decide +kernel

/-- The class and the questions do not always agree, even on a declaration of a language whose facts
have been decoded. -/
theorem not_forall_agrees :
    ¬ forall language : LanguageDescriptor,
      (exists lead module, (decode lead module).1 = .ok language.facts) ->
        forall declaration, language.Agrees declaration := by
  intro always
  have agrees := always
    ⟨"x", overlappingFacts, .flat, .inDirectory ⟨"bin"⟩ "x" {}⟩ ⟨_, _, decode_overlapping⟩
    (.appl "Use" [])
  have isBody := (agrees.class_iff .body nofun).mpr (by decide +kernel)
  revert isBody
  decide +kernel

end LanguageDescriptor
end BaseLanguage
