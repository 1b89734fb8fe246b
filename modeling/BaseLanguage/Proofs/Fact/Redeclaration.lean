import BaseLanguage.Proofs.Fact.Interleaving
import Mathlib.Data.List.Induction

namespace BaseLanguage

/-!
# Imports that are declared again

The imports of a module may be spread over any number of declarations, and in each of them over the
cells of a chain.  Together they are one row of arguments, chain after chain in the order of the
declarations.  `ListsArguments` says which row that is.  A constructor may come back in it any
number of times.

Decoding keeps for each constructor the index that comes last in the row.  It warns of every
argument whose constructor has come before, with the index that stood until then and the one that
replaces it.  So no index is lost in silence: an argument of the row is the first one for its
constructor, or it has a warning of its own.
-/

/-! ## Rows of arguments -/

/-- The arguments that a row of right-hand sides lists, in the order of the row and inside each
chain in the order of the chain. -/
inductive ListsArguments : List Term -> List ConstructorArgument -> Prop where
  | none : ListsArguments [] []
  | chain {rhs built : Term} {rows : List (List Term)} {elems more : List Term}
      {arguments others : List ConstructorArgument} (builds : rhs.child 0 = .ok built)
      (cells : Cells built rows elems)
      (said : (firstsOf rows elems).mapM argumentElement = .ok arguments)
      (further : ListsArguments more others) : ListsArguments (rhs :: more) (arguments ++ others)

/-- The index of the last argument for a constructor. -/
def latestIndex? (arguments : List ConstructorArgument) (constructor : String) : Option Nat :=
  (arguments.filter fun argument => argument.constructor = constructor).getLast?.map
    ConstructorArgument.index

/-- The warning of an argument behind others, if its constructor is among theirs. -/
def redeclaration? (earlier : List ConstructorArgument) (argument : ConstructorArgument) :
    Option Warning :=
  (latestIndex? earlier argument.constructor).map fun previous =>
    .importRedeclared argument.constructor previous argument.index

/-- The warnings of a row: one for each argument whose constructor has come before, in order. -/
def redeclarations (arguments : List ConstructorArgument) : List Warning :=
  arguments.zipIdx.filterMap fun (argument, place) =>
    redeclaration? (arguments.take place) argument

theorem latestIndex?_concat (front : List ConstructorArgument) (last : ConstructorArgument)
    (constructor : String) :
    latestIndex? (front ++ [last]) constructor =
      if last.constructor = constructor then some last.index
      else latestIndex? front constructor := by
  unfold latestIndex?
  by_cases same : last.constructor = constructor <;> simp [same]

theorem redeclarations_concat (front : List ConstructorArgument) (last : ConstructorArgument) :
    redeclarations (front ++ [last]) =
      redeclarations front ++ (redeclaration? front last).toList := by
  have early : forall entry, entry ∈ front.zipIdx ->
      redeclaration? ((front ++ [last]).take entry.2) entry.1 =
        redeclaration? (front.take entry.2) entry.1 := by
    rintro ⟨argument, place⟩ among
    have inside : place < front.length := by
      have found := List.mem_zipIdx among
      omega
    rw [List.take_append_of_le_length (Nat.le_of_lt inside)]
  unfold redeclarations
  rw [List.zipIdx_append, List.filterMap_append, List.filterMap_congr early]
  cases warned : redeclaration? front last <;> simp [warned]

/-! ## Taking in a row -/

namespace Decoding

/-- What has been collected reflects a row of arguments. -/
structure Reflects (arguments : List ConstructorArgument) (state : Decoding) : Prop where
  index : forall constructor,
    state.facts.importDeclarations[constructor]? = latestIndex? arguments constructor
  warnings : state.warnings = redeclarations arguments
  /-- Every argument is the first for its constructor or has a warning. -/
  count : state.warnings.length + state.facts.importDeclarations.size = arguments.length

theorem reflects_nil : Reflects [] {} where
  index := fun _ => rfl
  warnings := rfl
  count := rfl

/-- One more argument is taken in. -/
theorem Reflects.withImport {front : List ConstructorArgument} {state : Decoding}
    (reflects : Reflects front state) (last : ConstructorArgument) :
    Reflects (front ++ [last]) (state.withImport last) := by
  have known := reflects.index last.constructor
  have warned : (state.withImport last).warnings =
      state.warnings ++ (redeclaration? front last).toList := by
    unfold Decoding.withImport redeclaration?
    dsimp only
    rw [known]
    cases latestIndex? front last.constructor <;> simp
  refine { index := fun constructor => ?_, warnings := ?_, count := ?_ }
  · unfold Decoding.withImport
    rw [latestIndex?_concat, Std.ExtTreeMap.getElem?_insert, reflects.index]
    simp only [Std.LawfulEqCmp.compare_eq_iff_eq]
  · rw [warned, reflects.warnings, redeclarations_concat]
  · have total := reflects.count
    have told : (redeclaration? front last).toList.length =
        if state.facts.importDeclarations.contains last.constructor then 1 else 0 := by
      rw [redeclaration?, Std.ExtTreeMap.contains_eq_isSome_getElem?, known]
      cases latestIndex? front last.constructor <;> rfl
    rw [warned, List.length_append, List.length_append, List.length_singleton, told]
    unfold Decoding.withImport
    rw [Std.ExtTreeMap.size_insert]
    split <;> omega

/-- A row of arguments is taken in, one after the other. -/
theorem reflects_foldl (arguments : List ConstructorArgument) :
    Reflects arguments (arguments.foldl Decoding.withImport {}) := by
  induction arguments using List.reverseRecOn with
  | nil => exact reflects_nil
  | append_singleton front last inductionHypothesis =>
    rw [List.foldl_concat]
    exact inductionHypothesis.withImport last

end Decoding

/-- Right-hand sides that can be read list a row of arguments, and taking them in is taking in this
row. -/
theorem exists_listsArguments {sides : List Term}
    (readable : forall rhs, rhs ∈ sides ->
      exists change, Decoding.reading .importDeclarations rhs = .ok change) :
    exists arguments, ListsArguments sides arguments ∧ forall state : Decoding,
      sides.foldl (Decoding.take .importDeclarations) state =
        arguments.foldl Decoding.withImport state := by
  induction sides with
  | nil => exact ⟨[], .none, fun _ => rfl⟩
  | cons rhs more inductionHypothesis =>
    rcases inductionHypothesis (fun other among => readable other (by simp [among])) with
      ⟨others, further, takenLater⟩
    rcases readable rhs (by simp) with ⟨change, reads⟩
    rcases bind_eq_ok_iff.mp reads with ⟨arguments, row, same⟩
    rcases bind_eq_ok_iff.mp row with ⟨built, builds, chain⟩
    rcases readChain_eq_ok_iff.mp chain with ⟨sound, said⟩
    rcases Chain.cells_of_ofTerm built sound with ⟨rows, elems, cells, visitable⟩
    rw [Chain.ofTerm_of_cells cells visitable] at said
    refine ⟨arguments ++ others, .chain (mapError_eq_ok_iff.mp builds) cells said further, ?_⟩
    intro state
    have first : Decoding.take .importDeclarations state rhs =
        arguments.foldl Decoding.withImport state := by
      unfold Decoding.take
      rw [reads]
      cases same
      rfl
    rw [List.foldl_cons, first, takenLater, List.foldl_append]

/-! ## Decoding -/

/-- Where a constructor is imported more than once, the later index counts and the loss of the
earlier one is told.  What is decoded has the last index of each constructor that is imported, and
nothing for any other; and the warnings are one for each argument whose constructor has come
before, in order.  So arguments are as many as warnings and constructors together. -/
theorem imports_of_decode {lead : String} {module : Term} {facts : LanguageFacts}
    {warnings : List Warning} (decoded : decode lead module = (.ok facts, warnings)) :
    exists declarations arguments, declarationsOf module = .ok declarations ∧
      ListsArguments (rightHandSides lead .importDeclarations declarations) arguments ∧
      (forall constructor,
        facts.importDeclarations[constructor]? = latestIndex? arguments constructor) ∧
      warnings = redeclarations arguments ∧
      warnings.length + facts.importDeclarations.size = arguments.length := by
  cases found : declarationsOf module with
  | error shape =>
    have failed := (decode_eq_module_error_iff lead module shape).mpr found
    rw [decoded] at failed
    cases failed
  | ok declarations =>
    have sound := (exists_decode_iff_isSound found).mp ⟨facts, by rw [decoded]⟩
    rcases exists_listsArguments (fun rhs => reading_of_isSound sound) with
      ⟨arguments, lists, taken⟩
    have alone := agreeOn_foldl_taking lead .importDeclarations declarations (.refl {} _)
    rw [taken] at alone
    have reflects := Decoding.reflects_foldl arguments
    rw [decode_of_isSound found sound, Prod.mk.injEq, Except.ok.injEq] at decoded
    rcases decoded with ⟨rfl, rfl⟩
    refine ⟨declarations, arguments, rfl, lists, ?_⟩
    rw [alone.1, alone.2]
    exact ⟨reflects.index, reflects.warnings, reflects.count⟩

/-- One constructor in three declarations, once in the last cell of a longer chain. -/
def sampleRepetition : List Term :=
  [sampleImport 1,
    declarationOf "x" .importDeclarations
      (wrapped (.appl "ListTail" [.known [argumentPart ⟨"Use", 0⟩],
        wrapped (.appl "List" [.known [argumentPart ⟨"Import", 2⟩]])])),
    sampleImport 1]

/-- Four arguments leave two constructors and two warnings. -/
theorem imports_of_decode_sampleRepetition :
    exists facts warnings,
      decode "x" (.appl "Module" [.str "x", .known sampleRepetition]) = (.ok facts, warnings) ∧
      warnings = [.importRedeclared "Import" 1 2, .importRedeclared "Import" 2 1] ∧
      exists declarations arguments,
        declarationsOf (.appl "Module" [.str "x", .known sampleRepetition]) = .ok declarations ∧
        ListsArguments (rightHandSides "x" .importDeclarations declarations) arguments ∧
        (forall constructor,
          facts.importDeclarations[constructor]? = latestIndex? arguments constructor) ∧
        warnings = redeclarations arguments ∧
        warnings.length + facts.importDeclarations.size = arguments.length := by
  have decoded : decode "x" (.appl "Module" [.str "x", .known sampleRepetition]) =
      (.ok { importDeclarations := ((∅ : Positions).insert "Import" 1).insert "Use" 0 },
        [.importRedeclared "Import" 1 2, .importRedeclared "Import" 2 1]) := by
    decide +kernel
  exact ⟨_, _, decoded, rfl, imports_of_decode decoded⟩

end BaseLanguage
