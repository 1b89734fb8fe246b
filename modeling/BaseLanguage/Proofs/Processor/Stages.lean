import BaseLanguage.Proofs.Processor.Artifacts

namespace BaseLanguage

/-!
# The stages of a run

A run consists of some twenty stages in a row.  Each asks one tool, works on one file or folder, or
computes; what it needs from earlier stages is in a draft.  Processing a definition is carrying out
such a row, and which row it is depends only on whether the artifacts are made anew.  So either all
stages pass, or the first stage that fails is the last that is begun.
-/

open FileTree

variable {σ α β : Type}

/-! ## Rows of stages -/

/-- The ways in which a run asks its tools. -/
inductive ToolUse where
  | bootstrap
  | parse (input : Path)
  | print (dialect : Dialect)
  | normalise
  | generateTable
  deriving DecidableEq

/-- What a run does one after the other. -/
inductive Stage where
  | readTimes
  | openFolder
  | bootstrap
  | parse (dialect : Dialect)
  | decode
  | replaceImports
  | print (dialect : Dialect)
  | write (kind : ArtifactKind)
  | findToplevel
  | rewriteGrammar
  | normalise
  | readGrammar
  | generateTable
  | seed (source : Path × String)
  deriving DecidableEq

/-- What a run has found out. -/
structure Draft where
  /-- The rule module or the grammar, whichever is worked on. -/
  term : Term := .list [] none
  facts : LanguageFacts := {}
  nonterminal : String := ""
  text : String := ""
  table : ByteArray := ByteArray.empty

/-- What is written to an artifact. -/
def Draft.content (draft : Draft) (language : String) : ArtifactKind -> ByteArray
  | .rules => Text.toBytes draft.text
  | .grammar => Text.toBytes draft.text
  | .packagedGrammar => Text.toBytes (Processor.packaged draft.text)
  | .ppTable => draft.table
  | .editorServices => Text.toBytes (Processor.editorServices language)

namespace Stage

/-- The artifact that is written in a dialect. -/
def artifact : Dialect -> ArtifactKind
  | .grammar => .grammar
  | .rules => .rules

/-- How a stage asks a tool, if it does. -/
def use? (job : Job) : Stage -> Option ToolUse
  | bootstrap => some .bootstrap
  | parse dialect => some (.parse (job.artifact (artifact dialect)))
  | print dialect => some (.print dialect)
  | normalise => some .normalise
  | generateTable => some .generateTable
  | _ => none

/-- Whether a stage does nothing to files. -/
def isReading : Stage -> Bool
  | openFolder | bootstrap | write _ | seed _ => false
  | _ => true

/-- The artifacts that a stage may write. -/
def written : Stage -> List ArtifactKind
  | bootstrap => [.grammar, .rules]
  | write kind => [kind]
  | _ => []

/-- The stages in which the artifacts are made anew, up to the editor services. -/
def making : List Stage :=
  [openFolder, bootstrap, parse .rules, decode, replaceImports, print .rules, write .rules,
    findToplevel, parse .grammar, rewriteGrammar, normalise, print .grammar, write .grammar,
    readGrammar, write .packagedGrammar, generateTable, write .ppTable]

/-- The stages in which the facts are decoded again. -/
def reloading : List Stage :=
  [parse .rules, decode]

/-- The stages in which the shared modules are put in place, at the end of every run. -/
def seeding : List Stage :=
  openFolder :: Seeding.sources.map seed

/-- The stages before all others in a run, which may be told to make the artifacts anew. -/
def lead (forced : Bool) : List Stage :=
  if forced then [] else [readTimes]

/-- The stages of a run, which may be told to make the artifacts anew, and may make them anew. -/
def row (forced anew : Bool) : List Stage :=
  lead forced ++
    ((if anew then making ++ [write .editorServices] else reloading) ++ seeding)

/-- Whether a stage does no more than compute. -/
def isComputing : Stage -> Bool
  | decode | replaceImports | rewriteGrammar => true
  | _ => false

/-- Whether a stage does not come before the editor services are written. -/
def isLate : Stage -> Bool
  | write .editorServices | seed _ => true
  | _ => false

theorem isLate_of_written {stage : Stage} (services : .editorServices ∈ stage.written) :
    stage.isLate = true := by
  cases stage with
  | bootstrap => exact absurd services (by decide)
  | write kind =>
    rw [← List.mem_singleton.mp services]
    rfl
  | _ => cases services

/-- The editor services are written behind all that makes the other artifacts. -/
theorem row_eq_append (forced : Bool) :
    row forced true = (lead forced ++ making) ++ write .editorServices :: seeding := by
  cases forced <;> rfl

theorem isLate_of_mem {forced : Bool} {stage : Stage} (member : stage ∈ lead forced ++ making) :
    stage.isLate = false := by
  cases forced <;> revert stage <;> decide

/-- Some of the stages of a run that makes the artifacts anew either lie before the one that writes
the editor services, or contain that one and all before it. -/
theorem early_or_behind {forced : Bool} {passed more : List Stage} {stage : Stage}
    (planned : row forced true = passed ++ stage :: more) :
    (forall other, other ∈ passed ++ [stage] -> other.isLate = false) ∨
      write .editorServices ∈ passed ++ [stage] ∧
        exists behind, passed = (lead forced ++ making) ++ behind := by
  have begun : passed ++ [stage] <+: row forced true :=
    ⟨more, by rw [planned, List.append_assoc, List.singleton_append]⟩
  have early : lead forced ++ making <+: row forced true := ⟨_, (row_eq_append forced).symm⟩
  rcases List.prefix_or_prefix_of_prefix begun early with within | beyond
  · exact Or.inl fun other member => isLate_of_mem (within.subset member)
  · rcases List.prefix_concat_iff.mp beyond with same | ⟨behind, same⟩
    · exact Or.inl fun other member => isLate_of_mem (same ▸ member)
    · refine Or.inr ⟨?_, behind, same.symm⟩
      rw [row_eq_append, ← same, List.append_assoc (lead forced ++ making) behind] at planned
      have rest := List.append_cancel_left planned
      cases behind with
      | nil =>
        rw [(List.cons.inj rest).1]
        exact List.mem_append_right _ List.mem_cons_self
      | cons first others =>
        rw [← same, (List.cons.inj rest).1]
        simp

theorem not_mem_row_false (forced : Bool) : write .editorServices ∉ row forced false := by
  cases forced <;> decide

/-- The tools are asked in this order. -/
theorem uses_row (job : Job) (forced anew : Bool) :
    (row forced anew).filterMap (use? job) =
      if anew then
        [.bootstrap, .parse (job.artifact .rules), .print .rules, .parse (job.artifact .grammar),
          .normalise, .print .grammar, .generateTable]
      else [.parse (job.artifact .rules)] := by
  cases forced <;> cases anew <;> rfl

end Stage

namespace Processor

open Step

variable {processor : Processor σ} {job : Job} {world middle last : World σ}
  {draft between after : Draft} {stage : Stage} {stages more : List Stage} {error : BuildError}

/-- Carries out a stage. -/
def perform (processor : Processor σ) (job : Job) (draft : Draft) : Stage -> Step σ Draft
  | .readTimes => do
      let _ ← isFresh job
      return draft
  | .openFolder => do
      filing (.create job.directory) (createFolders job.directory)
      return draft
  | .bootstrap => do
      processor.bootstrap job
      return draft
  | .parse dialect => do
      let term ← processor.parse dialect (job.artifact (Stage.artifact dialect))
      return { draft with term }
  | .decode => do
      let facts ← processor.decodeFacts job draft.term
      return { draft with facts }
  | .replaceImports => do
      let term ← rewritten (Rewriting.replaceRuleImports draft.term)
      return { draft with term }
  | .print dialect => do
      let text ← processor.prettyPrint dialect draft.term (job.artifact (Stage.artifact dialect))
      return { draft with text }
  | .write kind => do
      Step.write (job.artifact kind) (draft.content job.language kind)
      return draft
  | .findToplevel =>
    match draft.facts.toplevelNonterminal with
    | some nonterminal => return { draft with nonterminal }
    | none => throw (processor.noToplevel job)
  | .rewriteGrammar => do
      let term ← rewritten (Rewriting.rewriteGrammar job.language draft.nonterminal draft.term)
      return { draft with term }
  | .normalise => do
      let term ← Step.tool (.normalise job.language)
        (processor.toolchain.normalizeGrammar draft.term)
      return { draft with term }
  | .readGrammar => do
      let text ← Step.readText (job.artifact .grammar)
      return { draft with text }
  | .generateTable => do
      let table ← Step.tool (.generateTable job.language)
        (processor.toolchain.generatePpTable draft.term)
      return { draft with table }
  | .seed source => do
      filing (.seed job.directory) (Seeding.seedOne job.directory source)
      return draft

/-- Carries out stages one after the other. -/
def carryOut (processor : Processor σ) (job : Job) (stages : List Stage) (draft : Draft) :
    Step σ Draft :=
  stages.foldlM (processor.perform job) draft

/-! ## A run carries out its stages -/

/-- Work on files that goes in two steps is two steps of a run. -/
theorem filing_bind (action : Action) (first : Filing α) (next : α -> Filing β) :
    (filing action (first >>= next) : Step σ β) =
      filing action first >>= fun value => filing action (next value) := by
  funext world
  change ending (filing action (first >>= next)) world =
    ending (filing action first >>= fun value => filing action (next value)) world
  rw [ending_filing, ending_bind, ending_bind, ending_filing]
  rcases ending first world.files with ⟨outcome, files⟩
  cases outcome with
  | error fault => rfl
  | ok value => exact (ending_filing action (next value) { world with files }).symm

theorem seedAll_eq_carryOut (sources : List (Path × String)) (draft : Draft) :
    (filing (.seed job.directory) (sources.forM (Seeding.seedOne job.directory)) >>=
        fun _ => pure draft : Step σ Draft) =
      processor.carryOut job (sources.map .seed) draft := by
  unfold carryOut
  induction sources with
  | nil => rfl
  | cons source more inductionHypothesis =>
    have seeds : (source :: more).forM (Seeding.seedOne job.directory) =
        Seeding.seedOne job.directory source >>= fun _ =>
          more.forM (Seeding.seedOne job.directory) := rfl
    rw [seeds, filing_bind, bind_assoc, inductionHypothesis, List.map_cons, List.foldlM_cons]
    simp only [perform, bind_assoc, pure_bind]

theorem seed_eq_carryOut (draft : Draft) :
    (seed job >>= fun _ => pure draft : Step σ Draft) =
      processor.carryOut job Stage.seeding draft := by
  have sources : _ = processor.carryOut job _ draft := seedAll_eq_carryOut Seeding.sources draft
  unfold carryOut at sources
  simp only [seed, carryOut, Stage.seeding, List.foldlM_cons, perform, bind_assoc, pure_bind]
  exact bind_congr fun _ => sources

theorem reloadFacts_eq_carryOut :
    processor.reloadFacts job =
      Draft.facts <$> processor.carryOut job Stage.reloading {} := by
  simp only [reloadFacts, carryOut, Stage.reloading, List.foldlM_cons, List.foldlM_nil, perform,
    bind_assoc, pure_bind, map_eq_pure_bind, bind_pure]
  rfl

theorem regenerate_eq_carryOut :
    processor.regenerate job =
      Draft.facts <$> processor.carryOut job (Stage.making ++ [.write .editorServices]) {} := by
  simp only [regenerate, processRules, carryOut, Stage.making, List.cons_append, List.nil_append,
    List.foldlM_cons, List.foldlM_nil, perform, bind_assoc, pure_bind, map_eq_pure_bind]
  refine bind_congr fun _ => bind_congr fun _ => bind_congr fun _ => bind_congr fun facts => ?_
  refine bind_congr fun _ => bind_congr fun _ => bind_congr fun _ => ?_
  unfold processGrammar
  cases facts.toplevelNonterminal with
  | none => rfl
  | some nonterminal => simp only [bind_assoc, pure_bind]; rfl

/-- Stages succeed one after the other, and each goes on with the draft and the world that the one
before it left. -/
inductive Passes (processor : Processor σ) (job : Job) :
    List Stage -> Draft -> World σ -> Draft -> World σ -> Prop
  | none (draft : Draft) (world : World σ) : Passes processor job [] draft world draft world
  | some {stage : Stage} {more : List Stage} {draft between after : Draft}
      {world middle last : World σ}
      (performed : ending (processor.perform job draft stage) world = (.ok between, middle))
      (rest : Passes processor job more between middle after last) :
      Passes processor job (stage :: more) draft world after last

theorem passes_append_iff {early late : List Stage} :
    processor.Passes job (early ++ late) draft world after last <->
      exists between middle, processor.Passes job early draft world between middle ∧
        processor.Passes job late between middle after last := by
  induction early generalizing draft world with
  | nil =>
    constructor
    · intro passes
      exact ⟨draft, world, .none draft world, passes⟩
    · rintro ⟨_, _, ⟨⟩, passes⟩
      exact passes
  | cons stage more inductionHypothesis =>
    constructor
    · rintro (_ | ⟨performed, rest⟩)
      rcases inductionHypothesis.mp rest with ⟨between, middle, first, second⟩
      exact ⟨between, middle, .some performed first, second⟩
    · rintro ⟨between, middle, ⟨⟩ | ⟨performed, first⟩, second⟩
      exact .some performed (inductionHypothesis.mpr ⟨between, middle, first, second⟩)

/-- How carrying out stages ends: either all of them pass, or the first that fails is the last that
is begun, and nothing comes after it. -/
inductive CarriedOut (processor : Processor σ) (job : Job) (stages : List Stage) (draft : Draft)
    (world : World σ) : Except BuildError Draft -> World σ -> Prop
  | completed {after : Draft} {last : World σ}
      (passes : processor.Passes job stages draft world after last) :
      CarriedOut processor job stages draft world (.ok after) last
  | stopped {passed more : List Stage} {stage : Stage} {between : Draft} {middle last : World σ}
      {error : BuildError} (planned : stages = passed ++ stage :: more)
      (passes : processor.Passes job passed draft world between middle)
      (failed : ending (processor.perform job between stage) middle = (.error error, last)) :
      CarriedOut processor job stages draft world (.error error) last

theorem carriedOut (stages : List Stage) (draft : Draft) (world : World σ) :
    processor.CarriedOut job stages draft world
      (ending (processor.carryOut job stages draft) world).1
      (ending (processor.carryOut job stages draft) world).2 := by
  unfold carryOut
  induction stages generalizing draft world with
  | nil => exact .completed (.none draft world)
  | cons stage more inductionHypothesis =>
    rw [List.foldlM_cons, ending_bind]
    rcases performed : ending (processor.perform job draft stage) world with ⟨outcome, middle⟩
    cases outcome with
    | error error => exact .stopped rfl (.none draft world) performed
    | ok between =>
      dsimp only
      have later := inductionHypothesis between middle
      revert later
      generalize (ending (more.foldlM (processor.perform job) between) middle).1 = result
      generalize (ending (more.foldlM (processor.perform job) between) middle).2 = last
      intro later
      cases later with
      | completed passes => exact .completed (.some performed passes)
      | stopped planned passes failed =>
        exact .stopped (by rw [planned, List.cons_append]) (.some performed passes) failed

/-- What a run that has found out the facts ends with. -/
def conclude (processor : Processor σ) (job : Job) (status : BuildStatus) (draft : Draft) :
    Step σ ProcessOutcome := do
  Step.warn (processor.describe job draft.facts).warnings
  return ⟨processor.describe job draft.facts, status⟩

theorem carryOut_append (early late : List Stage) (draft : Draft) :
    processor.carryOut job (early ++ late) draft =
      processor.carryOut job early draft >>= processor.carryOut job late :=
  List.foldlM_append

/-- Behind the facts, a run puts the shared modules in place. -/
theorem runJob_eq_of_refresh {work : Step σ LanguageFacts} (status : BuildStatus)
    (carried : work = Draft.facts <$> processor.carryOut job stages {}) :
    (do
      let (facts, status) ← (do return (← work, status) : Step σ (LanguageFacts × BuildStatus))
      seed job
      Step.warn (processor.describe job facts).warnings
      return ⟨processor.describe job facts, status⟩ : Step σ ProcessOutcome) =
      processor.carryOut job (stages ++ Stage.seeding) {} >>=
        processor.conclude job status := by
  rw [carryOut_append, carried]
  simp only [map_eq_pure_bind, bind_assoc, pure_bind, ← seed_eq_carryOut, conclude]

theorem ending_perform_readTimes (draft : Draft) (world : World σ) :
    ending (processor.perform job draft .readTimes) world =
      match Freshness.artifactsFresh world.files job.definition job.artifacts with
      | .ok _ => (.ok draft, world)
      | .error fault => (.error (.outside (.readTime job.definition) (.file fault)), world) := by
  unfold perform
  rw [ending_bind, ending_isFresh]
  cases Freshness.artifactsFresh world.files job.definition job.artifacts <;> rfl

/-- A run carries out a row of stages, and only adds to the warnings then. -/
theorem ending_runJob {anew : Bool} (told : anew = true <-> processor.Regenerates job world.files) :
    ending (processor.runJob job) world =
      ending (processor.carryOut job (Stage.row processor.force anew) {} >>=
        processor.conclude job (if anew then .regenerated else .upToDate)) world := by
  have making := runJob_eq_of_refresh .regenerated
    (regenerate_eq_carryOut : processor.regenerate job = _)
  have reloading := runJob_eq_of_refresh .upToDate
    (reloadFacts_eq_carryOut : processor.reloadFacts job = _)
  unfold runJob refresh Stage.row Stage.lead
  cases forced : processor.force with
  | true =>
    rw [told.mpr (Or.inl forced)]
    exact congrArg (ending · world) making
  | false =>
    simp only [Bool.false_eq_true, if_false, List.singleton_append]
    rw [bind_assoc, ending_bind, ending_isFresh, carryOut, List.foldlM_cons, bind_assoc,
      ending_bind, ending_perform_readTimes]
    cases fresh : Freshness.artifactsFresh world.files job.definition job.artifacts with
    | error fault => rfl
    | ok answer =>
      cases answer with
      | false =>
        rw [told.mpr (Or.inr fresh)]
        exact congrArg (ending · world) making
      | true =>
        have kept : anew = false := by
          rw [← Bool.not_eq_true, told]
          rintro (isForced | stale)
          · rw [forced] at isForced
            cases isForced
          · rw [fresh] at stale
            cases stale
        rw [kept]
        exact congrArg (ending · world) reloading

end Processor
end BaseLanguage
