import BaseLanguage.Proofs.Processor.Completion
import BaseLanguage.Proofs.Processor.Stages

namespace BaseLanguage

/-!
# How a run ends

The first stage that fails ends a run, and how it fails decides the kind of the error.  The tools
that were asked are those of the stages that were begun.  The editor services come last of all that
is written, and no stage before them touches their file, as long as the artifacts are different
files and the bootstrap compiler writes nothing but its two outputs.
-/

open FileTree

variable {σ α β : Type}

/-! ## Tools that take notes -/

/-- The state of tools tells in which ways they were asked so far. -/
structure Toolchain.Notes (toolchain : Toolchain σ) (log : σ -> List ToolUse) : Prop where
  bootstrap : forall request (workshop : Workshop σ),
    log (ending (toolchain.bootstrap request) workshop).2.tools =
      log workshop.tools ++ [.bootstrap]
  parse : forall table input start (workshop : Workshop σ),
    log (ending (toolchain.parse table input start) workshop).2.tools =
      log workshop.tools ++ [.parse input]
  print : forall dialect term (workshop : Workshop σ),
    log (ending (toolchain.prettyPrint dialect term) workshop).2.tools =
      log workshop.tools ++ [.print dialect]
  normalise : forall grammar (workshop : Workshop σ),
    log (ending (toolchain.normalizeGrammar grammar) workshop).2.tools =
      log workshop.tools ++ [.normalise]
  generateTable : forall grammar (workshop : Workshop σ),
    log (ending (toolchain.generatePpTable grammar) workshop).2.tools =
      log workshop.tools ++ [.generateTable]

/-- Work with a tool, noted behind what was noted before. -/
def ToolWork.noted (use : ToolUse) (work : ToolWork σ α) : ToolWork (σ × List ToolUse) α :=
  ExceptT.mk fun workshop =>
    let (outcome, left) := ending work ⟨workshop.files, workshop.tools.1⟩
    (outcome, ⟨left.files, left.tools, workshop.tools.2 ++ [use]⟩)

/-- The same tools with a list of how they were asked. -/
def Toolchain.noting (toolchain : Toolchain σ) : Toolchain (σ × List ToolUse) where
  bootstrap request := (toolchain.bootstrap request).noted .bootstrap
  parse table input start := (toolchain.parse table input start).noted (.parse input)
  prettyPrint dialect term := (toolchain.prettyPrint dialect term).noted (.print dialect)
  normalizeGrammar grammar := (toolchain.normalizeGrammar grammar).noted .normalise
  generatePpTable grammar := (toolchain.generatePpTable grammar).noted .generateTable

theorem Toolchain.notes_noting (toolchain : Toolchain σ) : toolchain.noting.Notes Prod.snd where
  bootstrap := fun _ _ => rfl
  parse := fun _ _ _ _ => rfl
  print := fun _ _ _ => rfl
  normalise := fun _ _ => rfl
  generateTable := fun _ _ => rfl

/-! ## Tools that leave files alone -/

namespace FileTree

variable {tree after final : FileTree} {place : Location}

/-- A tree after any number of files were written that some paths lead to. -/
def WritesAmong (paths : List Path) : FileTree -> FileTree -> Prop :=
  Relation.ReflTransGen (fun tree after => exists path content, path ∈ paths ∧
    after = (ending (write path content) tree).2)

theorem WritesAmong.writes {paths : List Path} (among : WritesAmong paths tree after) :
    Writes tree after := by
  refine Relation.ReflTransGen.mono (fun tree after step => ?_) _ _ among
  rcases step with ⟨path, content, _, rfl⟩
  exact ⟨path, content, rfl⟩

theorem WritesAmong.spares {paths : List Path} {number : Nat} (formed : tree.Formed)
    (among : WritesAmong paths tree after) (follows : Follows after final)
    (numbered : final.number? place = some number)
    (apart : forall path, path ∈ paths -> ¬ final.LeadsTo path number) :
    Spares place tree after := by
  induction among with
  | refl => exact .refl place tree
  | @tail middle after before step inductionHypothesis =>
    rcases step with ⟨path, content, member, rfl⟩
    have formedMiddle := ((WritesAmong.writes before).grows formed).formed formed
    have followsMiddle := ((grows_write formedMiddle path content).follows formedMiddle).trans
      follows
    exact (inductionHypothesis followsMiddle).trans
      (spares_of_write formedMiddle follows numbered (apart path member) rfl)

end FileTree

namespace ToolWork

variable {paths : List Path}

/-- All that work with a tool does to files is to write some that these paths lead to. -/
def WritesOnly (paths : List Path) (work : ToolWork σ α) : Prop :=
  forall workshop : Workshop σ, WritesAmong paths workshop.files (ending work workshop).2.files

theorem LeavesFiles.writesOnly {work : ToolWork σ α} (leaves : LeavesFiles work) :
    WritesOnly paths work := by
  intro workshop
  rw [leaves workshop]
  exact Relation.ReflTransGen.refl

theorem WritesOnly.bind {first : ToolWork σ α} {next : α -> ToolWork σ β}
    (early : WritesOnly paths first) (later : forall value, WritesOnly paths (next value)) :
    WritesOnly paths (first >>= next) := by
  intro workshop
  refine after_bind
    (P := fun after : Workshop σ => FileTree.WritesAmong paths workshop.files after.files)
    (early workshop) fun value middle before => ?_
  exact before.trans (later value middle)

theorem writesOnly_write {path : Path} (member : path ∈ paths) (content : ByteArray) :
    WritesOnly paths (Workshop.withFiles (FileTree.write path content) : ToolWork σ Unit) :=
  fun workshop => Relation.ReflTransGen.single
    ⟨path, content, member, files_withFiles _ workshop⟩

end ToolWork

/-- Of all tools only the bootstrap compiler changes files, and only by writing its two outputs. -/
structure Toolchain.Tidy (toolchain : Toolchain σ) : Prop where
  bootstrap : forall request, ToolWork.WritesOnly [request.grammarOutput, request.rulesOutput]
    (toolchain.bootstrap request)
  parse : forall table input start, ToolWork.LeavesFiles (toolchain.parse table input start)
  prettyPrint : forall dialect term, ToolWork.LeavesFiles (toolchain.prettyPrint dialect term)
  normalizeGrammar : forall grammar, ToolWork.LeavesFiles (toolchain.normalizeGrammar grammar)
  generatePpTable : forall grammar, ToolWork.LeavesFiles (toolchain.generatePpTable grammar)

theorem ScriptedTools.tidy : toolchain.Tidy :=
  { confined with
    bootstrap := by
      intro request
      have generated (path : Path) (text : Option String)
          (member : path ∈ [request.grammarOutput, request.rulesOutput]) :
          ToolWork.WritesOnly [request.grammarOutput, request.rulesOutput]
            (writeGenerated path text) := by
        unfold writeGenerated
        split
        · exact ToolWork.writesOnly_write member _
        · exact (ToolWork.leavesFiles_pure _).writesOnly
      refine ToolWork.WritesOnly.bind (leavesFiles_enter _).writesOnly fun script => ?_
      refine ToolWork.WritesOnly.bind (generated _ _ (by simp)) fun _ => ?_
      exact ToolWork.WritesOnly.bind (generated _ _ (by simp)) fun _ =>
        (ToolWork.leavesFiles_pure _).writesOnly }

theorem Toolchain.Tidy.noting {toolchain : Toolchain σ} (tidy : toolchain.Tidy) :
    toolchain.noting.Tidy where
  bootstrap := fun request workshop => tidy.bootstrap request ⟨workshop.files, workshop.tools.1⟩
  parse := fun table input start workshop =>
    tidy.parse table input start ⟨workshop.files, workshop.tools.1⟩
  prettyPrint := fun dialect term workshop =>
    tidy.prettyPrint dialect term ⟨workshop.files, workshop.tools.1⟩
  normalizeGrammar := fun grammar workshop =>
    tidy.normalizeGrammar grammar ⟨workshop.files, workshop.tools.1⟩
  generatePpTable := fun grammar workshop =>
    tidy.generatePpTable grammar ⟨workshop.files, workshop.tools.1⟩

theorem Toolchain.Tidy.confined {toolchain : Toolchain σ} (tidy : toolchain.Tidy) :
    toolchain.Confined where
  bootstrap := fun request workshop => (tidy.bootstrap request workshop).writes
  parse := tidy.parse
  prettyPrint := tidy.prettyPrint
  normalizeGrammar := tidy.normalizeGrammar
  generatePpTable := tidy.generatePpTable

namespace Processor

open Step

variable {processor : Processor σ} {job : Job} {world middle last : World σ}
  {draft between after : Draft} {stage : Stage} {stages more : List Stage} {error : BuildError}

/-! ## Errors -/

theorem kind_of_filing {action : Action} {operation : Filing α}
    (ended : ending (filing action operation) world = (.error error, last)) :
    error.kind = .external := by
  rw [ending_filing] at ended
  split at ended <;> cases ended
  rfl

theorem kind_of_tool {action : Action} {work : ToolWork σ α}
    (ended : ending (Step.tool action work) world = (.error error, last)) :
    error.kind = .external := by
  rw [ending_tool] at ended
  split at ended <;> cases ended
  rfl

/-- Handing on what a step gives fails exactly as the step does. -/
theorem error_of_bind_pure {first : Step σ α} {next : α -> β}
    (ended : ending (first >>= fun value => pure (next value)) world = (.error error, last)) :
    ending first world = (.error error, last) := by
  rcases ending_bind_eq_error_iff.mp ended with failed | ⟨_, _, _, failed⟩
  · exact failed
  · cases failed

/-- The bootstrap compiler fails, or it reports what is wrong with the definition. -/
theorem of_bootstrap_error (ended : ending (processor.bootstrap job) world = (.error error, last)) :
    error.kind = .external ∨ exists report,
      ending (processor.toolchain.bootstrap (request processor.configuration job))
        world.toWorkshop = (.ok report, last.toWorkshop) ∧
      report.errors ≠ [] ∧ error = .definition job.language report.errors := by
  unfold bootstrap at ended
  rcases ending_bind_eq_error_iff.mp ended with failed | ⟨report, reported, ran, refused⟩
  · exact Or.inl (kind_of_tool failed)
  · refine Or.inr ⟨report, ?_⟩
    split at refused
    · cases refused
    · next unsuccessful =>
        cases refused
        refine ⟨tool_eq_ok ran, fun nothing => unsuccessful ?_, rfl⟩
        rw [BootstrapReport.isSuccess, nothing]
        rfl

/-- Something is wrong with the definition: a stage finds no toplevel nonterminal, or the bootstrap
compiler reports errors.  Then these are the errors of the run, in their order. -/
def DefinitionIsWrong (processor : Processor σ) (job : Job) (draft : Draft) (world : World σ)
    (stage : Stage) (error : BuildError) (last : World σ) : Prop :=
  (stage = .findToplevel ∧ draft.facts.toplevelNonterminal = none) ∨
    stage = .bootstrap ∧ exists report,
      ending (processor.toolchain.bootstrap (request processor.configuration job))
        world.toWorkshop = (.ok report, last.toWorkshop) ∧
      report.errors ≠ [] ∧ error = .definition job.language report.errors

/-- What is wrong with the definition is reported by the bootstrap compiler or seen where the
toplevel nonterminal is missing, a generated module has the wrong shape where it is decoded or
rewritten, and everything else is a failure outside. -/
theorem kind_of_perform
    (ended : ending (processor.perform job draft stage) world = (.error error, last)) :
    (error.kind = .definition <->
      processor.DefinitionIsWrong job draft world stage error last) ∧
    (error.kind = .internal <-> stage.isComputing = true) := by
  unfold DefinitionIsWrong
  cases stage with
  | readTimes =>
    rw [ending_perform_readTimes] at ended
    split at ended <;> cases ended
    simp [BuildError.kind, Stage.isComputing]
  | findToplevel =>
    rw [perform] at ended
    split at ended
    · cases ended
    · next missing =>
        cases ended
        simp [BuildError.kind, Stage.isComputing, noToplevel, missing]
  | decode =>
    have failed := error_of_bind_pure ended
    unfold decodeFacts at failed
    rcases ending_bind_eq_error_iff.mp failed with warned | ⟨_, _, _, thrown⟩
    · cases warned
    · split at thrown <;> cases thrown
      simp [BuildError.kind, Stage.isComputing]
  | replaceImports | rewriteGrammar =>
    have failed := error_of_bind_pure ended
    unfold rewritten at failed
    split at failed <;> cases failed
    simp [BuildError.kind, Stage.isComputing]
  | bootstrap =>
    rcases of_bootstrap_error (error_of_bind_pure ended) with external | ⟨report, reported⟩
    · rw [external]
      simp only [reduceCtorEq, false_and, true_and, false_or, false_iff, not_exists]
      refine ⟨?_, by simp [Stage.isComputing]⟩
      rintro report ⟨_, _, rfl⟩
      cases external
    · refine ⟨iff_of_true ?_ (Or.inr ⟨rfl, report, reported⟩), ?_⟩
      · rw [reported.2.2]
        rfl
      · rw [reported.2.2]
        simp [BuildError.kind, Stage.isComputing]
  | readGrammar =>
    have failed := error_of_bind_pure ended
    unfold Step.readText at failed
    rw [ending_bind, ending_get] at failed
    rw [kind_of_filing failed]
    simp [Stage.isComputing]
  | openFolder | seed | write =>
    rw [kind_of_filing (error_of_bind_pure ended)]
    simp [Stage.isComputing]
  | parse | print | normalise | generateTable =>
    rw [kind_of_tool (error_of_bind_pure ended)]
    simp [Stage.isComputing]

/-! ## Tools -/

/-- What does not change the world leaves it as the step before it did. -/
theorem world_bind {first : Step σ α} {next : α -> Step σ β}
    (still : forall value world, (ending (next value) world).2 = world) (world : World σ) :
    (ending (first >>= next) world).2 = (ending first world).2 := by
  rw [ending_bind]
  rcases ending first world with ⟨outcome, last⟩
  cases outcome with
  | ok value => exact still value last
  | error error => rfl

theorem world_bind_pure (first : Step σ α) (next : α -> β) (world : World σ) :
    (ending (first >>= fun value => pure (next value)) world).2 = (ending first world).2 :=
  world_bind (fun _ _ => rfl) world

theorem world_bootstrap (world : World σ) :
    (ending (processor.bootstrap job) world).2 =
      (ending (Step.tool (.compile job.definition)
        (processor.toolchain.bootstrap (request processor.configuration job))) world).2 := by
  refine world_bind (fun report world => ?_) world
  split <;> rfl

theorem tools_filing (action : Action) (operation : Filing α) (world : World σ) :
    (ending (filing action operation) world).2.tools = world.tools := by
  rw [ending_filing]
  split <;> rfl

theorem tools_tool (action : Action) (work : ToolWork σ α) (world : World σ) :
    (ending (Step.tool action work) world).2.tools = (ending work world.toWorkshop).2.tools := by
  rw [ending_tool]
  rcases ending work world.toWorkshop with ⟨outcome, workshop⟩
  cases outcome <;> rfl

/-- A stage asks the tool that it is there for, and no other. -/
theorem log_perform {log : σ -> List ToolUse} (notes : processor.toolchain.Notes log)
    (draft : Draft) (stage : Stage) (world : World σ) :
    log (ending (processor.perform job draft stage) world).2.tools =
      log world.tools ++ (stage.use? job).toList := by
  have idle : stage.use? job = none ->
      (ending (processor.perform job draft stage) world).2.tools = world.tools ->
        log (ending (processor.perform job draft stage) world).2.tools =
          log world.tools ++ (stage.use? job).toList := by
    intro unused same
    rw [unused, same, Option.toList_none, List.append_nil]
  cases stage with
  | readTimes =>
    refine idle rfl ?_
    rw [ending_perform_readTimes]
    split <;> rfl
  | findToplevel =>
    refine idle rfl ?_
    rw [perform]
    split <;> rfl
  | decode =>
    refine idle rfl ?_
    rw [perform, world_bind_pure, decodeFacts]
    rcases decode (processor.configuration.leadFor job.language) draft.term with ⟨outcome, _⟩
    cases outcome <;> rfl
  | replaceImports | rewriteGrammar =>
    refine idle rfl ?_
    rw [perform, world_bind_pure]
    unfold rewritten
    split <;> rfl
  | readGrammar =>
    refine idle rfl ?_
    rw [perform, world_bind_pure, Step.readText, ending_bind, ending_get]
    exact tools_filing _ _ world
  | openFolder | seed | write =>
    refine idle rfl ?_
    rw [perform, world_bind_pure]
    exact tools_filing _ _ world
  | bootstrap =>
    rw [perform, world_bind_pure, world_bootstrap, tools_tool]
    exact notes.bootstrap _ _
  | parse dialect =>
    rw [perform, world_bind_pure, Processor.parse, tools_tool]
    exact notes.parse _ _ _ _
  | print dialect =>
    rw [perform, world_bind_pure, prettyPrint, tools_tool]
    exact notes.print _ _ _
  | normalise =>
    rw [perform, world_bind_pure, tools_tool]
    exact notes.normalise _ _
  | generateTable =>
    rw [perform, world_bind_pure, tools_tool]
    exact notes.generateTable _ _

theorem log_of_passes {log : σ -> List ToolUse} (notes : processor.toolchain.Notes log)
    (passes : processor.Passes job stages draft world after last) :
    log last.tools = log world.tools ++ stages.filterMap (Stage.use? job) := by
  induction passes with
  | none => rw [List.filterMap_nil, List.append_nil]
  | @some stage more draft between after world middle last performed _ inductionHypothesis =>
    have noted : log (ending (processor.perform job draft stage) world).2.tools =
        log world.tools ++ (stage.use? job).toList := log_perform notes draft stage world
    rw [performed] at noted
    rw [inductionHypothesis, noted, List.append_assoc]
    cases used : stage.use? job <;> simp [used]

/-! ## Files -/

theorem reads_perform (orderly : processor.toolchain.Orderly) (draft : Draft)
    (reading : stage.isReading = true) : Reads (processor.perform job draft stage) := by
  cases stage with
  | openFolder | bootstrap | write | seed => cases reading
  | readTimes =>
    intro world
    rw [ending_perform_readTimes]
    split <;> rfl
  | findToplevel =>
    rw [perform]
    split
    · exact reads_pure _
    · exact reads_throw _
  | decode => exact Reads.bind (reads_decodeFacts _ _ _) fun _ => reads_pure _
  | replaceImports | rewriteGrammar => exact Reads.bind (reads_rewritten _) fun _ => reads_pure _
  | readGrammar => exact Reads.bind (reads_readText _) fun _ => reads_pure _
  | parse => exact Reads.bind (reads_parse orderly _ _) fun _ => reads_pure _
  | print => exact Reads.bind (reads_prettyPrint orderly _ _ _) fun _ => reads_pure _
  | normalise => exact Reads.bind (reads_normalise orderly _ _) fun _ => reads_pure _
  | generateTable => exact Reads.bind (reads_generatePpTable orderly _ _) fun _ => reads_pure _

theorem grows_perform (confined : processor.toolchain.Confined) (draft : Draft) (stage : Stage) :
    GrowsFiles (processor.perform job draft stage) := by
  cases reading : stage.isReading with
  | true => exact (reads_perform confined.orderly draft reading).grows
  | false =>
    cases stage with
    | openFolder =>
      exact GrowsFiles.bind (grows_createFolders _ _) fun _ => (reads_pure _).grows
    | bootstrap =>
      exact GrowsFiles.bind (grows_bootstrap confined job) fun _ => (reads_pure _).grows
    | write => exact GrowsFiles.bind (Step.grows_write _ _) fun _ => (reads_pure _).grows
    | seed =>
      refine GrowsFiles.bind (fun world formed => ?_) fun _ => (reads_pure _).grows
      rw [files_filing]
      exact Seeding.grows_seedOne formed _ _
    | _ => cases reading

theorem grows_of_passes (confined : processor.toolchain.Confined) (formed : world.files.Formed)
    (passes : processor.Passes job stages draft world after last) :
    Grows world.files last.files := by
  induction passes with
  | none => exact Relation.ReflTransGen.refl
  | @some stage _ draft _ _ world _ _ performed _ inductionHypothesis =>
    have grows : Grows world.files (ending (processor.perform job draft stage) world).2.files :=
      grows_perform confined draft stage world formed
    rw [performed] at grows
    exact grows.trans (inductionHypothesis (grows.formed formed))

section
variable {final : FileTree} {place : Location} {number : Nat}

/-- A stage neither puts a shared module in place nor writes an artifact whose path leads to the
file with a number. -/
def Avoids (job : Job) (final : FileTree) (number : Nat) (stage : Stage) : Prop :=
  (forall source, stage ≠ .seed source) ∧
    forall kind, kind ∈ stage.written -> ¬ final.LeadsTo (job.artifact kind) number

variable (tidy : processor.toolchain.Tidy) (formed : world.files.Formed)
  (numbered : final.number? place = some number)
include tidy formed numbered

/-- A stage that avoids a file does not touch it. -/
theorem spares_perform (avoids : Avoids job final number stage)
    (follows : Follows (ending (processor.perform job draft stage) world).2.files final) :
    Spares place world.files (ending (processor.perform job draft stage) world).2.files := by
  rcases avoids with ⟨notSeed, apart⟩
  cases reading : stage.isReading with
  | true =>
    rw [reads_perform tidy.confined.orderly draft reading world]
    exact .refl place _
  | false =>
    cases stage with
    | openFolder =>
      rw [perform, world_bind_pure, files_filing]
      exact (createFolders_outcome job.directory formed).gains.spares formed
    | bootstrap =>
      rw [perform, world_bind_pure, world_bootstrap, files_tool] at follows ⊢
      refine (tidy.bootstrap _ world.toWorkshop).spares formed follows numbered ?_
      intro path member
      rcases List.mem_pair.mp member with rfl | rfl
      · exact apart .grammar (by decide)
      · exact apart .rules (by decide)
    | write kind =>
      rw [perform, world_bind_pure, Step.write, files_filing] at follows ⊢
      exact spares_of_write formed follows numbered (apart kind List.mem_cons_self) rfl
    | seed source => exact absurd rfl (notSeed source)
    | _ => cases reading

theorem spares_of_passes (avoid : forall stage, stage ∈ stages -> Avoids job final number stage)
    (passes : processor.Passes job stages draft world after last)
    (follows : Follows last.files final) : Spares place world.files last.files := by
  induction passes with
  | none => exact .refl place _
  | @some stage _ draft _ _ world middle _ performed rest inductionHypothesis =>
    have grows : Grows world.files (ending (processor.perform job draft stage) world).2.files :=
      grows_perform tidy.confined draft stage world formed
    rw [performed] at grows
    have formedMiddle := grows.formed formed
    have followsMiddle := ((grows_of_passes tidy.confined formedMiddle rest).follows
      formedMiddle).trans follows
    have spares : Spares place world.files
        (ending (processor.perform job draft stage) world).2.files := by
      refine spares_perform tidy formed numbered (avoid stage List.mem_cons_self) ?_
      rw [performed]
      exact followsMiddle
    rw [performed] at spares
    exact spares.trans (inductionHypothesis formedMiddle
      (fun stage member => avoid stage (List.mem_cons_of_mem _ member)) follows)

/-- A file is not touched by stages that avoid it and of which the last one fails. -/
theorem spares_of_stopped {passed : List Stage}
    (avoid : forall other, other ∈ passed ++ [stage] -> Avoids job final number other)
    (passes : processor.Passes job passed draft world between middle)
    (failed : ending (processor.perform job between stage) middle = (.error error, last))
    (follows : Follows last.files final) : Spares place world.files last.files := by
  have formedMiddle := (grows_of_passes tidy.confined formed passes).formed formed
  have grows : Grows middle.files (ending (processor.perform job between stage) middle).2.files :=
    grows_perform tidy.confined between stage middle formedMiddle
  have second : Spares place middle.files
      (ending (processor.perform job between stage) middle).2.files := by
    refine spares_perform tidy formedMiddle numbered
      (avoid stage (List.mem_append_right _ List.mem_cons_self)) ?_
    rw [failed]
    exact follows
  rw [failed] at grows second
  exact (spares_of_passes tidy formed numbered
    (fun other member => avoid other (List.mem_append_left _ member)) passes
    ((grows.follows formedMiddle).trans follows)).trans second

end

/-! ## The account of a run -/

/-- How a run ends, seen from the stages that it has begun. -/
structure Account (processor : Processor σ) (job : Job) (anew : Bool) (begun : List Stage)
    (world : World σ) (result : Except BuildError ProcessOutcome) (after : World σ) : Prop where
  /-- The stages are begun in their order. -/
  inOrder : begun <+: Stage.row processor.force anew
  /-- If the run succeeds, then all stages have passed, and it leaves what they left. -/
  completed : forall outcome, result = .ok outcome ->
    begun = Stage.row processor.force anew ∧
      exists draft last, processor.Passes job begun {} world draft last ∧
        after.toWorkshop = last.toWorkshop
  /-- If it fails, then all stages but the last one that was begun have passed, and the run leaves
  what this one left and gives its error, whose kind tells which stage it was. -/
  stopped : forall error, result = .error error -> exists passed stage draft middle,
    begun = passed ++ [stage] ∧ processor.Passes job passed {} world draft middle ∧
      ending (processor.perform job draft stage) middle = (.error error, after) ∧
      (error.kind = .definition <->
        processor.DefinitionIsWrong job draft middle stage error after) ∧
      (error.kind = .internal <-> stage.isComputing = true)
  /-- The tools that were asked are those of the stages that were begun. -/
  asked : forall log, processor.toolchain.Notes log ->
    log after.tools = log world.tools ++ begun.filterMap (Stage.use? job)
  /-- The tools were asked in one order. -/
  uses : begun.filterMap (Stage.use? job) <+:
    if anew then
      [.bootstrap, .parse (job.artifact .rules), .print .rules, .parse (job.artifact .grammar),
        .normalise, .print .grammar, .generateTable]
    else [.parse (job.artifact .rules)]
  /-- The editor services are written only behind all that makes the other artifacts. -/
  services : Stage.write .editorServices ∈ begun -> anew = true ∧ exists draft middle,
    processor.Passes job (Stage.lead processor.force ++ Stage.making) {} world draft middle
  /-- A run that does not get there leaves their file, if the artifacts are different files. -/
  untouched : Stage.write .editorServices ∉ begun -> job.FilesApart after.files ->
    forall place entry, after.files.locate (job.artifact .editorServices) = .ok place ->
      after.files.get? place = some entry -> entry.node ≠ .folder ->
        world.files.get? place = some entry

/-- Finding out the facts without making the artifacts anew changes nothing. -/
theorem files_refresh_of_not_regenerates (confined : processor.toolchain.Confined)
    (kept : ¬ processor.Regenerates job world.files) :
    (ending (processor.refresh job) world).2.files = world.files := by
  have reloads := reads_reloadFacts confined job world
  rw [ending_refresh_of_not_regenerates kept]
  split
  · rfl
  · split
    · next ended => rwa [ended] at reloads
    · next ended => rwa [ended] at reloads

/-- Behind the facts, all that a run does to files is to put the shared modules in place. -/
theorem seedOutcome_of_runJob {result : Except BuildError ProcessOutcome}
    (formed : (ending (processor.refresh job) world).2.files.Formed)
    (named : job.directory.EndsInName)
    (ended : ending (processor.runJob job) world = (result, last)) :
    SeedOutcome job (ending (processor.refresh job) world).2 (result.map fun _ => ()) last := by
  rcases refreshed : ending (processor.refresh job) world with ⟨outcome, middle⟩
  rw [refreshed] at formed
  cases outcome with
  | error error =>
    unfold runJob at ended
    rw [ending_bind, refreshed] at ended
    cases ended
    refine ⟨Relation.ReflTransGen.refl, (fun failed => by cases failed), ?_⟩
    exact fun place entry found _ missing => nomatch found.symm.trans missing
  | ok found =>
    have seeded := seed_outcome formed named
    have files := files_runJob_of_refresh refreshed
    rw [ended] at files
    have files : last.files = (ending (seed job) middle).2.files := files
    refine ⟨files ▸ seeded.extension, fun succeeded => ?_, files ▸ seeded.created⟩
    cases result with
    | error error => cases succeeded
    | ok outcome =>
      rcases runJob_eq_ok_iff.mp ended with ⟨_, _, after, refresh, seeds, _⟩
      rw [refreshed] at refresh
      cases refresh
      rw [files]
      exact seeded.inPlace (by rw [seeds])

/-- A run that keeps the artifacts only adds to files. -/
theorem extends_runJob (confined : processor.toolchain.Confined) (formed : world.files.Formed)
    (named : job.directory.EndsInName) (kept : ¬ processor.Regenerates job world.files) :
    Extends world.files (ending (processor.runJob job) world).2.files := by
  have reads := files_refresh_of_not_regenerates confined kept
  exact reads ▸ (seedOutcome_of_runJob (reads ▸ formed) named rfl).extension

section
variable {result : Except BuildError ProcessOutcome} {place : Location} {entry : FileEntry}
  {anew : Bool}

/-- A run that keeps the artifacts keeps the file of the editor services. -/
theorem services_of_kept (confined : processor.toolchain.Confined) (formed : world.files.Formed)
    (named : job.directory.EndsInName) (kept : ¬ processor.Regenerates job world.files)
    (ended : ending (processor.runJob job) world = (result, last))
    (located : last.files.locate (job.artifact .editorServices) = .ok place)
    (found : last.files.get? place = some entry) (notFolder : entry.node ≠ .folder) :
    world.files.get? place = some entry := by
  have extension := extends_runJob confined formed named kept
  rw [ended] at extension
  have extension : Extends world.files last.files := extension
  cases fresh : Freshness.artifactsFresh world.files job.definition job.artifacts with
  | error fault =>
    unfold runJob at ended
    rw [ending_bind, ending_refresh_of_not_regenerates kept, fresh] at ended
    cases ended
    exact found
  | ok answer =>
    cases answer with
    | false => exact absurd (Or.inr fresh) kept
    | true =>
      rcases exists_of_artifactsFresh fresh .editorServices with ⟨old, foundOld⟩
      rcases bind_eq_ok_iff.mp foundOld with ⟨there, locatedOld, standing⟩
      have stood := (entryAt_eq_ok_iff.mp standing).1
      have same : Except.ok place = Except.ok there :=
        located.symm.trans ((extension.grows.follows formed).locateWith locatedOld)
      cases same
      rcases extension.none_or_same formed found notFolder with nothing | same
      · rw [nothing] at stood
        cases stood
      · exact same

/-- Where the stages before the editor services have not all passed, their file is what it was. -/
theorem services_of_stopped (tidy : processor.toolchain.Tidy) (formed : world.files.Formed)
    (apart : job.FilesApart last.files) {passed : List Stage}
    (early : forall other, other ∈ passed ++ [stage] -> other.isLate = false)
    (passes : processor.Passes job passed {} world draft middle)
    (failed : ending (processor.perform job draft stage) middle = (.error error, last))
    (located : last.files.locate (job.artifact .editorServices) = .ok place)
    (found : last.files.get? place = some entry) (notFolder : entry.node ≠ .folder) :
    world.files.get? place = some entry := by
  rcases get?_eq_some_iff.mp found with ⟨number, numbered, _⟩
  have avoid : forall other, other ∈ passed ++ [stage] -> Avoids job last.files number other := by
    intro other member
    have before := early other member
    constructor
    · rintro source rfl
      cases before
    · intro kind written leads
      have same := apart kind _ number leads ⟨place, located, numbered⟩
      rw [Stage.isLate_of_written (same ▸ written)] at before
      cases before
  exact spares_of_stopped tidy formed numbered avoid passes failed (.refl last.files) entry found
    notFolder

/-- A run of which all stages pass can be accounted for. -/
theorem account_of_passes (confined : processor.toolchain.Confined) (formed : world.files.Formed)
    (named : job.directory.EndsInName)
    (told : anew = true <-> processor.Regenerates job world.files)
    (passes : processor.Passes job (Stage.row processor.force anew) {} world after middle)
    (left : last.toWorkshop = middle.toWorkshop) (outcome : ProcessOutcome)
    (ended : ending (processor.runJob job) world = (.ok outcome, last)) :
    processor.Account job anew (Stage.row processor.force anew) world (.ok outcome) last where
  inOrder := List.prefix_rfl
  completed := fun _ _ => ⟨rfl, after, middle, passes, left⟩
  stopped := fun _ failed => nomatch failed
  asked := fun log notes =>
    (congrArg (fun workshop => log workshop.tools) left).trans (log_of_passes notes passes)
  uses := Stage.uses_row job processor.force anew ▸ List.prefix_rfl
  services := fun member => by
    cases anew with
    | false => exact absurd member (Stage.not_mem_row_false _)
    | true =>
      rw [Stage.row_eq_append, passes_append_iff] at passes
      rcases passes with ⟨draft, world, early, _⟩
      exact ⟨rfl, draft, world, early⟩
  untouched := fun absent _ place entry located found notFolder => by
    cases anew with
    | false =>
      have kept : ¬ processor.Regenerates job world.files := fun must => nomatch told.mpr must
      exact services_of_kept confined formed named kept ended located found notFolder
    | true =>
      rw [Stage.row_eq_append] at absent
      exact absurd (List.mem_append_right _ List.mem_cons_self) absent

/-- A run that a stage stops can be accounted for. -/
theorem account_of_stopped (tidy : processor.toolchain.Tidy) (formed : world.files.Formed)
    (named : job.directory.EndsInName) {passed : List Stage}
    (told : anew = true <-> processor.Regenerates job world.files)
    (planned : Stage.row processor.force anew = passed ++ stage :: more)
    (passes : processor.Passes job passed {} world between middle)
    (failed : ending (processor.perform job between stage) middle = (.error error, last))
    (ended : ending (processor.runJob job) world = (.error error, last)) :
    processor.Account job anew (passed ++ [stage]) world (.error error) last := by
  have inOrder : passed ++ [stage] <+: Stage.row processor.force anew :=
    ⟨more, by rw [planned, List.append_assoc, List.singleton_append]⟩
  refine {
    inOrder
    completed := fun _ succeeded => nomatch succeeded
    stopped := ?stopped
    asked := ?asked
    uses := Stage.uses_row job processor.force anew ▸ inOrder.filterMap (Stage.use? job)
    services := ?services
    untouched := ?untouched }
  case stopped =>
    rintro _ ⟨⟩
    exact ⟨passed, stage, between, middle, rfl, passes, failed, kind_of_perform failed⟩
  case asked =>
    intro log notes
    have noted : log (ending (processor.perform job between stage) middle).2.tools =
        log middle.tools ++ (stage.use? job).toList := log_perform notes between stage middle
    rw [failed] at noted
    rw [noted, log_of_passes notes passes, List.filterMap_append, List.append_assoc]
    cases used : stage.use? job <;> simp [used]
  case services =>
    intro member
    cases anew with
    | false => exact absurd (inOrder.subset member) (Stage.not_mem_row_false _)
    | true =>
      rcases Stage.early_or_behind planned with early | ⟨_, behind, rfl⟩
      · exact nomatch early _ member
      · rcases passes_append_iff.mp passes with ⟨draft, world, first, _⟩
        exact ⟨rfl, draft, world, first⟩
  case untouched =>
    intro absent apart place entry located found notFolder
    cases anew with
    | false =>
      have kept : ¬ processor.Regenerates job world.files := fun must => nomatch told.mpr must
      exact services_of_kept tidy.confined formed named kept ended located found notFolder
    | true =>
      rcases Stage.early_or_behind planned with early | ⟨member, _⟩
      · exact services_of_stopped tidy formed apart early passes failed located found notFolder
      · exact absurd member absent

/-- Processing a job can be accounted for. -/
theorem account_of_runJob (tidy : processor.toolchain.Tidy) (formed : world.files.Formed)
    (named : job.directory.EndsInName)
    (told : anew = true <-> processor.Regenerates job world.files)
    (ended : ending (processor.runJob job) world = (result, last)) :
    exists begun, processor.Account job anew begun world result last := by
  have carried : processor.CarriedOut job (Stage.row processor.force anew) {} world _ _ :=
    carriedOut _ _ _
  have run := ended
  rw [ending_runJob told, ending_bind] at run
  rcases ran : ending (processor.carryOut job (Stage.row processor.force anew) {}) world with
    ⟨outcome, left⟩
  rw [ran] at carried run
  dsimp only at carried
  cases carried with
  | completed passes =>
    obtain ⟨outcome, rfl⟩ : exists outcome, result = .ok outcome := by
      cases run
      exact ⟨_, rfl⟩
    have left : last.toWorkshop = left.toWorkshop := by
      cases run
      rfl
    exact ⟨_, account_of_passes tidy.confined formed named told passes left outcome ended⟩
  | stopped planned passes failed =>
    cases run
    exact ⟨_, account_of_stopped tidy formed named told planned passes failed ended⟩

end

/-- The definition of the sample, with nothing noted yet. -/
def sampleNoted : World (ScriptedTools × List ToolUse) where
  files := Setting.sampleEdited.files
  tools := (Setting.sampleEdited.tools, [])

theorem tidy_withoutParsers : Setting.withoutParsers.Tidy :=
  { ScriptedTools.tidy with parse := fun _ _ _ => ToolWork.leavesFiles_throw _ }

theorem run_sampleNoted :
    Setting.endingStatus
        (Setting.sample.runEnding true Setting.withoutParsers.noting sampleNoted) = none ∧
      (Setting.sample.runEnding true Setting.withoutParsers.noting sampleNoted).2.tools.2 =
        [.bootstrap, .parse (Setting.sample.job.artifact .rules)] := by
  decide +kernel

end Processor
end BaseLanguage
