import BaseLanguage.Proofs.Storage.Seeding
import BaseLanguage.Processor.Run
import BaseLanguage.Tool.Scripted

namespace BaseLanguage

/-!
# What a run does to files

A run works on files in three ways: by operations of its own, through the bootstrap compiler, and
not at all, which holds of the other tools.  So the files of a run change by the changes of trees
alone, however the run ends, and as long as the bootstrap compiler does no more than write files.

A step that gives a value is taken apart into the steps that it consists of, each with the world
that it left.
-/

open FileTree

variable {σ α β : Type}

/-! ## Tools -/

namespace FileTree

/-- A tree after any number of files were written. -/
def Writes : FileTree -> FileTree -> Prop :=
  Relation.ReflTransGen (fun tree after =>
    exists path content, after = (ending (write path content) tree).2)

theorem Writes.grows {tree after : FileTree} (formed : tree.Formed) (writes : Writes tree after) :
    Grows tree after := by
  induction writes with
  | refl => exact Relation.ReflTransGen.refl
  | tail _ step inductionHypothesis =>
    rcases step with ⟨path, content, rfl⟩
    exact inductionHypothesis.trans (grows_write (inductionHypothesis.formed formed) path content)

end FileTree

namespace ToolWork

/-- Work with a tool leaves files as they are. -/
def LeavesFiles (work : ToolWork σ α) : Prop :=
  forall workshop : Workshop σ, (ending work workshop).2.files = workshop.files

/-- All that work with a tool does to files is to write some. -/
def WritesFiles (work : ToolWork σ α) : Prop :=
  forall workshop : Workshop σ, FileTree.Writes workshop.files (ending work workshop).2.files

theorem LeavesFiles.writes {work : ToolWork σ α} (leaves : LeavesFiles work) :
    WritesFiles work := by
  intro workshop
  rw [leaves workshop]
  exact Relation.ReflTransGen.refl

theorem LeavesFiles.bind {first : ToolWork σ α} {next : α -> ToolWork σ β}
    (early : LeavesFiles first) (later : forall value, LeavesFiles (next value)) :
    LeavesFiles (first >>= next) := by
  intro workshop
  refine after_bind (P := fun after : Workshop σ => after.files = workshop.files) (early workshop)
    fun value middle before => ?_
  exact (later value middle).trans before

theorem WritesFiles.bind {first : ToolWork σ α} {next : α -> ToolWork σ β}
    (early : WritesFiles first) (later : forall value, WritesFiles (next value)) :
    WritesFiles (first >>= next) := by
  intro workshop
  refine after_bind (P := fun after : Workshop σ => FileTree.Writes workshop.files after.files)
    (early workshop) fun value middle before => ?_
  exact before.trans (later value middle)

theorem leavesFiles_pure (value : α) : LeavesFiles (pure value : ToolWork σ α) :=
  fun _ => rfl

theorem leavesFiles_throw (error : ToolError) : LeavesFiles (throw error : ToolWork σ α) :=
  fun _ => rfl

theorem leavesFiles_get : LeavesFiles (get : ToolWork σ (Workshop σ)) :=
  fun _ => rfl

theorem files_withFiles (operation : Filing α) (workshop : Workshop σ) :
    (ending (Workshop.withFiles operation) workshop).2.files =
      (ending operation workshop.files).2 := by
  unfold Workshop.withFiles
  rw [ending_bind, ending_get]
  have same : ending operation workshop.files = operation.run.run workshop.files := rfl
  rw [same]
  dsimp only
  rcases operation.run.run workshop.files with ⟨outcome, files⟩
  cases outcome <;> rfl

theorem writesFiles_write (path : Path) (content : ByteArray) :
    WritesFiles (Workshop.withFiles (FileTree.write path content) : ToolWork σ Unit) :=
  fun workshop => Relation.ReflTransGen.single ⟨path, content, files_withFiles _ workshop⟩

end ToolWork

/-- Of all tools only the bootstrap compiler changes files, and only by writing some. -/
structure Toolchain.Confined (toolchain : Toolchain σ) : Prop where
  bootstrap : forall request, ToolWork.WritesFiles (toolchain.bootstrap request)
  parse : forall table input start, ToolWork.LeavesFiles (toolchain.parse table input start)
  prettyPrint : forall dialect term, ToolWork.LeavesFiles (toolchain.prettyPrint dialect term)
  normalizeGrammar : forall grammar, ToolWork.LeavesFiles (toolchain.normalizeGrammar grammar)
  generatePpTable : forall grammar, ToolWork.LeavesFiles (toolchain.generatePpTable grammar)

/-- Of all tools only the bootstrap compiler changes files.  It may do anything to them that leaves
a well-formed tree. -/
structure Toolchain.Orderly (toolchain : Toolchain σ) : Prop where
  bootstrap : forall request (workshop : Workshop σ), workshop.files.Formed ->
    (ending (toolchain.bootstrap request) workshop).2.files.Formed
  parse : forall table input start, ToolWork.LeavesFiles (toolchain.parse table input start)
  prettyPrint : forall dialect term, ToolWork.LeavesFiles (toolchain.prettyPrint dialect term)
  normalizeGrammar : forall grammar, ToolWork.LeavesFiles (toolchain.normalizeGrammar grammar)
  generatePpTable : forall grammar, ToolWork.LeavesFiles (toolchain.generatePpTable grammar)

theorem Toolchain.Confined.orderly {toolchain : Toolchain σ} (confined : toolchain.Confined) :
    toolchain.Orderly where
  bootstrap := fun request workshop formed =>
    ((confined.bootstrap request workshop).grows formed).formed formed
  parse := confined.parse
  prettyPrint := confined.prettyPrint
  normalizeGrammar := confined.normalizeGrammar
  generatePpTable := confined.generatePpTable

namespace ScriptedTools

open ToolWork

theorem leavesFiles_enter (call : ToolCall) : LeavesFiles (enter call) := by
  unfold enter
  refine LeavesFiles.bind (fun _ => rfl) fun _ => ?_
  refine LeavesFiles.bind leavesFiles_get fun workshop => ?_
  dsimp only
  split
  · exact leavesFiles_throw _
  · exact leavesFiles_pure _

theorem writesFiles_writeGenerated (path : Path) (text : Option String) :
    WritesFiles (writeGenerated path text) := by
  unfold writeGenerated
  split
  · exact writesFiles_write path _
  · exact (leavesFiles_pure _).writes

/-- The tools that follow a script are confined. -/
theorem confined : toolchain.Confined where
  bootstrap := by
    intro request
    refine WritesFiles.bind (leavesFiles_enter _).writes fun script => ?_
    refine WritesFiles.bind (writesFiles_writeGenerated _ _) fun _ => ?_
    exact WritesFiles.bind (writesFiles_writeGenerated _ _) fun _ => (leavesFiles_pure _).writes
  parse := by
    intro table input start
    refine LeavesFiles.bind (leavesFiles_enter _) fun _ => ?_
    refine LeavesFiles.bind leavesFiles_get fun workshop => ?_
    split
    · exact leavesFiles_throw _
    · split
      · exact leavesFiles_pure _
      · exact leavesFiles_throw _
  prettyPrint := fun _ _ => LeavesFiles.bind (leavesFiles_enter _) fun _ => leavesFiles_pure _
  normalizeGrammar := by
    intro grammar
    refine LeavesFiles.bind leavesFiles_get fun workshop => ?_
    split
    · exact leavesFiles_pure _
    · refine LeavesFiles.bind (leavesFiles_enter _) fun script => ?_
      split
      · exact leavesFiles_pure _
      · exact leavesFiles_pure _
  generatePpTable := by
    intro grammar
    refine LeavesFiles.bind (leavesFiles_enter _) fun _ => ?_
    split
    · exact leavesFiles_pure _
    · exact leavesFiles_throw _

end ScriptedTools

/-! ## Steps -/

namespace Step

theorem ending_filing (action : Action) (operation : Filing α) (world : World σ) :
    ending (filing action operation) world =
      match ending operation world.files with
      | (.ok value, files) => (.ok value, { world with files })
      | (.error fault, files) =>
        (.error (.outside action (.file fault)), { world with files }) := by
  unfold filing
  rw [ending_bind, ending_get]
  have same : ending operation world.files = operation.run.run world.files := rfl
  rw [same]
  dsimp only
  rcases operation.run.run world.files with ⟨outcome, files⟩
  cases outcome <;> rfl

theorem ending_tool (action : Action) (work : ToolWork σ α) (world : World σ) :
    ending (tool action work) world =
      match ending work world.toWorkshop with
      | (.ok value, workshop) => (.ok value, { world with toWorkshop := workshop })
      | (.error error, workshop) =>
        (.error (.outside action (.tool error)), { world with toWorkshop := workshop }) := by
  unfold tool
  rw [ending_bind, ending_get]
  have same : ending work world.toWorkshop = work.run.run world.toWorkshop := rfl
  rw [same]
  dsimp only
  rcases work.run.run world.toWorkshop with ⟨outcome, workshop⟩
  cases outcome <;> rfl

theorem files_filing (action : Action) (operation : Filing α) (world : World σ) :
    (ending (filing action operation) world).2.files = (ending operation world.files).2 := by
  rw [ending_filing]
  rcases ending operation world.files with ⟨outcome, files⟩
  cases outcome <;> rfl

theorem files_tool (action : Action) (work : ToolWork σ α) (world : World σ) :
    (ending (tool action work) world).2.files = (ending work world.toWorkshop).2.files := by
  rw [ending_tool]
  rcases ending work world.toWorkshop with ⟨outcome, workshop⟩
  cases outcome <;> rfl

theorem filing_eq_ok {action : Action} {operation : Filing α} {world after : World σ} {value : α}
    (ended : ending (filing action operation) world = (.ok value, after)) :
    ending operation world.files = (.ok value, after.files) := by
  rw [ending_filing] at ended
  split at ended
  · next found files operated =>
      cases ended
      exact operated
  · cases ended

theorem tool_eq_ok {action : Action} {work : ToolWork σ α} {world after : World σ} {value : α}
    (ended : ending (tool action work) world = (.ok value, after)) :
    ending work world.toWorkshop = (.ok value, after.toWorkshop) := by
  rw [ending_tool] at ended
  split at ended
  · next found workshop worked =>
      cases ended
      exact worked
  · cases ended

/-- Whether a step succeeds or fails, what it does to files are changes. -/
def GrowsFiles (step : Step σ α) : Prop :=
  forall world : World σ, world.files.Formed -> Grows world.files (ending step world).2.files

/-- A step leaves files as they are. -/
def Reads (step : Step σ α) : Prop :=
  forall world : World σ, (ending step world).2.files = world.files

theorem Reads.files_eq {step : Step σ α} (reads : Reads step) {world after : World σ}
    {result : Except BuildError α} (ended : ending step world = (result, after)) :
    after.files = world.files := by
  have same := reads world
  rwa [ended] at same

theorem Reads.grows {step : Step σ α} (reads : Reads step) : GrowsFiles step := by
  intro world _
  rw [reads world]
  exact Relation.ReflTransGen.refl

theorem reads_pure (value : α) : Reads (pure value : Step σ α) :=
  fun _ => rfl

theorem reads_throw (error : BuildError) : Reads (throw error : Step σ α) :=
  fun _ => rfl

theorem reads_warn (warnings : List Warning) : Reads (warn warnings : Step σ Unit) :=
  fun _ => rfl

theorem Reads.bind {first : Step σ α} {next : α -> Step σ β} (reads : Reads first)
    (later : forall value, Reads (next value)) : Reads (first >>= next) := by
  intro world
  refine after_bind (P := fun after : World σ => after.files = world.files) (reads world)
    fun value middle before => ?_
  exact (later value middle).trans before

theorem GrowsFiles.bind {first : Step σ α} {next : α -> Step σ β} (early : GrowsFiles first)
    (later : forall value, GrowsFiles (next value)) : GrowsFiles (first >>= next) := by
  intro world formed
  refine after_bind (P := fun after : World σ => Grows world.files after.files) (early world formed)
    fun value middle before => ?_
  exact before.trans (later value middle (before.formed formed))

theorem grows_write (path : Path) (content : ByteArray) :
    GrowsFiles (write path content : Step σ Unit) := by
  intro world formed
  unfold write
  rw [files_filing]
  exact FileTree.grows_write formed path content

theorem grows_createFolders (action : Action) (path : Path) :
    GrowsFiles (filing action (createFolders path) : Step σ Unit) := by
  intro world formed
  rw [files_filing]
  exact (createFolders_outcome path formed).gains.extension.grows

theorem reads_readText (path : Path) : Reads (readText path : Step σ String) := by
  intro world
  unfold readText
  rw [ending_bind, ending_get]
  dsimp only
  rw [files_filing, ending_liftM]

end Step

namespace Processor

open Step

variable {processor : Processor σ} {job : Job}

/-! ## What each step does to files -/

section
variable (orderly : processor.toolchain.Orderly)
include orderly

theorem reads_parse (dialect : Dialect) (input : Path) :
    Reads (processor.parse dialect input) := by
  intro world
  unfold parse
  rw [files_tool]
  exact orderly.parse _ _ _ _

theorem reads_prettyPrint (dialect : Dialect) (term : Term) (target : Path) :
    Reads (processor.prettyPrint dialect term target) := by
  intro world
  unfold prettyPrint
  rw [files_tool]
  exact orderly.prettyPrint _ _ _

theorem reads_normalise (action : Action) (grammar : Term) :
    Reads (tool action (processor.toolchain.normalizeGrammar grammar)) := by
  intro world
  rw [files_tool]
  exact orderly.normalizeGrammar _ _

theorem reads_generatePpTable (action : Action) (grammar : Term) :
    Reads (tool action (processor.toolchain.generatePpTable grammar)) := by
  intro world
  rw [files_tool]
  exact orderly.generatePpTable _ _

end

theorem reads_decodeFacts (processor : Processor σ) (job : Job) (module : Term) :
    Reads (processor.decodeFacts job module) := by
  unfold decodeFacts
  dsimp only
  refine Reads.bind (reads_warn _) fun _ => ?_
  split
  · exact reads_pure _
  · exact reads_throw _

theorem reads_rewritten (outcome : Except RewriteError Term) :
    Reads (rewritten outcome : Step σ Term) := by
  unfold rewritten
  split
  · exact reads_pure _
  · exact reads_throw _

section
variable (confined : processor.toolchain.Confined)
include confined

theorem grows_bootstrap (job : Job) : GrowsFiles (processor.bootstrap job) := by
  unfold bootstrap
  refine GrowsFiles.bind ?_ ?_
  · intro world formed
    rw [files_tool]
    exact (confined.bootstrap _ _).grows formed
  · intro report
    split
    · exact (reads_pure _).grows
    · exact (reads_throw _).grows

theorem grows_processRules : GrowsFiles (processor.processRules job) := by
  unfold processRules
  refine GrowsFiles.bind (reads_parse confined.orderly _ _).grows fun module => ?_
  refine GrowsFiles.bind (reads_decodeFacts _ _ _).grows fun facts => ?_
  refine GrowsFiles.bind (reads_rewritten _).grows fun rewritten => ?_
  refine GrowsFiles.bind (reads_prettyPrint confined.orderly _ _ _).grows fun text => ?_
  exact GrowsFiles.bind (grows_write _ _) fun _ => (reads_pure _).grows

theorem grows_processGrammar (facts : LanguageFacts) :
    GrowsFiles (processor.processGrammar job facts) := by
  unfold processGrammar
  dsimp only
  split
  · exact (reads_throw _).grows
  · refine GrowsFiles.bind (reads_parse confined.orderly _ _).grows fun grammar => ?_
    refine GrowsFiles.bind (reads_rewritten _).grows fun rewritten => ?_
    refine GrowsFiles.bind (reads_normalise confined.orderly _ _).grows fun normal => ?_
    refine GrowsFiles.bind (reads_prettyPrint confined.orderly _ _ _).grows fun text => ?_
    exact GrowsFiles.bind (grows_write _ _) fun _ => (reads_pure _).grows

theorem grows_regenerate (job : Job) : GrowsFiles (processor.regenerate job) := by
  unfold regenerate
  refine GrowsFiles.bind (grows_createFolders _ _) fun _ => ?_
  refine GrowsFiles.bind (grows_bootstrap confined job) fun _ => ?_
  refine GrowsFiles.bind (grows_processRules confined) fun facts => ?_
  refine GrowsFiles.bind (grows_processGrammar confined facts) fun grammar => ?_
  refine GrowsFiles.bind (reads_readText _).grows fun text => ?_
  refine GrowsFiles.bind (grows_write _ _) fun _ => ?_
  refine GrowsFiles.bind (reads_generatePpTable confined.orderly _ _).grows fun table => ?_
  refine GrowsFiles.bind (grows_write _ _) fun _ => ?_
  exact GrowsFiles.bind (grows_write _ _) fun _ => (reads_pure _).grows

theorem reads_reloadFacts (job : Job) : Reads (processor.reloadFacts job) := by
  unfold reloadFacts
  exact Reads.bind (reads_parse confined.orderly _ _) fun module => reads_decodeFacts _ _ module

end

/-! ## What steps that succeed consist of -/

theorem ending_rewritten_eq_ok_iff {outcome : Except RewriteError Term} {term : Term}
    {world after : World σ} :
    ending (rewritten outcome) world = (.ok term, after) <->
      outcome = .ok term ∧ after = world := by
  unfold rewritten
  cases outcome with
  | ok found => simp [ending_pure, eq_comm]
  | error error => simp [ending_throw]

theorem ending_pure_eq_ok_iff {value result : α} {world after : World σ} :
    ending (pure value : Step σ α) world = (.ok result, after) <->
      value = result ∧ world = after := by
  rw [ending_pure]
  simp

/-- A rule module is rewritten in place exactly if it was parsed and decoded, its imports could be
replaced, and the result was printed and written. -/
theorem processRules_eq_ok_iff {world after : World σ} {facts : LanguageFacts} :
    ending (processor.processRules job) world = (.ok facts, after) <->
      exists module parsed decoded term text printed,
        ending (processor.parse .rules job.artifacts.rules) world = (.ok module, parsed) ∧
        ending (processor.decodeFacts job module) parsed = (.ok facts, decoded) ∧
        Rewriting.replaceRuleImports module = .ok term ∧
        ending (processor.prettyPrint .rules term job.artifacts.rules) decoded =
          (.ok text, printed) ∧
        ending (Step.write job.artifacts.rules (Text.toBytes text)) printed = (.ok (), after) := by
  unfold processRules
  simp only [ending_bind_eq_ok_iff, ending_rewritten_eq_ok_iff, ending_pure_eq_ok_iff]
  constructor
  · rintro ⟨module, parsed, parse, found, decoded, decode, term, _, ⟨rewritten, rfl⟩, text, printed,
      print, ⟨⟩, written, write, rfl, rfl⟩
    exact ⟨module, parsed, _, term, text, printed, parse, decode, rewritten, print, write⟩
  · rintro ⟨module, parsed, decoded, term, text, printed, parse, decode, rewritten, print, write⟩
    exact ⟨module, parsed, parse, facts, decoded, decode, term, decoded, ⟨rewritten, rfl⟩, text,
      printed, print, (), after, write, rfl, rfl⟩

/-- A grammar is rewritten in place exactly if the facts name a nonterminal, the grammar was
parsed, could be rewritten and was normalised, and the result was printed and written. -/
theorem processGrammar_eq_ok_iff {world after : World σ} {facts : LanguageFacts} {grammar : Term} :
    ending (processor.processGrammar job facts) world = (.ok grammar, after) <->
      exists nonterminal raw parsed term normal text printed,
        facts.toplevelNonterminal = some nonterminal ∧
        ending (processor.parse .grammar job.artifacts.grammar) world = (.ok raw, parsed) ∧
        Rewriting.rewriteGrammar job.language nonterminal raw = .ok term ∧
        ending (Step.tool (.normalise job.language) (processor.toolchain.normalizeGrammar term))
          parsed = (.ok grammar, normal) ∧
        ending (processor.prettyPrint .grammar grammar job.artifacts.grammar) normal =
          (.ok text, printed) ∧
        ending (Step.write job.artifacts.grammar (Text.toBytes text)) printed =
          (.ok (), after) := by
  unfold processGrammar
  dsimp only
  cases facts.toplevelNonterminal with
  | none => simp [ending_throw]
  | some nonterminal =>
    simp only [ending_bind_eq_ok_iff, ending_rewritten_eq_ok_iff, ending_pure_eq_ok_iff]
    constructor
    · rintro ⟨raw, parsed, parse, term, _, ⟨rewritten, rfl⟩, found, normal, normalise, text,
        printed, print, ⟨⟩, written, write, rfl, rfl⟩
      exact ⟨nonterminal, raw, _, term, normal, text, printed, rfl, parse, rewritten, normalise,
        print, write⟩
    · rintro ⟨_, raw, parsed, term, normal, text, printed, ⟨⟩, parse, rewritten, normalise, print,
        write⟩
      exact ⟨raw, parsed, parse, term, parsed, ⟨rewritten, rfl⟩, grammar, normal, normalise, text,
        printed, print, (), after, write, rfl, rfl⟩

/-- The artifacts are made anew exactly if each of the steps succeeds, from where the one before it
ended. -/
theorem regenerate_eq_ok_iff {world after : World σ} {facts : LanguageFacts} :
    ending (processor.regenerate job) world = (.ok facts, after) <->
      exists opened bootstrapped ruled grammared grammar text read packed table tabled tableWritten,
        ending (Step.filing (.create job.directory) (createFolders job.directory)) world =
          (.ok (), opened) ∧
        ending (processor.bootstrap job) opened = (.ok (), bootstrapped) ∧
        ending (processor.processRules job) bootstrapped = (.ok facts, ruled) ∧
        ending (processor.processGrammar job facts) ruled = (.ok grammar, grammared) ∧
        ending (Step.readText job.artifacts.grammar) grammared = (.ok text, read) ∧
        ending (Step.write job.artifacts.packagedGrammar (Text.toBytes (packaged text))) read =
          (.ok (), packed) ∧
        ending (Step.tool (.generateTable job.language)
          (processor.toolchain.generatePpTable grammar)) packed = (.ok table, tabled) ∧
        ending (Step.write job.artifacts.ppTable table) tabled = (.ok (), tableWritten) ∧
        ending (Step.write job.artifacts.editorServices
          (Text.toBytes (editorServices job.language))) tableWritten = (.ok (), after) := by
  unfold regenerate
  simp only [ending_bind_eq_ok_iff, ending_pure_eq_ok_iff]
  constructor
  · rintro ⟨⟨⟩, opened, openFolder, ⟨⟩, bootstrapped, bootstrap, _, ruled, rules, grammar,
      grammared, grammars, text, read, reading, ⟨⟩, packed, pack, table, tabled, generate, ⟨⟩,
      tableWritten, writeTable, ⟨⟩, written, services, rfl, rfl⟩
    exact ⟨opened, bootstrapped, ruled, grammared, grammar, text, read, packed, table, tabled,
      tableWritten, openFolder, bootstrap, rules, grammars, reading, pack, generate, writeTable,
      services⟩
  · rintro ⟨opened, bootstrapped, ruled, grammared, grammar, text, read, packed, table, tabled,
      tableWritten, openFolder, bootstrap, rules, grammars, reading, pack, generate, writeTable,
      services⟩
    exact ⟨(), opened, openFolder, (), bootstrapped, bootstrap, facts, ruled, rules, grammar,
      grammared, grammars, text, read, reading, (), packed, pack, table, tabled, generate, (),
      tableWritten, writeTable, (), after, services, rfl, rfl⟩

/-- Decoding gives the facts exactly if the module has them, and then it adds what it warns of. -/
theorem decodeFacts_eq_ok_iff {module : Term} {world after : World σ} {facts : LanguageFacts} :
    ending (processor.decodeFacts job module) world = (.ok facts, after) <->
      (decode (processor.configuration.leadFor job.language) module).1 = .ok facts ∧
        after = { world with
          warnings := world.warnings ++
            (decode (processor.configuration.leadFor job.language) module).2 } := by
  unfold decodeFacts
  rcases decode (processor.configuration.leadFor job.language) module with ⟨outcome, warnings⟩
  dsimp only
  rw [ending_bind]
  cases outcome with
  | ok found => simp [warn, ending_modify, ending_pure, eq_comm]
  | error error => simp [warn, ending_modify, ending_throw]

/-- What the parser gives, a run has parsed. -/
theorem ending_parse_of_ok {dialect : Dialect} {input : Path} {term : Term} {world : World σ}
    {workshop : Workshop σ}
    (parsed : ending (processor.toolchain.parse (processor.configuration.parseTable dialect) input
      (processor.configuration.startSymbol dialect)) world.toWorkshop = (.ok term, workshop)) :
    ending (processor.parse dialect input) world =
      (.ok term, { world with toWorkshop := workshop }) := by
  unfold parse
  rw [Step.ending_tool, parsed]

/-! ## Runs -/

theorem ending_isFresh (job : Job) (world : World σ) :
    ending (isFresh job) world =
      match Freshness.artifactsFresh world.files job.definition job.artifacts with
      | .ok fresh => (.ok fresh, world)
      | .error fault => (.error (.outside (.readTime job.definition) (.file fault)), world) := by
  unfold isFresh
  rw [ending_bind, ending_get]
  dsimp only
  rw [ending_filing, ending_liftM]
  cases Freshness.artifactsFresh world.files job.definition job.artifacts <;> rfl

/-- A run makes the artifacts anew if it is told to, or if it finds that they are not fresh. -/
def Regenerates (processor : Processor σ) (job : Job) (tree : FileTree) : Prop :=
  processor.force = true ∨
    Freshness.artifactsFresh tree job.definition job.artifacts = .ok false

/-- A run that makes the artifacts anew goes on with what that gives. -/
theorem ending_refresh_of_regenerates {world : World σ}
    (regenerates : processor.Regenerates job world.files) :
    ending (processor.refresh job) world =
      match ending (processor.regenerate job) world with
      | (.ok facts, after) => (.ok (facts, .regenerated), after)
      | (.error error, after) => (.error error, after) := by
  have anew : ending (processor.regenerate job >>= fun facts =>
      (pure (facts, .regenerated) : Step σ (LanguageFacts × BuildStatus))) world =
        match ending (processor.regenerate job) world with
        | (.ok facts, after) => (.ok (facts, .regenerated), after)
        | (.error error, after) => (.error error, after) := by
    rw [ending_bind]
    rcases ending (processor.regenerate job) world with ⟨outcome, after⟩
    cases outcome <;> rfl
  unfold refresh
  cases forced : processor.force with
  | true => exact anew
  | false =>
    rcases regenerates with told | stale
    · rw [forced] at told
      cases told
    · simp only [Bool.false_eq_true, if_false]
      rw [ending_bind, ending_isFresh, stale]
      exact anew

/-- Any other run reads the rule module that is there, if it can find out that the artifacts are
fresh. -/
theorem ending_refresh_of_not_regenerates {world : World σ}
    (kept : ¬ processor.Regenerates job world.files) :
    ending (processor.refresh job) world =
      match Freshness.artifactsFresh world.files job.definition job.artifacts with
      | .error fault => (.error (.outside (.readTime job.definition) (.file fault)), world)
      | .ok _ =>
        match ending (processor.reloadFacts job) world with
        | (.ok facts, after) => (.ok (facts, .upToDate), after)
        | (.error error, after) => (.error error, after) := by
  rcases not_or.mp kept with ⟨notForced, notStale⟩
  unfold refresh
  rw [Bool.not_eq_true] at notForced
  rw [notForced]
  simp only [Bool.false_eq_true, if_false]
  rw [ending_bind, ending_isFresh]
  cases fresh : Freshness.artifactsFresh world.files job.definition job.artifacts with
  | error fault => rfl
  | ok answer =>
    cases answer with
    | false => exact absurd fresh notStale
    | true =>
      dsimp only
      rw [if_pos rfl, ending_bind]
      rcases ending (processor.reloadFacts job) world with ⟨outcome, after⟩
      cases outcome <;> rfl

/-- A run that reads what is there has found the artifacts fresh. -/
theorem refresh_eq_upToDate {world after : World σ} {facts : LanguageFacts}
    (ended : ending (processor.refresh job) world = (.ok (facts, .upToDate), after)) :
    Freshness.artifactsFresh world.files job.definition job.artifacts = .ok true ∧
      ending (processor.reloadFacts job) world = (.ok facts, after) := by
  by_cases regenerates : processor.Regenerates job world.files
  · rw [ending_refresh_of_regenerates regenerates] at ended
    split at ended <;> cases ended
  · rw [ending_refresh_of_not_regenerates regenerates] at ended
    split at ended
    · cases ended
    · next answer fresh =>
        cases answer with
        | false => exact absurd (Or.inr fresh) regenerates
        | true =>
          split at ended
          · next reloaded =>
              cases ended
              exact ⟨fresh, reloaded⟩
          · cases ended

/-- A run that made the artifacts anew had to, and has made them. -/
theorem refresh_eq_regenerated {world after : World σ} {facts : LanguageFacts}
    (ended : ending (processor.refresh job) world = (.ok (facts, .regenerated), after)) :
    processor.Regenerates job world.files ∧
      ending (processor.regenerate job) world = (.ok facts, after) := by
  by_cases regenerates : processor.Regenerates job world.files
  · rw [ending_refresh_of_regenerates regenerates] at ended
    split at ended
    · next regenerated =>
        cases ended
        exact ⟨regenerates, regenerated⟩
    · cases ended
  · rw [ending_refresh_of_not_regenerates regenerates] at ended
    split at ended
    · cases ended
    · split at ended <;> cases ended

/-- Fresh artifacts are there. -/
theorem exists_of_artifactsFresh {tree : FileTree}
    (fresh : Freshness.artifactsFresh tree job.definition job.artifacts = .ok true)
    (kind : ArtifactKind) : exists entry, tree.find (job.artifacts.get kind) = .ok entry := by
  unfold Freshness.artifactsFresh at fresh
  rcases bind_eq_ok_iff.mp fresh with ⟨time, _, all⟩
  simp only [pure, Except.pure, Except.ok.injEq] at all
  have newer := List.all_eq_true.mp all (kind, job.artifacts.get kind)
    (List.mem_map.mpr ⟨kind, ArtifactKind.mem_all kind, rfl⟩)
  unfold Freshness.isNewer at newer
  split at newer
  · next changed modified =>
      unfold FileTree.modified at modified
      rcases bind_eq_ok_iff.mp modified with ⟨entry, found, _⟩
      exact ⟨entry, found⟩
  · cases newer

theorem grows_refresh (confined : processor.toolchain.Confined) :
    GrowsFiles (processor.refresh job) := by
  intro world formed
  by_cases regenerates : processor.Regenerates job world.files
  · have grows := grows_regenerate confined job world formed
    rw [ending_refresh_of_regenerates regenerates]
    split
    · next ended => rwa [ended] at grows
    · next ended => rwa [ended] at grows
  · have reads := reads_reloadFacts confined job world
    rw [ending_refresh_of_not_regenerates regenerates]
    split
    · exact Relation.ReflTransGen.refl
    · split
      · next ended =>
          rw [ended] at reads
          exact reads ▸ Relation.ReflTransGen.refl
      · next ended =>
          rw [ended] at reads
          exact reads ▸ Relation.ReflTransGen.refl

theorem grows_seed : GrowsFiles (seed job : Step σ Unit) := by
  unfold seed
  refine GrowsFiles.bind (grows_createFolders _ _) fun _ => ?_
  intro world formed
  rw [files_filing]
  exact Seeding.grows_seeding formed _ _

/-- The folder of artifacts and the shared modules are there. -/
structure InPlace (job : Job) (tree : FileTree) : Prop where
  directory : tree.hasFolder job.directory = true
  shared : forall source, source ∈ Seeding.sources ->
    tree.exists? (job.directory.join source.1) = true

/-- What putting the shared modules in place comes to: it only adds to a tree, they are there if it
succeeded, and all that is new and no folder is one of them. -/
structure SeedOutcome (job : Job) (world : World σ) (result : Except BuildError Unit)
    (after : World σ) : Prop where
  extension : Extends world.files after.files
  inPlace : result = .ok () -> InPlace job after.files
  created : forall place entry, after.files.get? place = some entry -> entry.node ≠ .folder ->
    world.files.get? place = none ->
      Seeding.IsSource job.directory Seeding.sources after.files place entry.node

theorem seed_outcome {world : World σ} (formed : world.files.Formed)
    (named : job.directory.EndsInName) :
    SeedOutcome job world (ending (seed job) world).1 (ending (seed job) world).2 := by
  have outcome := createFolders_outcome job.directory formed
  unfold seed
  rw [ending_bind, ending_filing]
  rcases created : ending (createFolders job.directory) world.files with ⟨result, files⟩
  rw [created] at outcome
  cases result with
  | error fault =>
    refine ⟨outcome.gains.extension, (fun failed => by cases failed), ?_⟩
    intro place entry found notFolder missing
    rw [outcome.gains.spares formed entry found notFolder] at missing
    cases missing
  | ok =>
    have formedFiles : files.Formed := outcome.gains.formed formed
    have directory : files.hasFolder job.directory = true :=
      outcome.hasFolder rfl named.components_isEmpty
    have seeded := Seeding.seeded_of_seeding formedFiles named directory
      Seeding.liesBelow_sources
    dsimp only
    rw [ending_filing]
    change Seeding.Seeded _ _ _ (ending (Seeding.ensureShared job.directory) files).1
      (ending (Seeding.ensureShared job.directory) files).2 at seeded
    rcases ran : ending (Seeding.ensureShared job.directory) files with ⟨result, last⟩
    rw [ran] at seeded
    have extension : Extends files last := seeded.extension
    have created : forall place entry, last.get? place = some entry -> entry.node ≠ .folder ->
        world.files.get? place = none ->
          Seeding.IsSource job.directory Seeding.sources last place entry.node := by
      intro place entry found notFolder missing
      exact seeded.created place entry found notFolder
        ((outcome.gains.spares formed).none_of_none formedFiles extension found notFolder missing)
    cases result with
    | error fault =>
      exact ⟨outcome.gains.extension.trans extension, (fun failed => by cases failed), created⟩
    | ok =>
      refine ⟨outcome.gains.extension.trans extension, fun _ => ⟨?_, seeded.there rfl⟩, created⟩
      exact (extension.grows.follows formedFiles).hasFolder directory

/-- Where the shared modules are, nothing is done. -/
theorem ending_seed_of_inPlace {world : World σ} (inPlace : InPlace job world.files) :
    ending (seed job : Step σ Unit) world = (.ok (), world) := by
  have nothing : ending (Seeding.ensureShared job.directory) world.files = (.ok (), world.files) :=
    Seeding.ending_seeding_of_exists? inPlace.shared
  unfold seed
  rw [ending_bind, ending_filing, createFolders_of_hasFolder inPlace.directory]
  dsimp only
  rw [ending_filing, nothing]

theorem grows_runJob (confined : processor.toolchain.Confined) (job : Job) :
    GrowsFiles (processor.runJob job) := by
  unfold runJob
  refine GrowsFiles.bind (grows_refresh confined) fun _ => ?_
  refine GrowsFiles.bind grows_seed fun _ => ?_
  exact GrowsFiles.bind (reads_warn _).grows fun _ => (reads_pure _).grows

/-- Behind the artifacts, a run does no more to files than seeding. -/
theorem files_runJob_of_refresh {world middle : World σ} {facts : LanguageFacts}
    {status : BuildStatus}
    (refreshed : ending (processor.refresh job) world = (.ok (facts, status), middle)) :
    (ending (processor.runJob job) world).2.files = (ending (seed job) middle).2.files := by
  unfold runJob
  rw [ending_bind, refreshed]
  dsimp only
  rw [ending_bind]
  rcases ending (seed job) middle with ⟨outcome, after⟩
  cases outcome <;> rfl

/-- What a run tells of a language. -/
def describe (processor : Processor σ) (job : Job) (facts : LanguageFacts) :
    LanguageDescriptor where
  name := job.language
  facts
  namespaceKind := processor.configuration.namespaceKind
  artifacts := job.artifacts

/-- A run succeeds exactly if it finds out the facts and puts the shared modules in place; then it
adds what it warns of. -/
theorem runJob_eq_ok_iff {world after : World σ} {outcome : ProcessOutcome} :
    ending (processor.runJob job) world = (.ok outcome, after) <->
      exists facts refreshed seeded,
        ending (processor.refresh job) world = (.ok (facts, outcome.status), refreshed) ∧
        ending (seed job) refreshed = (.ok (), seeded) ∧
        outcome.descriptor = processor.describe job facts ∧
        after = { seeded with
          warnings := seeded.warnings ++ (processor.describe job facts).warnings } := by
  unfold runJob
  simp only [ending_bind_eq_ok_iff, ending_pure_eq_ok_iff]
  constructor
  · rintro ⟨⟨facts, status⟩, refreshed, refresh, ⟨⟩, seeded, seed, ⟨⟩, warned, warn, rfl, rfl⟩
    cases warn
    exact ⟨facts, refreshed, seeded, refresh, seed, rfl, rfl⟩
  · rintro ⟨facts, refreshed, seeded, refresh, seed, described, rfl⟩
    rcases outcome with ⟨descriptor, status⟩
    cases described
    exact ⟨⟨facts, status⟩, refreshed, refresh, (), seeded, seed, (), _, rfl, rfl, rfl⟩

/-! ## The language of a definition -/

/-- A path gives its stem to a language, or is refused if it has no file name. -/
theorem languageName_eq (path : Path) :
    languageName path =
      match path.fileStem? with
      | some stem => .ok stem
      | none => .error (.outside (.deriveName path) .noFileName) := by
  unfold languageName
  cases found : path.fileStem? with
  | none => rfl
  | some stem =>
    have notEmpty := (Path.of_fileStem? found).2
    exact if_neg (by simpa [String.isEmpty_iff] using notEmpty)

theorem languageName_eq_ok_iff {path : Path} {language : String} :
    languageName path = .ok language <-> path.fileStem? = some language := by
  rw [languageName_eq]
  cases path.fileStem? <;> simp

theorem languageName_eq_error_iff {path : Path} {error : BuildError} :
    languageName path = .error error <->
      path.fileStem? = none ∧ error = .outside (.deriveName path) .noFileName := by
  rw [languageName_eq]
  cases path.fileStem? <;> simp [eq_comm]

/-- Only naming can fail before a run. -/
theorem job_eq_error_iff {configuration : Configuration} {layout : PluginLayout}
    {definition : Path} {error : BuildError} :
    Processor.job configuration layout definition = .error error <->
      (layout.definitionPath definition).fileStem? = none ∧
        error = .outside (.deriveName (layout.definitionPath definition)) .noFileName := by
  rw [← languageName_eq_error_iff]
  constructor
  · exact error_of_bind fun language => ⟨_, rfl⟩
  · intro failed
    exact bind_eq_error_iff.mpr (.inl failed)

/-- A definition with a language name is processed as its job. -/
theorem ending_process (processor : Processor σ) {layout : PluginLayout} {definition : Path}
    (found : Processor.job processor.configuration layout definition = .ok job)
    (world : World σ) :
    ending (processor.process layout definition) world = ending (processor.runJob job) world := by
  unfold process
  rw [ending_bind, found, ending_liftM]

/-- A definition without a name for its language is refused before anything is done. -/
theorem ending_process_of_unnamed {layout : PluginLayout} {definition : Path} {error : BuildError}
    (unnamed : Processor.job processor.configuration layout definition = .error error)
    (world : World σ) :
    ending (processor.process layout definition) world = (.error error, world) ∧
      error.kind = .external := by
  constructor
  · unfold process
    rw [ending_bind, unnamed, ending_liftM]
  · rw [(job_eq_error_iff.mp unnamed).2]
    rfl

end Processor
end BaseLanguage
