import BaseLanguage.Proofs.Processor.Steps

namespace BaseLanguage

/-!
# The artifacts of a run

The files of a run are its definition, its five artifacts and the shared modules.  A tree is
settled for a run if no link lies on the way to any of these, if the definition and the artifacts
are six different places, and if an artifact that is there is a file or a folder of its own.  All
changes that a run makes keep this, and so does a removal.

In a settled tree artifacts do not get into each other's way: what was written to one of them is
still there after another was written, and after the shared modules were put in place.
-/

open FileTree

variable {σ : Type} {job : Job} {tree after : FileTree} {kind other : ArtifactKind}

namespace Job

/-- The path of an artifact. -/
def artifact (job : Job) (kind : ArtifactKind) : Path :=
  job.artifacts.get kind

/-- The paths of a run lead to different files: no link lies on the way to any of them, and the
definition and the artifacts are six different places. -/
structure Separate (job : Job) (tree : FileTree) : Prop where
  definition_direct : tree.Direct job.definition
  direct : forall kind, tree.Direct (job.artifact kind)
  shared_direct : forall source, source ∈ Seeding.sources ->
    tree.Direct (job.directory.join source.1)
  definition_apart : forall kind,
    tree.destination (job.artifact kind) ≠ tree.destination job.definition
  apart : forall kind other, kind ≠ other ->
    tree.destination (job.artifact kind) ≠ tree.destination (job.artifact other)

/-- What runs keep: the paths of a run lead to different files, and an artifact that is there is a
file or a folder that stands nowhere else. -/
structure Settled (job : Job) (tree : FileTree) : Prop extends Separate job tree where
  proper : tree.Proper
  sole : forall kind, tree.Sole (tree.destination (job.artifact kind))
  plain : forall kind entry, tree.standing (job.artifact kind) = some entry -> IsPlain entry.node

namespace Separate

/-- Where there are no links, paths only have to be different. -/
theorem of_noLinks (noLinks : forall place, tree.linkAt? place = none)
    (definition_apart : forall kind,
      tree.destination (job.artifact kind) ≠ tree.destination job.definition)
    (apart : forall kind other, kind ≠ other ->
      tree.destination (job.artifact kind) ≠ tree.destination (job.artifact other)) :
    job.Separate tree :=
  ⟨fun place _ => noLinks place, fun _ place _ => noLinks place, fun _ _ place _ => noLinks place,
    definition_apart, apart⟩

theorem of_grows (separate : job.Separate tree) (proper : tree.Proper) (grows : Grows tree after) :
    job.Separate after := by
  have current := grows.current_eq
  refine ⟨separate.definition_direct.of_grows proper grows,
    fun kind => (separate.direct kind).of_grows proper grows,
    fun source member => (separate.shared_direct source member).of_grows proper grows, ?_, ?_⟩
  · intro kind
    rw [destination_eq current, destination_eq current]
    exact separate.definition_apart kind
  · intro kind other different
    rw [destination_eq current, destination_eq current]
    exact separate.apart kind other different

theorem of_wanes (separate : job.Separate tree) (current : after.current = tree.current)
    (wanes : forall place, Wanes tree after place) : job.Separate after := by
  refine ⟨separate.definition_direct.of_wanes current wanes,
    fun kind => (separate.direct kind).of_wanes current wanes,
    fun source member => (separate.shared_direct source member).of_wanes current wanes, ?_, ?_⟩
  · intro kind
    rw [destination_eq current, destination_eq current]
    exact separate.definition_apart kind
  · intro kind other different
    rw [destination_eq current, destination_eq current]
    exact separate.apart kind other different

end Separate

namespace Settled

/-- Where no artifact stands, nothing has to be known about those that do. -/
theorem of_absent (proper : tree.Proper) (separate : job.Separate tree)
    (absent : forall kind, tree.standing (job.artifact kind) = none) : job.Settled tree := by
  refine ⟨separate, proper, ?_, ?_⟩
  · intro kind number place numbered
    rcases proper.exists_node _ number numbered with ⟨entry, known⟩
    have found := get?_eq_some_iff.mpr ⟨number, numbered, known⟩
    have missing : tree.get? (tree.destination (job.artifact kind)) = none := absent kind
    rw [missing] at found
    cases found
  · intro kind entry found
    rw [absent kind] at found
    cases found

theorem of_grows (settled : job.Settled tree) (grows : Grows tree after) : job.Settled after := by
  have current := grows.current_eq
  have proper := settled.proper
  refine ⟨settled.toSeparate.of_grows proper grows, grows.proper proper, ?_, ?_⟩
  · intro kind
    rw [destination_eq current]
    exact grows.sole proper.formed (settled.sole kind)
  · intro kind entry found
    unfold standing at found
    rw [destination_eq current] at found
    rcases grows.keeps_or_new proper found with ⟨old, foundOld, keeps⟩ | ⟨_, plain⟩
    · exact keeps.node_eq ▸ settled.plain kind old foundOld
    · exact plain

theorem of_remove (settled : job.Settled tree) (path : Path) :
    job.Settled (ending (remove path) tree).2 := by
  have wanes := fun place => wanes_remove settled.proper path place
  have current : (ending (remove path) tree).2.current = tree.current := current_remove path tree
  refine ⟨settled.toSeparate.of_wanes current wanes, proper_remove settled.proper path, ?_, ?_⟩
  · intro kind
    rw [destination_eq current]
    exact sole_remove path (settled.sole kind)
  · intro kind entry found
    unfold standing at found
    rw [destination_eq current] at found
    rcases wanes _ entry found with ⟨old, foundOld, keeps⟩
    exact keeps.node_eq ▸ settled.plain kind old foundOld

end Settled

/-! ## Artifacts that are there -/

/-- An artifact is found, and is no folder. -/
structure Holds (job : Job) (tree : FileTree) (kind : ArtifactKind) (entry : FileEntry) :
    Prop where
  found : tree.find (job.artifact kind) = .ok entry
  notFolder : entry.node ≠ .folder

namespace Holds

variable {entry : FileEntry}

theorem standing (settled : job.Settled tree) (holds : job.Holds tree kind entry) :
    tree.standing (job.artifact kind) = some entry :=
  ((find_eq_ok_iff (settled.direct kind)).mp holds.found).2.1

/-- An artifact that is a file can be read. -/
theorem read {content : ByteArray} (holds : job.Holds tree kind entry)
    (file : entry.node = .file content) : tree.read (job.artifact kind) = .ok content := by
  unfold FileTree.read
  rw [holds.found]
  simp only [bind, Except.bind, file]
  rfl

/-- An artifact is still found if its location keeps its entry. -/
theorem of_standing (settled : job.Settled tree) (grows : Grows tree after)
    (holds : job.Holds tree kind entry)
    (same : after.standing (job.artifact kind) = some entry) : job.Holds after kind entry := by
  rcases (find_eq_ok_iff (settled.direct kind)).mp holds.found with ⟨reaches, _, slashed⟩
  refine ⟨?_, holds.notFolder⟩
  exact (find_eq_ok_iff ((settled.of_grows grows).direct kind)).mpr
    ⟨reaches.of_grows settled.proper grows, same, slashed⟩

/-- Adding files and folders leaves the artifacts that are there. -/
theorem of_extends (settled : job.Settled tree) (extension : Extends tree after)
    (holds : job.Holds tree kind entry) : job.Holds after kind entry := by
  have grows := extension.grows
  refine holds.of_standing settled grows ?_
  unfold FileTree.standing
  rw [destination_eq grows.current_eq]
  exact extension.eq_of_not_folder settled.proper (holds.standing settled) holds.notFolder

/-- Writing one artifact leaves the others. -/
theorem of_written {content : ByteArray} (settled : job.Settled tree) (different : kind ≠ other)
    (written : Written (job.artifact other) content tree after)
    (holds : job.Holds tree kind entry) : job.Holds after kind entry := by
  have grows := Grows.of_change written.change
  refine holds.of_standing settled grows ?_
  have stays := written.change.stays settled.proper (settled.sole kind)
    (settled.apart kind other different)
  unfold FileTree.standing
  rw [destination_eq grows.current_eq]
  exact stays.eq_of_not_folder (holds.standing settled) holds.notFolder

/-- An artifact that was written is there. -/
theorem exists_of_written {content : ByteArray} (settled : job.Settled tree)
    (written : Written (job.artifact kind) content tree after) :
    exists permissions, job.Holds after kind ⟨.file content, tree.clock, permissions⟩ := by
  have grows := Grows.of_change written.change
  rcases written.exists_entry with ⟨permissions, found⟩
  refine ⟨permissions, ?_, by simp⟩
  refine (find_eq_ok_iff ((settled.of_grows grows).direct kind)).mpr
    ⟨written.reaches.of_grows settled.proper grows, ?_, ?_⟩
  · unfold FileTree.standing
    rw [destination_eq grows.current_eq]
    exact found
  · intro slashed
    rw [written.notSlashed] at slashed
    cases slashed

end Holds
end Job

namespace Processor

open Step

variable {processor : Processor σ} {world : World σ} {facts : LanguageFacts}

/-! ## Artifacts that were made anew -/

/-- The bootstrap compiler succeeded in a run from a world, and left another. -/
def Bootstrapped (processor : Processor σ) (job : Job) (world after : World σ) : Prop :=
  exists opened,
    ending (filing (.create job.directory) (createFolders job.directory)) world =
      (.ok (), opened) ∧
    ending (processor.bootstrap job) opened = (.ok (), after)

/-- A text is the printed form of the rule module that a run from a world parsed, with its imports
replaced. -/
def PrintsRules (processor : Processor σ) (job : Job) (world : World σ) (text : String) : Prop :=
  exists bootstrapped module parsed facts decoded term printed,
    processor.Bootstrapped job world bootstrapped ∧
    ending (processor.parse .rules job.artifacts.rules) bootstrapped = (.ok module, parsed) ∧
    ending (processor.decodeFacts job module) parsed = (.ok facts, decoded) ∧
    Rewriting.replaceRuleImports module = .ok term ∧
    ending (processor.prettyPrint .rules term job.artifacts.rules) decoded = (.ok text, printed)

/-- A text is the printed form of the grammar that a run from a world parsed, rewritten and
normalised. -/
def PrintsGrammar (processor : Processor σ) (job : Job) (world : World σ) (text : String) : Prop :=
  exists bootstrapped facts ruled nonterminal raw parsed term grammar normal printed,
    processor.Bootstrapped job world bootstrapped ∧
    ending (processor.processRules job) bootstrapped = (.ok facts, ruled) ∧
    facts.toplevelNonterminal = some nonterminal ∧
    ending (processor.parse .grammar job.artifacts.grammar) ruled = (.ok raw, parsed) ∧
    Rewriting.rewriteGrammar job.language nonterminal raw = .ok term ∧
    ending (tool (.normalise job.language) (processor.toolchain.normalizeGrammar term)) parsed =
      (.ok grammar, normal) ∧
    ending (processor.prettyPrint .grammar grammar job.artifacts.grammar) normal =
      (.ok text, printed)

/-- An artifact holds what was written to it at a time or later. -/
def HoldsSince (job : Job) (tree : FileTree) (time : Timestamp) (kind : ArtifactKind)
    (content : ByteArray) : Prop :=
  exists entry, job.Holds tree kind entry ∧ entry.node = .file content ∧
    time.total ≤ entry.modified.total

section
variable {content : ByteArray} {time : Timestamp} {middle : World σ}

theorem HoldsSince.of_written (settled : job.Settled tree) {other : ArtifactKind}
    {another : ByteArray} (different : kind ≠ other)
    (written : Written (job.artifact other) another tree after)
    (holds : HoldsSince job tree time kind content) : HoldsSince job after time kind content := by
  rcases holds with ⟨entry, held, file, since⟩
  exact ⟨entry, held.of_written settled different written, file, since⟩

/-- A step that writes an artifact writes it. -/
theorem written_of_write (kind : ArtifactKind) (settled : job.Settled world.files)
    (ended : ending (Step.write (job.artifact kind) content) world = (.ok (), middle)) :
    Written (job.artifact kind) content world.files middle.files :=
  written_of_ending settled.proper (settled.direct kind) (settled.plain kind) (filing_eq_ok ended)

theorem holdsSince_of_written (settled : job.Settled tree) (since : time.total ≤ tree.clock.total)
    (written : Written (job.artifact kind) content tree after) :
    HoldsSince job after time kind content := by
  rcases Job.Holds.exists_of_written settled written with ⟨permissions, holds⟩
  exact ⟨_, holds, rfl, since⟩

end

/-- What stands in the place of each artifact when all were made anew. -/
structure Renewed (processor : Processor σ) (job : Job) (world : World σ) (tree : FileTree) :
    Prop where
  holds : forall kind, exists content, HoldsSince job tree world.files.clock kind content
  rules : exists text, HoldsSince job tree world.files.clock .rules (Text.toBytes text) ∧
    processor.PrintsRules job world text
  grammar : exists text, HoldsSince job tree world.files.clock .grammar (Text.toBytes text) ∧
    processor.PrintsGrammar job world text

section
variable (confined : processor.toolchain.Confined)
include confined

theorem grows_of_bootstrapped {bootstrapped : World σ} (formed : world.files.Formed)
    (bootstrap : processor.Bootstrapped job world bootstrapped) :
    Grows world.files bootstrapped.files := by
  rcases bootstrap with ⟨opened, openFolder, compile⟩
  have first := grows_createFolders (.create job.directory) job.directory world formed
  rw [openFolder] at first
  have second := grows_bootstrap confined job opened (Grows.formed formed first)
  rw [compile] at second
  exact first.trans second

/-- Processing the rules writes the printed form of the rewritten rule module. -/
theorem written_of_processRules {bootstrapped ruled : World σ}
    (settled : job.Settled bootstrapped.files)
    (bootstrap : processor.Bootstrapped job world bootstrapped)
    (ended : ending (processor.processRules job) bootstrapped = (.ok facts, ruled)) :
    exists text,
      Written (job.artifact .rules) (Text.toBytes text) bootstrapped.files ruled.files ∧
        processor.PrintsRules job world text := by
  rcases processRules_eq_ok_iff.mp ended with
    ⟨module, parsed, decoded, term, text, printed, parse, decode, replaced, print, write⟩
  have atParsed := (reads_parse confined.orderly _ _).files_eq parse
  have atDecoded := (reads_decodeFacts _ _ _).files_eq decode
  have atPrinted := (reads_prettyPrint confined.orderly _ _ _).files_eq print
  have same : printed.files = bootstrapped.files :=
    atPrinted.trans (atDecoded.trans atParsed)
  have written := written_of_write .rules (same ▸ settled) write
  rw [same] at written
  exact ⟨text, written, bootstrapped, module, parsed, facts, decoded, term, printed, bootstrap,
    parse, decode, replaced, print⟩

/-- Processing the grammar writes the printed form of the rewritten grammar. -/
theorem written_of_processGrammar {bootstrapped ruled grammared : World σ} {grammar : Term}
    (settled : job.Settled ruled.files)
    (bootstrap : processor.Bootstrapped job world bootstrapped)
    (rules : ending (processor.processRules job) bootstrapped = (.ok facts, ruled))
    (ended : ending (processor.processGrammar job facts) ruled = (.ok grammar, grammared)) :
    exists text,
      Written (job.artifact .grammar) (Text.toBytes text) ruled.files grammared.files ∧
        processor.PrintsGrammar job world text := by
  rcases processGrammar_eq_ok_iff.mp ended with
    ⟨nonterminal, raw, parsed, term, normal, text, printed, named, parse, rewriting, normalise,
      print, write⟩
  have atParsed := (reads_parse confined.orderly _ _).files_eq parse
  have atNormal := (reads_normalise confined.orderly _ _).files_eq normalise
  have atPrinted := (reads_prettyPrint confined.orderly _ _ _).files_eq print
  have same : printed.files = ruled.files := atPrinted.trans (atNormal.trans atParsed)
  have written := written_of_write .grammar (same ▸ settled) write
  rw [same] at written
  exact ⟨text, written, bootstrapped, facts, ruled, nonterminal, raw, parsed, term, grammar, normal,
    printed, bootstrap, rules, named, parse, rewriting, normalise, print⟩

/-- When a run has made the artifacts anew, each of them holds what that run wrote last, and in
particular the rule module and the grammar are the rewritten ones. -/
theorem renewed_of_regenerate {after : World σ} (settled : job.Settled world.files)
    (ended : ending (processor.regenerate job) world = (.ok facts, after)) :
    processor.Renewed job world after.files := by
  rcases regenerate_eq_ok_iff.mp ended with ⟨opened, bootstrapped, ruled, grammared, grammar, text,
    read, packed, table, tabled, tableWritten, openFolder, compile, rules, grammars, reading, pack,
    generate, writeTable, services⟩
  have bootstrap : processor.Bootstrapped job world bootstrapped := ⟨opened, openFolder, compile⟩
  have atBootstrapped := grows_of_bootstrapped confined settled.proper.formed bootstrap
  have settledBootstrapped := settled.of_grows atBootstrapped
  rcases written_of_processRules confined settledBootstrapped bootstrap rules with
    ⟨rulesText, writtenRules, printsRules⟩
  have atRuled : Grows world.files ruled.files :=
    atBootstrapped.trans (Grows.of_change writtenRules.change)
  have settledRuled := settled.of_grows atRuled
  rcases written_of_processGrammar confined settledRuled bootstrap rules grammars with
    ⟨grammarText, writtenGrammar, printsGrammar⟩
  have atGrammared : Grows world.files grammared.files :=
    atRuled.trans (Grows.of_change writtenGrammar.change)
  have settledGrammared := settled.of_grows atGrammared
  have sameRead := (reads_readText _).files_eq reading
  have writtenPackage := written_of_write .packagedGrammar (sameRead ▸ settledGrammared) pack
  rw [sameRead] at writtenPackage
  have atPacked : Grows world.files packed.files :=
    atGrammared.trans (Grows.of_change writtenPackage.change)
  have settledPacked := settled.of_grows atPacked
  have sameTabled := (reads_generatePpTable confined.orderly _ _).files_eq generate
  have writtenTable := written_of_write .ppTable (sameTabled ▸ settledPacked) writeTable
  rw [sameTabled] at writtenTable
  have atTable : Grows world.files tableWritten.files :=
    atPacked.trans (Grows.of_change writtenTable.change)
  have settledTable := settled.of_grows atTable
  have writtenServices := written_of_write .editorServices settledTable services
  have rulesHeld := holdsSince_of_written settledBootstrapped atBootstrapped.clock_le writtenRules
  have grammarHeld := holdsSince_of_written settledRuled atRuled.clock_le writtenGrammar
  have packageHeld := holdsSince_of_written settledGrammared atGrammared.clock_le writtenPackage
  have tableHeld := holdsSince_of_written settledPacked atPacked.clock_le writtenTable
  have servicesHeld := holdsSince_of_written settledTable atTable.clock_le writtenServices
  -- each artifact outlives the writing of those that come after it
  have rulesKept := (((rulesHeld.of_written settledRuled (by decide) writtenGrammar).of_written
    settledGrammared (by decide) writtenPackage).of_written
    settledPacked (by decide) writtenTable).of_written settledTable (by decide) writtenServices
  have grammarKept := ((grammarHeld.of_written settledGrammared (by decide)
    writtenPackage).of_written settledPacked (by decide) writtenTable).of_written
    settledTable (by decide) writtenServices
  have packageKept := (packageHeld.of_written settledPacked (by decide) writtenTable).of_written
    settledTable (by decide) writtenServices
  have tableKept := tableHeld.of_written settledTable (by decide) writtenServices
  refine ⟨?_, ⟨rulesText, rulesKept, printsRules⟩, ⟨grammarText, grammarKept, printsGrammar⟩⟩
  intro kind
  cases kind with
  | grammar => exact ⟨_, grammarKept⟩
  | rules => exact ⟨_, rulesKept⟩
  | editorServices => exact ⟨_, servicesHeld⟩
  | packagedGrammar => exact ⟨_, packageKept⟩
  | ppTable => exact ⟨_, tableKept⟩

end

end Processor
end BaseLanguage
