import BaseLanguage.Proofs.Processor.History
import BaseLanguage.Proofs.Rewriting.Rules
import BaseLanguage.Proofs.Term.RoundTrip

namespace BaseLanguage

/-!
# Running again

A run that has made the artifacts anew leaves nothing to do for the next one.  The next run finds
the artifacts newer than the definition, reads the rule module back, decodes the facts that the
first run had decoded before it rewrote the module, and finds the shared modules in place.  So it
changes no file, and it gives the same descriptor.

That the artifacts outlive the run that made them is seen at the writes of the run, of which there
are five.  Each is made at the time of the clock, and the later ones go to other files; seeding only
adds.  Nothing needs to be known of links or of the times of other files for this, and the bootstrap
compiler may have done anything to files before.
-/

open FileTree

variable {σ : Type} {job : Job} {tree middle after final : FileTree} {kind other : ArtifactKind}

/-! ## Artifacts that are written in turn -/

/-- What was written to an artifact, and when. -/
structure ArtifactRecord where
  kind : ArtifactKind
  content : ByteArray
  clock : Timestamp

namespace Job

/-- The artifacts are five different files. -/
structure Distinct (job : Job) (tree : FileTree) : Prop where
  exists_file : forall kind, exists number content time permissions,
    tree.LeadsTo (job.artifact kind) number ∧
      tree.node? number = some ⟨.file content, time, permissions⟩
  apart : forall kind other number, tree.LeadsTo (job.artifact kind) number ->
    tree.LeadsTo (job.artifact other) number -> kind = other

/-- Artifacts are written one after the other, each at the time of the clock. -/
inductive Writes (job : Job) : FileTree -> List ArtifactRecord -> FileTree -> Prop
  | none (tree : FileTree) : Writes job tree [] tree
  | some {tree middle after : FileTree} {kind : ArtifactKind} {content : ByteArray}
      {more : List ArtifactRecord}
      (wrote : ending (write (job.artifact kind) content) tree = (.ok (), middle))
      (rest : Writes job middle more after) :
      Writes job tree (⟨kind, content, tree.clock⟩ :: more) after

/-- An artifact is what was written to it, with the time at which that was done. -/
def Keeps (job : Job) (tree : FileTree) (record : ArtifactRecord) : Prop :=
  exists permissions, job.Holds tree record.kind ⟨.file record.content, record.clock, permissions⟩

variable {content : ByteArray} {record : ArtifactRecord} {records : List ArtifactRecord}

theorem Keeps.exists_place (keeps : job.Keeps tree record) :
    exists place permissions, tree.locate (job.artifact record.kind) = .ok place ∧
      tree.get? place = some ⟨.file record.content, record.clock, permissions⟩ ∧
      meansFolder (job.artifact record.kind) = false := by
  rcases keeps with ⟨permissions, found, notFolder⟩
  rcases bind_eq_ok_iff.mp found with ⟨place, located, standing⟩
  rcases entryAt_eq_ok_iff.mp standing with ⟨foundPlace, slashed⟩
  refine ⟨place, permissions, located, foundPlace, ?_⟩
  cases meant : meansFolder (job.artifact record.kind) with
  | false => rfl
  | true => exact absurd (slashed meant) notFolder

theorem Keeps.of_place {place : Location} {permissions : Nat}
    (located : tree.locate (job.artifact record.kind) = .ok place)
    (found : tree.get? place = some ⟨.file record.content, record.clock, permissions⟩)
    (notSlashed : meansFolder (job.artifact record.kind) = false) : job.Keeps tree record := by
  refine ⟨permissions, bind_eq_ok_iff.mpr ⟨place, located, ?_⟩, by simp⟩
  refine entryAt_eq_ok_iff.mpr ⟨found, fun slashed => ?_⟩
  rw [notSlashed] at slashed
  cases slashed

/-- Adding files and folders leaves the artifacts. -/
theorem Keeps.of_extends (formed : tree.Formed) (extension : Extends tree after)
    (keeps : job.Keeps tree record) : job.Keeps after record := by
  rcases keeps.exists_place with ⟨place, permissions, located, found, notSlashed⟩
  have follows := extension.grows.follows formed
  exact .of_place (follows.locateWith located) (extension.entry_eq formed found (by simp))
    notSlashed

section
variable (formed : tree.Formed) (distinct : job.Distinct final)
include formed distinct

/-- Writing one artifact leaves the others, if they turn out to be different files. -/
theorem Keeps.of_write (follows : Follows middle final)
    (wrote : ending (write (job.artifact other) content) tree = (.ok (), middle))
    (different : record.kind ≠ other) (keeps : job.Keeps tree record) :
    job.Keeps middle record := by
  have outcome := write_outcome formed (job.artifact other) content
  rw [wrote] at outcome
  cases outcome with
  | swallowed => exact keeps
  | @written otherPlace _ _ locatedOther _ change _ =>
    rcases keeps.exists_place with ⟨place, permissions, located, found, notSlashed⟩
    have followsMiddle := change.follows formed
    have untouched : tree.number? place ≠ tree.number? otherPlace := by
      intro same
      rcases get?_eq_some_iff.mp found with ⟨number, numbered, _⟩
      have leads : tree.LeadsTo (job.artifact record.kind) number := ⟨place, located, numbered⟩
      have leadsOther : tree.LeadsTo (job.artifact other) number :=
        ⟨otherPlace, locatedOther, same.symm.trans numbered⟩
      have followsFinal := followsMiddle.trans follows
      exact different (distinct.apart _ _ number (leads.of_follows followsFinal)
        (leadsOther.of_follows followsFinal))
    exact .of_place (followsMiddle.locateWith located)
      (change.eq_of_not_folder formed found (by simp) untouched) notSlashed

/-- Writing an artifact writes it, if it turns out to be a file. -/
theorem keeps_of_write (follows : Follows middle final)
    (wrote : ending (write (job.artifact kind) content) tree = (.ok (), middle)) :
    job.Keeps middle ⟨kind, content, tree.clock⟩ := by
  have outcome := write_outcome formed (job.artifact kind) content
  rw [wrote] at outcome
  cases outcome with
  | @swallowed place entry located found notPlain =>
    rcases distinct.exists_file kind with
      ⟨number, last, time, permissions, ⟨same, locatedFinal, numbered⟩, known⟩
    have locatedAfter : final.locate (job.artifact kind) = .ok place :=
      follows.locateWith located
    rw [locatedFinal, Except.ok.injEq] at locatedAfter
    subst locatedAfter
    rcases follows.exists_like _ _ found with ⟨new, foundNew, like⟩
    rw [get?_eq_some_iff.mpr ⟨number, numbered, known⟩, Option.some.injEq] at foundNew
    subst foundNew
    exact absurd (Or.inr (like.isFile_iff.mp ⟨last, rfl⟩)) notPlain
  | written located notSlashed change found =>
    exact .of_place ((change.follows formed).locateWith located) found notSlashed

end

namespace Writes

/-- Writing artifacts is a number of changes. -/
theorem grows (formed : tree.Formed) (writes : job.Writes tree records after) :
    Grows tree after := by
  induction writes with
  | none => exact Relation.ReflTransGen.refl
  | some wrote _ inductionHypothesis =>
    have first := grows_of_write formed wrote
    exact first.trans (inductionHypothesis (first.formed formed))

/-- Nothing is written before it is begun. -/
theorem clock_le (formed : tree.Formed) (writes : job.Writes tree records after) :
    forall record, record ∈ records -> tree.clock.total ≤ record.clock.total := by
  induction writes with
  | none =>
    intro record member
    cases member
  | some wrote _ inductionHypothesis =>
    have first := grows_of_write formed wrote
    intro record member
    rcases List.mem_cons.mp member with rfl | late
    · exact Int.le_refl _
    · exact Int.le_trans first.clock_le (inductionHypothesis (first.formed formed) record late)

/-- An artifact that is not written again is kept. -/
theorem keeps_of_keeps (formed : tree.Formed) (distinct : job.Distinct final)
    (writes : job.Writes tree records after) (follows : Follows after final)
    (notAgain : record.kind ∉ records.map ArtifactRecord.kind) (keeps : job.Keeps tree record) :
    job.Keeps after record := by
  induction writes with
  | none => exact keeps
  | some wrote rest inductionHypothesis =>
    have formedMiddle := (grows_of_write formed wrote).formed formed
    have followsMiddle := ((rest.grows formedMiddle).follows formedMiddle).trans follows
    rw [List.map_cons, List.mem_cons, not_or] at notAgain
    exact inductionHypothesis formedMiddle follows notAgain.2
      (keeps.of_write formed distinct followsMiddle wrote notAgain.1)

/-- Of artifacts that are written once each, all are kept. -/
theorem keeps (formed : tree.Formed) (distinct : job.Distinct final)
    (writes : job.Writes tree records after) (follows : Follows after final)
    (once : (records.map ArtifactRecord.kind).Nodup) :
    forall record, record ∈ records -> job.Keeps after record := by
  induction writes with
  | none =>
    intro record member
    cases member
  | some wrote rest inductionHypothesis =>
    have formedMiddle := (grows_of_write formed wrote).formed formed
    have followsMiddle := ((rest.grows formedMiddle).follows formedMiddle).trans follows
    rw [List.map_cons, List.nodup_cons] at once
    intro record member
    rcases List.mem_cons.mp member with rfl | later
    · exact rest.keeps_of_keeps formedMiddle distinct follows once.1
        (keeps_of_write formed distinct followsMiddle wrote)
    · exact inductionHypothesis formedMiddle follows once.2 record later

end Writes

/-- In a settled tree, no two artifacts lead to one file. -/
theorem Settled.eq_of_leadsTo (settled : job.Settled tree) {number : Nat}
    (leads : tree.LeadsTo (job.artifact kind) number)
    (leadsOther : tree.LeadsTo (job.artifact other) number) : kind = other := by
  rcases leads with ⟨place, located, numbered⟩
  rcases leadsOther with ⟨otherPlace, locatedOther, numberedOther⟩
  rcases (locate_eq_ok_iff (settled.direct kind)).mp located with ⟨_, rfl⟩
  rcases (locate_eq_ok_iff (settled.direct other)).mp locatedOther with ⟨_, rfl⟩
  by_contra different
  exact settled.apart kind other different
    (settled.sole kind number _ numbered numberedOther).symm

/-- In a settled tree, artifacts that are files are different files. -/
theorem Settled.distinct (settled : job.Settled tree)
    (files : forall kind, exists entry content, job.Holds tree kind entry ∧
      entry.node = .file content) : job.Distinct tree := by
  refine ⟨fun kind => ?_, fun _ _ _ => settled.eq_of_leadsTo⟩
  rcases files kind with ⟨⟨node, time, permissions⟩, content, holds, file⟩
  have file : node = .file content := file
  subst file
  rcases (find_eq_ok_iff (settled.direct kind)).mp holds.found with ⟨reaches, standing, _⟩
  rcases get?_eq_some_iff.mp standing with ⟨number, numbered, known⟩
  have located := (locate_eq_ok_iff (settled.direct kind)).mpr ⟨reaches, rfl⟩
  exact ⟨number, content, time, permissions, ⟨_, located, numbered⟩, known⟩

end Job

/-! ## Rule modules that are read back -/

/-- In a workshop, a file that holds what a rule module was printed as is parsed to the module. -/
def Toolchain.Rereads (toolchain : Toolchain σ) (workshop : Workshop σ) (module : Term) : Prop :=
  forall table input start text before printed,
    ending (toolchain.prettyPrint .rules module) before = (.ok text, printed) ->
    workshop.files.read input = .ok (Text.toBytes text) ->
    exists later, ending (toolchain.parse table input start) workshop = (.ok module, later)

namespace Processor

open Step

variable {processor : Processor σ} {world made : World σ}

/-! ## Runs that make the artifacts anew -/

/-- What a run that makes the artifacts anew finds out and writes. -/
structure Making where
  facts : LanguageFacts
  /-- The rewritten rule module. -/
  module : Term
  /-- What is written to the artifacts, in turn. -/
  records : List ArtifactRecord

/-- A run from a world makes the artifacts anew, and leaves another world when it has made them.
The steps are those of the run, each from the world that the one before it left. -/
inductive Makes (processor : Processor σ) (job : Job) (world : World σ) : Making -> World σ -> Prop
  | intro {bootstrapped parsed decoded printed ruled parsedGrammar normal printedGrammar grammared
        read packed tabled tableWritten after : World σ}
      {raw module rawGrammar rewrittenGrammar grammar : Term} {facts : LanguageFacts}
      {nonterminal text grammarText reread : String} {table : ByteArray}
      (bootstrap : processor.Bootstrapped job world bootstrapped)
      (parse : ending (processor.parse .rules job.artifacts.rules) bootstrapped =
        (.ok raw, parsed))
      (decode : ending (processor.decodeFacts job raw) parsed = (.ok facts, decoded))
      (replace : Rewriting.replaceRuleImports raw = .ok module)
      (print : ending (processor.prettyPrint .rules module job.artifacts.rules) decoded =
        (.ok text, printed))
      (writeRules : ending (Step.write job.artifacts.rules (Text.toBytes text)) printed =
        (.ok (), ruled))
      (named : facts.toplevelNonterminal = some nonterminal)
      (parseGrammar : ending (processor.parse .grammar job.artifacts.grammar) ruled =
        (.ok rawGrammar, parsedGrammar))
      (rewriteGrammar : Rewriting.rewriteGrammar job.language nonterminal rawGrammar =
        .ok rewrittenGrammar)
      (normalise : ending (tool (.normalise job.language)
        (processor.toolchain.normalizeGrammar rewrittenGrammar)) parsedGrammar =
          (.ok grammar, normal))
      (printGrammar : ending (processor.prettyPrint .grammar grammar job.artifacts.grammar) normal =
        (.ok grammarText, printedGrammar))
      (writeGrammar : ending (Step.write job.artifacts.grammar (Text.toBytes grammarText))
        printedGrammar = (.ok (), grammared))
      (readGrammar : ending (readText job.artifacts.grammar) grammared = (.ok reread, read))
      (pack : ending (Step.write job.artifacts.packagedGrammar (Text.toBytes (packaged reread)))
        read = (.ok (), packed))
      (generate : ending (tool (.generateTable job.language)
        (processor.toolchain.generatePpTable grammar)) packed = (.ok table, tabled))
      (writeTable : ending (Step.write job.artifacts.ppTable table) tabled = (.ok (), tableWritten))
      (writeServices : ending (Step.write job.artifacts.editorServices
        (Text.toBytes (editorServices job.language))) tableWritten = (.ok (), after)) :
      Makes processor job world
        ⟨facts, module,
          [⟨.rules, Text.toBytes text, printed.files.clock⟩,
            ⟨.grammar, Text.toBytes grammarText, printedGrammar.files.clock⟩,
            ⟨.packagedGrammar, Text.toBytes (packaged reread), read.files.clock⟩,
            ⟨.ppTable, table, tabled.files.clock⟩,
            ⟨.editorServices, Text.toBytes (editorServices job.language),
              tableWritten.files.clock⟩]⟩ after

/-- Making the artifacts anew succeeds exactly if a run makes them. -/
theorem regenerate_eq_ok_iff_makes {facts : LanguageFacts} :
    ending (processor.regenerate job) world = (.ok facts, made) <->
      exists making, processor.Makes job world making made ∧ making.facts = facts := by
  constructor
  · intro ended
    rcases regenerate_eq_ok_iff.mp ended with ⟨opened, bootstrapped, ruled, grammared, grammar,
      reread, read, packed, table, tabled, tableWritten, openFolder, compile, rules, grammars,
      reading, pack, generate, writeTable, services⟩
    rcases processRules_eq_ok_iff.mp rules with
      ⟨raw, parsed, decoded, module, text, printed, parse, decode, replace, print, writeRules⟩
    rcases processGrammar_eq_ok_iff.mp grammars with ⟨nonterminal, rawGrammar, parsedGrammar,
      rewrittenGrammar, normal, grammarText, printedGrammar, named, parseGrammar, rewriteGrammar,
      normalise, printGrammar, writeGrammar⟩
    exact ⟨_, .intro ⟨opened, openFolder, compile⟩ parse decode replace print writeRules named
      parseGrammar rewriteGrammar normalise printGrammar writeGrammar reading pack generate
      writeTable services, rfl⟩
  · rintro ⟨making, makes, rfl⟩
    cases makes with
    | intro bootstrap parse decode replace print writeRules named parseGrammar rewriteGrammar
        normalise printGrammar writeGrammar reading pack generate writeTable services =>
        rcases bootstrap with ⟨opened, openFolder, compile⟩
        have rules := processRules_eq_ok_iff.mpr
          ⟨_, _, _, _, _, _, parse, decode, replace, print, writeRules⟩
        have grammars := processGrammar_eq_ok_iff.mpr ⟨_, _, _, _, _, _, _, named, parseGrammar,
          rewriteGrammar, normalise, printGrammar, writeGrammar⟩
        exact regenerate_eq_ok_iff.mpr ⟨_, _, _, _, _, _, _, _, _, _, _, openFolder, compile, rules,
          grammars, reading, pack, generate, writeTable, services⟩

variable {making : Making}

/-- The facts that were decoded before the rule module was rewritten are decoded again from the
rewritten one. -/
theorem Makes.decode_eq (makes : processor.Makes job world making made) :
    (decode (processor.configuration.leadFor job.language) making.module).1 = .ok making.facts := by
  cases makes with
  | intro bootstrap parse decoding replace =>
    rcases Rewriting.replaceRuleImports_eq_ok_iff.mp replace with
      ⟨constructor, header, declarations, more, rfl, rfl⟩
    have inRaw : declarationsOf (.appl constructor (header :: .known declarations :: more)) =
        .ok declarations := rfl
    have inRewritten : declarationsOf
        (.appl constructor [header, .known (Rewriting.importShared declarations)]) =
          .ok (Rewriting.importShared declarations) := rfl
    rw [decode_eq_of_forM_eq _ inRewritten inRaw (forM_importShared _ declarations)]
    exact (decodeFacts_eq_ok_iff.mp decoding).1

/-- The rule module is the rewritten form of one that was parsed. -/
theorem Makes.exists_parse (makes : processor.Makes job world making made) :
    exists before raw parsed,
      ending (processor.toolchain.parse (processor.configuration.parseTable .rules)
        job.artifacts.rules (processor.configuration.startSymbol .rules)) before =
          (.ok raw, parsed) ∧
        Rewriting.replaceRuleImports raw = .ok making.module := by
  cases makes with
  | intro _ parse _ replace => exact ⟨_, _, _, tool_eq_ok parse, replace⟩

/-- The rule module is written as what it was printed as. -/
theorem Makes.exists_print (makes : processor.Makes job world making made) :
    exists before text printed clock,
      ending (processor.toolchain.prettyPrint .rules making.module) before = (.ok text, printed) ∧
        ⟨.rules, Text.toBytes text, clock⟩ ∈ making.records := by
  cases makes with
  | intro _ _ _ _ print => exact ⟨_, _, _, _, tool_eq_ok print, List.mem_cons_self⟩

theorem formed_of_bootstrapped (orderly : processor.toolchain.Orderly)
    (formed : world.files.Formed) (bootstrap : processor.Bootstrapped job world made) :
    made.files.Formed := by
  rcases bootstrap with ⟨opened, openFolder, compile⟩
  have outcome := createFolders_outcome job.directory formed
  rw [filing_eq_ok openFolder] at outcome
  have formedOpened : opened.files.Formed := outcome.gains.formed formed
  unfold Processor.bootstrap at compile
  rcases ending_bind_eq_ok_iff.mp compile with ⟨report, compiled, worked, reported⟩
  have formedCompiled := orderly.bootstrap (request processor.configuration job)
    opened.toWorkshop formedOpened
  rw [tool_eq_ok worked] at formedCompiled
  split at reported
  · cases reported
    exact formedCompiled
  · cases reported

/-- Once the bootstrap compiler is done, the artifacts are written in turn, each of them once. -/
theorem Makes.writes (orderly : processor.toolchain.Orderly)
    (makes : processor.Makes job world making made) :
    exists bootstrapped, processor.Bootstrapped job world bootstrapped ∧
      job.Writes bootstrapped.files making.records made.files ∧
      making.records.map ArtifactRecord.kind =
        [.rules, .grammar, .packagedGrammar, .ppTable, .editorServices] := by
  cases makes with
  | intro bootstrap parse decode replace print writeRules named parseGrammar rewriteGrammar
      normalise printGrammar writeGrammar reading pack generate writeTable services =>
      have atParsed := (reads_parse orderly _ _).files_eq parse
      have atDecoded := (reads_decodeFacts _ _ _).files_eq decode
      have untilRules := (reads_prettyPrint orderly _ _ _).files_eq print
      rw [atDecoded, atParsed] at untilRules
      have atParsedGrammar := (reads_parse orderly _ _).files_eq parseGrammar
      have atNormal := (reads_normalise orderly _ _).files_eq normalise
      have untilGrammar := (reads_prettyPrint orderly _ _ _).files_eq printGrammar
      rw [atNormal, atParsedGrammar] at untilGrammar
      have untilPackage := (reads_readText _).files_eq reading
      have untilTable := (reads_generatePpTable orderly _ _).files_eq generate
      -- every write starts from the files that the one before it left
      have rulesWritten := filing_eq_ok writeRules
      have grammarWritten := filing_eq_ok writeGrammar
      have packageWritten := filing_eq_ok pack
      have tableWritten := filing_eq_ok writeTable
      have servicesWritten := filing_eq_ok services
      rw [← untilGrammar] at rulesWritten
      rw [← untilPackage] at grammarWritten
      rw [← untilTable] at packageWritten
      refine ⟨_, bootstrap, ?_, rfl⟩
      rw [← untilRules]
      exact .some rulesWritten (.some grammarWritten (.some packageWritten
        (.some tableWritten (.some servicesWritten (.none _)))))

/-- The artifacts are written after the run has begun. -/
theorem Makes.clock_le (confined : processor.toolchain.Confined) (formed : world.files.Formed)
    (makes : processor.Makes job world making made) :
    forall record, record ∈ making.records ->
      world.files.clock.total ≤ record.clock.total := by
  rcases makes.writes confined.orderly with ⟨bootstrapped, bootstrap, writes, _⟩
  have grows := grows_of_bootstrapped confined formed bootstrap
  intro record member
  exact Int.le_trans grows.clock_le (writes.clock_le (grows.formed formed) record member)

/-! ## The next run -/

/-- Artifacts that were written after the definition had changed are fresh. -/
theorem artifactsFresh_of_keeps {time : Timestamp}
    (dated : tree.modified job.definition = .ok time)
    (kept : forall kind, exists record, job.Keeps tree record ∧ record.kind = kind ∧
      time.before record.clock = true) :
    Freshness.artifactsFresh tree job.definition job.artifacts = .ok true := by
  have newer : forall item, item ∈ job.artifacts.toList ->
      Freshness.isNewer tree time item.2 = true := by
    intro item member
    rcases List.mem_map.mp member with ⟨kind, _, rfl⟩
    rcases kept kind with ⟨record, ⟨permissions, found, _⟩, rfl, later⟩
    have modified : tree.modified (job.artifacts.get record.kind) = .ok record.clock :=
      bind_eq_ok_iff.mpr ⟨_, found, rfl⟩
    unfold Freshness.isNewer
    rw [modified]
    exact later
  unfold Freshness.artifactsFresh
  rw [dated]
  exact congrArg Except.ok (List.all_eq_true.mpr newer)

/-- A run that is not told to make anything anew and finds the artifacts fresh reads the rule module
back and decodes it, and if the shared modules are in place it does no more. -/
theorem ending_runJob_of_fresh {read : World σ} {module : Term} {facts : LanguageFacts}
    (notForced : processor.force = false)
    (fresh : Freshness.artifactsFresh world.files job.definition job.artifacts = .ok true)
    (parse : ending (processor.parse .rules job.artifacts.rules) world = (.ok module, read))
    (decoded : (decode (processor.configuration.leadFor job.language) module).1 = .ok facts)
    (inPlace : InPlace job read.files) :
    ending (processor.runJob job) world =
      (.ok ⟨processor.describe job facts, .upToDate⟩, { read with
        warnings := read.warnings ++
          (decode (processor.configuration.leadFor job.language) module).2 ++
          (processor.describe job facts).warnings }) := by
  have kept : ¬ processor.Regenerates job world.files := by
    rintro (told | stale)
    · rw [notForced] at told
      cases told
    · rw [fresh] at stale
      cases stale
  have reloaded : ending (processor.reloadFacts job) world = (.ok facts, { read with
      warnings := read.warnings ++
        (decode (processor.configuration.leadFor job.language) module).2 }) :=
    ending_bind_eq_ok_iff.mpr ⟨module, read, parse, decodeFacts_eq_ok_iff.mpr ⟨decoded, rfl⟩⟩
  have refreshed : ending (processor.refresh job) world = (.ok (facts, .upToDate), { read with
      warnings := read.warnings ++
        (decode (processor.configuration.leadFor job.language) module).2 }) := by
    rw [ending_refresh_of_not_regenerates kept, fresh]
    dsimp only
    rw [reloaded]
  exact runJob_eq_ok_iff.mpr
    ⟨facts, _, _, refreshed, ending_seed_of_inPlace inPlace, rfl, rfl⟩

end Processor

namespace Setting

open Processor

variable {setting : Setting} {world after : World σ} {force : Bool} {toolchain : Toolchain σ}
  {outcome : ProcessOutcome} {time : Timestamp}

/-! ## Runs between different places -/

/-- A run that made the artifacts anew was completed. -/
theorem exists_completes (ended : setting.runEnding force toolchain world = (.ok outcome, after))
    (regenerated : outcome.status = .regenerated) :
    exists middle, setting.Completes world (.run force toolchain) middle := by
  have run : ending ((setting.processor force toolchain).runJob setting.job) world =
      (.ok outcome, after) :=
    (ending_process (setting.processor force toolchain) setting.found world).symm.trans ended
  rcases runJob_eq_ok_iff.mp run with ⟨facts, middle, _, refresh, _⟩
  rw [regenerated] at refresh
  rcases refresh_eq_regenerated refresh with ⟨regenerates, made⟩
  exact ⟨middle, regenerates, facts, made⟩

/-- Where the paths of a run lead to different places, the artifacts that it has made are different
files. -/
theorem distinct_of_regenerated (settled : setting.job.Settled world.files)
    (confined : toolchain.Confined)
    (ended : setting.runEnding force toolchain world = (.ok outcome, after))
    (regenerated : outcome.status = .regenerated) : setting.job.Distinct after.files := by
  rcases exists_completes ended regenerated with ⟨middle, completes⟩
  have tame : (Event.run force toolchain).IsConfined := confined
  rcases grows_of_completes settled tame completes with ⟨grows, extension⟩
  have settledMiddle := settled.of_grows grows
  have left : (setting.next world (.run force toolchain)).files = after.files :=
    congrArg (fun ending => ending.2.files) ended
  rw [left] at extension
  refine (settledMiddle.of_grows extension.grows).distinct fun kind => ?_
  rcases (renewed_of_completes settled confined completes).holds kind with
    ⟨content, entry, holds, file, _⟩
  exact ⟨entry, content, holds.of_extends settledMiddle extension, file⟩

end Setting

/-! ## Scripted tools

The scripted tools read back whatever readable term they have shown.  All that they parse is
readable, and rewriting a readable rule module gives a readable one.
-/

namespace Rewriting

theorem isReadable_of_replaced {module rewritten : Term} (readable : module.IsReadable)
    (replace : replaceRuleImports module = .ok rewritten) : rewritten.IsReadable := by
  rcases replaceRuleImports_eq_ok_iff.mp replace with
    ⟨constructor, header, declarations, more, rfl, rfl⟩
  have shared : ruleImport.IsReadable := by
    have read : Term.parse ruleImport.print = .ok ruleImport := by decide +kernel
    exact Term.isReadable_of_parse read
  unfold Term.known at readable ⊢
  simp only [Term.IsReadable, Term.AreReadable] at readable ⊢
  rcases readable with ⟨name, readableHeader, readableDeclarations, _⟩
  refine ⟨name, readableHeader, Term.areReadable_iff.mpr fun term member => ?_, trivial⟩
  rcases List.mem_cons.mp member with rfl | kept
  · exact shared
  · exact Term.areReadable_iff.mp readableDeclarations term (List.mem_filter.mp kept).1

end Rewriting

namespace ScriptedTools

variable {workshop : Workshop ScriptedTools}

/-- Without failures in the script, calls are answered. -/
theorem exists_entered (quiet : workshop.tools.script.failures = []) (call : ToolCall) :
    exists later, ending (enter call) workshop = (.ok workshop.tools.script, later) ∧
      later.files = workshop.files := by
  refine ⟨⟨workshop.files, { workshop.tools with calls := workshop.tools.calls ++ [call] }⟩, ?_,
    rfl⟩
  unfold enter
  rw [ending_bind, ending_modify]
  dsimp only
  rw [ending_bind, ending_get]
  dsimp only
  rw [quiet]
  rfl

theorem rereads (quiet : workshop.tools.script.failures = []) {module : Term}
    (readable : module.IsReadable) : toolchain.Rereads workshop module := by
  intro table input start text before printed print read
  have shown : text = module.print ++ "\n" := by
    rcases ending_bind_eq_ok_iff.mp print with ⟨_, entered, _, ended⟩
    cases ended
    rfl
  rcases exists_entered quiet (.parse table input start) with ⟨later, entered, files⟩
  have spelled : later.files.readText input = .ok text := by
    have bytes : Text.ofBytes? (Text.toBytes text) = some text := dif_pos text.isValidUTF8
    unfold FileTree.readText
    rw [files, read]
    simp only [bind, Except.bind, bytes]
    rfl
  have parsed : Term.parse text = .ok module := by
    rw [shown]
    refine Term.parse_print_append_of_isReadable readable fun c member => ?_
    rw [List.mem_singleton.mp member]
    decide
  refine ⟨later, ending_bind_eq_ok_iff.mpr ⟨_, later, entered, ?_⟩⟩
  rw [ending_bind, ending_get]
  dsimp only
  rw [spelled]
  dsimp only
  rw [parsed]
  rfl

/-- What the scripted tools parse is readable. -/
theorem isReadable_of_parse {table input : Path} {start : String} {term : Term}
    {later : Workshop ScriptedTools}
    (parsed : ending (toolchain.parse table input start) workshop = (.ok term, later)) :
    term.IsReadable := by
  rcases ending_bind_eq_ok_iff.mp parsed with ⟨_, entered, _, rest⟩
  rcases ending_bind_eq_ok_iff.mp rest with ⟨current, _, _, ended⟩
  split at ended
  · cases ended
  · split at ended
    · next read =>
        cases ended
        exact Term.isReadable_of_parse read
    · cases ended

/-- The scripted tools read back whatever rule module a run of theirs has rewritten. -/
theorem rereads_of_makes (quiet : workshop.tools.script.failures = [])
    {processor : Processor ScriptedTools} (scripted : processor.toolchain = toolchain)
    {world made : World ScriptedTools} {making : Processor.Making}
    (makes : processor.Makes job world making made) :
    toolchain.Rereads workshop making.module := by
  rcases makes.exists_parse with ⟨before, raw, parsed, parse, replace⟩
  rw [scripted] at parse
  exact rereads quiet (Rewriting.isReadable_of_replaced (isReadable_of_parse parse) replace)

end ScriptedTools

namespace Setting

open Processor

variable {setting : Setting} {world after : World σ} {force : Bool} {toolchain : Toolchain σ}
  {outcome : ProcessOutcome} {time : Timestamp}

/-! ## Running again -/

/-- After a run that made the artifacts anew, another one that is not told to changes nothing: it
finds them up to date, asks nothing of the bootstrap compiler, leaves all files as they are, and
gives the same descriptor.  This holds if the artifacts are different files in the end, if the run
wrote each of them later than the definition was changed, and if the rule module that it printed is
read back as it was. -/
theorem runEnding_again (formed : world.files.Formed) (orderly : toolchain.Orderly)
    (ended : setting.runEnding force toolchain world = (.ok outcome, after))
    (regenerated : outcome.status = .regenerated)
    (distinct : setting.job.Distinct after.files)
    (dated : after.files.modified setting.job.definition = .ok time)
    (later : forall making made,
      (setting.processor force toolchain).Makes setting.job world making made ->
        forall record, record ∈ making.records -> time.before record.clock = true)
    (rereads : forall making made,
      (setting.processor force toolchain).Makes setting.job world making made ->
        toolchain.Rereads after.toWorkshop making.module) :
    exists again final, again.status = .upToDate ∧ again.descriptor = outcome.descriptor ∧
      final.files = after.files ∧
      forall bootstrap,
        setting.runEnding false { toolchain with bootstrap } after = (.ok again, final) := by
  have run : ending ((setting.processor force toolchain).runJob setting.job) world =
      (.ok outcome, after) :=
    (ending_process (setting.processor force toolchain) setting.found world).symm.trans ended
  rcases runJob_eq_ok_iff.mp run with ⟨facts, made, seeded, refresh, seed, described, left⟩
  rw [regenerated] at refresh
  rcases regenerate_eq_ok_iff_makes.mp (refresh_eq_regenerated refresh).2 with
    ⟨making, makes, rfl⟩
  rcases makes.writes orderly with ⟨bootstrapped, bootstrap, writes, kinds⟩
  have formedStart : bootstrapped.files.Formed := formed_of_bootstrapped orderly formed bootstrap
  have formedMade : made.files.Formed := (writes.grows formedStart).formed formedStart
  have seedOutcome := seed_outcome formedMade setting.named_directory
  rw [seed] at seedOutcome
  have files : after.files = seeded.files := by rw [left]
  have extension : Extends made.files after.files := files ▸ seedOutcome.extension
  have kept : forall record, record ∈ making.records -> setting.job.Keeps after.files record := by
    have once : (making.records.map ArtifactRecord.kind).Nodup := by
      rw [kinds]
      decide
    intro record member
    exact (writes.keeps formedStart distinct (extension.grows.follows formedMade) once record
      member).of_extends formedMade extension
  have fresh : Freshness.artifactsFresh after.files setting.job.definition
      setting.job.artifacts = .ok true := by
    refine artifactsFresh_of_keeps dated fun kind => ?_
    have listed : kind ∈ making.records.map ArtifactRecord.kind := by
      rw [kinds]
      cases kind <;> decide
    rcases List.mem_map.mp listed with ⟨record, member, same⟩
    exact ⟨record, kept record member, same, later making made makes record member⟩
  rcases makes.exists_print with ⟨before, text, printed, clock, print, member⟩
  have reads : after.files.read setting.job.artifacts.rules = .ok (Text.toBytes text) := by
    rcases kept _ member with ⟨permissions, holds⟩
    exact holds.read rfl
  rcases rereads making made makes (setting.configuration.parseTable .rules) _
    (setting.configuration.startSymbol .rules) text before printed print reads with
    ⟨workshop, parsed⟩
  have untouched : workshop.files = after.files := by
    have leaves := orderly.parse (setting.configuration.parseTable .rules)
      setting.job.artifacts.rules (setting.configuration.startSymbol .rules) after.toWorkshop
    rw [parsed] at leaves
    exact leaves
  have inPlace : InPlace setting.job workshop.files := by
    rw [untouched, files]
    exact seedOutcome.inPlace rfl
  have again : forall bootstrap, setting.runEnding false { toolchain with bootstrap } after =
      (.ok ⟨(setting.processor force toolchain).describe setting.job making.facts, .upToDate⟩, {
        toWorkshop := workshop
        warnings := after.warnings ++
          (decode (setting.configuration.leadFor setting.job.language) making.module).2 ++
          ((setting.processor force toolchain).describe setting.job making.facts).warnings }) := by
    intro bootstrap
    have parse : ending ((setting.processor false { toolchain with bootstrap }).parse .rules
        setting.job.artifacts.rules) after =
          (.ok making.module, { after with toWorkshop := workshop }) := ending_parse_of_ok parsed
    exact (ending_process (setting.processor false { toolchain with bootstrap }) setting.found
      after).trans (ending_runJob_of_fresh rfl fresh parse makes.decode_eq inPlace)
  exact ⟨_, _, rfl, described.symm, untouched, again⟩

/-- The definition of the sample is written. -/
def sampleEdited : World ScriptedTools :=
  sample.next sampleStart (.edit (Text.toBytes "definition"))

theorem settled_sampleEdited : sample.job.Settled sampleEdited.files :=
  settled_next (.of_absent proper_sampleStart separate_sampleStart absent_sampleStart) trivial

theorem run_sampleEdited :
    endingStatus (sample.runEnding false ScriptedTools.toolchain sampleEdited) =
        some .regenerated ∧
      (sample.runEnding false ScriptedTools.toolchain sampleEdited).2.files.modified
          sample.job.definition = .ok ⟨0, 2⟩ ∧
      (sample.runEnding false ScriptedTools.toolchain sampleEdited).2.tools.script.failures = [] ∧
      sampleEdited.files.clock = ⟨0, 3⟩ := by
  decide +kernel

theorem runEnding_again_sample :
    exists outcome after again final,
      sample.runEnding false ScriptedTools.toolchain sampleEdited = (.ok outcome, after) ∧
      outcome.status = .regenerated ∧ again.status = .upToDate ∧
      again.descriptor = outcome.descriptor ∧ final.files = after.files ∧
      forall bootstrap,
        sample.runEnding false { ScriptedTools.toolchain with bootstrap } after =
          (.ok again, final) := by
  rcases run_sampleEdited with ⟨status, dated, quiet, clock⟩
  rcases exists_of_endingStatus status with ⟨outcome, after, ended, regenerated⟩
  rw [ended] at dated quiet
  have confined := ScriptedTools.confined
  have formed := settled_sampleEdited.proper.formed
  have later : forall making made,
      (sample.processor false ScriptedTools.toolchain).Makes sample.job sampleEdited making made ->
        forall record, record ∈ making.records ->
          (⟨0, 2⟩ : Timestamp).before record.clock = true := by
    intro making made makes record member
    have since := makes.clock_le (sample.confined_processor false confined) formed record member
    rw [clock] at since
    refine decide_eq_true (Int.lt_of_lt_of_le ?_ since)
    decide
  rcases runEnding_again formed confined.orderly ended regenerated
    (distinct_of_regenerated settled_sampleEdited confined ended regenerated) dated later
    (fun _ _ makes => ScriptedTools.rereads_of_makes quiet rfl makes) with
    ⟨again, final, upToDate, described, files, again_eq⟩
  exact ⟨outcome, after, again, final, ended, regenerated, upToDate, described, files, again_eq⟩

end Setting
end BaseLanguage
