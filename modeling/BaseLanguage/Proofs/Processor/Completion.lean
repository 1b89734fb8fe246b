import BaseLanguage.Proofs.Processor.Repetition

namespace BaseLanguage

/-!
# What a completed run leaves

A run that makes the artifacts anew asks its tools seven times and writes five files.  Two of these
are files that the bootstrap compiler has written before: they are parsed, and then overwritten with
what became of them.  So what the artifacts hold in the end depends on the order of all this, and on
no write getting into the way of another.

The tools may answer anything, and each of their answers may depend on all that happened before.
Therefore a run is described by what its tools answered together with the worlds in between.  The
artifacts are as wanted if they turn out to be different files: then each write reaches a file of
its own, and nothing that comes later changes it.
-/

open FileTree

variable {σ : Type} {job : Job} {tree middle after final : FileTree} {kind : ArtifactKind}

theorem FileNode.IsLike.isPlain {old new : FileNode} (like : old.IsLike new)
    (plain : IsPlain new) : IsPlain old :=
  plain.imp like.folder_iff.mp like.isFile_iff.mp

namespace Job

/-! ## Artifacts that are different files -/

/-- No two artifacts lead to one file. -/
def FilesApart (job : Job) (tree : FileTree) : Prop :=
  forall kind other number, tree.LeadsTo (job.artifact kind) number ->
    tree.LeadsTo (job.artifact other) number -> kind = other

/-- The artifacts do not get into each other's way: no two of them lead to one file, and none leads
to a channel or a device, which would take whatever is written without keeping it. -/
structure Unmixed (job : Job) (tree : FileTree) : Prop where
  plain : forall kind number entry, tree.LeadsTo (job.artifact kind) number ->
    tree.node? number = some entry -> IsPlain entry.node
  apart : job.FilesApart tree

theorem Distinct.unmixed (distinct : job.Distinct tree) : job.Unmixed tree := by
  refine ⟨fun kind number entry leads known => ?_, distinct.apart⟩
  rcases distinct.exists_file kind with ⟨same, content, _, _, leadsSame, knownSame⟩
  rcases leads with ⟨place, located, numbered⟩
  rcases leadsSame with ⟨samePlace, locatedSame, numberedSame⟩
  rw [located, Except.ok.injEq] at locatedSame
  rw [← locatedSame, numbered, Option.some.injEq] at numberedSame
  rw [← numberedSame, known, Option.some.injEq] at knownSame
  exact Or.inr ⟨content, congrArg FileEntry.node knownSame⟩

section
variable {content : ByteArray} {records more : List ArtifactRecord}

/-- Where artifacts do not get into each other's way, one that was written is a file. -/
theorem exists_file_of_write (formed : tree.Formed) (unmixed : job.Unmixed final)
    (follows : Follows middle final)
    (wrote : ending (write (job.artifact kind) content) tree = (.ok (), middle)) :
    exists number last time permissions, final.LeadsTo (job.artifact kind) number ∧
      final.node? number = some ⟨.file last, time, permissions⟩ := by
  have outcome := write_outcome formed (job.artifact kind) content
  rw [wrote] at outcome
  cases outcome with
  | swallowed located found notPlain =>
    rcases follows.exists_like _ _ found with ⟨new, foundNew, like⟩
    rcases get?_eq_some_iff.mp foundNew with ⟨number, numbered, known⟩
    have leads : final.LeadsTo (job.artifact kind) number :=
      ⟨_, follows.locateWith located, numbered⟩
    exact absurd (like.isPlain (unmixed.plain kind number new leads known)) notPlain
  | written located _ change found =>
    have locatedMiddle := (change.follows formed).locateWith located
    rcases follows.exists_like _ _ found with ⟨⟨node, time, permissions⟩, foundNew, like⟩
    rcases get?_eq_some_iff.mp foundNew with ⟨number, numbered, known⟩
    rcases like.isFile_iff.mpr ⟨content, rfl⟩ with ⟨last, file⟩
    have file : node = .file last := file
    rw [file] at known
    exact ⟨number, last, time, permissions, ⟨_, follows.locateWith locatedMiddle, numbered⟩,
      known⟩

/-- Where artifacts do not get into each other's way, those that were written are files. -/
theorem exists_file_of_writes (formed : tree.Formed) (unmixed : job.Unmixed final)
    (writes : job.Writes tree records after) (follows : Follows after final) :
    forall record, record ∈ records -> exists number last time permissions,
      final.LeadsTo (job.artifact record.kind) number ∧
        final.node? number = some ⟨.file last, time, permissions⟩ := by
  induction writes with
  | none =>
    intro record member
    cases member
  | some wrote rest inductionHypothesis =>
    have formedMiddle := (grows_of_write formed wrote).formed formed
    have followsMiddle := ((rest.grows formedMiddle).follows formedMiddle).trans follows
    intro record member
    rcases List.mem_cons.mp member with rfl | later
    · exact exists_file_of_write formed unmixed followsMiddle wrote
    · exact inductionHypothesis formedMiddle follows record later

theorem distinct_of_writes (formed : tree.Formed) (unmixed : job.Unmixed final)
    (writes : job.Writes tree records after) (follows : Follows after final)
    (all : forall kind, kind ∈ records.map ArtifactRecord.kind) : job.Distinct final := by
  refine ⟨fun kind => ?_, unmixed.apart⟩
  rcases List.mem_map.mp (all kind) with ⟨record, member, rfl⟩
  exact exists_file_of_writes formed unmixed writes follows record member

/-- Where artifacts are different files, writing one leaves the bytes of the others. -/
theorem read_of_write (formed : tree.Formed) (distinct : job.Distinct final)
    (follows : Follows middle final) {other : ArtifactKind} {another : ByteArray}
    (wrote : ending (write (job.artifact other) another) tree = (.ok (), middle))
    (different : kind ≠ other) (read : tree.read (job.artifact kind) = .ok content) :
    middle.read (job.artifact kind) = .ok content := by
  rcases bind_eq_ok_iff.mp read with ⟨⟨node, time, permissions⟩, found, bytes⟩
  rcases distinct.exists_file kind with ⟨_, last, _, _, ⟨place, located, numbered⟩, known⟩
  have followsTree := ((grows_of_write formed wrote).follows formed).trans follows
  rcases bind_eq_ok_iff.mp found with ⟨here, locatedHere, standing⟩
  have same := followsTree.locateWith locatedHere
  rw [show final.locateWith true (job.artifact kind) = .ok place from located,
    Except.ok.injEq] at same
  subst same
  rcases followsTree.exists_like _ _ (entryAt_eq_ok_iff.mp standing).1 with ⟨new, foundNew, like⟩
  rw [get?_eq_some_iff.mpr ⟨_, numbered, known⟩, Option.some.injEq] at foundNew
  subst foundNew
  rcases like.isFile_iff.mp ⟨last, rfl⟩ with ⟨before, file⟩
  have file : node = .file before := file
  subst file
  cases bytes
  have keeps : job.Keeps tree ⟨kind, content, time⟩ := ⟨permissions, found, by simp⟩
  rcases keeps.of_write formed distinct follows wrote different with ⟨_, holds⟩
  exact holds.read rfl

end
end Job

/-! ## Runs with what their tools answered -/

/-- What the tools of a run answered, and what the run made of it. -/
structure Answers where
  /-- The generated rule module, as it was parsed. -/
  rawRules : Term
  facts : LanguageFacts
  /-- The rule module with its imports replaced. -/
  rules : Term
  rulesText : String
  nonterminal : String
  /-- The generated grammar, as it was parsed. -/
  rawGrammar : Term
  rewrittenGrammar : Term
  /-- The rewritten grammar, normalised. -/
  grammar : Term
  grammarText : String
  /-- What the grammar file was found to hold. -/
  reread : String
  table : ByteArray

/-- What each artifact is to hold. -/
def Answers.content (answers : Answers) (language : String) : ArtifactKind -> ByteArray
  | .rules => Text.toBytes answers.rulesText
  | .grammar => Text.toBytes answers.grammarText
  | .packagedGrammar => Text.toBytes (Processor.packaged answers.grammarText)
  | .ppTable => answers.table
  | .editorServices => Text.toBytes (Processor.editorServices language)

/-- The worlds that a run leaves step by step. -/
structure Trail (σ : Type) where
  bootstrapped : World σ
  rulesParsed : World σ
  decoded : World σ
  rulesPrinted : World σ
  rulesWritten : World σ
  grammarParsed : World σ
  normalised : World σ
  grammarPrinted : World σ
  grammarWritten : World σ
  reread : World σ
  packed : World σ
  generated : World σ
  tableWritten : World σ
  made : World σ

namespace Processor

open Step

variable {processor : Processor σ} {world made : World σ} {answers : Answers} {trail : Trail σ}

/-- A run from a world makes the artifacts anew with these answers: each step succeeds from the
world that the one before it left. -/
structure Course (processor : Processor σ) (job : Job) (world : World σ) (answers : Answers)
    (trail : Trail σ) : Prop where
  bootstrap : processor.Bootstrapped job world trail.bootstrapped
  parseRules : ending (processor.parse .rules job.artifacts.rules) trail.bootstrapped =
    (.ok answers.rawRules, trail.rulesParsed)
  decode : ending (processor.decodeFacts job answers.rawRules) trail.rulesParsed =
    (.ok answers.facts, trail.decoded)
  replaceImports : Rewriting.replaceRuleImports answers.rawRules = .ok answers.rules
  printRules : ending (processor.prettyPrint .rules answers.rules job.artifacts.rules)
    trail.decoded = (.ok answers.rulesText, trail.rulesPrinted)
  writeRules : ending (Step.write job.artifacts.rules (Text.toBytes answers.rulesText))
    trail.rulesPrinted = (.ok (), trail.rulesWritten)
  toplevel : answers.facts.toplevelNonterminal = some answers.nonterminal
  parseGrammar : ending (processor.parse .grammar job.artifacts.grammar) trail.rulesWritten =
    (.ok answers.rawGrammar, trail.grammarParsed)
  rewriteGrammar : Rewriting.rewriteGrammar job.language answers.nonterminal answers.rawGrammar =
    .ok answers.rewrittenGrammar
  normalise : ending (tool (.normalise job.language)
    (processor.toolchain.normalizeGrammar answers.rewrittenGrammar)) trail.grammarParsed =
      (.ok answers.grammar, trail.normalised)
  printGrammar : ending (processor.prettyPrint .grammar answers.grammar job.artifacts.grammar)
    trail.normalised = (.ok answers.grammarText, trail.grammarPrinted)
  writeGrammar : ending (Step.write job.artifacts.grammar (Text.toBytes answers.grammarText))
    trail.grammarPrinted = (.ok (), trail.grammarWritten)
  readGrammar : ending (readText job.artifacts.grammar) trail.grammarWritten =
    (.ok answers.reread, trail.reread)
  pack : ending (Step.write job.artifacts.packagedGrammar
    (Text.toBytes (packaged answers.reread))) trail.reread = (.ok (), trail.packed)
  generate : ending (tool (.generateTable job.language)
    (processor.toolchain.generatePpTable answers.grammar)) trail.packed =
      (.ok answers.table, trail.generated)
  writeTable : ending (Step.write job.artifacts.ppTable answers.table) trail.generated =
    (.ok (), trail.tableWritten)
  writeServices : ending (Step.write job.artifacts.editorServices
    (Text.toBytes (editorServices job.language))) trail.tableWritten = (.ok (), trail.made)

/-- Whenever the artifacts were made anew, there are such answers. -/
theorem exists_course_of_regenerate {facts : LanguageFacts}
    (ended : ending (processor.regenerate job) world = (.ok facts, made)) :
    exists answers trail, processor.Course job world answers trail ∧ answers.facts = facts ∧
      trail.made = made := by
  rcases regenerate_eq_ok_iff_makes.mp ended with ⟨_, makes, rfl⟩
  cases makes with
  | intro bootstrap parse decode replace print writeRules named parseGrammar rewriteGrammar
      normalise printGrammar writeGrammar reading pack generate writeTable services =>
      exact ⟨⟨_, _, _, _, _, _, _, _, _, _, _⟩, ⟨_, _, _, _, _, _, _, _, _, _, _, _, _, _⟩,
        ⟨bootstrap, parse, decode, replace, print, writeRules, named, parseGrammar, rewriteGrammar,
          normalise, printGrammar, writeGrammar, reading, pack, generate, writeTable, services⟩,
        rfl, rfl⟩

namespace Course

section
variable (course : processor.Course job world answers trail)
  (orderly : processor.toolchain.Orderly)
include course orderly

/-! ### What is written -/

/-- The rule module is written to what the bootstrap compiler left. -/
theorem wrote_rules :
    ending (FileTree.write (job.artifact .rules) (answers.content job.language .rules))
      trail.bootstrapped.files = (.ok (), trail.rulesWritten.files) := by
  have atParsed := (reads_parse orderly _ _).files_eq course.parseRules
  have atDecoded := (reads_decodeFacts _ _ _).files_eq course.decode
  have atPrinted := (reads_prettyPrint orderly _ _ _).files_eq course.printRules
  rw [atDecoded, atParsed] at atPrinted
  rw [← atPrinted]
  exact filing_eq_ok course.writeRules

theorem wrote_grammar :
    ending (FileTree.write (job.artifact .grammar) (answers.content job.language .grammar))
      trail.rulesWritten.files = (.ok (), trail.grammarWritten.files) := by
  have atParsed := (reads_parse orderly _ _).files_eq course.parseGrammar
  have atNormalised := (reads_normalise orderly _ _).files_eq course.normalise
  have atPrinted := (reads_prettyPrint orderly _ _ _).files_eq course.printGrammar
  rw [atNormalised, atParsed] at atPrinted
  rw [← atPrinted]
  exact filing_eq_ok course.writeGrammar

/-- The artifacts that only the run itself writes come last. -/
theorem writes_rest :
    job.Writes trail.grammarWritten.files
      [⟨.packagedGrammar, Text.toBytes (packaged answers.reread),
          trail.grammarWritten.files.clock⟩,
        ⟨.ppTable, answers.content job.language .ppTable, trail.packed.files.clock⟩,
        ⟨.editorServices, answers.content job.language .editorServices,
          trail.tableWritten.files.clock⟩]
      trail.made.files := by
  have atRead := (reads_readText _).files_eq course.readGrammar
  have atGenerated := (reads_generatePpTable orderly _ _).files_eq course.generate
  have packageWritten := filing_eq_ok course.pack
  have tableWritten := filing_eq_ok course.writeTable
  have servicesWritten := filing_eq_ok course.writeServices
  rw [atRead] at packageWritten
  rw [atGenerated] at tableWritten
  exact .some packageWritten (.some tableWritten (.some servicesWritten (.none _)))

theorem writes :
    job.Writes trail.bootstrapped.files
      [⟨.rules, answers.content job.language .rules, trail.bootstrapped.files.clock⟩,
        ⟨.grammar, answers.content job.language .grammar, trail.rulesWritten.files.clock⟩,
        ⟨.packagedGrammar, Text.toBytes (packaged answers.reread),
          trail.grammarWritten.files.clock⟩,
        ⟨.ppTable, answers.content job.language .ppTable, trail.packed.files.clock⟩,
        ⟨.editorServices, answers.content job.language .editorServices,
          trail.tableWritten.files.clock⟩]
      trail.made.files :=
  .some (course.wrote_rules orderly) (.some (course.wrote_grammar orderly)
    (course.writes_rest orderly))

variable (formed : world.files.Formed)
include formed

theorem formed_bootstrapped : trail.bootstrapped.files.Formed :=
  formed_of_bootstrapped orderly formed course.bootstrap

theorem formed_rulesWritten : trail.rulesWritten.files.Formed :=
  have before := course.formed_bootstrapped orderly formed
  (grows_of_write before (course.wrote_rules orderly)).formed before

theorem formed_grammarWritten : trail.grammarWritten.files.Formed :=
  have before := course.formed_rulesWritten orderly formed
  (grows_of_write before (course.wrote_grammar orderly)).formed before

theorem formed_made : trail.made.files.Formed :=
  have before := course.formed_bootstrapped orderly formed
  ((course.writes orderly).grows before).formed before

variable (follows : Follows trail.made.files final)
include follows

theorem follows_grammarWritten : Follows trail.grammarWritten.files final :=
  have before := course.formed_grammarWritten orderly formed
  (((course.writes_rest orderly).grows before).follows before).trans follows

theorem follows_rulesWritten : Follows trail.rulesWritten.files final :=
  have before := course.formed_rulesWritten orderly formed
  ((grows_of_write before (course.wrote_grammar orderly)).follows before).trans
    (course.follows_grammarWritten orderly formed follows)

/-- Artifacts that do not get into each other's way in the end have become different files. -/
theorem distinct (unmixed : job.Unmixed final) : job.Distinct final := by
  refine Job.distinct_of_writes (course.formed_bootstrapped orderly formed) unmixed
    (course.writes orderly) follows fun kind => ?_
  cases kind <;> simp

variable (distinct : job.Distinct final)
include distinct

/-- The grammar that is parsed is the one that the bootstrap compiler left: in between, the rule
module is written, but to another file. -/
theorem read_grammar {content : ByteArray}
    (read : trail.bootstrapped.files.read (job.artifact .grammar) = .ok content) :
    trail.rulesWritten.files.read (job.artifact .grammar) = .ok content :=
  Job.read_of_write (course.formed_bootstrapped orderly formed) distinct
    (course.follows_rulesWritten orderly formed follows) (course.wrote_rules orderly)
    (show ArtifactKind.grammar ≠ .rules by decide) read

/-- What is read back from the grammar file is what was written to it. -/
theorem reread_eq : answers.reread = answers.grammarText := by
  rcases Job.keeps_of_write (course.formed_rulesWritten orderly formed) distinct
    (course.follows_grammarWritten orderly formed follows) (course.wrote_grammar orderly) with
    ⟨_, holds⟩
  have read : trail.grammarWritten.files.read (job.artifact .grammar) =
      .ok (Text.toBytes answers.grammarText) := Job.Holds.read holds rfl
  have bytes : Text.ofBytes? (Text.toBytes answers.grammarText) = some answers.grammarText :=
    dif_pos answers.grammarText.isValidUTF8
  have reading := course.readGrammar
  unfold Step.readText at reading
  rw [ending_bind, ending_get] at reading
  dsimp only at reading
  rw [ending_filing, ending_liftM] at reading
  unfold FileTree.readText at reading
  rw [show job.artifacts.grammar = job.artifact .grammar from rfl, read] at reading
  simp only [bind, Except.bind, bytes] at reading
  exact (Except.ok.inj (congrArg Prod.fst reading)).symm

/-- Each artifact is left as it was written. -/
theorem keeps (kind : ArtifactKind) :
    exists clock, job.Keeps trail.made.files ⟨kind, answers.content job.language kind, clock⟩ := by
  have writes := course.writes orderly
  rw [course.reread_eq orderly formed follows distinct] at writes
  have kept := writes.keeps (course.formed_bootstrapped orderly formed) distinct follows (by simp)
  simp only [List.forall_mem_cons] at kept
  rcases kept with ⟨rules, grammar, packagedGrammar, ppTable, editorServices, _⟩
  cases kind with
  | rules => exact ⟨_, rules⟩
  | grammar => exact ⟨_, grammar⟩
  | packagedGrammar => exact ⟨_, packagedGrammar⟩
  | ppTable => exact ⟨_, ppTable⟩
  | editorServices => exact ⟨_, editorServices⟩

end
end Course
end Processor

namespace Setting

open Processor

variable {setting : Setting} {world after : World σ} {force : Bool} {toolchain : Toolchain σ}
  {outcome : ProcessOutcome}

/-! ## Runs that are completed -/

end Setting
end BaseLanguage
