import BaseLanguage.Proofs.Processor.Account
import BaseLanguage.Proofs.Processor.Separation

namespace BaseLanguage

/-!
# What a run leaves alone

The shared modules lie in the folder of artifacts, where anyone may edit them.  A run puts those
there that are missing, and leaves the others, however it ends: all else that it writes are
artifacts.  So a file is left alone, with its content and its time, if the path of no artifact leads
to it, and a run that keeps the artifacts leaves every file alone.  Whatever comes to be where
nothing was is one of the modules.

Artifacts lie right in their folder and the modules lie deeper, so that only a link can lead from
one to the other.  Folders are not spoken of: a run may need one in the place of a module, if the
path of the plugin goes through that place and up again.
-/

open FileTree

variable {σ : Type}

namespace Job

/-- The path of a shared module. -/
def shared (job : Job) (source : Path × String) : Path :=
  job.directory.join source.1

/-- No path of an artifact leads to what stands at a location. -/
def Clear (job : Job) (tree : FileTree) (place : Location) : Prop :=
  forall number, tree.number? place = some number ->
    forall kind, ¬ tree.LeadsTo (job.artifact kind) number

/-- No link lies on the way to an artifact or a shared module, and a shared module that is there
stands nowhere else. -/
structure Unlinked (job : Job) (tree : FileTree) : Prop where
  direct : forall kind, tree.Direct (job.artifact kind)
  shared_direct : forall source, source ∈ Seeding.sources -> tree.Direct (job.shared source)
  shared_sole : forall source, source ∈ Seeding.sources ->
    tree.Sole (tree.destination (job.shared source))

theorem Unlinked.of_grows {job : Job} {tree after : FileTree} (unlinked : job.Unlinked tree)
    (formed : tree.Formed) (grows : Grows tree after) : job.Unlinked after := by
  have follows := grows.follows formed
  refine ⟨fun kind => follows.direct (unlinked.direct kind),
    fun source member => follows.direct (unlinked.shared_direct source member), ?_⟩
  intro source member
  rw [destination_eq grows.current_eq]
  exact grows.sole formed (unlinked.shared_sole source member)

end Job

namespace Processor

variable {processor : Processor σ} {job : Job} {world last : World σ} {final : FileTree}
  {place : Location} {result : Except BuildError ProcessOutcome}

/-! ## Files that no artifact leads to -/

/-- Stages that avoid a file do not touch it, wherever they stop. -/
theorem spares_of_carriedOut {stages : List Stage} {draft : Draft} {number : Nat}
    {outcome : Except BuildError Draft} (tidy : processor.toolchain.Tidy)
    (formed : world.files.Formed) (numbered : final.number? place = some number)
    (avoid : forall stage, stage ∈ stages -> Avoids job final number stage)
    (carried : processor.CarriedOut job stages draft world outcome last)
    (follows : Follows last.files final) : Spares place world.files last.files := by
  cases carried with
  | completed passes => exact spares_of_passes tidy formed numbered avoid passes follows
  | @stopped passed more stage _ _ _ _ planned passes failed =>
    refine spares_of_stopped tidy formed numbered (fun other member => avoid other ?_) passes
      failed follows
    have begun : passed ++ [stage] <+: stages :=
      ⟨more, by rw [planned, List.append_assoc, List.singleton_append]⟩
    exact begun.subset member

theorem avoids_of_mem {number : Nat} {stage : Stage}
    (apart : forall kind, ¬ final.LeadsTo (job.artifact kind) number)
    (member : stage ∈ Stage.making ++ [.write .editorServices]) :
    Avoids job final number stage := by
  refine ⟨?_, fun kind _ => apart kind⟩
  rintro source rfl
  simp [Stage.making] at member

/-- Finding out the facts spares every location whose file no artifact leads to. -/
theorem spares_refresh (tidy : processor.toolchain.Tidy) (formed : world.files.Formed)
    (follows : Follows (ending (processor.refresh job) world).2.files final)
    (clear : processor.Regenerates job world.files -> job.Clear final place) :
    Spares place world.files (ending (processor.refresh job) world).2.files := by
  by_cases regenerates : processor.Regenerates job world.files
  · have same : (ending (processor.refresh job) world).2 = (ending (processor.carryOut job
        (Stage.making ++ [.write .editorServices]) {}) world).2 := by
      have regenerated : (ending (processor.regenerate job) world).2 = (ending (processor.carryOut
          job (Stage.making ++ [.write .editorServices]) {}) world).2 := by
        rw [regenerate_eq_carryOut, map_eq_pure_bind]
        exact world_bind_pure _ _ world
      rw [ending_refresh_of_regenerates regenerates, ← regenerated]
      rcases ending (processor.regenerate job) world with ⟨outcome, middle⟩
      cases outcome <;> rfl
    rw [same] at follows ⊢
    intro entry found notFolder
    rcases get?_eq_some_iff.mp found with ⟨number, numbered, _⟩
    have numbered := follows.number?_eq place number numbered
    exact spares_of_carriedOut tidy formed numbered
      (fun _ => avoids_of_mem (clear regenerates number numbered)) (carriedOut _ _ world) follows
      entry found notFolder
  · rw [files_refresh_of_not_regenerates tidy.confined regenerates]
    exact .refl place world.files

/-! ## The frame of a run -/

/-- What a run leaves alone, however it ends.  Locations of folders are left out. -/
structure Frame (processor : Processor σ) (job : Job) (world : World σ)
    (result : Except BuildError ProcessOutcome) (last : World σ) : Prop where
  /-- Paths lead where they led. -/
  leads : forall path place, world.files.locate path = .ok place ->
    last.files.locate path = .ok place
  /-- What stood at a location stands there just so.  If the artifacts are made anew, no artifact
  may lead to it. -/
  kept : forall place entry,
    (processor.Regenerates job world.files -> job.Clear last.files place) ->
      world.files.get? place = some entry -> entry.node ≠ .folder ->
        last.files.get? place = some entry
  /-- What stands where nothing stood is a shared module, with its own content. -/
  created : forall place entry,
    (processor.Regenerates job world.files -> job.Clear last.files place) ->
      world.files.get? place = none -> last.files.get? place = some entry ->
        entry.node ≠ .folder ->
          Seeding.IsSource job.directory Seeding.sources last.files place entry.node
  /-- If the run succeeds, all shared modules are there. -/
  there : forall outcome, result = .ok outcome ->
    forall source, source ∈ Seeding.sources -> last.files.exists? (job.shared source) = true

theorem frame_of_runJob (tidy : processor.toolchain.Tidy) (formed : world.files.Formed)
    (named : job.directory.EndsInName)
    (ended : ending (processor.runJob job) world = (result, last)) :
    processor.Frame job world result last := by
  have grows : Grows world.files (ending (processor.refresh job) world).2.files :=
    grows_refresh tidy.confined world formed
  have formedMiddle := grows.formed formed
  have early := grows.follows formed
  have seeded := seedOutcome_of_runJob formedMiddle named ended
  have late := seeded.extension.grows.follows formedMiddle
  have spares : forall place, (processor.Regenerates job world.files ->
      job.Clear last.files place) -> Spares place world.files _ :=
    fun _ => spares_refresh tidy formed late
  refine {
    leads := fun path place located => (early.trans late).locateWith located
    kept := ?kept
    created := ?created
    there := ?there }
  case kept =>
    intro place entry clear stood notFolder
    rcases early.exists_like place entry stood with ⟨new, found, like⟩
    have newNotFolder : new.node ≠ .folder := fun folder => notFolder (like.folder_iff.mp folder)
    have same := spares place clear new found newNotFolder
    rw [stood, Option.some.injEq] at same
    exact seeded.extension.entry_eq formedMiddle (same ▸ found) notFolder
  case created =>
    intro place entry clear free found notFolder
    exact seeded.created place entry found notFolder
      ((spares place clear).none_of_none formedMiddle seeded.extension found notFolder free)
  case there =>
    rintro outcome rfl
    exact (seeded.inPlace rfl).shared

end Processor

/-! ## Files without links -/

namespace Setting

variable {setting : Setting} {tree : FileTree} {place : Location} {source : Path × String}

theorem destination_shared (job : Job) (member : source ∈ Seeding.sources) :
    tree.destination (job.shared source) =
      tree.destination job.directory ++ source.1.names.map String.ofList := by
  rcases Seeding.mem_sources_iff.mp member with rfl | rfl <;>
    exact destination_join _ (by decide) (by decide)

/-- An artifact lies in the folder of artifacts, or nowhere else than above it. -/
theorem length_destination_artifact {kind : ArtifactKind}
    (noSlash : '/' ∉ (setting.configuration.extensions.get kind).toList) :
    (tree.destination (setting.job.artifact kind)).length ≤
      (tree.destination setting.job.directory).length + 1 := by
  have directory : setting.job.directory = setting.layout.binaryDirectory :=
    congrArg Job.directory setting.job_eq.2
  rcases setting.language_spec with ⟨noSlashLanguage, _⟩
  have noSlashName : '/' ∉
      (setting.job.language ++ "." ++ setting.configuration.extensions.get kind).toList := by
    simpa using ⟨noSlashLanguage, noSlash⟩
  have notEmpty : setting.job.language ++ "." ++ setting.configuration.extensions.get kind ≠ "" := by
    intro empty
    have nothing := congrArg String.toList empty
    simp at nothing
  rw [artifact_eq, directory]
  change (tree.destination (setting.layout.binaryDirectory.child _)).length ≤ _
  unfold destination
  rw [steps_child _ noSlashName notEmpty, List.foldl_append, List.foldl_cons, List.foldl_nil,
    show tree.origin (setting.layout.binaryDirectory.child _) =
      tree.origin setting.layout.binaryDirectory by
        unfold origin Path.child
        rw [isAbsolute_join _ (Path.isAbsolute_of_noSlash noSlashName)]]
  unfold onward
  split
  · omega
  · split
    · rw [List.length_dropLast]
      omega
    · rw [List.length_append, List.length_singleton]

/-- Without links, no artifact leads to a shared module, and no shared module to another. -/
theorem clear_of_unlinked (noSlash : forall kind,
      '/' ∉ (setting.configuration.extensions.get kind).toList)
    (unlinked : setting.job.Unlinked tree) (member : source ∈ Seeding.sources)
    (located : tree.locate (setting.job.shared source) = .ok place) :
    setting.job.Clear tree place ∧ forall other, other ∈ Seeding.sources ->
      tree.locate (setting.job.shared other) = .ok place -> other = source := by
  rcases (locate_eq_ok_iff (unlinked.shared_direct source member)).mp located with ⟨_, rfl⟩
  constructor
  · rintro number numbered kind ⟨there, locatedThere, numberedThere⟩
    rcases (locate_eq_ok_iff (unlinked.direct kind)).mp locatedThere with ⟨_, rfl⟩
    have same := unlinked.shared_sole source member number _ numbered numberedThere
    have near : (tree.destination (setting.job.artifact kind)).length ≤ _ :=
      length_destination_artifact (noSlash kind)
    rw [same, destination_shared _ member, List.length_append, List.length_map] at near
    have deep : source.1.names.length = 4 := by
      rcases Seeding.mem_sources_iff.mp member with rfl | rfl <;> decide
    omega
  · intro other memberOther locatedOther
    rcases (locate_eq_ok_iff (unlinked.shared_direct other memberOther)).mp locatedOther with
      ⟨_, same⟩
    rw [destination_shared _ member, destination_shared _ memberOther, List.append_cancel_left_eq,
      List.map_inj_right fun _ _ => @String.ofList_injective _ _] at same
    rcases Seeding.mem_sources_iff.mp member with rfl | rfl <;>
      rcases Seeding.mem_sources_iff.mp memberOther with rfl | rfl <;>
      first | rfl | exact absurd same (by decide)

end Setting

/-! ## What becomes of the shared modules -/

namespace Processor

open Seeding (grammarModule rulesModule mem_sources_iff)

variable {processor : Processor σ} {job : Job} {world last : World σ}
  {result : Except BuildError ProcessOutcome}

/-- A shared module that stood where its path leads keeps its content and its time, and one that
did not has its own content. -/
def LeavesModules (job : Job) (tree last : FileTree) : Prop :=
  forall source, source ∈ Seeding.sources -> forall place entry,
    last.locate (job.shared source) = .ok place -> entry.node ≠ .folder ->
      (tree.get? place = some entry -> last.get? place = some entry) ∧
        (tree.get? place = none -> last.get? place = some entry ->
          entry.node = .file (Text.toBytes source.2))

theorem Frame.leavesModules {setting : Setting} {force : Bool} {toolchain : Toolchain σ}
    (frame : (setting.processor force toolchain).Frame setting.job world result last)
    (noSlash : forall kind, '/' ∉ (setting.configuration.extensions.get kind).toList)
    (unlinked : setting.job.Unlinked last.files) :
    LeavesModules setting.job world.files last.files := by
  intro source member place entry located notFolder
  rcases Setting.clear_of_unlinked noSlash unlinked member located with ⟨clear, alone⟩
  refine ⟨fun stood => frame.kept place entry (fun _ => clear) stood notFolder, ?_⟩
  intro free found
  rcases frame.created place entry (fun _ => clear) free found notFolder with
    ⟨other, memberOther, locatedOther, content⟩
  rw [alone other memberOther locatedOther] at content
  exact content

theorem unlinked_sampleEdited : Setting.sample.job.Unlinked Setting.sampleEdited.files := by
  have settled := Setting.settled_sampleEdited
  refine ⟨settled.direct, settled.shared_direct, fun source member number _ numbered _ => ?_⟩
  have missing : Setting.sampleEdited.files.number?
      (Setting.sampleEdited.files.destination (Setting.sample.job.shared source)) = none := by
    rcases Seeding.mem_sources_iff.mp member with rfl | rfl <;> decide +kernel
  rw [missing] at numbered
  cases numbered

/-- The sample with something more in its folders. -/
def sampleWith (work : Filing Unit) : World ScriptedTools :=
  { Setting.sampleEdited with files := (ending work Setting.sampleEdited.files).2 }

/-- The grammar of the sample is a link to a shared module that was edited. -/
def sampleLinked : World ScriptedTools :=
  sampleWith do
    createFolders ⟨"bin/org/sugarj/soundx"⟩
    FileTree.write (Setting.sample.job.shared grammarModule) (Text.toBytes "edited")
    createAt (Setting.sample.job.artifact .grammar) (.link "org/sugarj/soundx/SoundX.sdf")

/-- One shared module is a link to the other, which is missing. -/
def sampleJoined : World ScriptedTools :=
  sampleWith do
    createFolders ⟨"bin/org/sugarj/soundx"⟩
    createAt (Setting.sample.job.shared rulesModule) (.link "SoundX.sdf")

/-- The current folder is the one for the shared modules, which are missing. -/
def sampleInside : World ScriptedTools :=
  sampleWith do
    createFolders ⟨"bin/org/sugarj/soundx"⟩
    modify fun tree => { tree with current := ["bin", "org", "sugarj", "soundx"] }

/-- A plugin whose path goes through the place of a shared module, and up to the root. -/
def winding : Setting :=
  { Setting.sample with
    layout := ⟨⟨"SoundX.sdf/../../../../.."⟩⟩
    job := ⟨"l", ⟨"SoundX.sdf/../../../../../src/l"⟩, ⟨"SoundX.sdf/../../../../../bin"⟩,
      .inDirectory ⟨"SoundX.sdf/../../../../../bin"⟩ "l" {}⟩
    found := by rfl }

/-- A run of the tools that follow a script succeeds, where no extension holds a slash. -/
structure Succeeds (setting : Setting) (world last : World ScriptedTools) : Prop where
  formed : world.files.Formed
  noSlash : forall kind, '/' ∉ (setting.configuration.extensions.get kind).toList
  exists_outcome : exists outcome,
    setting.runEnding true ScriptedTools.toolchain world = (.ok outcome, last)

/-- What a run that succeeds leaves where the path of a shared module leads. -/
def left? (setting : Setting) (world : World ScriptedTools) (source : Path × String) :
    Option FileNode :=
  match setting.runEnding true ScriptedTools.toolchain world with
  | (.ok _, last) => (last.files.find (setting.job.shared source)).toOption.map FileEntry.node
  | (.error _, _) => none

theorem exists_of_left? {setting : Setting} {world : World ScriptedTools}
    {source : Path × String} {node : FileNode} (formed : world.files.Formed)
    (standard : setting.configuration = {}) (left : left? setting world source = some node) :
    exists last entry, Succeeds setting world last ∧
      last.files.find (setting.job.shared source) = .ok entry ∧ entry.node = node := by
  have noSlash : forall kind, '/' ∉ (setting.configuration.extensions.get kind).toList := by
    intro kind
    rw [standard]
    cases kind <;> decide
  unfold left? at left
  split at left
  · next outcome last ended =>
      cases found : last.files.find (setting.job.shared source) with
      | error fault =>
        rw [found] at left
        cases left
      | ok entry =>
        rw [found] at left
        exact ⟨last, entry, ⟨formed, noSlash, outcome, ended⟩, found, Option.some.inj left⟩
  · cases left

theorem left?_sampleLinked :
    left? Setting.sample sampleLinked grammarModule ≠ none ∧
      left? Setting.sample sampleLinked grammarModule ≠
        some (.file (Text.toBytes "edited")) := by
  decide +kernel

theorem left?_winding : left? winding sampleInside grammarModule = some .folder := by
  decide +kernel

theorem left?_sampleJoined :
    left? Setting.sample sampleJoined rulesModule =
      some (.file (Text.toBytes Seeding.sharedGrammar)) := by
  decide +kernel

end Processor
end BaseLanguage
