import BaseLanguage.Proofs.Processor.Artifacts

namespace BaseLanguage

/-!
# Histories of a language

A history is what happens to the files of one language: its definition is edited, an artifact is
deleted, or a run processes the definition, each any number of times and in any order.  Every run
has its own tools.

A run that finds the artifacts up to date has compared times only, and two artifacts are written
long before the last thing in a run can fail.  So all five can be newer than the definition without
having been made together: it is enough that a run was completed once and that another one failed
halfway.  What decides is the last run that altered an artifact.  Either it was completed, and then
the artifacts are those which it made, or it was not, and then no run made what is there.
-/

open FileTree

variable {σ : Type}

/-- What stays the same in a history. -/
structure Setting where
  configuration : Configuration
  layout : PluginLayout
  definition : Path
  job : Job
  found : Processor.job configuration layout definition = .ok job

/-- What happens to the files of a language. -/
inductive Event (σ : Type) where
  | edit (content : ByteArray)
  | delete (kind : ArtifactKind)
  | run (force : Bool) (toolchain : Toolchain σ)

namespace Event

/-- The tools of a run write files through the bootstrap compiler only. -/
def IsConfined : Event σ -> Prop
  | edit _ => True
  | delete _ => True
  | run _ toolchain => toolchain.Confined

end Event

namespace Setting

variable {setting : Setting} {world middle : World σ} {event : Event σ} {kind : ArtifactKind}

/-- The processor of a run. -/
def processor (setting : Setting) (force : Bool) (toolchain : Toolchain σ) : Processor σ where
  configuration := setting.configuration
  toolchain
  force

/-- How a run ends. -/
def runEnding (setting : Setting) (force : Bool) (toolchain : Toolchain σ) (world : World σ) :
    Except BuildError ProcessOutcome × World σ :=
  ending ((setting.processor force toolchain).process setting.layout setting.definition) world

/-- The world after an event. -/
def next (setting : Setting) (world : World σ) : Event σ -> World σ
  | .edit content =>
    { world with files := (ending (write setting.job.definition content) world.files).2 }
  | .delete kind =>
    { world with files := (ending (remove (setting.job.artifact kind)) world.files).2 }
  | .run force toolchain => (setting.runEnding force toolchain world).2

/-- The world after some events. -/
def last (setting : Setting) (world : World σ) (events : List (Event σ)) : World σ :=
  events.foldl setting.next world

/-- Each of some events with the world that it happened to. -/
def chronicle (setting : Setting) : World σ -> List (Event σ) -> List (World σ × Event σ)
  | _, [] => []
  | world, event :: more => (world, event) :: setting.chronicle (setting.next world event) more

/-- What stands in the place of an artifact. -/
def standing (setting : Setting) (world : World σ) (kind : ArtifactKind) : Option FileEntry :=
  world.files.standing (setting.job.artifact kind)

/-- A run makes the artifacts anew, is completed, and leaves a world before it goes on to the
shared modules. -/
def Completes (setting : Setting) (world : World σ) : Event σ -> World σ -> Prop
  | .run force toolchain, middle =>
    (setting.processor force toolchain).Regenerates setting.job world.files ∧
      exists facts, ending ((setting.processor force toolchain).regenerate setting.job) world =
        (.ok facts, middle)
  | _, _ => False

/-- A run alters an artifact. -/
def Alters (setting : Setting) (world : World σ) : Event σ -> Prop
  | .run force toolchain =>
    exists kind, setting.standing (setting.next world (.run force toolchain)) kind ≠
      setting.standing world kind
  | _ => False

/-- The artifacts in a tree are together those that a run, from a world to another, has made: they
are what they were when the run had made them, and the run wrote each of them. -/
def MadeBy (setting : Setting) (world middle : World σ) (tree : FileTree) : Prop :=
  forall kind, exists entry,
    middle.files.find (setting.job.artifact kind) = .ok entry ∧
      tree.find (setting.job.artifact kind) = .ok entry ∧
      world.files.clock.total ≤ entry.modified.total

/-- The artifacts in a tree are together those that one run of a history has made. -/
def MadeTogether (setting : Setting) (start : World σ) (events : List (Event σ))
    (tree : FileTree) : Prop :=
  exists moment middle, moment ∈ setting.chronicle start events ∧
    setting.Completes moment.1 moment.2 middle ∧ setting.MadeBy moment.1 middle tree

/-- The rule module and the grammar in a tree are the printed forms of those that a run has
rewritten. -/
def HoldsRewritten (setting : Setting) (world : World σ) (force : Bool) (toolchain : Toolchain σ)
    (tree : FileTree) : Prop :=
  (exists text, tree.read (setting.job.artifact .rules) = .ok (Text.toBytes text) ∧
    (setting.processor force toolchain).PrintsRules setting.job world text) ∧
  exists text, tree.read (setting.job.artifact .grammar) = .ok (Text.toBytes text) ∧
    (setting.processor force toolchain).PrintsGrammar setting.job world text

/-! ## What an event keeps -/

theorem confined_processor (setting : Setting) (force : Bool) {toolchain : Toolchain σ}
    (confined : toolchain.Confined) : (setting.processor force toolchain).toolchain.Confined :=
  confined

theorem next_run (setting : Setting) (world : World σ) (force : Bool) (toolchain : Toolchain σ) :
    setting.next world (.run force toolchain) =
      (ending ((setting.processor force toolchain).runJob setting.job) world).2 := by
  exact congrArg Prod.snd
    (Processor.ending_process (setting.processor force toolchain) setting.found world)

theorem grows_run {force : Bool} {toolchain : Toolchain σ} (formed : world.files.Formed)
    (confined : toolchain.Confined) :
    Grows world.files (setting.next world (.run force toolchain)).files := by
  rw [next_run]
  exact Processor.grows_runJob (setting.confined_processor force confined) setting.job world formed

theorem settled_next (settled : setting.job.Settled world.files) (confined : event.IsConfined) :
    setting.job.Settled (setting.next world event).files := by
  cases event with
  | edit content => exact settled.of_grows (grows_write settled.proper.formed _ _)
  | delete kind => exact settled.of_remove _
  | run force toolchain => exact settled.of_grows (grows_run settled.proper.formed confined)

theorem clock_next (proper : world.files.Proper) (confined : event.IsConfined) :
    world.files.clock.total ≤ (setting.next world event).files.clock.total := by
  cases event with
  | edit content => exact (grows_write proper.formed _ _).clock_le
  | delete kind => exact clock_remove _ _
  | run force toolchain => exact (grows_run proper.formed confined).clock_le

theorem current_next (proper : world.files.Proper) (confined : event.IsConfined) :
    (setting.next world event).files.current = world.files.current := by
  cases event with
  | edit content => exact (grows_write proper.formed _ _).current_eq
  | delete kind => exact current_remove _ _
  | run force toolchain => exact (grows_run proper.formed confined).current_eq

/-- Whatever stands in the place of an artifact afterwards stood there before. -/
def Fades (setting : Setting) (world after : World σ) (kind : ArtifactKind) : Prop :=
  forall new, setting.standing after kind = some new ->
    exists old, setting.standing world kind = some old ∧ old.Keeps new

theorem Fades.trans {after : World σ} (early : setting.Fades world middle kind)
    (late : setting.Fades middle after kind) : setting.Fades world after kind := by
  intro new found
  rcases late new found with ⟨between, foundBetween, keepsLate⟩
  rcases early between foundBetween with ⟨old, foundOld, keepsEarly⟩
  exact ⟨old, foundOld, keepsEarly.trans keepsLate⟩

/-- An edit of the definition leaves the artifacts. -/
theorem wanes_edit (settled : setting.job.Settled world.files) (content : ByteArray)
    (kind : ArtifactKind) :
    Wanes world.files (setting.next world (.edit content)).files
      (world.files.destination (setting.job.artifact kind)) := by
  have outcome := write_outcome settled.proper.formed setting.job.definition content
  change Wanes world.files (ending (write setting.job.definition content) world.files).2 _
  revert outcome
  generalize (ending (write setting.job.definition content) world.files).1 = result
  generalize (ending (write setting.job.definition content) world.files).2 = after
  intro outcome
  cases outcome with
  | refused => exact Wanes.refl _ _
  | swallowed => exact Wanes.refl _ _
  | written located _ change =>
    rcases (locate_eq_ok_iff settled.definition_direct).mp located with ⟨_, rfl⟩
    exact (change.stays settled.proper (settled.sole kind) (settled.definition_apart kind)).wanes

/-- Whatever does not alter the artifacts at most takes some away. -/
theorem fades_next (settled : setting.job.Settled world.files) (confined : event.IsConfined)
    (unaltered : ¬ setting.Alters world event) (kind : ArtifactKind) :
    setting.Fades world (setting.next world event) kind := by
  have same : (setting.next world event).files.destination (setting.job.artifact kind) =
      world.files.destination (setting.job.artifact kind) :=
    destination_eq (current_next settled.proper confined)
  have ofWanes : Wanes world.files (setting.next world event).files
      (world.files.destination (setting.job.artifact kind)) ->
        setting.Fades world (setting.next world event) kind := by
    intro wanes new found
    unfold standing FileTree.standing at found
    rw [same] at found
    exact wanes new found
  cases event with
  | edit content => exact ofWanes (wanes_edit settled content kind)
  | delete other => exact ofWanes (wanes_remove settled.proper _ _)
  | run force toolchain =>
    intro new found
    have equal : setting.standing (setting.next world (.run force toolchain)) kind =
        setting.standing world kind := by
      by_contra different
      exact unaltered ⟨kind, different⟩
    exact ⟨new, equal ▸ found, FileEntry.Keeps.refl new⟩

/-! ## Runs that are completed -/

/-- The folder of artifacts has a name. -/
theorem named_directory (setting : Setting) : setting.job.directory.EndsInName := by
  rcases bind_eq_ok_iff.mp setting.found with ⟨language, _, same⟩
  rw [← Except.ok.inj same]
  exact Path.endsInName_child setting.layout.root (by decide) (by decide)

/-- Only runs are completed. -/
theorem exists_run_of_completes (completes : setting.Completes world event middle) :
    exists force toolchain, event = .run force toolchain := by
  cases event with
  | edit content => exact completes.elim
  | delete kind => exact completes.elim
  | run force toolchain => exact ⟨force, toolchain, rfl⟩

/-- Only runs alter artifacts. -/
theorem exists_run_of_alters (alters : setting.Alters world event) :
    exists force toolchain, event = .run force toolchain := by
  cases event with
  | edit content => exact alters.elim
  | delete kind => exact alters.elim
  | run force toolchain => exact ⟨force, toolchain, rfl⟩

/-- A run that is completed has made each artifact anew. -/
theorem renewed_of_completes {force : Bool} {toolchain : Toolchain σ}
    (settled : setting.job.Settled world.files) (confined : toolchain.Confined)
    (completes : setting.Completes world (.run force toolchain) middle) :
    (setting.processor force toolchain).Renewed setting.job world middle.files := by
  rcases completes with ⟨_, facts, regenerated⟩
  exact Processor.renewed_of_regenerate (setting.confined_processor force confined) settled
    regenerated

/-- What a completed run does to files are changes up to where it made the artifacts, and
additions from there on. -/
theorem grows_of_completes (settled : setting.job.Settled world.files)
    (confined : event.IsConfined) (completes : setting.Completes world event middle) :
    Grows world.files middle.files ∧
      Extends middle.files (setting.next world event).files := by
  rcases exists_run_of_completes completes with ⟨force, toolchain, rfl⟩
  rcases completes with ⟨regenerates, facts, regenerated⟩
  have grows := Processor.grows_regenerate (setting.confined_processor force confined)
    setting.job world settled.proper.formed
  rw [regenerated] at grows
  have settledMiddle := settled.of_grows grows
  have refreshed := Processor.ending_refresh_of_regenerates regenerates
  rw [regenerated] at refreshed
  refine ⟨grows, ?_⟩
  rw [next_run, Processor.files_runJob_of_refresh refreshed]
  exact (Processor.seed_outcome settledMiddle.proper.formed setting.named_directory).extension

/-- A completed run leaves each artifact as a file that is newer than whatever it found. -/
theorem holds_of_completes (settled : setting.job.Settled world.files)
    (confined : event.IsConfined) (completes : setting.Completes world event middle)
    (kind : ArtifactKind) :
    exists entry, setting.job.Holds middle.files kind entry ∧
      setting.standing (setting.next world event) kind = some entry ∧
      world.files.clock.total ≤ entry.modified.total := by
  rcases grows_of_completes settled confined completes with ⟨grows, extension⟩
  have settledMiddle := settled.of_grows grows
  rcases exists_run_of_completes completes with ⟨force, toolchain, rfl⟩
  rcases (renewed_of_completes settled confined completes).holds kind with
    ⟨content, entry, holds, _, since⟩
  have kept := holds.of_extends settledMiddle extension
  exact ⟨entry, holds, kept.standing (settledMiddle.of_grows extension.grows), since⟩

/-- Nothing that stands in the place of an artifact is as late as the clock. -/
theorem modified_lt_clock {entry : FileEntry} (proper : world.files.Proper)
    (found : setting.standing world kind = some entry) :
    entry.modified.total < world.files.clock.total := by
  rcases get?_eq_some_iff.mp found with ⟨number, _, known⟩
  exact proper.before_clock number entry known

/-- A completed run alters artifacts. -/
theorem alters_of_completes (settled : setting.job.Settled world.files)
    (confined : event.IsConfined) (completes : setting.Completes world event middle) :
    setting.Alters world event := by
  rcases holds_of_completes settled confined completes .rules with ⟨entry, _, stands, since⟩
  rcases exists_run_of_completes completes with ⟨force, toolchain, rfl⟩
  refine ⟨.rules, fun same => ?_⟩
  rw [stands] at same
  have before := modified_lt_clock settled.proper same.symm
  omega

/-! ## Histories -/

theorem chronicle_eq_append {events : List (Event σ)} {moment : World σ × Event σ}
    {before later : List (World σ × Event σ)}
    (split : setting.chronicle world events = before ++ moment :: later) :
    exists first rest, before = setting.chronicle world first ∧
      moment.1 = setting.last world first ∧
      later = setting.chronicle (setting.next moment.1 moment.2) rest ∧
      events = first ++ moment.2 :: rest := by
  induction events generalizing world before with
  | nil => simp [chronicle] at split
  | cons event more inductionHypothesis =>
    cases before with
    | nil =>
      rcases List.cons.inj split with ⟨rfl, rfl⟩
      exact ⟨[], more, rfl, rfl, rfl, rfl⟩
    | cons here before =>
      rcases List.cons.inj split with ⟨rfl, behind⟩
      rcases inductionHypothesis behind with ⟨first, rest, rfl, atMoment, rfl, rfl⟩
      exact ⟨event :: first, rest, rfl, atMoment, rfl, rfl⟩

theorem chronicle_append (setting : Setting) (world : World σ) (first rest : List (Event σ)) :
    setting.chronicle world (first ++ rest) =
      setting.chronicle world first ++ setting.chronicle (setting.last world first) rest := by
  induction first generalizing world with
  | nil => rfl
  | cons event more inductionHypothesis =>
    exact congrArg ((world, event) :: ·) (inductionHypothesis (setting.next world event))

theorem last_append (setting : Setting) (world : World σ) (first rest : List (Event σ)) :
    setting.last world (first ++ rest) = setting.last (setting.last world first) rest :=
  List.foldl_append

section
variable {events : List (Event σ)} (settled : setting.job.Settled world.files)
  (confined : forall event, event ∈ events -> event.IsConfined)
include settled confined

theorem settled_last : setting.job.Settled (setting.last world events).files := by
  induction events generalizing world with
  | nil => exact settled
  | cons event more inductionHypothesis =>
    exact inductionHypothesis (settled_next settled (confined event List.mem_cons_self))
      fun other member => confined other (List.mem_cons_of_mem event member)

theorem clock_last :
    world.files.clock.total ≤ (setting.last world events).files.clock.total := by
  induction events generalizing world with
  | nil => exact Int.le_refl _
  | cons event more inductionHypothesis =>
    have tame := confined event List.mem_cons_self
    exact Int.le_trans (clock_next settled.proper tame)
      (inductionHypothesis (settled_next settled tame)
        fun other member => confined other (List.mem_cons_of_mem event member))

/-- Each event of a history happens in a settled tree, before the end of the history. -/
theorem of_mem_chronicle {moment : World σ × Event σ}
    (member : moment ∈ setting.chronicle world events) :
    setting.job.Settled moment.1.files ∧ moment.2.IsConfined ∧
      (setting.next moment.1 moment.2).files.clock.total ≤
        (setting.last world events).files.clock.total := by
  rcases List.append_of_mem member with ⟨before, later, split⟩
  rcases chronicle_eq_append split with ⟨first, rest, _, atMoment, _, rfl⟩
  have settledMoment : setting.job.Settled moment.1.files := by
    rw [atMoment]
    exact settled_last settled fun event member => confined event (List.mem_append_left _ member)
  have tame : moment.2.IsConfined :=
    confined moment.2 (List.mem_append_right first List.mem_cons_self)
  refine ⟨settledMoment, tame, ?_⟩
  have confinedRest : forall event, event ∈ rest -> event.IsConfined :=
    fun event member => confined event (List.mem_append_right first (List.mem_cons_of_mem _ member))
  rw [last_append, ← atMoment]
  exact clock_last (settled_next settledMoment tame) confinedRest

/-- As long as no run alters an artifact, artifacts at most disappear. -/
theorem fades_last
    (unaltered : forall moment, moment ∈ setting.chronicle world events ->
      ¬ setting.Alters moment.1 moment.2) (kind : ArtifactKind) :
    setting.Fades world (setting.last world events) kind := by
  induction events generalizing world with
  | nil => exact fun new found => ⟨new, found, FileEntry.Keeps.refl new⟩
  | cons event more inductionHypothesis =>
    have tame := confined event List.mem_cons_self
    have here := fades_next settled tame (unaltered (world, event) List.mem_cons_self) kind
    exact here.trans (inductionHypothesis (settled_next settled tame)
      (fun other member => confined other (List.mem_cons_of_mem event member))
      fun moment member => unaltered moment (List.mem_cons_of_mem _ member))

end

/-! ## The last alteration -/

/-- An event, with the world that it happened to, is the last of a history that altered an
artifact. -/
def IsLastAlteration (setting : Setting) (start : World σ) (events : List (Event σ))
    (moment : World σ × Event σ) : Prop :=
  exists before later, setting.chronicle start events = before ++ moment :: later ∧
    setting.Alters moment.1 moment.2 ∧
    forall other, other ∈ later -> ¬ setting.Alters other.1 other.2

/-- A run at the end of a history is the last alteration if it alters an artifact. -/
theorem isLastAlteration_append {start : World σ} {first : List (Event σ)}
    (alters : setting.Alters (setting.last start first) event) :
    setting.IsLastAlteration start (first ++ [event]) (setting.last start first, event) := by
  refine ⟨setting.chronicle start first, [], ?_, alters, ?_⟩
  · exact setting.chronicle_append start first [event]
  intro other member
  cases member

theorem exists_isLastAlteration {start : World σ} {events : List (Event σ)}
    (altered : exists moment, moment ∈ setting.chronicle start events ∧
      setting.Alters moment.1 moment.2) :
    exists moment, setting.IsLastAlteration start events moment := by
  unfold IsLastAlteration
  generalize setting.chronicle start events = moments at altered
  induction moments with
  | nil =>
    rcases altered with ⟨moment, member, _⟩
    cases member
  | cons here more inductionHypothesis =>
    by_cases behind : exists moment, moment ∈ more ∧ setting.Alters moment.1 moment.2
    · rcases inductionHypothesis behind with ⟨moment, before, later, rfl, alters, unaltered⟩
      exact ⟨moment, here :: before, later, rfl, alters, unaltered⟩
    · rcases altered with ⟨moment, member, alters⟩
      rcases List.mem_cons.mp member with rfl | late
      · exact ⟨moment, [], more, rfl, alters, fun other member both =>
          behind ⟨other, member, both⟩⟩
      · exact absurd ⟨moment, late, alters⟩ behind

section
variable {start : World σ} {events : List (Event σ)} {moment : World σ × Event σ}

theorem mem_chronicle_of_isLastAlteration
    (isLast : setting.IsLastAlteration start events moment) :
    moment ∈ setting.chronicle start events := by
  rcases isLast with ⟨before, later, split, _⟩
  rw [split]
  exact List.mem_append_right _ List.mem_cons_self

theorem alters_of_isLastAlteration (isLast : setting.IsLastAlteration start events moment) :
    setting.Alters moment.1 moment.2 := by
  rcases isLast with ⟨_, _, _, alters, _⟩
  exact alters

variable (settled : setting.job.Settled start.files)
  (confined : forall event, event ∈ events -> event.IsConfined)
  (isLast : setting.IsLastAlteration start events moment)
include settled confined isLast

/-- What the last alteration left can only have disappeared since. -/
theorem fades_of_isLastAlteration (kind : ArtifactKind) :
    setting.Fades (setting.next moment.1 moment.2) (setting.last start events) kind := by
  rcases of_mem_chronicle settled confined (mem_chronicle_of_isLastAlteration isLast) with
    ⟨settledMoment, tame, _⟩
  rcases isLast with ⟨before, later, split, _, unaltered⟩
  rcases chronicle_eq_append split with ⟨first, rest, rfl, atMoment, rfl, rfl⟩
  have confinedRest : forall event, event ∈ rest -> event.IsConfined :=
    fun event member => confined event (List.mem_append_right _ (List.mem_cons_of_mem _ member))
  rw [last_append, ← atMoment]
  exact fades_last (settled_next settledMoment tame) confinedRest unaltered kind

/-- A run of a history that is completed is the last alteration or comes before it. -/
theorem eq_or_before_of_isLastAlteration {other : World σ × Event σ}
    (member : other ∈ setting.chronicle start events)
    (completes : setting.Completes other.1 other.2 middle) :
    other = moment ∨
      (setting.next other.1 other.2).files.clock.total ≤ moment.1.files.clock.total := by
  rcases of_mem_chronicle settled confined member with ⟨settledOther, tame, _⟩
  rcases isLast with ⟨before, later, split, _, unaltered⟩
  rcases chronicle_eq_append split with ⟨first, rest, rfl, atMoment, rfl, rfl⟩
  rw [split] at member
  rcases List.mem_append.mp member with early | notEarly
  · have confinedFirst : forall event, event ∈ first -> event.IsConfined :=
      fun event member => confined event (List.mem_append_left _ member)
    rcases of_mem_chronicle settled confinedFirst early with ⟨_, _, order⟩
    rw [atMoment]
    exact Or.inr order
  · rcases List.mem_cons.mp notEarly with here | late
    · exact Or.inl here
    · exact absurd (alters_of_completes settledOther tame completes) (unaltered other late)

end

/-- An artifact that is found in a tree stood in its place in a world before. -/
def Remains (setting : Setting) (world : World σ) (tree : FileTree) (kind : ArtifactKind) : Prop :=
  exists old new, setting.standing world kind = some old ∧
    tree.find (setting.job.artifact kind) = .ok new ∧ old.Keeps new

theorem Remains.of_fades {after : World σ} {tree : FileTree}
    (fades : setting.Fades world after kind) (remains : setting.Remains after tree kind) :
    setting.Remains world tree kind := by
  rcases remains with ⟨between, new, stands, found, late⟩
  rcases fades between stands with ⟨old, stood, early⟩
  exact ⟨old, new, stood, found, early.trans late⟩

/-- A run that finds the artifacts up to date leaves all of them as they are. -/
theorem remains_of_upToDate {force : Bool} {toolchain : Toolchain σ} {outcome : ProcessOutcome}
    {final : World σ} (settled : setting.job.Settled world.files) (confined : toolchain.Confined)
    (ended : setting.runEnding force toolchain world = (.ok outcome, final))
    (upToDate : outcome.status = .upToDate) (kind : ArtifactKind) :
    setting.Remains world final.files kind := by
  have run : ending ((setting.processor force toolchain).runJob setting.job) world =
      (.ok outcome, final) :=
    (Processor.ending_process (setting.processor force toolchain) setting.found
      world).symm.trans ended
  rcases Processor.runJob_eq_ok_iff.mp run with ⟨facts, middle, _, refreshed, _⟩
  have files := Processor.files_runJob_of_refresh refreshed
  rw [upToDate] at refreshed
  rcases Processor.refresh_eq_upToDate refreshed with ⟨fresh, reloaded⟩
  have same := Processor.reads_reloadFacts (setting.confined_processor force confined)
    setting.job world
  rw [reloaded] at same
  have settledMiddle : setting.job.Settled middle.files := same ▸ settled
  have extension :=
    (Processor.seed_outcome settledMiddle.proper.formed setting.named_directory).extension
  rw [← files, run] at extension
  have extended : Extends world.files final.files := same ▸ extension
  rcases Processor.exists_of_artifactsFresh fresh kind with ⟨old, foundOld⟩
  rcases (find_eq_ok_iff (settled.direct kind)).mp foundOld with ⟨reaches, stands, slashed⟩
  rcases extended.exists_keeps settled.proper stands with ⟨new, standsNew, keeps⟩
  refine ⟨old, new, stands, ?_, keeps⟩
  refine (find_eq_ok_iff ((settled.of_grows extended.grows).direct kind)).mpr
    ⟨reaches.of_grows settled.proper extended.grows, ?_, ?_⟩
  · unfold FileTree.standing
    rw [destination_eq extended.grows.current_eq]
    exact standsNew
  · exact fun slash => keeps.node_eq.trans (slashed slash)

/-- What a completed run left and is still there was made by that run. -/
theorem madeBy_of_remains {tree : FileTree} (settled : setting.job.Settled world.files)
    (confined : event.IsConfined) (completes : setting.Completes world event middle)
    (remains : forall kind, setting.Remains (setting.next world event) tree kind) :
    setting.MadeBy world middle tree := by
  intro kind
  rcases holds_of_completes settled confined completes kind with ⟨entry, holds, stands, since⟩
  rcases remains kind with ⟨old, new, stood, found, keeps⟩
  rw [stands] at stood
  cases stood
  rw [keeps.eq_of_not_folder holds.notFolder] at found
  exact ⟨entry, holds.found, found, since⟩

/-- An artifact that is older than the run that left it was there before. -/
theorem standing_eq_of_lt {force : Bool} {toolchain : Toolchain σ} {entry : FileEntry}
    (settled : setting.job.Settled world.files) (confined : toolchain.Confined)
    (stands : setting.standing (setting.next world (.run force toolchain)) kind = some entry)
    (notFolder : entry.node ≠ .folder) (older : entry.modified.total < world.files.clock.total) :
    setting.standing world kind = some entry := by
  have grows : Grows world.files (setting.next world (.run force toolchain)).files :=
    grows_run settled.proper.formed confined
  unfold standing FileTree.standing at stands
  rw [destination_eq grows.current_eq] at stands
  rcases grows.keeps_or_new settled.proper stands with ⟨old, stood, keeps⟩ | ⟨time, _⟩
  · have oldNotFolder : old.node ≠ .folder := fun folder =>
      notFolder (keeps.node_eq.trans folder)
    rw [keeps.eq_of_not_folder oldNotFolder]
    exact stood
  · omega

/-- What a run left and another one has altered since was not made by the first run. -/
theorem not_madeBy_of_alters {early late : World σ × Event σ} {tree : FileTree}
    (settledEarly : setting.job.Settled early.1.files) (confinedEarly : early.2.IsConfined)
    (completes : setting.Completes early.1 early.2 middle)
    (settledLate : setting.job.Settled late.1.files) (confinedLate : late.2.IsConfined)
    (order : (setting.next early.1 early.2).files.clock.total ≤ late.1.files.clock.total)
    (alters : setting.Alters late.1 late.2)
    (remains : forall kind, setting.Remains (setting.next late.1 late.2) tree kind) :
    ¬ setting.MadeBy early.1 middle tree := by
  intro made
  rcases late with ⟨world, event⟩
  rcases exists_run_of_alters alters with ⟨force, toolchain, rfl⟩
  rcases alters with ⟨kind, altered⟩
  rcases made kind with ⟨entry, foundEarly, found, _⟩
  rcases holds_of_completes settledEarly confinedEarly completes kind with ⟨same, holds, stands, _⟩
  rw [holds.found] at foundEarly
  cases foundEarly
  have timed := modified_lt_clock (settled_next settledEarly confinedEarly).proper stands
  rcases remains kind with ⟨old, new, stood, foundNew, keeps⟩
  rw [found] at foundNew
  cases foundNew
  have notFolder : old.node ≠ .folder := fun folder =>
    holds.notFolder (keeps.node_eq.trans folder)
  cases keeps.eq_of_not_folder notFolder
  -- the artifact is older than the late run, so that run cannot have altered it
  have stoodBefore := standing_eq_of_lt settledLate confinedLate stood notFolder (by omega)
  exact altered (stood.trans stoodBefore.symm)

theorem read_of_madeBy {tree : FileTree} {time : Timestamp} {content : ByteArray}
    (made : setting.MadeBy world middle tree)
    (holds : Processor.HoldsSince setting.job middle.files time kind content) :
    tree.read (setting.job.artifact kind) = .ok content := by
  rcases holds with ⟨entry, held, file, _⟩
  rcases made kind with ⟨same, foundMiddle, found, _⟩
  rw [held.found] at foundMiddle
  cases foundMiddle
  exact Job.Holds.read ⟨found, held.notFolder⟩ file

/-- What a completed run has made is rewritten. -/
theorem holdsRewritten_of_madeBy {force : Bool} {toolchain : Toolchain σ} {tree : FileTree}
    (settled : setting.job.Settled world.files) (confined : toolchain.Confined)
    (completes : setting.Completes world (.run force toolchain) middle)
    (made : setting.MadeBy world middle tree) :
    setting.HoldsRewritten world force toolchain tree := by
  have renewed := renewed_of_completes settled confined completes
  rcases renewed.rules with ⟨rules, rulesHeld, printsRules⟩
  rcases renewed.grammar with ⟨grammar, grammarHeld, printsGrammar⟩
  exact ⟨⟨rules, read_of_madeBy made rulesHeld, printsRules⟩,
    ⟨grammar, read_of_madeBy made grammarHeld, printsGrammar⟩⟩

section
variable {start : World σ} {events : List (Event σ)} {tree : FileTree}
  (settled : setting.job.Settled start.files)
  (confined : forall event, event ∈ events -> event.IsConfined)
  (remains : forall kind, setting.Remains (setting.last start events) tree kind)
include settled confined remains

/-- All that the last alteration left is still there. -/
theorem remains_of_isLastAlteration {moment : World σ × Event σ}
    (isLast : setting.IsLastAlteration start events moment) (kind : ArtifactKind) :
    setting.Remains (setting.next moment.1 moment.2) tree kind :=
  (remains kind).of_fades (fades_of_isLastAlteration settled confined isLast kind)

/-- The artifacts were made together exactly if the last alteration was completed. -/
theorem madeTogether_iff_of_isLastAlteration {moment : World σ × Event σ}
    (isLast : setting.IsLastAlteration start events moment) :
    setting.MadeTogether start events tree <->
      exists middle, setting.Completes moment.1 moment.2 middle := by
  have member := mem_chronicle_of_isLastAlteration isLast
  rcases of_mem_chronicle settled confined member with ⟨settledMoment, tame, _⟩
  have remainsMoment := remains_of_isLastAlteration settled confined remains isLast
  constructor
  · rintro ⟨other, middle, otherMember, completes, made⟩
    rcases of_mem_chronicle settled confined otherMember with ⟨settledOther, otherTame, _⟩
    rcases eq_or_before_of_isLastAlteration settled confined isLast otherMember completes with
      rfl | order
    · exact ⟨middle, completes⟩
    · exact absurd made (not_madeBy_of_alters settledOther otherTame completes settledMoment
        tame order (alters_of_isLastAlteration isLast) remainsMoment)
  · rintro ⟨middle, completes⟩
    exact ⟨moment, middle, member, completes,
      madeBy_of_remains settledMoment tame completes remainsMoment⟩

/-- Artifacts that are there and were not there at first come from a run. -/
theorem exists_isLastAlteration_of_absent
    (absent : forall kind, setting.standing start kind = none) :
    exists world force toolchain,
      setting.IsLastAlteration start events (world, .run force toolchain) := by
  have altered : exists moment, moment ∈ setting.chronicle start events ∧
      setting.Alters moment.1 moment.2 := by
    by_contra never
    have unaltered : forall moment, moment ∈ setting.chronicle start events ->
        ¬ setting.Alters moment.1 moment.2 :=
      fun moment member alters => never ⟨moment, member, alters⟩
    rcases (remains .rules).of_fades (fades_last settled confined unaltered .rules) with
      ⟨old, new, stands, _⟩
    rw [absent .rules] at stands
    cases stands
  rcases exists_isLastAlteration altered with ⟨⟨world, event⟩, isLast⟩
  rcases exists_run_of_alters (alters_of_isLastAlteration isLast) with ⟨force, toolchain, rfl⟩
  exact ⟨world, force, toolchain, isLast⟩

end

/-! ## A small history -/

/-- A definition in the folder of a plugin, with short names. -/
def sample : Setting where
  configuration := {}
  layout := ⟨⟨""⟩⟩
  definition := ⟨"l"⟩
  job := ⟨"l", ⟨"src/l"⟩, ⟨"bin"⟩, .inDirectory ⟨"bin"⟩ "l" {}⟩
  found := by rfl

/-- The plugin before anything was processed.  The tools generate a small grammar and a small rule
module. -/
def sampleStart : World ScriptedTools where
  files := (ending (createFolders ⟨"src"⟩) (rooted [] ⟨0, 0⟩)).2
  tools := { script := {
    grammar := some "m(g,[],[])"
    rules := some
      ("M(r,[Strategies([SDefNoArgs(\"l-ToplevelDeclaration\"," ++
        "Build(NoAnnoList(Str(\"T\"))))])])") } }

/-- The same tools, but without parsers. -/
def withoutParsers : Toolchain ScriptedTools :=
  { ScriptedTools.toolchain with parse := fun _ _ _ => throw (.other "there is no parser") }

/-- The definition is written, and a run is completed. -/
def sampleEvents : List (Event ScriptedTools) :=
  [.edit (Text.toBytes "definition"), .run false ScriptedTools.toolchain]

/-- Another run is told to make the artifacts anew, and fails behind the bootstrap compiler. -/
def brokenEvents : List (Event ScriptedTools) :=
  sampleEvents ++ [.run true withoutParsers]

theorem confined_withoutParsers : withoutParsers.Confined :=
  { ScriptedTools.confined with parse := fun _ _ _ => ToolWork.leavesFiles_throw _ }

theorem confined_brokenEvents : forall event, event ∈ brokenEvents -> event.IsConfined := by
  intro event member
  simp only [brokenEvents, sampleEvents, List.cons_append, List.nil_append, List.mem_cons,
    List.not_mem_nil, or_false] at member
  rcases member with rfl | rfl | rfl
  · exact trivial
  · exact ScriptedTools.confined
  · exact confined_withoutParsers

theorem confined_sampleEvents : forall event, event ∈ sampleEvents -> event.IsConfined :=
  fun event member => confined_brokenEvents event (List.mem_append_left _ member)

theorem grows_sampleStart : Grows (rooted [] ⟨0, 0⟩) sampleStart.files :=
  (createFolders_outcome ⟨"src"⟩ (proper_rooted [] ⟨0, 0⟩).formed).gains.extension.grows

theorem proper_sampleStart : sampleStart.files.Proper :=
  grows_sampleStart.proper (proper_rooted [] ⟨0, 0⟩)

theorem separate_sampleStart : sample.job.Separate sampleStart.files := by
  apply Job.Separate.of_noLinks
  · exact fun place => grows_sampleStart.linkAt?_eq_none (proper_rooted [] ⟨0, 0⟩) linkAt?_rooted
  · intro kind
    cases kind <;> decide +kernel
  · intro kind other different
    cases kind <;> cases other <;> first | exact absurd rfl different | decide +kernel

theorem absent_sampleStart (kind : ArtifactKind) :
    sample.standing sampleStart kind = none := by
  cases kind <;> decide +kernel

/-- How a run ends, as far as its status goes. -/
def endingStatus (ended : Except BuildError ProcessOutcome × World σ) : Option BuildStatus :=
  ended.1.toOption.map ProcessOutcome.status

theorem exists_of_endingStatus {ended : Except BuildError ProcessOutcome × World σ}
    {status : BuildStatus} (same : endingStatus ended = some status) :
    exists outcome final, ended = (.ok outcome, final) ∧ outcome.status = status := by
  rcases ended with ⟨result, final⟩
  cases result with
  | error error => cases same
  | ok outcome => exact ⟨outcome, final, rfl, Option.some.inj same⟩

/-- Both histories end with artifacts that a run finds up to date, although the run that fails
alters the rule module. -/
theorem runs_sample :
    endingStatus (sample.runEnding false ScriptedTools.toolchain
        (sample.last sampleStart sampleEvents)) = some .upToDate ∧
      endingStatus (sample.runEnding false ScriptedTools.toolchain
        (sample.last sampleStart brokenEvents)) = some .upToDate ∧
      sample.standing (sample.next (sample.last sampleStart sampleEvents)
          (.run true withoutParsers)) .rules ≠
        sample.standing (sample.last sampleStart sampleEvents) .rules := by
  decide +kernel

/-- Nothing is completed without parsers. -/
theorem not_completes_withoutParsers {world middle : World ScriptedTools} {force : Bool} :
    ¬ setting.Completes world (.run force withoutParsers) middle := by
  rintro ⟨_, facts, regenerated⟩
  rcases Processor.regenerate_eq_ok_iff.mp regenerated with
    ⟨_, _, _, _, _, _, _, _, _, _, _, _, _, rules, _⟩
  rcases Processor.processRules_eq_ok_iff.mp rules with ⟨_, _, _, _, _, _, parse, _⟩
  unfold Processor.parse at parse
  rw [Step.ending_tool] at parse
  cases parse

/-! ## Artifacts that are found up to date -/

/-- Whenever a run of a history without artifacts at first finds them up to date, a run before it
has altered an artifact, and the last of these runs decides: exactly if it was completed, the
artifacts that are there were made together.  Then they are those which it made, and the rule
module and the grammar are the rewritten ones. -/
theorem madeTogether_iff_of_upToDate {start final : World σ} {events : List (Event σ)}
    {force : Bool} {toolchain : Toolchain σ} {outcome : ProcessOutcome}
    (proper : start.files.Proper) (separate : setting.job.Separate start.files)
    (absent : forall kind, setting.standing start kind = none)
    (confined : forall event, event ∈ events -> event.IsConfined) (tame : toolchain.Confined)
    (ended : setting.runEnding force toolchain (setting.last start events) = (.ok outcome, final))
    (upToDate : outcome.status = .upToDate) :
    exists world told tools, setting.IsLastAlteration start events (world, .run told tools) ∧
      (forall kind, exists entry, final.files.find (setting.job.artifact kind) = .ok entry) ∧
      (setting.MadeTogether start events final.files <->
        exists middle, setting.Completes world (.run told tools) middle) ∧
      forall middle, setting.Completes world (.run told tools) middle ->
        setting.MadeBy world middle final.files ∧
          setting.HoldsRewritten world told tools final.files := by
  have settled : setting.job.Settled start.files := .of_absent proper separate absent
  have remains := remains_of_upToDate (settled_last settled confined) tame ended upToDate
  rcases exists_isLastAlteration_of_absent settled confined remains absent with
    ⟨world, told, tools, isLast⟩
  rcases of_mem_chronicle settled confined (mem_chronicle_of_isLastAlteration isLast) with
    ⟨settledWorld, toolsTame, _⟩
  refine ⟨world, told, tools, isLast, ?_,
    madeTogether_iff_of_isLastAlteration settled confined remains isLast, ?_⟩
  · intro kind
    rcases remains kind with ⟨_, entry, _, found, _⟩
    exact ⟨entry, found⟩
  intro middle completes
  have made := madeBy_of_remains settledWorld toolsTame completes
    (remains_of_isLastAlteration settled confined remains isLast)
  exact ⟨made, holdsRewritten_of_madeBy settledWorld toolsTame completes made⟩

theorem madeTogether_iff_sample :
    exists outcome final,
      sample.runEnding false ScriptedTools.toolchain (sample.last sampleStart sampleEvents) =
        (.ok outcome, final) ∧
      exists world told tools,
        sample.IsLastAlteration sampleStart sampleEvents (world, .run told tools) ∧
        (forall kind, exists entry, final.files.find (sample.job.artifact kind) = .ok entry) ∧
        (sample.MadeTogether sampleStart sampleEvents final.files <->
          exists middle, sample.Completes world (.run told tools) middle) ∧
        forall middle, sample.Completes world (.run told tools) middle ->
          sample.MadeBy world middle final.files ∧
            sample.HoldsRewritten world told tools final.files := by
  rcases runs_sample with ⟨status, _⟩
  rcases exists_of_endingStatus status with ⟨outcome, final, ended, upToDate⟩
  exact ⟨outcome, final, ended, madeTogether_iff_of_upToDate proper_sampleStart
    separate_sampleStart absent_sampleStart confined_sampleEvents ScriptedTools.confined ended
    upToDate⟩

/-- Artifacts that are found up to date need not have been made together: after a run was
completed, another one can fail behind the bootstrap compiler. -/
theorem not_forall_madeTogether :
    ¬ forall (setting : Setting) (start final : World ScriptedTools)
        (events : List (Event ScriptedTools)) (force : Bool) (toolchain : Toolchain ScriptedTools)
        (outcome : ProcessOutcome),
      start.files.Proper -> setting.job.Separate start.files ->
      (forall kind, setting.standing start kind = none) ->
      (forall event, event ∈ events -> event.IsConfined) -> toolchain.Confined ->
      setting.runEnding force toolchain (setting.last start events) = (.ok outcome, final) ->
      outcome.status = .upToDate -> setting.MadeTogether start events final.files := by
  intro claimed
  rcases runs_sample with ⟨_, status, altered⟩
  rcases exists_of_endingStatus status with ⟨outcome, final, ended, upToDate⟩
  have made := claimed sample sampleStart final brokenEvents false ScriptedTools.toolchain outcome
    proper_sampleStart separate_sampleStart absent_sampleStart confined_brokenEvents
    ScriptedTools.confined ended upToDate
  have settled : sample.job.Settled sampleStart.files :=
    .of_absent proper_sampleStart separate_sampleStart absent_sampleStart
  have remains := remains_of_upToDate (settled_last settled confined_brokenEvents)
    ScriptedTools.confined ended upToDate
  have isLast : sample.IsLastAlteration sampleStart brokenEvents
      (sample.last sampleStart sampleEvents, .run true withoutParsers) :=
    isLastAlteration_append ⟨.rules, altered⟩
  rcases (madeTogether_iff_of_isLastAlteration settled confined_brokenEvents remains isLast).mp
    made with ⟨middle, completes⟩
  exact not_completes_withoutParsers completes

end Setting
end BaseLanguage
