import BaseLanguage.Proofs.Processor.Repetition

namespace BaseLanguage

/-!
# Where the files of a run lie

The artifacts of a language share a folder and a name, so they differ in their extensions only.  Two
of these can be chosen, and nothing keeps anyone from choosing one of the others, or one twice.  An
extension may even hold slashes, and then it adds names to the path; a slash at its end, or a lone
dot behind a slash, adds nothing.

A definition lies in another folder of the plugin than the artifacts, unless it is given by an
absolute path.  Then it may lie anywhere, also among the artifacts.

Different paths need not lead to different files: a step may lead up, a link may lead away, and
a relative path may lead where an absolute one does.  Without all this they do, and then writing one
of the files leaves the others.
-/

namespace Path

variable {path left right directory : Path}

/-! ## Paths that are the same -/

/-- Two paths are the same if they have the same steps. -/
def IsSame (left right : Path) : Prop :=
  left.components = right.components

instance (left right : Path) : Decidable (left.IsSame right) :=
  inferInstanceAs (Decidable (left.components = right.components))

theorem ofName_injective : Function.Injective Component.ofName := by
  intro left right same
  unfold Component.ofName at same
  split at same <;> split at same
  · next up upAlso => rw [up, upAlso]
  · cases same
  · cases same
  · exact String.ofList_injective (Component.name.inj same)

/-- No name is a step that an anchor stands for. -/
theorem map_ofName_ne (names : List (List Char)) (steps : List Component) :
    names.map Component.ofName ≠ .root :: steps ∧
      names.map Component.ofName ≠ .current :: steps := by
  constructor <;>
  · intro same
    rcases List.map_eq_cons_iff.mp same with ⟨name, _, _, first, _⟩
    unfold Component.ofName at first
    split at first <;> cases first

/-- Paths are the same if they are anchored at the same place and go through the same names. -/
theorem isSame_iff :
    left.IsSame right <-> left.anchor = right.anchor ∧ left.names = right.names := by
  unfold IsSame
  rw [components_eq, components_eq]
  constructor
  · intro same
    have leftNames := map_ofName_ne left.names (right.names.map Component.ofName)
    have rightNames := map_ofName_ne right.names (left.names.map Component.ofName)
    cases leftAnchor : left.anchor <;> cases rightAnchor : right.anchor <;>
      rw [leftAnchor, rightAnchor] at same <;>
      simp only [Anchor.components, List.cons_append, List.nil_append, List.cons.injEq,
        reduceCtorEq, false_and, true_and] at same
    case root.root | current.current | none.none =>
      exact ⟨rfl, (List.map_inj_right fun _ _ => @ofName_injective _ _).mp same⟩
    case none.root => exact absurd same leftNames.1
    case none.current => exact absurd same leftNames.2
    case root.none => exact absurd same.symm rightNames.1
    case current.none => exact absurd same.symm rightNames.2
  · rintro ⟨anchors, names⟩
    rw [anchors, names]

/-! ## Paths behind a folder -/

theorem anchor_eq_root (absolute : path.isAbsolute = true) : path.anchor = .root := by
  unfold anchor split
  unfold isAbsolute at absolute
  cases text : path.text.toList with
  | nil =>
    rw [text] at absolute
    cases absolute
  | cons c rest =>
    rw [text, List.head?_cons, beq_iff_eq, Option.some.injEq] at absolute
    rw [absolute, Text.pieces, if_pos rfl]
    cases cut : Text.pieces '/' rest with
    | nil => exact absurd cut (Text.pieces_ne_nil '/' rest)
    | cons segment more => rfl

theorem names_join (directory : Path) (relative : path.isAbsolute = false) :
    (directory.join path).names = directory.names ++ path.names := by
  rw [names_eq_filter_pieces, names_eq_filter_pieces,
    names_eq_filter_pieces]
  exact FileTree.filter_pieces_join rfl directory relative

theorem EndsInName.anchor_join (named : directory.EndsInName) (relative : path.isAbsolute = false) :
    (directory.join path).anchor = directory.anchor := by
  unfold anchor
  rw [named.text_join relative, named.split_append]

/-! ## Paths that lead nowhere up -/

/-- No step of a path leads up. -/
def IsStraight (path : Path) : Prop :=
  ['.', '.'] ∉ path.names

instance (path : Path) : Decidable path.IsStraight :=
  inferInstanceAs (Decidable (['.', '.'] ∉ path.names))

end Path

namespace FileTree

variable {tree after : FileTree} {path other directory : Path}

theorem foldl_onward (segments : List (List Char)) (place : Location)
    (straight : ['.', '.'] ∉ segments.filter (fun name => !Path.isSilent name)) :
    ((segments.filter (fun name => !name.isEmpty)).map String.ofList).foldl onward place =
      place ++ (segments.filter (fun name => !Path.isSilent name)).map String.ofList := by
  induction segments generalizing place with
  | nil => simp
  | cons segment more inductionHypothesis =>
    by_cases empty : segment = []
    · subst empty
      exact inductionHypothesis place straight
    by_cases dot : segment = ['.']
    · subst dot
      exact inductionHypothesis place straight
    have notSilent : Path.isSilent segment = false := by
      simp [Path.isSilent, empty, dot]
    simp only [List.filter_cons, notSilent, Bool.not_false, if_true, List.mem_cons,
      not_or] at straight
    have notDot : String.ofList segment ≠ "." := fun same =>
      dot (String.ofList_injective (same.trans rfl))
    have notUp : String.ofList segment ≠ ".." := fun same =>
      straight.1 (String.ofList_injective (same.trans rfl)).symm
    have stepped : onward place (String.ofList segment) = place ++ [String.ofList segment] := by
      rw [onward, if_neg notDot, if_neg notUp]
    have shown : (!segment.isEmpty) = true := by simpa using empty
    rw [List.filter_cons, if_pos shown, List.map_cons, List.foldl_cons, stepped,
      inductionHypothesis _ straight.2, List.filter_cons, notSilent]
    simp

/-- Behind a folder, a path that leads nowhere up goes down the names that it goes through. -/
theorem destination_join (directory : Path) (relative : path.isAbsolute = false)
    (straight : path.IsStraight) :
    tree.destination (directory.join path) =
      tree.destination directory ++ path.names.map String.ofList := by
  unfold destination origin
  rw [isAbsolute_join directory relative, steps_join directory relative, List.foldl_append]
  rw [Path.IsStraight, Path.names_eq_filter_pieces] at straight
  rw [Path.names_eq_filter_pieces]
  exact foldl_onward _ _ straight

theorem destination_eq_names (absolute : path.isAbsolute = true) (straight : path.IsStraight) :
    tree.destination path = path.names.map String.ofList := by
  unfold destination origin
  rw [absolute]
  rw [Path.IsStraight, Path.names_eq_filter_pieces] at straight
  rw [Path.names_eq_filter_pieces]
  exact foldl_onward _ _ straight

/-- Writing a file leaves what another path leads to, if that path leads to another place and the
file that it leads to stands nowhere else. -/
theorem find_of_write {content : ByteArray} {result : Except FileFault Unit} {entry : FileEntry}
    (formed : tree.Formed) (direct : tree.Direct path) (directOther : tree.Direct other)
    (sole : tree.Sole (tree.destination other))
    (different : tree.destination other ≠ tree.destination path)
    (wrote : ending (write path content) tree = (result, after))
    (found : tree.find other = .ok entry) (notFolder : entry.node ≠ .folder) :
    after.find other = .ok entry := by
  have outcome := write_outcome formed path content
  rw [wrote] at outcome
  cases outcome with
  | refused => exact found
  | swallowed => exact found
  | written located _ change =>
    rcases (locate_eq_ok_iff direct).mp located with ⟨_, rfl⟩
    rcases bind_eq_ok_iff.mp found with ⟨place, locatedOther, standing⟩
    rcases (locate_eq_ok_iff directOther).mp locatedOther with ⟨_, rfl⟩
    rcases entryAt_eq_ok_iff.mp standing with ⟨there, slashed⟩
    have apart : tree.number? (tree.destination other) ≠
        tree.number? (tree.destination path) := by
      intro same
      rcases get?_eq_some_iff.mp there with ⟨number, numbered, _⟩
      exact different (sole number _ numbered (same.symm.trans numbered)).symm
    have kept := change.eq_of_not_folder formed there notFolder apart
    exact bind_eq_ok_iff.mpr ⟨_, (change.follows formed).locateWith locatedOther,
      entryAt_eq_ok_iff.mpr ⟨kept, slashed⟩⟩

end FileTree

/-! ## Extensions -/

namespace ArtifactExtensions

/-- What an extension adds to a path: the end of a name, and the names behind that name. -/
def segments (extension : String) : List (List Char) :=
  match Text.pieces '/' extension.toList with
  | [] => []
  | first :: more => first :: more.filter (fun segment => !Path.isSilent segment)

/-- The kinds of artifacts can be told from each other by their extensions. -/
def Distinguish (extensions : ArtifactExtensions) : Prop :=
  forall kind other, kind ≠ other ->
    segments (extensions.get kind) ≠ segments (extensions.get other)

theorem distinguish_default : Distinguish {} := by
  intro kind other different
  cases kind <;> cases other <;> first | exact absurd rfl different | decide

variable {language : String}

/-- A file of a language goes through what its extension adds to the name of the language. -/
theorem names_file (noSlash : '/' ∉ language.toList) (notEmpty : language ≠ "")
    (extension : String) :
    Path.names ⟨language ++ "." ++ extension⟩ =
      (segments extension).modifyHead (language.toList ++ ['.'] ++ ·) := by
  have named : '/' ∉ language.toList ++ ['.'] := by
    simpa using noSlash
  have text : (language ++ "." ++ extension).toList =
      language.toList ++ ['.'] ++ extension.toList := by
    rw [String.toList_append, String.toList_append]
    rfl
  rw [Path.names_eq_filter_pieces, text, Text.pieces_append_of_not_mem named, segments]
  cases cut : Text.pieces '/' extension.toList with
  | nil => exact absurd cut (Text.pieces_ne_nil '/' extension.toList)
  | cons first more =>
    have shown : Path.isSilent (language.toList ++ ['.'] ++ first) = false := by
      cases written : language.toList with
      | nil => exact absurd (String.toList_inj.mp written) notEmpty
      | cons c rest => simp [Path.isSilent]
    simp only [List.modifyHead_cons, List.filter_cons, shown, Bool.not_false, if_true]

theorem names_file_inj (noSlash : '/' ∉ language.toList) (notEmpty : language ≠ "")
    {first second : String} :
    Path.names ⟨language ++ "." ++ first⟩ = Path.names ⟨language ++ "." ++ second⟩ <->
      segments first = segments second := by
  rw [names_file noSlash notEmpty, names_file noSlash notEmpty]
  constructor
  · intro same
    cases firstSegments : segments first <;> cases secondSegments : segments second <;> simp_all
  · intro same
    rw [same]

theorem isAbsolute_file (noSlash : '/' ∉ language.toList) (notEmpty : language ≠ "")
    (extension : String) : Path.isAbsolute ⟨language ++ "." ++ extension⟩ = false := by
  unfold Path.isAbsolute
  simp only [String.toList_append]
  cases written : language.toList with
  | nil => exact absurd (String.toList_inj.mp written) notEmpty
  | cons c rest =>
    have different : c ≠ '/' := by
      rintro rfl
      exact noSlash (written ▸ List.mem_cons_self)
    simpa using different

end ArtifactExtensions

/-- The path of a definition that is given by a relative path goes through the folder of
definitions. -/
theorem PluginLayout.names_definitionPath (layout : PluginLayout) {definition : Path}
    (relative : definition.isAbsolute = false) :
    (layout.definitionPath definition).names =
      layout.root.names ++ ['s', 'r', 'c'] :: definition.names := by
  rw [definitionPath, Path.names_join _ relative, sourceDirectory, Path.names_join _ (by decide),
    List.append_assoc]
  rfl

/-! ## The files of a run -/

open FileTree

namespace Job

/-- The artifacts and the definition have six different paths. -/
structure Apart (job : Job) : Prop where
  artifacts : forall kind other, kind ≠ other ->
    ¬ (job.artifact kind).IsSame (job.artifact other)
  definition : forall kind, ¬ (job.artifact kind).IsSame job.definition

/-- No link lies on the way to the definition or to an artifact, and each of them stands nowhere
else. -/
structure StandsAlone (job : Job) (tree : FileTree) : Prop where
  formed : tree.Formed
  definition_direct : tree.Direct job.definition
  direct : forall kind, tree.Direct (job.artifact kind)
  definition_sole : tree.Sole (tree.destination job.definition)
  sole : forall kind, tree.Sole (tree.destination (job.artifact kind))

/-- Writing an artifact leaves the other artifacts and the definition: what was found there and is
no folder is found again, exactly as it was. -/
def LeavesOthers (job : Job) (tree : FileTree) (kind : ArtifactKind) : Prop :=
  forall content path entry,
    path = job.definition ∨ (exists other, other ≠ kind ∧ path = job.artifact other) ->
    tree.find path = .ok entry -> entry.node ≠ .folder ->
    (ending (FileTree.write (job.artifact kind) content) tree).2.find path = .ok entry

end Job

namespace Setting

variable {setting : Setting} {tree : FileTree} {kind other : ArtifactKind}

/-- Where the files of a run lie can be told from their paths: nothing leads up below the folders of
the plugin, and if the definition is given by an absolute path, so is the plugin. -/
structure IsStraight (setting : Setting) : Prop where
  artifacts : forall kind, Path.IsStraight
    ⟨setting.job.language ++ "." ++ setting.configuration.extensions.get kind⟩
  definition : setting.definition.IsStraight
  root : setting.definition.isAbsolute = true ->
    setting.layout.root.isAbsolute = true ∧ setting.layout.root.IsStraight

theorem job_eq (setting : Setting) :
    Processor.languageName setting.job.definition = .ok setting.job.language ∧
      setting.job = {
        language := setting.job.language
        definition := setting.layout.definitionPath setting.definition
        directory := setting.layout.binaryDirectory
        artifacts := .inDirectory setting.layout.binaryDirectory setting.job.language
          setting.configuration.extensions } := by
  rcases bind_eq_ok_iff.mp setting.found with ⟨language, named, same⟩
  rw [← Except.ok.inj same]
  exact ⟨named, rfl⟩

theorem language_spec (setting : Setting) :
    '/' ∉ setting.job.language.toList ∧ setting.job.language ≠ "" :=
  Path.of_fileStem? (Processor.languageName_eq_ok_iff.mp setting.job_eq.1)

theorem definition_eq (setting : Setting) :
    setting.job.definition = setting.layout.definitionPath setting.definition :=
  congrArg Job.definition setting.job_eq.2

theorem artifact_eq (setting : Setting) (kind : ArtifactKind) :
    setting.job.artifact kind = setting.layout.binaryDirectory.join
      ⟨setting.job.language ++ "." ++ setting.configuration.extensions.get kind⟩ := by
  have artifacts := congrArg Job.artifacts setting.job_eq.2
  unfold Job.artifact
  rw [artifacts]
  exact ArtifactPaths.get_inDirectory _ _ _ kind

/-! ### Paths -/

theorem isAbsolute_file (setting : Setting) (kind : ArtifactKind) :
    Path.isAbsolute ⟨setting.job.language ++ "." ++ setting.configuration.extensions.get kind⟩ =
      false :=
  ArtifactExtensions.isAbsolute_file setting.language_spec.1 setting.language_spec.2 _

theorem names_artifact (setting : Setting) (kind : ArtifactKind) :
    (setting.job.artifact kind).names = setting.layout.root.names ++ ['b', 'i', 'n'] ::
      Path.names ⟨setting.job.language ++ "." ++ setting.configuration.extensions.get kind⟩ := by
  rw [artifact_eq, Path.names_join _ (setting.isAbsolute_file kind), PluginLayout.binaryDirectory,
    Path.names_join _ (by decide), List.append_assoc]
  rfl

theorem names_definition (setting : Setting) (relative : setting.definition.isAbsolute = false) :
    setting.job.definition.names =
      setting.layout.root.names ++ ['s', 'r', 'c'] :: setting.definition.names := by
  rw [definition_eq, PluginLayout.names_definitionPath _ relative]

theorem definition_of_isAbsolute (absolute : setting.definition.isAbsolute = true) :
    setting.job.definition = setting.definition := by
  rw [definition_eq, PluginLayout.definitionPath, Path.join, if_pos absolute]

/-- Two artifacts have the same path exactly if their extensions add the same to the name of the
language. -/
theorem isSame_artifact_iff :
    (setting.job.artifact kind).IsSame (setting.job.artifact other) <->
      ArtifactExtensions.segments (setting.configuration.extensions.get kind) =
        ArtifactExtensions.segments (setting.configuration.extensions.get other) := by
  have named : setting.layout.binaryDirectory.EndsInName :=
    Path.endsInName_child setting.layout.root (by decide) (by decide)
  have anchors : (setting.job.artifact kind).anchor = (setting.job.artifact other).anchor := by
    rw [artifact_eq, artifact_eq, named.anchor_join (setting.isAbsolute_file kind),
      named.anchor_join (setting.isAbsolute_file other)]
  rw [Path.isSame_iff, names_artifact, names_artifact, List.append_cancel_left_eq, List.cons.injEq,
    ArtifactExtensions.names_file_inj setting.language_spec.1 setting.language_spec.2]
  simp [anchors]

/-- A definition in the folder of definitions has the path of no artifact. -/
theorem not_isSame_definition (relative : setting.definition.isAbsolute = false) :
    ¬ (setting.job.artifact kind).IsSame setting.job.definition := by
  intro same
  have names := (Path.isSame_iff.mp same).2
  rw [names_artifact, names_definition setting relative, List.append_cancel_left_eq] at names
  simp at names

/-- The paths of a run are different exactly if the extensions tell the artifacts apart and
a definition that is given by an absolute path is none of them. -/
theorem apart_iff :
    setting.job.Apart <->
      setting.configuration.extensions.Distinguish ∧
        (setting.definition.isAbsolute = true ->
          forall kind, ¬ (setting.job.artifact kind).IsSame setting.definition) := by
  constructor
  · intro apart
    refine ⟨fun kind other different same =>
      apart.artifacts kind other different (isSame_artifact_iff.mpr same), ?_⟩
    intro absolute kind
    rw [← definition_of_isAbsolute absolute]
    exact apart.definition kind
  · rintro ⟨distinguish, elsewhere⟩
    refine ⟨fun kind other different same =>
      distinguish kind other different (isSame_artifact_iff.mp same), fun kind => ?_⟩
    cases absolute : setting.definition.isAbsolute with
    | false => exact not_isSame_definition absolute
    | true =>
      rw [definition_of_isAbsolute absolute]
      exact elsewhere absolute kind

/-! ### Places -/

section
variable (straight : setting.IsStraight)
include straight

theorem destination_artifact (kind : ArtifactKind) :
    tree.destination (setting.job.artifact kind) =
      tree.destination setting.layout.root ++ "bin" :: (Path.names
        ⟨setting.job.language ++ "." ++ setting.configuration.extensions.get kind⟩).map
          String.ofList := by
  rw [artifact_eq, destination_join _ (setting.isAbsolute_file kind) (straight.artifacts kind),
    PluginLayout.binaryDirectory, destination_join _ (by decide) (by decide), List.append_assoc]
  rfl

theorem destination_definition (relative : setting.definition.isAbsolute = false) :
    tree.destination setting.job.definition =
      tree.destination setting.layout.root ++
        "src" :: setting.definition.names.map String.ofList := by
  rw [definition_eq, PluginLayout.definitionPath, destination_join _ relative straight.definition,
    PluginLayout.sourceDirectory, destination_join _ (by decide) (by decide), List.append_assoc]
  rfl

/-- Artifacts with different paths lie in different places. -/
theorem destination_artifact_ne (apart : setting.job.Apart) (different : kind ≠ other) :
    tree.destination (setting.job.artifact kind) ≠
      tree.destination (setting.job.artifact other) := by
  intro same
  rw [destination_artifact straight, destination_artifact straight, List.append_cancel_left_eq,
    List.cons.injEq, List.map_inj_right fun _ _ => @String.ofList_injective _ _] at same
  exact apart.artifacts kind other different (isSame_artifact_iff.mpr
    ((ArtifactExtensions.names_file_inj setting.language_spec.1 setting.language_spec.2).mp same.2))

/-- The definition lies in another place than each artifact that has another path. -/
theorem destination_definition_ne (apart : setting.job.Apart) (kind : ArtifactKind) :
    tree.destination setting.job.definition ≠ tree.destination (setting.job.artifact kind) := by
  intro same
  cases absolute : setting.definition.isAbsolute with
  | false =>
    rw [destination_artifact straight, destination_definition straight absolute,
      List.append_cancel_left_eq] at same
    simp at same
  | true =>
    rcases straight.root absolute with ⟨rooted, straightRoot⟩
    have spelled : (setting.job.artifact kind).names.map String.ofList =
        setting.layout.root.names.map String.ofList ++ "bin" :: (Path.names
          ⟨setting.job.language ++ "." ++ setting.configuration.extensions.get kind⟩).map
            String.ofList := by
      rw [names_artifact, List.map_append]
      rfl
    have rootedArtifact : (setting.job.artifact kind).isAbsolute = true := by
      rw [artifact_eq, isAbsolute_join _ (setting.isAbsolute_file kind),
        PluginLayout.binaryDirectory, isAbsolute_join _ (by decide)]
      exact rooted
    rw [destination_artifact straight, definition_of_isAbsolute absolute,
      destination_eq_names absolute straight.definition, destination_eq_names rooted straightRoot,
      ← spelled, List.map_inj_right fun _ _ => @String.ofList_injective _ _] at same
    refine apart.definition kind (Path.isSame_iff.mpr ?_)
    rw [definition_of_isAbsolute absolute, Path.anchor_eq_root absolute,
      Path.anchor_eq_root rootedArtifact]
    exact ⟨rfl, same.symm⟩

end

/-- Writing an artifact leaves the other artifacts and the definition. -/
theorem leavesOthers (straight : setting.IsStraight) (apart : setting.job.Apart)
    (alone : setting.job.StandsAlone tree) (kind : ArtifactKind) :
    setting.job.LeavesOthers tree kind := by
  rintro content path entry (rfl | ⟨other, different, rfl⟩) found notFolder
  · exact find_of_write alone.formed (alone.direct kind) alone.definition_direct
      alone.definition_sole (destination_definition_ne straight apart kind) rfl found notFolder
  · exact find_of_write alone.formed (alone.direct kind) (alone.direct other) (alone.sole other)
      (destination_artifact_ne straight apart different) rfl found notFolder

/-! ### Runs whose files get into each other's way, and others -/

/-- The paths of a run are different exactly if the extensions tell the artifacts apart and
a definition that is given by an absolute path is none of them.  If they are, and if where they lead
can be told from the paths, then writing an artifact leaves the other artifacts and the definition,
as long as no link leads from one to another. -/
theorem apart_iff_and_leavesOthers (setting : Setting) :
    (setting.job.Apart <->
      setting.configuration.extensions.Distinguish ∧
        (setting.definition.isAbsolute = true ->
          forall kind, ¬ (setting.job.artifact kind).IsSame setting.definition)) ∧
      (setting.job.Apart -> setting.IsStraight ->
        forall tree, setting.job.StandsAlone tree ->
          forall kind, setting.job.LeavesOthers tree kind) :=
  ⟨apart_iff, fun apart straight _ alone kind => leavesOthers straight apart alone kind⟩

theorem isStraight_sample : sample.IsStraight := by
  refine ⟨fun kind => ?_, by decide, fun absolute => absurd absolute (by decide)⟩
  cases kind <;> decide

theorem standsAlone_sampleEdited : sample.job.StandsAlone sampleEdited.files := by
  have settled := settled_sampleEdited
  refine ⟨settled.proper.formed, settled.definition_direct, settled.direct, ?_, settled.sole⟩
  have proper := proper_rooted [] ⟨0, 0⟩
  have grows : Grows (rooted [] ⟨0, 0⟩) sampleEdited.files :=
    grows_sampleStart.trans (grows_write proper_sampleStart.formed _ _)
  refine grows.sole proper.formed fun number other numbered _ => ?_
  have place : sampleEdited.files.destination sample.job.definition = ["src", "l"] := by
    decide +kernel
  rw [place] at numbered
  have atRoot := (number?_rooted numbered).2
  rw [List.take_nil] at atRoot
  cases atRoot

/-- Writing an artifact of the sample leaves its definition. -/
theorem apart_iff_and_leavesOthers_sample :
    sample.job.Apart ∧ sample.IsStraight ∧ sample.job.StandsAlone sampleEdited.files ∧
      forall kind, sample.job.LeavesOthers sampleEdited.files kind := by
  have separation := apart_iff_and_leavesOthers sample
  have apart : sample.job.Apart := separation.1.mpr
    ⟨ArtifactExtensions.distinguish_default, fun absolute => absurd absolute (by decide)⟩
  exact ⟨apart, isStraight_sample, standsAlone_sampleEdited,
    separation.2 apart isStraight_sample _ standsAlone_sampleEdited⟩

/-- A grammar that is given the extension of the packaged one. -/
def clashing : Setting :=
  { sample with
    configuration := { extensions := { grammar := "def" } }
    job := ⟨"l", ⟨"src/l"⟩, ⟨"bin"⟩, .inDirectory ⟨"bin"⟩ "l" { grammar := "def" }⟩
    found := by rfl }

/-- A definition that is given by the path of the grammar. -/
def enclosed : Setting where
  configuration := {}
  layout := ⟨⟨"/"⟩⟩
  definition := ⟨"/bin/l.sdf"⟩
  job := ⟨"l", ⟨"/bin/l.sdf"⟩, ⟨"/bin"⟩, .inDirectory ⟨"/bin"⟩ "l" {}⟩
  found := by rfl

/-- Two artifacts can have the same path, and so can an artifact and the definition. -/
theorem not_forall_apart :
    (¬ forall (setting : Setting) (kind other : ArtifactKind), kind ≠ other ->
      ¬ (setting.job.artifact kind).IsSame (setting.job.artifact other)) ∧
    ¬ forall (setting : Setting) (kind : ArtifactKind),
      ¬ (setting.job.artifact kind).IsSame setting.job.definition := by
  constructor
  · intro apart
    exact apart clashing .grammar .packagedGrammar (by decide) (by decide)
  · intro apart
    exact apart enclosed .grammar (by decide)

end Setting
end BaseLanguage
