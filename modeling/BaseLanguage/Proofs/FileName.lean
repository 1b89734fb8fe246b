import BaseLanguage.Proofs.Processor.Account
import BaseLanguage.Proofs.Processor.Separation
import BaseLanguage.Proofs.Registration

namespace BaseLanguage

/-!
# What a file is called

The last name of a path is cut at its last dot.  What stands behind the dot is the extension, by
which a registry finds the language of a source file; what stands in front of it is the stem, which
a definition gives to its language.

So a file name never has an extension with a dot or a slash in it, whatever extensions languages
declare.  A declared extension with a dot leads to no language by itself: the part of it behind
its last dot is looked up instead.

A definition is taken from a folder of the plugin before its name is asked for.  A path that leads
nowhere from there, as the empty one does, has no name of its own, and then that of the folder is
taken.
-/

namespace Path

variable {stem extension : String}

/-! ## Stems and extensions -/

/-- A stem and an extension behind it, with a dot between them, make a file name that has this
extension. -/
def EndsIn (stem extension : String) : Prop :=
  '.' ∉ extension.toList ∧ '/' ∉ extension.toList ∧ stem ++ "." ++ extension ≠ ".."

/-- The file name of a path behind a folder, if there are no slashes in it. -/
theorem fileNameChars?_join (directory : Path) (noSlash : '/' ∉ stem.toList) (notEmpty : stem ≠ "")
    (noSlashBehind : '/' ∉ extension.toList) :
    (directory.join ⟨stem ++ "." ++ extension⟩).fileNameChars? =
      (some (stem ++ "." ++ extension).toList).filter (· ≠ ['.', '.']) := by
  have segments : ArtifactExtensions.segments extension = [extension.toList] := by
    rw [ArtifactExtensions.segments, Text.pieces_of_not_mem noSlashBehind]
    rfl
  have relative := ArtifactExtensions.isAbsolute_file noSlash notEmpty extension
  rw [fileNameChars?_eq, names_join directory relative,
    ArtifactExtensions.names_file noSlash notEmpty, segments, List.modifyHead_cons,
    List.getLast?_concat]
  simp [String.toList_append]

theorem extension?_join (directory : Path) (noSlash : '/' ∉ stem.toList) (notEmpty : stem ≠ "") :
    (directory.join ⟨stem ++ "." ++ extension⟩).extension? = some extension <->
      EndsIn stem extension := by
  constructor
  · intro found
    rcases notMem_of_extension? found with ⟨noDot, noSlashBehind⟩
    refine ⟨noDot, noSlashBehind, fun up => ?_⟩
    have unnamed := fileNameChars?_join directory noSlash notEmpty noSlashBehind
    rw [up] at unnamed found
    rw [extension?, unnamed] at found
    cases found
  · rintro ⟨noDot, noSlashBehind, notUp⟩
    have text : (stem ++ "." ++ extension).toList = stem.toList ++ '.' :: extension.toList := by
      simp [String.toList_append]
    have isName : (stem ++ "." ++ extension).toList ≠ ['.', '.'] := fun up =>
      notUp (String.toList_inj.mp up)
    have proper : stem.toList ≠ [] := fun empty => notEmpty (String.toList_inj.mp empty)
    rw [extension?, fileNameChars?_join directory noSlash notEmpty noSlashBehind,
      Option.filter_some_pos (by simpa using isName), Option.bind_some, text,
      cutName_append proper noDot, Option.map_some, String.ofList_toList]

end Path

namespace LanguageRegistry

/-! ## The language of a source file -/

variable {history : List LanguageDescriptor} {extension stem : String} {found : LanguageDescriptor}

/-- A file whose name ends in an extension of a language is found to be of this language, in
whatever folder it lies and whatever stands in front of the extension.  The name ends in the
extension unless there is a dot or a slash in the extension, or the whole name is the step that
leads up.  Of an extension with a dot, the part behind its last dot is looked up instead. -/
theorem forPath?_of_forExtension?
    (isFound : (registered history).forExtension? extension = some found)
    (noSlash : '/' ∉ stem.toList) (notEmpty : stem ≠ "") (directory : Path) :
    ((directory.join ⟨stem ++ "." ++ extension⟩).extension? = some extension <->
      '.' ∉ extension.toList ∧ '/' ∉ extension.toList ∧ stem ++ "." ++ extension ≠ "..") ∧
    ('.' ∉ extension.toList ∧ '/' ∉ extension.toList ∧ stem ++ "." ++ extension ≠ ".." ->
      (registered history).forPath? (directory.join ⟨stem ++ "." ++ extension⟩) = some found) ∧
    forall front back, extension = front ++ "." ++ back -> '.' ∉ back.toList ->
      '/' ∉ extension.toList ->
      (registered history).forPath? (directory.join ⟨stem ++ "." ++ extension⟩) =
        (registered history).forExtension? back := by
  refine ⟨Path.extension?_join directory noSlash notEmpty, fun ends => ?_, ?_⟩
  · rw [forPath?, (Path.extension?_join directory noSlash notEmpty).mpr ends, Option.bind_some,
      isFound]
  · -- what stands in front of the last dot is a stem, too
    rintro front back rfl noDot noSlashBehind
    have noSlashIn : '/' ∉ (stem ++ "." ++ front).toList ∧ '/' ∉ back.toList := by
      simp only [String.toList_append, List.mem_append, not_or] at noSlashBehind ⊢
      exact ⟨⟨⟨noSlash, noSlashBehind.1.2⟩, noSlashBehind.1.1⟩, noSlashBehind.2⟩
    have notUp : stem ++ "." ++ front ++ "." ++ back ≠ ".." := by
      intro up
      have short := congrArg String.length up
      have long := String.length_eq_zero_iff.not.mpr notEmpty
      simp only [String.length_append] at short
      have dot : ".".length = 1 := rfl
      have dots : "..".length = 2 := rfl
      omega
    have ends : Path.EndsIn (stem ++ "." ++ front) back := ⟨noDot, noSlashIn.2, notUp⟩
    have notEmptyIn : stem ++ "." ++ front ≠ "" := by
      simp [notEmpty]
    have regrouped : stem ++ "." ++ (front ++ "." ++ back) =
        stem ++ "." ++ front ++ "." ++ back := by
      simp only [String.append_assoc]
    rw [regrouped, forPath?, (Path.extension?_join directory noSlashIn.1 notEmptyIn).mpr ends,
      Option.bind_some]

/-- The extension of the second language is what follows the last dot in that of the first. -/
def dottedHistory : List LanguageDescriptor :=
  [sampleLanguage "first" (some "tar.gz"), sampleLanguage "second" (some "gz")]

theorem forExtension?_dottedHistory :
    (registered dottedHistory).forExtension? "tar.gz" =
        some (sampleLanguage "first" (some "tar.gz")) ∧
      (registered dottedHistory).forExtension? "gz" =
        some (sampleLanguage "second" (some "gz")) := by
  constructor
  · refine (forExtension?_registered_eq_some_iff (by decide) "tar.gz" _).mpr
      ⟨by decide, [], [sampleLanguage "second" (some "gz")], rfl, fun later among => ?_⟩
    rw [List.mem_singleton.mp among]
    decide
  · exact (forExtension?_registered_eq_some_iff (by decide) "gz" _).mpr
      ⟨by decide, [sampleLanguage "first" (some "tar.gz")], [], rfl, by simp⟩

/-- A stem may have dots in it. -/
theorem forPath?_of_forExtension?_dottedHistory :
    (registered dottedHistory).forExtension? "gz" = some (sampleLanguage "second" (some "gz")) ∧
      '/' ∉ "a.tar".toList ∧ "a.tar" ≠ "" ∧
      (registered dottedHistory).forPath? (Path.join ⟨"src"⟩ ⟨"a.tar" ++ "." ++ "gz"⟩) =
        some (sampleLanguage "second" (some "gz")) :=
  ⟨forExtension?_dottedHistory.2, by decide, by decide,
    (forPath?_of_forExtension? forExtension?_dottedHistory.2 (by decide) (by decide) ⟨"src"⟩).2.1
      (by decide)⟩

/-- An extension that leads to a language need not be the extension of any file: a file that is
named with it can belong to another language. -/
theorem not_forall_forPath?_eq_some :
    ¬ forall (history : List LanguageDescriptor) (extension stem : String)
        (found : LanguageDescriptor) (directory : Path),
      (registered history).forExtension? extension = some found -> '/' ∉ stem.toList ->
        stem ≠ "" ->
        (registered history).forPath? (directory.join ⟨stem ++ "." ++ extension⟩) = some found := by
  intro always
  have isFirst := always dottedHistory "tar.gz" "a" _ ⟨"src"⟩ forExtension?_dottedHistory.1
    (by decide) (by decide)
  have ending : Path.extension? (Path.join ⟨"src"⟩ ⟨"a" ++ "." ++ "tar.gz"⟩) = some "gz" := by
    decide +kernel
  rw [forPath?, ending, Option.bind_some, forExtension?_dottedHistory.2] at isFirst
  exact absurd (congrArg LanguageDescriptor.name (Option.some.inj isFirst)) (by decide)

end LanguageRegistry

/-! ## The language of a definition -/

/-- A relative path that has no names. -/
def Path.LeadsNowhere (path : Path) : Prop :=
  path.isAbsolute = false ∧ path.names = []

instance (path : Path) : Decidable path.LeadsNowhere :=
  inferInstanceAs (Decidable (path.isAbsolute = false ∧ path.names = []))

/-- The file name of a definition is its own, unless it leads nowhere. -/
theorem PluginLayout.fileNameChars?_definitionPath (layout : PluginLayout) (definition : Path) :
    (layout.definitionPath definition).fileNameChars? =
      if definition.LeadsNowhere then some ['s', 'r', 'c'] else definition.fileNameChars? := by
  cases absolute : definition.isAbsolute with
  | true =>
    have leads : ¬ definition.LeadsNowhere := by
      simp [Path.LeadsNowhere, absolute]
    rw [definitionPath, Path.join, if_pos absolute, if_neg leads]
  | false =>
    rw [Path.fileNameChars?_eq, Path.fileNameChars?_eq, layout.names_definitionPath absolute]
    cases named : definition.names with
    | nil => rw [if_pos ⟨absolute, named⟩, List.getLast?_concat, Option.filter_some_pos (by decide)]
    | cons first more =>
      have leads : ¬ definition.LeadsNowhere := by
        simp [Path.LeadsNowhere, named]
      rw [if_neg leads, List.getLast?_append, List.getLast?_cons_cons, List.getLast?_cons,
        Option.some_or]

namespace Processor

variable {σ : Type} {configuration : Configuration} {layout : PluginLayout} {definition : Path}
  {language : String}

/-- What there is to do is done for the language that has the stem of the definition's path. -/
theorem exists_job_eq_ok_iff :
    (exists job, Processor.job configuration layout definition = .ok job ∧
      job.language = language) <->
      (layout.definitionPath definition).fileStem? = some language := by
  rw [← languageName_eq_ok_iff]
  constructor
  · rintro ⟨job, found, rfl⟩
    rcases bind_eq_ok_iff.mp found with ⟨language, named, same⟩
    cases same
    exact named
  · intro named
    exact ⟨_, bind_eq_ok_iff.mpr ⟨language, named, rfl⟩, rfl⟩

/-- What a definition is named for: its own file name, or the folder of definitions. -/
theorem fileStem?_definitionPath (layout : PluginLayout) (definition : Path) :
    (layout.definitionPath definition).fileStem? =
      if definition.LeadsNowhere then some "src" else definition.fileStem? := by
  rw [Path.fileStem?, layout.fileNameChars?_definitionPath]
  split
  · decide
  · rfl

theorem isSome_fileStem?_definitionPath (layout : PluginLayout) (definition : Path) :
    (layout.definitionPath definition).fileStem?.isSome <->
      definition.fileName?.isSome ∨ definition.LeadsNowhere := by
  rw [fileStem?_definitionPath]
  by_cases leads : definition.LeadsNowhere
  · simp [leads]
  · simp [leads, Path.fileStem?, Path.fileName?]

/-- A run gets past naming exactly if its definition has a file name or leads nowhere.  In the first
case the language gets the stem of this name, in the second it is called as the folder of
definitions is.  Any other definition is refused, and nothing has been done then. -/
theorem process_named_for_definition (processor : Processor σ) (layout : PluginLayout)
    (definition : Path) (world : World σ) :
    ((exists job, Processor.job processor.configuration layout definition = .ok job) <->
      definition.fileName?.isSome ∨ definition.LeadsNowhere) ∧
    (forall job, Processor.job processor.configuration layout definition = .ok job ->
      some job.language = (if definition.LeadsNowhere then some "src" else definition.fileStem?) ∧
      ending (processor.process layout definition) world = ending (processor.runJob job) world) ∧
    forall error, Processor.job processor.configuration layout definition = .error error ->
      error = .outside (.deriveName (layout.definitionPath definition)) .noFileName ∧
      error.kind = .external ∧
      ending (processor.process layout definition) world = (.error error, world) := by
  rw [← isSome_fileStem?_definitionPath layout, ← fileStem?_definitionPath layout]
  refine ⟨?_, fun job found => ⟨?_, ending_process processor found world⟩, fun error failed => ?_⟩
  · rw [Option.isSome_iff_exists]
    constructor
    · rintro ⟨job, found⟩
      exact ⟨job.language, exists_job_eq_ok_iff.mp ⟨job, found, rfl⟩⟩
    · rintro ⟨language, named⟩
      exact (exists_job_eq_ok_iff.mpr named).imp fun job found => found.1
  · exact (exists_job_eq_ok_iff.mp ⟨job, found, rfl⟩).symm
  · rcases job_eq_error_iff.mp failed with ⟨_, rfl⟩
    exact ⟨rfl, rfl, (ending_process_of_unnamed failed world).1⟩

/-- The definition that is given by the empty path is one too many: it has no file name, but a run
on it gets past naming. -/
theorem not_forall_named_iff_fileName? :
    ¬ forall (configuration : Configuration) (layout : PluginLayout) (definition : Path),
      (exists job, Processor.job configuration layout definition = .ok job) <->
        definition.fileName?.isSome := by
  intro always
  have stem : (PluginLayout.definitionPath ⟨⟨"/plugin"⟩⟩ ⟨""⟩).fileStem? = some "src" := by
    decide +kernel
  have named := (always {} ⟨⟨"/plugin"⟩⟩ ⟨""⟩).mp
    ((exists_job_eq_ok_iff.mpr stem).imp fun job found => found.1)
  exact absurd named (by decide)

end Processor
end BaseLanguage
