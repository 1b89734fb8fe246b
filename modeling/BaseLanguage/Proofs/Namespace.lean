import BaseLanguage.Namespace
import BaseLanguage.Proofs.Path
import BaseLanguage.Proofs.Stepwise

namespace BaseLanguage

/-!
# Which names a file accepts, and which files can be declared

In a nested language a declared name is written as a path and cut at its last slash.  A file accepts
it if the two parts are its directory and its own name.  So it accepts the path that leads to it from
the source root, as `written` gives it, and hardly any other.

The exception is a file that lies in the source root itself.  Cutting gives an empty directory for a
name without separators, and also for a name whose only separator stands in front.  The file accepts
both, although the second one is written as a path that starts with a slash.  Files in other
directories do not accept a separator in front.

The separators of a declared name are turned into slashes, all of them, so that none is left.  A file
whose path has the separator in one of its names is therefore out of reach for every declared name;
every other file is declared by its path.
-/

namespace ModuleLocation

/-- The path to a module from the source root: its directory, if it has one, and its name. -/
def written (place : ModuleLocation) : String :=
  if place.namespaceName = "" then place.moduleName
  else place.namespaceName ++ "/" ++ place.moduleName

/-- The name of a module is one name, without slashes. -/
theorem noSlash_moduleName (file : Path) : '/' ∉ (ofFile file).moduleName.toList := by
  change '/' ∉ (file.fileStem?.getD "").toList
  cases stem : file.fileStem? with
  | none => simp
  | some name => exact (Path.of_fileStem? stem).1

end ModuleLocation

theorem expectModuleName_eq_ok_iff {declared expected : String} {answer : Unit} :
    expectModuleName declared expected = .ok answer <-> declared = expected := by
  unfold expectModuleName
  split
  · next same => exact iff_of_true rfl same
  · next different => exact iff_of_false nofun different

theorem expectNamespace_eq_ok_iff {declared expected : String} {answer : Unit} :
    expectNamespace declared expected = .ok answer <-> declared = expected := by
  unfold expectNamespace
  split
  · next same => exact iff_of_true rfl same
  · next different => exact iff_of_false nofun different

namespace NamespaceKind

/-- A path is cut into a directory and a name if it has one in front of the other with a slash
between them, or if it is the name and the directory is empty. -/
theorem cutQualified_eq_iff {path directory name : String} (noSlash : '/' ∉ name.toList) :
    cutQualified path = (directory, name) <->
      path = directory ++ "/" ++ name ∨ directory = "" ∧ path = name := by
  have slash : forall front back : List Char, String.ofList front ++ "/" ++ String.ofList back =
      String.ofList (front ++ '/' :: back) := by
    intro front back
    rw [← String.toList_inj]
    simp
  unfold cutQualified
  cases cut : Text.splitLast? '/' path.toList with
  | none =>
    have uncut := Text.splitLast?_eq_none_iff.mp cut
    rw [Prod.mk.injEq]
    constructor
    · rintro ⟨rfl, rfl⟩
      exact .inr ⟨rfl, rfl⟩
    · rintro (rfl | ⟨rfl, rfl⟩)
      · exact absurd (by simp) uncut
      · exact ⟨rfl, rfl⟩
  | some parts =>
    rcases parts with ⟨front, back⟩
    rcases Text.splitLast?_eq_some_iff.mp cut with ⟨isPath, _⟩
    rw [Prod.mk.injEq]
    constructor
    · rintro ⟨rfl, rfl⟩
      refine .inl ?_
      rw [slash, ← isPath, String.ofList_toList]
    · rintro (rfl | ⟨_, rfl⟩)
      · have alsoCut : Text.splitLast? '/' (directory ++ "/" ++ name).toList =
            some (directory.toList, name.toList) :=
          Text.splitLast?_eq_some_iff.mpr ⟨by simp, noSlash⟩
        rw [alsoCut] at cut
        cases cut
        exact ⟨String.ofList_toList, String.ofList_toList⟩
      · exact absurd (isPath ▸ by simp) noSlash

/-- A nested name is resolved if its two parts are those of the place of the file. -/
theorem resolve_nested_eq_ok_iff_cut {separator : Char} {identifier : String} {file : Path}
    {place : ModuleLocation} :
    (nested separator).resolve identifier file = .ok place <->
      cutQualified ((nested separator).modulePath identifier) =
          ((ModuleLocation.ofFile file).namespaceName, (ModuleLocation.ofFile file).moduleName) ∧
        place = ModuleLocation.ofFile file := by
  unfold resolve
  rcases cutQualified ((nested separator).modulePath identifier) with ⟨directory, name⟩
  simp only [bind_eq_ok_iff, expectNamespace_eq_ok_iff, expectModuleName_eq_ok_iff, Prod.mk.injEq]
  constructor
  · rintro ⟨_, sameDirectory, _, sameName, same⟩
    cases same
    exact ⟨⟨sameDirectory, sameName⟩, rfl⟩
  · rintro ⟨⟨sameDirectory, sameName⟩, rfl⟩
    exact ⟨(), sameDirectory, (), sameName, rfl⟩

/-- A file accepts a nested name exactly if the name is written as the path that leads to the file,
or if the file lies in the source root and the name is written as a slash and the file's name.  The
answer is the place of the file. -/
theorem resolve_nested_eq_ok_iff (separator : Char) (identifier : String) (file : Path)
    (place : ModuleLocation) :
    (nested separator).resolve identifier file = .ok place <->
      place = ModuleLocation.ofFile file ∧
        ((nested separator).modulePath identifier = (ModuleLocation.ofFile file).written ∨
          (ModuleLocation.ofFile file).namespaceName = "" ∧
            (nested separator).modulePath identifier =
              "/" ++ (ModuleLocation.ofFile file).moduleName) := by
  rw [resolve_nested_eq_ok_iff_cut, cutQualified_eq_iff (ModuleLocation.noSlash_moduleName file),
    and_comm]
  refine and_congr_right fun _ => ?_
  unfold ModuleLocation.written
  by_cases inRoot : (ModuleLocation.ofFile file).namespaceName = ""
  · rw [inRoot, if_pos rfl, String.empty_append, or_comm]
    simp only [true_and]
  · rw [if_neg inRoot]
    simp only [inRoot, false_and]

/-- Not every name that a file accepts is written as the path that leads to the file: `.Main` is
accepted by `Main.xst`. -/
theorem not_forall_resolve_iff_written :
    ¬ forall (separator : Char) (identifier : String) (file : Path),
      (exists place, (nested separator).resolve identifier file = .ok place) <->
        (nested separator).modulePath identifier = (ModuleLocation.ofFile file).written := by
  intro always
  have accepted : (nested '.').resolve ".Main" ⟨"Main.xst"⟩ = .ok ⟨"", "Main"⟩ := by
    decide +kernel
  have notWritten :
      (nested '.').modulePath ".Main" ≠ (ModuleLocation.ofFile ⟨"Main.xst"⟩).written := by
    decide +kernel
  exact notWritten ((always '.' ".Main" ⟨"Main.xst"⟩).mp ⟨_, accepted⟩)

/-! ## Which files can be declared -/

variable {kind : NamespaceKind} {identifier path : String} {file : Path} {place : ModuleLocation}

/-- Whether a path can be written as a declared name: the separator does not occur in it, unless
the separator is the slash itself. -/
def CanWrite (kind : NamespaceKind) (path : String) : Prop :=
  forall separator, kind.separator? = some separator -> separator = '/' ∨ separator ∉ path.toList

/-- A path with separators in place of slashes. -/
def separate (kind : NamespaceKind) (path : String) : String :=
  match kind.separator? with
  | some separator => String.ofList (Text.replace '/' separator path.toList)
  | none => path

/-- A declared name is turned into a path that can be written. -/
theorem canWrite_modulePath (kind : NamespaceKind) (identifier : String) :
    kind.CanWrite (kind.modulePath identifier) := by
  intro separator separated
  unfold modulePath
  rw [separated, or_iff_not_imp_left]
  intro notSlash
  rw [String.toList_ofList]
  exact Text.not_mem_replace notSlash identifier.toList

/-- A path that can be written is written with slashes, or with separators in their place. -/
theorem modulePath_of_canWrite (writable : kind.CanWrite path)
    (isWritten : identifier = path ∨ identifier = kind.separate path) :
    kind.modulePath identifier = path := by
  unfold separate at isWritten
  unfold modulePath
  cases separated : kind.separator? with
  | none =>
    rw [separated] at isWritten
    exact isWritten.elim id id
  | some separator =>
    have absent := writable separator separated
    rw [separated] at isWritten
    dsimp only at isWritten ⊢
    rcases isWritten with rfl | rfl
    · rw [Text.replace_of_not_mem absent, String.ofList_toList]
    · rw [String.toList_ofList, Text.replace_replace absent, String.ofList_toList]

/-- The path that a file at a place is declared by. -/
def declaredPath : NamespaceKind -> ModuleLocation -> String
  | flat, place => place.moduleName
  | nested _, place => place.written
  | prefixed _ _, place => place.namespaceName

/-- The place that a declared name stands for: a flat name says nothing about directories. -/
def declaredPlace : NamespaceKind -> ModuleLocation -> ModuleLocation
  | flat, place => ⟨"", place.moduleName⟩
  | _, place => place

/-- Whether a file at a place can be declared: the separator is the slash, or it occurs in none of
the names that have to be declared. -/
def CanDeclare : NamespaceKind -> ModuleLocation -> Prop
  | flat, _ => True
  | nested separator, place => separator = '/' ∨
      separator ∉ place.namespaceName.toList ∧ separator ∉ place.moduleName.toList
  | prefixed separator _, place => separator = '/' ∨ separator ∉ place.namespaceName.toList

/-- A file can be declared exactly if its path can be written. -/
theorem canDeclare_iff : kind.CanDeclare place <-> kind.CanWrite (kind.declaredPath place) := by
  cases kind with
  | flat => exact iff_of_true trivial nofun
  | prefixed separator suffixes => simp [CanDeclare, CanWrite, declaredPath, separator?]
  | nested separator =>
    simp only [CanDeclare, CanWrite, declaredPath, separator?, Option.some.injEq, forall_eq']
    refine or_congr_right' fun notSlash => ?_
    unfold ModuleLocation.written
    by_cases inRoot : place.namespaceName = ""
    · simp [inRoot]
    · simp [inRoot, notSlash]

/-- A name that stands for the path of a file is accepted. -/
theorem resolve_of_declaredPath
    (same : kind.modulePath identifier = kind.declaredPath (.ofFile file)) :
    kind.resolve identifier file = .ok (kind.declaredPlace (.ofFile file)) := by
  cases kind with
  | flat =>
    refine bind_eq_ok_iff.mpr ⟨(), expectModuleName_eq_ok_iff.mpr same, ?_⟩
    exact congrArg (fun name => Except.ok (ModuleLocation.mk "" name)) same
  | prefixed separator suffixes =>
    exact bind_eq_ok_iff.mpr ⟨(), expectNamespace_eq_ok_iff.mpr same, rfl⟩
  | nested separator =>
    have isPath : (nested separator).modulePath identifier = (ModuleLocation.ofFile file).written :=
      same
    refine resolve_nested_eq_ok_iff_cut.mpr ⟨?_, rfl⟩
    rw [cutQualified_eq_iff (ModuleLocation.noSlash_moduleName file), isPath]
    unfold ModuleLocation.written
    split
    · next inRoot => exact .inr ⟨inRoot, rfl⟩
    · exact .inl rfl

/-- A name is accepted for the place of the file only, and only if the file can be declared. -/
theorem declared_of_resolve (accepted : kind.resolve identifier file = .ok place) :
    kind.CanDeclare (.ofFile file) ∧ place = kind.declaredPlace (.ofFile file) := by
  have writable := canWrite_modulePath kind identifier
  cases kind with
  | flat =>
    rcases bind_eq_ok_iff.mp accepted with ⟨_, named, answer⟩
    have same := expectModuleName_eq_ok_iff.mp named
    exact ⟨trivial, (Except.ok.inj answer).symm.trans (congrArg (ModuleLocation.mk "") same)⟩
  | prefixed separator suffixes =>
    rcases bind_eq_ok_iff.mp accepted with ⟨_, named, answer⟩
    rw [expectNamespace_eq_ok_iff.mp named] at writable
    exact ⟨canDeclare_iff.mpr writable, (Except.ok.inj answer).symm⟩
  | nested separator =>
    rcases resolve_nested_eq_ok_iff_cut.mp accepted with ⟨cut, answer⟩
    refine ⟨(writable separator rfl).imp_right fun absent => ?_, answer⟩
    rcases (cutQualified_eq_iff (ModuleLocation.noSlash_moduleName file)).mp cut with
      isPath | ⟨inRoot, isPath⟩
    · rw [isPath] at absent
      simp only [String.toList_append, List.mem_append, not_or] at absent
      exact ⟨absent.1.1, absent.2⟩
    · rw [isPath] at absent
      exact ⟨by simp [inRoot], absent⟩

/-- Some name is accepted for a file exactly if the file can be declared.  Then the path to the
file is such a name, and so is the path with separators in place of its slashes; and whatever name
is accepted, it is accepted for the place of the file. -/
theorem exists_resolve_iff_canDeclare (kind : NamespaceKind) (file : Path) :
    ((exists identifier place, kind.resolve identifier file = .ok place) <->
      kind.CanDeclare (.ofFile file)) ∧
    (forall identifier, identifier = kind.declaredPath (.ofFile file) ∨
        identifier = kind.separate (kind.declaredPath (.ofFile file)) ->
      (kind.resolve identifier file = .ok (kind.declaredPlace (.ofFile file)) <->
        kind.CanDeclare (.ofFile file))) ∧
    forall identifier place, kind.resolve identifier file = .ok place ->
      place = kind.declaredPlace (.ofFile file) := by
  have isAccepted : forall identifier, identifier = kind.declaredPath (.ofFile file) ∨
      identifier = kind.separate (kind.declaredPath (.ofFile file)) ->
      kind.CanDeclare (.ofFile file) ->
      kind.resolve identifier file = .ok (kind.declaredPlace (.ofFile file)) :=
    fun identifier isWritten declarable =>
      resolve_of_declaredPath (modulePath_of_canWrite (canDeclare_iff.mp declarable) isWritten)
  refine ⟨⟨?_, fun declarable => ⟨_, _, isAccepted _ (.inl rfl) declarable⟩⟩, ?_, ?_⟩
  · rintro ⟨identifier, place, accepted⟩
    exact (declared_of_resolve accepted).1
  · intro identifier isWritten
    exact ⟨fun accepted => (declared_of_resolve accepted).1, isAccepted identifier isWritten⟩
  · intro identifier place accepted
    exact (declared_of_resolve accepted).2

end NamespaceKind
end BaseLanguage
