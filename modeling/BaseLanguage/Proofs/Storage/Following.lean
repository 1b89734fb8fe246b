import BaseLanguage.Proofs.Storage.Locating

namespace BaseLanguage

/-!
# What later trees have in common with earlier ones

A tree follows another one if everything stands where it stood, under the same number and as what
it was: a folder, a link or a file, though the bytes of the file and all times may be others.  Also
no link has come to a place where there was none.  All changes that a run makes lead to a tree that
follows, and nothing needs to be known of the times of files for this.

A path that leads somewhere, through links or not, leads there in every tree that follows.  So what
is found is found again, and two paths to one file stay two paths to one file.
-/

namespace FileNode

/-- The same, but for the bytes of a file. -/
def IsLike (old new : FileNode) : Prop :=
  new = old ∨ ((exists before, old = .file before) ∧ exists content, new = .file content)

namespace IsLike

variable {old new third : FileNode}

theorem refl (node : FileNode) : IsLike node node :=
  Or.inl rfl

theorem trans (early : IsLike old new) (late : IsLike new third) : IsLike old third := by
  rcases late with rfl | ⟨wasFile, isFile⟩
  · exact early
  · rcases early with rfl | ⟨wasFileFirst, _⟩
    · exact Or.inr ⟨wasFile, isFile⟩
    · exact Or.inr ⟨wasFileFirst, isFile⟩

theorem folder_iff (like : IsLike old new) : new = .folder <-> old = .folder := by
  rcases like with rfl | ⟨⟨before, rfl⟩, content, rfl⟩
  · exact Iff.rfl
  · simp

theorem isFile_iff (like : IsLike old new) :
    (exists content, new = .file content) <-> exists before, old = .file before := by
  rcases like with rfl | ⟨wasFile, isFile⟩
  · exact Iff.rfl
  · exact iff_of_true isFile wasFile

end IsLike
end FileNode

namespace FileTree

variable {tree middle after : FileTree} {place other folder : Location} {number m : Nat}

/-- Everything stands where it stood, as what it was, and no link has come. -/
structure Follows (tree after : FileTree) : Prop where
  current_eq : after.current = tree.current
  number?_eq : forall place number, tree.number? place = some number ->
    after.number? place = some number
  exists_like : forall place old, tree.get? place = some old ->
    exists new, after.get? place = some new ∧ old.node.IsLike new.node
  linkAt?_eq : forall place, after.linkAt? place = tree.linkAt? place

namespace Follows

theorem refl (tree : FileTree) : Follows tree tree :=
  ⟨rfl, fun _ _ => id, fun _ old found => ⟨old, found, .refl _⟩, fun _ => rfl⟩

theorem trans (early : Follows tree middle) (late : Follows middle after) :
    Follows tree after where
  current_eq := late.current_eq.trans early.current_eq
  number?_eq := fun place number numbered =>
    late.number?_eq place number (early.number?_eq place number numbered)
  exists_like := by
    intro place old found
    rcases early.exists_like place old found with ⟨between, foundBetween, first⟩
    rcases late.exists_like place between foundBetween with ⟨new, foundNew, second⟩
    exact ⟨new, foundNew, first.trans second⟩
  linkAt?_eq := fun place => (late.linkAt?_eq place).trans (early.linkAt?_eq place)

theorem isFolder (follows : Follows tree after) (isFolder : tree.isFolder place = true) :
    after.isFolder place = true := by
  rcases isFolder_iff.mp isFolder with ⟨old, found, node⟩
  rcases follows.exists_like place old found with ⟨new, foundNew, like⟩
  exact isFolder_iff.mpr ⟨new, foundNew, like.folder_iff.mpr node⟩

end Follows

/-! ## Changes -/

theorem linkAt?_eq_none_of_free (free : tree.get? place = none) : tree.linkAt? place = none := by
  unfold linkAt?
  rw [free]

theorem linkAt?_eq_none_of_plain {entry : FileEntry} (found : tree.get? place = some entry)
    (plain : IsPlain entry.node) : tree.linkAt? place = none := by
  rcases entry with ⟨node, time, permissions⟩
  unfold linkAt?
  rw [found]
  rcases plain with isFolder | ⟨content, isFile⟩
  · rw [show node = .folder from isFolder]
  · rw [show node = .file content from isFile]

/-- What is alike holds the same path, if any. -/
theorem linkAt?_eq_of_isLike {old new : FileEntry} (found : tree.get? place = some old)
    (foundAfter : after.get? place = some new) (like : old.node.IsLike new.node) :
    after.linkAt? place = tree.linkAt? place := by
  rcases old with ⟨oldNode, oldTime, oldPermissions⟩
  rcases new with ⟨newNode, newTime, newPermissions⟩
  rcases like with same | ⟨isFile, isFileAfter⟩
  · have same : newNode = oldNode := same
    unfold linkAt?
    rw [found, foundAfter, same]
    cases oldNode <;> rfl
  · rw [linkAt?_eq_none_of_plain found (Or.inr isFile),
      linkAt?_eq_none_of_plain foundAfter (Or.inr isFileAfter)]

/-- Adding leaves what stands anywhere, but for the time of a folder. -/
theorem Adds.exists_entry_of_some (formed : tree.Formed) (adds : Adds place tree after)
    {old : FileEntry} (found : tree.get? other = some old) :
    exists new, after.get? other = some new ∧ new.node = old.node ∧
      (old.node ≠ .folder -> new = old) := by
  cases adds with
  | @create _ _ node free inFolder plain =>
    have different : place ≠ other := by
      rintro rfl
      rw [free] at found
      cases found
    rcases get?_eq_some_iff.mp found with ⟨number, numbered, known⟩
    have older := formed.number_lt other number numbered
    have knownAfter : (tree.create place node).node? number =
        (tree.touch place.dropLast).node? number := by
      rw [node?_create, if_neg (Nat.ne_of_gt older)]
    have lookup : (tree.create place node).get? other =
        (tree.touch place.dropLast).node? number := by
      rw [get?, number?_create, if_neg different, numbered, Option.bind_some, knownAfter]
    rw [lookup, node?_touch, known]
    by_cases touched : tree.number? place.dropLast = some number
    · rw [if_pos touched]
      refine ⟨_, rfl, rfl, fun notFolder => absurd ?_ notFolder⟩
      have foundFolder : tree.get? place.dropLast = some old :=
        get?_eq_some_iff.mpr ⟨number, touched, known⟩
      rcases inFolder with atRoot | isFolder
      · rw [atRoot] at free foundFolder
        rw [List.dropLast_nil, free] at foundFolder
        cases foundFolder
      · rcases isFolder_iff.mp isFolder with ⟨same, foundSame, isFolderNode⟩
        rw [foundFolder] at foundSame
        rw [Option.some.inj foundSame]
        exact isFolderNode
    · rw [if_neg touched]
      exact ⟨old, rfl, rfl, fun _ => rfl⟩

theorem Adds.follows (formed : tree.Formed) (adds : Adds place tree after) :
    Follows tree after where
  current_eq := adds.current_eq
  number?_eq := by
    intro other number numbered
    have unnumbered := formed.number?_eq_none adds.free
    cases adds with
    | create free inFolder plain =>
      rw [number?_create]
      split
      · next same =>
          rw [← same, unnumbered] at numbered
          cases numbered
      · exact numbered
  exists_like := by
    intro other old found
    rcases adds.exists_entry_of_some formed found with ⟨new, foundNew, same, _⟩
    exact ⟨new, foundNew, Or.inl same⟩
  linkAt?_eq := by
    intro other
    cases found : tree.get? other with
    | some old =>
      rcases adds.exists_entry_of_some formed found with ⟨new, foundNew, same, _⟩
      exact linkAt?_eq_of_isLike found foundNew (Or.inl same)
    | none =>
      rw [linkAt?_eq_none_of_free found]
      by_cases same : other = place
      · rcases adds.exists_entry with ⟨entry, foundEntry, _, plain⟩
        exact linkAt?_eq_none_of_plain (same ▸ foundEntry) plain
      · have unnumbered := formed.number?_eq_none found
        apply linkAt?_eq_none_of_free
        cases adds with
        | create free inFolder plain =>
          rw [get?, number?_create, if_neg (Ne.symm same), unnumbered, Option.bind_none]

theorem Rewrites.follows (rewrites : Rewrites place tree after) : Follows tree after := by
  have like : forall other old, tree.get? other = some old ->
      exists new, after.get? other = some new ∧ old.node.IsLike new.node := by
    intro other old found
    by_cases same : tree.number? other = tree.number? place
    · cases rewrites with
      | @store _ _ number content before time permissions numbered known =>
        have stored : (tree.store number (.file content)).node? number =
            some ⟨.file content, tree.clock, permissions⟩ := by
          rw [node?_store, if_pos rfl, known]
          rfl
        have foundOld : tree.get? other = some ⟨.file before, time, permissions⟩ :=
          get?_eq_some_iff.mpr ⟨number, same.trans numbered, known⟩
        rw [foundOld] at found
        refine ⟨_, get?_eq_some_iff.mpr ⟨number, same.trans numbered, stored⟩, ?_⟩
        rw [← Option.some.inj found]
        exact Or.inr ⟨⟨before, rfl⟩, content, rfl⟩
    · rcases (rewrites.stays same).exists_keeps old found with ⟨new, foundNew, keeps⟩
      exact ⟨new, foundNew, Or.inl keeps.node_eq⟩
  refine ⟨rewrites.current_eq, ?_, like, ?_⟩
  · cases rewrites with
    | store => exact fun _ _ numbered => numbered
  · intro other
    cases found : tree.get? other with
    | some old =>
      rcases like other old found with ⟨new, foundNew, isLike⟩
      exact linkAt?_eq_of_isLike found foundNew isLike
    | none =>
      have foundAfter : after.get? other = none := by
        by_cases same : tree.number? other = tree.number? place
        · cases rewrites with
          | store numbered known =>
            rw [get?, same, numbered, Option.bind_some, known] at found
            cases found
        · exact (rewrites.stays same).none_of_none found
      rw [linkAt?_eq_none_of_free found, linkAt?_eq_none_of_free foundAfter]

namespace Change

theorem follows (formed : tree.Formed) (change : Change place tree after) :
    Follows tree after := by
  rcases change with adds | rewrites
  · exact adds.follows formed
  · exact rewrites.follows

/-- Changes keep a tree well-formed. -/
theorem formed (before : tree.Formed) (change : Change place tree after) : after.Formed := by
  have folders : forall other, tree.isFolder other = true -> after.isFolder other = true :=
    fun _ isFolder => (change.follows before).isFolder isFolder
  rcases change with adds | rewrites
  · exact adds.formed before folders
  · exact rewrites.formed before folders

/-- Where another file stands than the changed one, it stays exactly as it is. -/
theorem eq_of_not_folder (formed : tree.Formed) (change : Change place tree after)
    {entry : FileEntry} (found : tree.get? other = some entry) (notFolder : entry.node ≠ .folder)
    (different : tree.number? other ≠ tree.number? place) : after.get? other = some entry := by
  rcases change with adds | rewrites
  · rcases adds.exists_entry_of_some formed found with ⟨new, foundNew, _, same⟩
    rw [foundNew, same notFolder]
  · exact (rewrites.stays different).eq_of_not_folder found notFolder

end Change

/-- Changes keep a tree well-formed, and the tree they lead to follows. -/
theorem Grows.formed_and_follows (formed : tree.Formed) (grows : Grows tree after) :
    after.Formed ∧ Follows tree after := by
  induction grows with
  | refl => exact ⟨formed, .refl tree⟩
  | tail _ step inductionHypothesis =>
    rcases step with ⟨place, change⟩
    exact ⟨change.formed inductionHypothesis.1,
      inductionHypothesis.2.trans (change.follows inductionHypothesis.1)⟩

theorem Grows.formed (formed : tree.Formed) (grows : Grows tree after) : after.Formed :=
  (grows.formed_and_follows formed).1

theorem Grows.follows (formed : tree.Formed) (grows : Grows tree after) : Follows tree after :=
  (grows.formed_and_follows formed).2

/-- What stood nowhere else still does. -/
theorem Grows.sole (formed : tree.Formed) (sole : tree.Sole place) (grows : Grows tree after) :
    after.Sole place := by
  induction grows with
  | refl => exact sole
  | tail before step inductionHypothesis =>
    rcases step with ⟨changed, change⟩
    exact change.sole (Grows.formed formed before) inductionHypothesis

/-- Adding leaves what is no folder exactly as it is. -/
theorem Extends.entry_eq (formed : tree.Formed) (extension : Extends tree after)
    {entry : FileEntry} (found : tree.get? place = some entry) (notFolder : entry.node ≠ .folder) :
    after.get? place = some entry := by
  induction extension with
  | refl => exact found
  | tail before step inductionHypothesis =>
    rcases step with ⟨added, adds⟩
    have formedMiddle := Grows.formed formed (Extends.grows before)
    rcases adds.exists_entry_of_some formedMiddle inductionHypothesis with
      ⟨new, foundNew, _, same⟩
    rw [foundNew, same notFolder]

/-- What is no folder after adding stood there just so, if anything stood there. -/
theorem Extends.none_or_same (formed : tree.Formed) (extension : Extends tree after)
    {entry : FileEntry} (found : after.get? place = some entry) (notFolder : entry.node ≠ .folder) :
    tree.get? place = none ∨ tree.get? place = some entry := by
  cases before : tree.get? place with
  | none => exact Or.inl rfl
  | some old =>
    have oldNotFolder : old.node ≠ .folder := by
      rcases (extension.grows.follows formed).exists_like place old before with
        ⟨new, foundNew, like⟩
      rw [found, Option.some.injEq] at foundNew
      exact fun folder => notFolder (foundNew ▸ like.folder_iff.mpr folder)
    have still := extension.entry_eq formed before oldNotFolder
    rw [found] at still
    exact Or.inr still.symm

/-! ## Paths in trees that follow -/

namespace Follows

variable {path : Path} (later : Follows tree after)
include later

theorem reach {follows : Bool} {names : List String} {reached : Reach}
    (found : tree.reach follows folder names = .ok reached) :
    after.reach follows folder names = .ok reached := by
  induction names generalizing folder with
  | nil => exact found
  | cons name more inductionHypothesis =>
    rw [FileTree.reach, bind_eq_ok_iff] at found ⊢
    rcases found with ⟨place, stepped, found⟩
    rcases step_eq_ok_iff.mp stepped with ⟨isFolder, onwards⟩
    refine ⟨place, step_eq_ok_iff.mpr ⟨later.isFolder isFolder, onwards⟩, ?_⟩
    rw [later.linkAt?_eq place]
    cases linked : tree.linkAt? place with
    | none =>
      rw [linked] at found
      exact inductionHypothesis found
    | some target =>
      rw [linked] at found
      exact found

theorem walk {follows : Bool} {links : Nat} {names : List String}
    (found : tree.walk follows links folder names = .ok place) :
    after.walk follows links folder names = .ok place := by
  induction found using walk_induction with
  | arrived reach => exact walk_of_arrived (later.reach reach)
  | goesOn reach _ walked => rwa [walk_of_link (later.reach reach)]

/-- A path leads where it led. -/
theorem locateWith {follows : Bool} (located : tree.locateWith follows path = .ok place) :
    after.locateWith follows path = .ok place := by
  rcases locateWith_eq_ok_iff_walk.mp located with ⟨lookedUp, walked⟩
  refine locateWith_eq_ok_iff_walk.mpr ⟨lookedUp, ?_⟩
  rw [origin_eq later.current_eq]
  exact later.walk walked

/-- A path without links still has none. -/
theorem direct (noLinks : tree.Direct path) : after.Direct path := by
  intro place member
  rw [origin_eq later.current_eq] at member
  rw [later.linkAt?_eq place]
  exact noLinks place member

theorem find {old : FileEntry} (found : tree.find path = .ok old) :
    exists new, after.find path = .ok new ∧ old.node.IsLike new.node := by
  unfold FileTree.find at found ⊢
  rcases bind_eq_ok_iff.mp found with ⟨place, located, there⟩
  rcases entryAt_eq_ok_iff.mp there with ⟨foundOld, slashed⟩
  rcases later.exists_like place old foundOld with ⟨new, foundNew, like⟩
  refine ⟨new, bind_eq_ok_iff.mpr ⟨place, later.locateWith located, ?_⟩, like⟩
  exact entryAt_eq_ok_iff.mpr ⟨foundNew, fun slash => like.folder_iff.mpr (slashed slash)⟩

end Follows

theorem exists?_iff {path : Path} :
    tree.exists? path = true <-> exists entry, tree.find path = .ok entry := by
  unfold exists?
  cases tree.find path <;> simp [Except.isOk, Except.toBool]

theorem hasFolder_iff_find {path : Path} :
    tree.hasFolder path = true <->
      exists entry, tree.find path = .ok entry ∧ entry.node = .folder := by
  unfold hasFolder
  cases tree.find path <;> simp

namespace Follows

variable {path : Path} (later : Follows tree after)
include later

/-- What a path leads to is still there. -/
theorem exists? (there : tree.exists? path = true) : after.exists? path = true := by
  rcases exists?_iff.mp there with ⟨old, found⟩
  rcases later.find found with ⟨new, foundNew, _⟩
  exact exists?_iff.mpr ⟨new, foundNew⟩

/-- A folder that a path leads to is still there. -/
theorem hasFolder (there : tree.hasFolder path = true) : after.hasFolder path = true := by
  rcases hasFolder_iff_find.mp there with ⟨old, found, isFolder⟩
  rcases later.find found with ⟨new, foundNew, like⟩
  exact hasFolder_iff_find.mpr ⟨new, foundNew, like.folder_iff.mpr isFolder⟩

end Follows

/-! ## Paths and files -/

/-- A path leads to the file or the folder with a number. -/
def LeadsTo (tree : FileTree) (path : Path) (number : Nat) : Prop :=
  exists place, tree.locate path = .ok place ∧ tree.number? place = some number

theorem LeadsTo.of_follows {path : Path} (leads : tree.LeadsTo path number)
    (follows : Follows tree after) : after.LeadsTo path number := by
  rcases leads with ⟨place, located, numbered⟩
  exact ⟨place, follows.locateWith located, follows.number?_eq place number numbered⟩

end FileTree
end BaseLanguage
