import BaseLanguage.Proofs.Storage.Following

namespace BaseLanguage
namespace FileTree

/-!
# What operations on files do

Each operation that a run uses is brought down to changes of trees: writing changes one location
or nothing, creating folders and seeding only add, and removing takes away what stands at one
location.  What an operation changed before it failed is part of this.
-/

variable {tree after : FileTree} {place : Location} {path : Path} {content : ByteArray}

/-! ## Writing -/

theorem ending_write (path : Path) (content : ByteArray) (tree : FileTree) :
    ending (write path content) tree =
      match tree.locate path with
      | .error fault => (.error fault, tree)
      | .ok place =>
        match tree.number? place, tree.get? place with
        | some number, some entry =>
          match entry.node with
          | .folder => (.error .isFolder, tree)
          | .file _ =>
            if meansFolder path then (.error .notFolder, tree)
            else (.ok (), tree.store number (.file content))
          | _ => (.ok (), tree)
        | _, _ =>
          if meansFolder path then (.error .isFolder, tree)
          else (.ok (), tree.create place (.file content)) := by
  unfold write
  rw [ending_bind, ending_get]
  dsimp only
  rw [ending_bind, ending_liftM]
  cases tree.locate path with
  | error fault => rfl
  | ok place =>
    dsimp only
    cases tree.number? place with
    | none =>
      dsimp only
      cases meansFolder path <;> rfl
    | some number =>
      cases tree.get? place with
      | none =>
        dsimp only
        cases meansFolder path <;> rfl
      | some entry =>
        rcases entry with ⟨node, time, permissions⟩
        cases node with
        | file => cases meansFolder path <;> rfl
        | folder | link | queue | device => rfl

/-- The ways in which writing can end. -/
inductive WriteOutcome (path : Path) (content : ByteArray) (tree : FileTree) :
    Except FileFault Unit -> FileTree -> Prop
  /-- Nothing is written. -/
  | refused {fault : FileFault} : WriteOutcome path content tree (.error fault) tree
  /-- What is neither a file nor a folder takes what is written and stays as it is. -/
  | swallowed {place : Location} {entry : FileEntry} (located : tree.locate path = .ok place)
      (found : tree.get? place = some entry) (notPlain : ¬ IsPlain entry.node) :
      WriteOutcome path content tree (.ok ()) tree
  /-- A file is rewritten, or a new one is put where the path leads. -/
  | written {place : Location} {after : FileTree} {permissions : Nat}
      (located : tree.locate path = .ok place) (notSlashed : meansFolder path = false)
      (change : Change place tree after)
      (found : after.get? place = some ⟨.file content, tree.clock, permissions⟩) :
      WriteOutcome path content tree (.ok ()) after

theorem write_outcome (formed : tree.Formed) (path : Path) (content : ByteArray) :
    WriteOutcome path content tree (ending (write path content) tree).1
      (ending (write path content) tree).2 := by
  rw [ending_write]
  cases located : tree.locate path with
  | error fault => exact .refused
  | ok place =>
    dsimp only
    cases found : tree.get? place with
    | none =>
      rw [formed.number?_eq_none found]
      dsimp only
      cases slashed : meansFolder path with
      | true => exact .refused
      | false =>
        have inFolder := inFolder_of_locateWith formed located found
        exact .written located slashed
          (Or.inl (.create found inFolder (Or.inr ⟨content, rfl⟩)))
          (get?_create_self _)
    | some entry =>
      rcases get?_eq_some_iff.mp found with ⟨number, numbered, known⟩
      rw [numbered]
      rcases entry with ⟨node, time, permissions⟩
      cases node with
      | file old =>
        dsimp only
        cases slashed : meansFolder path with
        | true => exact .refused
        | false =>
          have rewrites : Rewrites place tree (tree.store number (.file content)) :=
            .store numbered known
          have stored : (tree.store number (.file content)).get? place =
              some ⟨.file content, tree.clock, permissions⟩ := by
            refine get?_eq_some_iff.mpr ⟨number, numbered, ?_⟩
            rw [node?_store, if_pos rfl, known]
            rfl
          exact .written located slashed (Or.inr rewrites) stored
      | folder => exact .refused
      | link | queue | device =>
        exact .swallowed located found (by simp [IsPlain])

/-- Writing is a change or nothing. -/
theorem grows_write (formed : tree.Formed) (path : Path) (content : ByteArray) :
    Grows tree (ending (write path content) tree).2 := by
  have outcome := write_outcome formed path content
  revert outcome
  generalize (ending (write path content) tree).1 = result
  generalize (ending (write path content) tree).2 = after
  intro outcome
  cases outcome with
  | refused => exact Relation.ReflTransGen.refl
  | swallowed => exact Relation.ReflTransGen.refl
  | written _ _ change => exact Grows.of_change change

theorem grows_of_write (formed : tree.Formed) {result : Except FileFault Unit}
    (wrote : ending (write path content) tree = (result, after)) : Grows tree after := by
  have grows := grows_write formed path content
  rwa [wrote] at grows

/-- A file was written where a path without links leads. -/
structure Written (path : Path) (content : ByteArray) (tree after : FileTree) : Prop where
  reaches : tree.Reaches path
  notSlashed : meansFolder path = false
  change : Change (tree.destination path) tree after
  exists_entry : exists permissions,
    after.get? (tree.destination path) = some ⟨.file content, tree.clock, permissions⟩

/-- Writing that succeeds writes, unless it meets something that is neither file nor folder. -/
theorem written_of_ending (proper : tree.Proper) (direct : tree.Direct path)
    (plain : forall entry, tree.standing path = some entry -> IsPlain entry.node)
    (ended : ending (write path content) tree = (.ok (), after)) :
    Written path content tree after := by
  have outcome := write_outcome proper.formed path content
  rw [ended] at outcome
  cases outcome with
  | swallowed located found notPlain =>
    rcases (locate_eq_ok_iff direct).mp located with ⟨_, rfl⟩
    exact absurd (plain _ found) notPlain
  | written located notSlashed change found =>
    rcases (locate_eq_ok_iff direct).mp located with ⟨reaches, rfl⟩
    exact ⟨reaches, notSlashed, change, _, found⟩

/-! ## Folders -/

/-- A tree after any number of folders were added. -/
def GainsFolders : FileTree -> FileTree -> Prop :=
  Relation.ReflTransGen (fun tree after =>
    exists place, Adds place tree after ∧ after.isFolder place = true)

namespace GainsFolders

theorem extension (gains : GainsFolders tree after) : Extends tree after := by
  induction gains with
  | refl => exact Relation.ReflTransGen.refl
  | tail _ step inductionHypothesis =>
    rcases step with ⟨place, adds, _⟩
    exact inductionHypothesis.tail ⟨place, adds⟩

theorem formed (before : tree.Formed) (gains : GainsFolders tree after) : after.Formed :=
  gains.extension.grows.formed before

end GainsFolders

theorem ending_createFolder (path : Path) (tree : FileTree) :
    ending (createFolder path) tree =
      match tree.locateName path with
      | .error fault => (.error fault, tree)
      | .ok place =>
        match tree.get? place with
        | some _ => (.error .alreadyThere, tree)
        | none => (.ok (), tree.create place .folder) := by
  unfold createFolder createAt
  rw [ending_bind, ending_get]
  dsimp only
  rw [ending_bind, ending_liftM]
  cases tree.locateName path with
  | error fault => rfl
  | ok place =>
    dsimp only
    cases tree.get? place with
    | some entry => rfl
    | none => cases meansFolder path <;> rfl

theorem gains_createFolder (formed : tree.Formed) (path : Path) :
    GainsFolders tree (ending (createFolder path) tree).2 := by
  rw [ending_createFolder]
  cases located : tree.locateName path with
  | error fault => exact Relation.ReflTransGen.refl
  | ok place =>
    dsimp only
    cases free : tree.get? place with
    | some entry => exact Relation.ReflTransGen.refl
    | none =>
      have inFolder := inFolder_of_locateWith formed located free
      refine Relation.ReflTransGen.single ⟨place, .create free inFolder (Or.inl rfl), ?_⟩
      exact isFolder_iff.mpr ⟨_, get?_create_self _, rfl⟩

/-- A path leads to a folder in which nothing lies. -/
def HasEmptyFolder (tree : FileTree) (path : Path) : Prop :=
  exists place, tree.locate path = .ok place ∧ tree.isFolder place = true ∧
    forall name, tree.get? (place ++ [name]) = none

theorem HasEmptyFolder.hasFolder (empty : tree.HasEmptyFolder path) :
    tree.hasFolder path = true := by
  rcases empty with ⟨place, located, isFolder, _⟩
  rcases isFolder_iff.mp isFolder with ⟨entry, found, node⟩
  exact hasFolder_iff_find.mpr ⟨entry, bind_eq_ok_iff.mpr
    ⟨place, located, entryAt_eq_ok_iff.mpr ⟨found, fun _ => node⟩⟩, node⟩

/-- A folder that was created is there, and nothing lies in it: before, there was nothing for it to
lie in. -/
theorem hasEmptyFolder_of_createFolder (formed : tree.Formed)
    (ended : ending (createFolder path) tree = (.ok (), after)) : after.HasEmptyFolder path := by
  rw [ending_createFolder] at ended
  split at ended
  · cases ended
  · next place located =>
      split at ended
      · cases ended
      · next free =>
          cases ended
          have inFolder := inFolder_of_locateWith formed located free
          have adds : Adds place tree (tree.create place .folder) :=
            .create free inFolder (Or.inl rfl)
          have located := locate_of_locateWith located (linkAt?_eq_none_of_free free)
          refine ⟨place, (adds.follows formed).locateWith located,
            isFolder_iff.mpr ⟨_, get?_create_self _, rfl⟩, fun name => ?_⟩
          have nothingBelow : tree.get? (place ++ [name]) = none := by
            cases found : tree.get? (place ++ [name]) with
            | none => rfl
            | some entry =>
              rcases formed.isFolder_dropLast _ entry found with atRoot | isFolder
              · simp at atRoot
              · rw [List.dropLast_concat] at isFolder
                rcases isFolder_iff.mp isFolder with ⟨folder, foundFolder, _⟩
                rw [free] at foundFolder
                cases foundFolder
          rw [get?, number?_create, if_neg (by simp), formed.number?_eq_none nothingBelow,
            Option.bind_none]

/-- What creating folders comes to. -/
structure FoldersOutcome (path : Path) (tree : FileTree) (result : Except FileFault Unit)
    (after : FileTree) : Prop where
  gains : GainsFolders tree after
  hasFolder : result = .ok () -> path.components.isEmpty = false -> after.hasFolder path = true

/-- Creating a folder that may be there already. -/
def settle (path : Path) (fault : FileFault) : Filing Unit := do
  if (← get).hasFolder path then return () else throw fault

theorem ending_settle (path : Path) (fault : FileFault) (tree : FileTree) :
    ending (settle path fault) tree =
      (if tree.hasFolder path then .ok () else .error fault, tree) := by
  unfold settle
  rw [ending_bind, ending_get]
  dsimp only
  split <;> rfl

theorem createFoldersWithin_succ (bound : Nat) (path : Path) :
    createFoldersWithin (bound + 1) path =
      if path.components.isEmpty then return ()
      else
        tryCatch (createFolder path) fun fault =>
          if fault = .missing then
            match path.parent? with
            | none => throw .missing
            | some parent => do
                createFoldersWithin bound parent
                tryCatch (createFolder path) (settle path)
          else settle path fault := by
  rw [createFoldersWithin]
  rfl

/-- Creating a folder, or else finding it there. -/
theorem createOrSettle_outcome (formed : tree.Formed) (path : Path) :
    FoldersOutcome path tree (ending (tryCatch (createFolder path) (settle path)) tree).1
      (ending (tryCatch (createFolder path) (settle path)) tree).2 := by
  have gains := gains_createFolder formed path
  rw [ending_tryCatch]
  cases created : ending (createFolder path) tree with
  | mk result after =>
    rw [created] at gains
    cases result with
    | ok => exact ⟨gains, fun _ _ => (hasEmptyFolder_of_createFolder formed created).hasFolder⟩
    | error fault =>
      dsimp only
      rw [ending_settle]
      refine ⟨gains, fun settled _ => ?_⟩
      split at settled
      · next there => exact there
      · cases settled

theorem createFoldersWithin_outcome (bound : Nat) (path : Path) (formed : tree.Formed) :
    FoldersOutcome path tree (ending (createFoldersWithin bound path) tree).1
      (ending (createFoldersWithin bound path) tree).2 := by
  induction bound generalizing path tree with
  | zero => exact ⟨Relation.ReflTransGen.refl, fun failed => by cases failed⟩
  | succ bound inductionHypothesis =>
    rw [createFoldersWithin_succ]
    split
    · next empty =>
        refine ⟨Relation.ReflTransGen.refl, fun _ notEmpty => ?_⟩
        rw [empty] at notEmpty
        cases notEmpty
    · have gains := gains_createFolder formed path
      rw [ending_tryCatch]
      cases created : ending (createFolder path) tree with
      | mk result middle =>
        rw [created] at gains
        have formedMiddle := gains.formed formed
        cases result with
        | ok =>
          exact ⟨gains, fun _ _ =>
            (hasEmptyFolder_of_createFolder formed created).hasFolder⟩
        | error fault =>
          dsimp only
          split
          · split
            · exact ⟨gains, fun failed => by cases failed⟩
            · next parent _ =>
                rw [ending_bind]
                have outcome := inductionHypothesis parent formedMiddle
                cases parents : ending (createFoldersWithin bound parent) middle with
                | mk result last =>
                  rw [parents] at outcome
                  cases result with
                  | error fault =>
                    exact ⟨gains.trans outcome.gains, fun failed => by cases failed⟩
                  | ok =>
                    have rest := createOrSettle_outcome
                      (outcome.gains.formed formedMiddle) path
                    exact ⟨(gains.trans outcome.gains).trans rest.gains, rest.hasFolder⟩
          · rw [ending_settle]
            refine ⟨gains, fun settled _ => ?_⟩
            split at settled
            · next there => exact there
            · cases settled

theorem createFolders_outcome (path : Path) (formed : tree.Formed) :
    FoldersOutcome path tree (ending (createFolders path) tree).1
      (ending (createFolders path) tree).2 :=
  createFoldersWithin_outcome _ path formed

/-! ## Removal -/

theorem ending_remove (path : Path) (tree : FileTree) :
    ending (remove path) tree =
      match tree.locateName path with
      | .error fault => (.error fault, tree)
      | .ok place =>
        match tree.get? place with
        | none => (.error .missing, tree)
        | some _ => (.ok (), tree.without place) := by
  unfold remove
  rw [ending_bind, ending_get]
  dsimp only
  rw [ending_bind, ending_liftM]
  cases tree.locateName path with
  | error fault => rfl
  | ok place =>
    dsimp only
    cases tree.get? place <;> rfl

/-- Removal makes nothing new, wherever the path leads. -/
theorem wanes_remove (proper : tree.Proper) (path : Path) (place : Location) :
    Wanes tree (ending (remove path) tree).2 place := by
  rw [ending_remove]
  split
  · exact Wanes.refl tree place
  · split
    · exact Wanes.refl tree place
    · next found => exact wanes_without proper found place

theorem proper_remove (proper : tree.Proper) (path : Path) :
    (ending (remove path) tree).2.Proper := by
  rw [ending_remove]
  split
  · exact proper
  · split
    · exact proper
    · next found => exact proper_without proper found

theorem sole_remove (path : Path) (sole : tree.Sole place) :
    (ending (remove path) tree).2.Sole place := by
  rw [ending_remove]
  split
  · exact sole
  · split
    · exact sole
    · exact sole_without sole

theorem current_remove (path : Path) (tree : FileTree) :
    (ending (remove path) tree).2.current = tree.current := by
  rw [ending_remove]
  split
  · rfl
  · split
    · rfl
    · exact current_touch

theorem clock_remove (path : Path) (tree : FileTree) :
    tree.clock.total ≤ (ending (remove path) tree).2.clock.total := by
  rw [ending_remove]
  split
  · exact Int.le_refl _
  · split
    · exact Int.le_refl _
    · next place _ _ _ _ =>
        have later := tree.clock.total_next
        have clock : (tree.without place).clock = tree.clock.next :=
          congrArg Timestamp.next clock_touch
        rw [clock, later]
        omega

/-! ## Locations that are spared -/

section
variable {middle final : FileTree} {other : Location}

/-- Whatever stands at a location afterwards and is no folder stood there before. -/
def Spares (place : Location) (tree after : FileTree) : Prop :=
  forall entry, after.get? place = some entry -> entry.node ≠ .folder ->
    tree.get? place = some entry

theorem Spares.refl (place : Location) (tree : FileTree) : Spares place tree tree :=
  fun _ found _ => found

theorem Spares.trans (early : Spares place tree middle) (late : Spares place middle after) :
    Spares place tree after :=
  fun entry found notFolder => early entry (late entry found notFolder) notFolder

/-- What stands at a free location in the end, and is no folder, was not there before something was
added, if until then the location was spared. -/
theorem Spares.none_of_none {entry : FileEntry} (spares : Spares place tree middle)
    (formed : middle.Formed) (extension : Extends middle after)
    (found : after.get? place = some entry) (notFolder : entry.node ≠ .folder)
    (free : tree.get? place = none) : middle.get? place = none := by
  rcases extension.none_or_same formed found notFolder with nothing | stood
  · exact nothing
  · rw [spares entry stood notFolder] at free
    cases free

/-- A change spares a location if it is made at another one, where another file stands. -/
theorem Change.spares (formed : tree.Formed) (change : Change other tree after)
    (elsewhere : place ≠ other)
    (different : forall number, tree.number? place = some number ->
      tree.number? other ≠ some number) : Spares place tree after := by
  intro entry found notFolder
  cases before : tree.get? place with
  | none =>
    have unnumbered := formed.number?_eq_none before
    have free : after.number? place = none := by
      rcases change with adds | rewrites
      · cases adds with
        | create => rw [number?_create, if_neg (Ne.symm elsewhere), unnumbered]
      · cases rewrites with
        | store => exact unnumbered
    rw [get?, free] at found
    cases found
  | some old =>
    rcases (change.follows formed).exists_like place old before with ⟨new, foundNew, like⟩
    rw [found, Option.some.injEq] at foundNew
    subst foundNew
    rcases get?_eq_some_iff.mp before with ⟨number, numbered, _⟩
    have kept := change.eq_of_not_folder formed before
      (fun folder => notFolder (like.folder_iff.mpr folder))
      (fun same => different number numbered (same.symm.trans numbered))
    rw [found] at kept
    exact kept.symm

/-- Creating folders spares every location. -/
theorem GainsFolders.spares (formed : tree.Formed) (gains : GainsFolders tree after) :
    Spares place tree after := by
  induction gains with
  | refl => exact .refl place tree
  | @tail middle after before step inductionHypothesis =>
    rcases step with ⟨added, adds, isFolder⟩
    have formedMiddle := GainsFolders.formed formed before
    refine inductionHypothesis.trans ?_
    by_cases here : place = added
    · intro entry found notFolder
      rcases isFolder_iff.mp isFolder with ⟨folder, foundFolder, node⟩
      rw [← here, found, Option.some.injEq] at foundFolder
      exact absurd (foundFolder ▸ node) notFolder
    · refine Change.spares formedMiddle (Or.inl adds) here fun number _ numbered => ?_
      rw [formedMiddle.number?_eq_none adds.free] at numbered
      cases numbered

/-- Writing spares the file that a path leads to, unless it turns out to be the one that is
written. -/
theorem spares_of_write {content : ByteArray} {result : Except FileFault Unit} {number : Nat}
    (formed : tree.Formed) (follows : Follows after final)
    (numbered : final.number? place = some number) (apart : ¬ final.LeadsTo path number)
    (wrote : ending (write path content) tree = (result, after)) : Spares place tree after := by
  have outcome := write_outcome formed path content
  rw [wrote] at outcome
  cases outcome with
  | refused => exact .refl place _
  | swallowed => exact .refl place _
  | @written there _ _ located _ change found =>
    have later := (change.follows formed).trans follows
    rcases get?_eq_some_iff.mp found with ⟨written, numberedThere, _⟩
    have leads : final.LeadsTo path written :=
      ⟨there, later.locateWith located, follows.number?_eq there written numberedThere⟩
    have different : written ≠ number := fun same => apart (same ▸ leads)
    refine change.spares formed ?_ fun old atPlace atThere => ?_
    · rintro rfl
      have same := follows.number?_eq place written numberedThere
      rw [numbered, Option.some.injEq] at same
      exact different same.symm
    · have same := later.number?_eq place old atPlace
      have sameThere := (change.follows formed).number?_eq there old atThere
      rw [numbered, Option.some.injEq] at same
      rw [numberedThere, Option.some.injEq] at sameThere
      exact different (sameThere.trans same.symm)

end

end FileTree
end BaseLanguage
