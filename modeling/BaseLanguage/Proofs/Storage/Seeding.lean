import BaseLanguage.Processor.Seeding
import BaseLanguage.Proofs.Storage.Filing
import Mathlib.Data.List.Induction

namespace BaseLanguage

/-!
# Putting shared modules in place

A source is put where nothing was found, and folders may be created in between.  That the new file
takes no other's place is seen at the folder which it is put into: either that folder was there
before, and then nothing has come to lie in it, or it was created, and then nothing lies in it yet.
So seeding adds to a tree, whatever links lead to its folder.  Once all sources are there, seeding
does nothing.

Sources are written as names that go down, each from the folder to which the path before it leads.
Where that folder lies is of no importance, and so links on the way to it do no harm: what has a
name in the folder lies there and nowhere else, unless it is a link itself.
-/

/-- A name that leads from a folder to what lies in it. -/
structure LeadsDown (name : String) : Prop where
  noSlash : '/' ∉ name.toList
  notSilent : Path.isSilent name.toList = false
  notUp : name ≠ ".."
  short : name.utf8ByteSize ≤ FileTree.longestName

theorem LeadsDown.notEmpty {name : String} (down : LeadsDown name) : name ≠ "" := by
  rintro rfl
  cases down.notSilent

namespace Path

variable {directory path : Path} {name : String}

/-- The path of what has a name in a folder. -/
def child (directory : Path) (name : String) : Path :=
  directory.join ⟨name⟩

/-- The path behind a folder that goes through names. -/
def under (directory : Path) (names : List String) : Path :=
  names.foldl child directory

theorem under_concat (directory : Path) (names : List String) (name : String) :
    directory.under (names ++ [name]) = (directory.under names).child name :=
  List.foldl_append

/-- The last segment of a path is a name, or leads up. -/
def EndsInName (path : Path) : Prop :=
  exists front last, Text.pieces '/' path.text.toList = front ++ [last] ∧ isSilent last = false

/-! ## Texts -/

theorem isAbsolute_of_noSlash (noSlash : '/' ∉ name.toList) :
    isAbsolute ⟨name⟩ = false := by
  unfold isAbsolute
  cases text : name.toList with
  | nil => rfl
  | cons c rest =>
    have different : c ≠ '/' := by
      rintro rfl
      exact noSlash (text ▸ List.mem_cons_self)
    simpa using different

/-- A path that ends in a name has a text that does not end in a slash. -/
theorem EndsInName.text (named : path.EndsInName) :
    path.text.toList ≠ [] ∧ path.text.toList.getLast? ≠ some '/' := by
  rcases named with ⟨front, last, cut, notSilent⟩
  have lastPiece : (Text.pieces '/' path.text.toList).getLast? = some last := by
    rw [cut, List.getLast?_concat]
  constructor
  · intro empty
    rw [empty] at lastPiece
    cases lastPiece
    cases notSilent
  · intro slash
    rcases List.getLast?_eq_some_iff.mp slash with ⟨before, text⟩
    rw [text, Text.pieces_append] at lastPiece
    have blank : (Text.pieces '/' before ++ Text.pieces '/' []).getLast? = some [] := by
      rw [show Text.pieces '/' [] = [[]] from rfl, List.getLast?_concat]
    rw [blank] at lastPiece
    cases lastPiece
    cases notSilent

theorem EndsInName.meansFolder (named : path.EndsInName) : FileTree.meansFolder path = false := by
  unfold FileTree.meansFolder
  simpa using named.text.2

/-- Behind a path that ends in a name, another path comes behind a slash. -/
theorem EndsInName.text_join (named : directory.EndsInName) (relative : path.isAbsolute = false) :
    (directory.join path).text.toList = directory.text.toList ++ '/' :: path.text.toList := by
  rcases named.text with ⟨notEmpty, notSlashed⟩
  have unclosed : (directory.text.toList.isEmpty || directory.text.toList.getLast? == some '/') =
      false := by
    rw [Bool.or_eq_false_iff, List.isEmpty_eq_false_iff, beq_eq_false_iff_ne]
    exact ⟨notEmpty, notSlashed⟩
  unfold join
  rw [relative]
  dsimp only
  rw [if_neg Bool.false_ne_true, unclosed, if_neg Bool.false_ne_true, ofChars, String.toList_ofList]

theorem EndsInName.text_child (named : directory.EndsInName) (noSlash : '/' ∉ name.toList) :
    (directory.child name).text.toList = directory.text.toList ++ '/' :: name.toList :=
  named.text_join (isAbsolute_of_noSlash noSlash)

/-- What is written behind a folder ends in a name if it is one. -/
theorem endsInName_child (directory : Path) (noSlash : '/' ∉ name.toList)
    (notSilent : isSilent name.toList = false) : (directory.child name).EndsInName := by
  have cutName := Text.pieces_of_not_mem noSlash
  unfold child join
  rw [isAbsolute_of_noSlash noSlash]
  simp only [Bool.false_eq_true, if_false]
  split
  · next closed =>
      simp only [Bool.or_eq_true, List.isEmpty_iff, beq_iff_eq] at closed
      rcases closed with empty | slash
      · refine ⟨[], name.toList, ?_, notSilent⟩
        rw [empty, ofChars, String.toList_ofList, List.nil_append, cutName, List.nil_append]
      · rcases List.getLast?_eq_some_iff.mp slash with ⟨before, text⟩
        refine ⟨Text.pieces '/' before, name.toList, ?_, notSilent⟩
        rw [text, List.append_assoc, List.singleton_append, ofChars, String.toList_ofList,
          Text.pieces_append, cutName]
  · refine ⟨Text.pieces '/' directory.text.toList, name.toList, ?_, notSilent⟩
    rw [ofChars, String.toList_ofList, Text.pieces_append, cutName]

theorem EndsInName.under (named : directory.EndsInName) {names : List String}
    (down : forall name, name ∈ names -> LeadsDown name) : (directory.under names).EndsInName := by
  induction names generalizing directory with
  | nil => exact named
  | cons name more inductionHypothesis =>
    have here := down name List.mem_cons_self
    exact inductionHypothesis (endsInName_child directory here.noSlash here.notSilent)
      fun other member => down other (List.mem_cons_of_mem name member)

theorem EndsInName.components_isEmpty (named : path.EndsInName) :
    path.components.isEmpty = false := by
  have names : path.names ≠ [] := by
    rcases named with ⟨front, last, cut, notSilent⟩
    rw [names_eq_filter_pieces, cut]
    simp [notSilent]
  unfold components
  split <;> simp [names]

/-! ## Parents -/

theorem assemble_split (text : List Char) : assemble (split text).1 (split text).2 = text := by
  have joined := Text.join_pieces '/' text
  unfold split
  split
  · next cut =>
      rw [cut] at joined
      exact joined
  · next cut =>
      rw [cut] at joined
      exact joined
  · exact joined

/-- Behind a path that ends in a name, a text adds its segments, and the anchor is the same. -/
theorem EndsInName.split_append (named : path.EndsInName) (text : List Char) :
    split (path.text.toList ++ '/' :: text) =
      ((split path.text.toList).1, (split path.text.toList).2 ++ Text.pieces '/' text) := by
  rcases named with ⟨front, last, cut, notSilent⟩
  have cutLonger : Text.pieces '/' (path.text.toList ++ '/' :: text) =
      front ++ [last] ++ Text.pieces '/' text := by
    rw [Text.pieces_append, cut]
  unfold split
  rw [cutLonger, cut]
  cases front with
  | nil =>
    -- a lone segment is no anchor, for it would say nothing
    have notEmpty : last ≠ [] := by
      rintro rfl
      cases notSilent
    have notDot : last ≠ ['.'] := by
      rintro rfl
      cases notSilent
    simp [notEmpty, notDot]
  | cons first more =>
    by_cases atRoot : first = []
    · subst atRoot
      cases more <;> rfl
    · by_cases atCurrent : first = ['.']
      · subst atCurrent
        rfl
      · simp [atRoot, atCurrent]

/-- Some segment is the last one. -/
theorem EndsInName.exists_segments (named : path.EndsInName) :
    exists front last, (split path.text.toList).2 = front ++ [last] ∧ isSilent last = false := by
  rcases named with ⟨front, last, cut, notSilent⟩
  unfold split
  rw [cut]
  cases front with
  | nil =>
    refine ⟨[], last, ?_, notSilent⟩
    split
    · next same => simp at same
    · next same =>
        simp only [List.nil_append, List.cons.injEq] at same
        rw [same.1] at notSilent
        cases notSilent
    · rfl
  | cons first more =>
    split
    · next same =>
        rcases List.cons.inj same with ⟨_, rest⟩
        exact ⟨more, last, rest.symm, notSilent⟩
    · next same =>
        rcases List.cons.inj same with ⟨_, rest⟩
        exact ⟨more, last, rest.symm, notSilent⟩
    · exact ⟨first :: more, last, rfl, notSilent⟩

/-- The parent of what has a name in a folder is the folder. -/
theorem EndsInName.parent?_child (named : directory.EndsInName) (noSlash : '/' ∉ name.toList)
    (notSilent : isSilent name.toList = false) :
    (directory.child name).parent? = some directory := by
  rcases named.exists_segments with ⟨front, last, segments, notSilentLast⟩
  unfold parent?
  rw [named.text_child noSlash, named.split_append, Text.pieces_of_not_mem noSlash, segments]
  simp only [List.reverse_append, List.reverse_cons, List.reverse_nil, List.nil_append,
    List.cons_append, List.dropWhile_cons, notSilent, notSilentLast, Bool.false_eq_true, if_false,
    List.reverse_reverse]
  rw [← segments, assemble_split, ofChars, String.ofList_toList]

/-! ## Names in a row -/

theorem EndsInName.text_under (named : directory.EndsInName) {names : List String}
    (down : forall name, name ∈ names -> LeadsDown name) :
    (directory.under names).text.toList =
      directory.text.toList ++ names.flatMap (fun name => '/' :: name.toList) := by
  induction names generalizing directory with
  | nil => simp [Path.under]
  | cons name more inductionHypothesis =>
    have here := down name List.mem_cons_self
    have rest := inductionHypothesis (endsInName_child directory here.noSlash here.notSilent)
      fun other member => down other (List.mem_cons_of_mem name member)
    change ((directory.child name).under more).text.toList = _
    rw [rest, named.text_child here.noSlash, List.flatMap_cons, List.append_assoc]

/-- A path behind a folder goes through the names that it is written with. -/
theorem EndsInName.join_eq_under (named : directory.EndsInName)
    (relative : path.isAbsolute = false) {names : List String}
    (down : forall name, name ∈ names -> LeadsDown name)
    (spelled : '/' :: path.text.toList = names.flatMap (fun name => '/' :: name.toList)) :
    directory.join path = directory.under names := by
  have same : (directory.join path).text = (directory.under names).text := by
    rw [← String.toList_inj, named.text_join relative, named.text_under down, spelled]
  rw [← Path.mk.injEq] at same
  exact same

end Path

namespace FileTree

variable {tree : FileTree} {place next folder : Location} {directory : Path} {name : String}

/-! ## Where names lead that go down -/

theorem steps_child (directory : Path) (noSlash : '/' ∉ name.toList) (notEmpty : name ≠ "") :
    steps (directory.child name) = steps directory ++ [name] := by
  have lone : steps ⟨name⟩ = [name] := by
    unfold steps
    rw [Text.pieces_of_not_mem noSlash]
    simp [notEmpty]
  unfold Path.child
  rw [steps_join directory (Path.isAbsolute_of_noSlash noSlash), lone]

theorem step_of_leadsDown (down : LeadsDown name) (isFolder : tree.isFolder place = true) :
    tree.step place name = .ok (place ++ [name]) := by
  have notDot : name ≠ "." := by
    rintro rfl
    cases down.notSilent
  refine step_eq_ok_iff.mpr ⟨isFolder, Or.inr (Or.inr down.short), ?_⟩
  rw [onward, if_neg notDot, if_neg down.notUp]

/-- Where one more name leads: it is the next step, or is left for behind a link. -/
def reachOn (tree : FileTree) (follows : Bool) (name : String) : Reach -> Except FileFault Reach
  | .place place => tree.reach follows place [name]
  | .link folder target rest => .ok (.link folder target (rest ++ [name]))

theorem reach_concat {follows : Bool} {names : List String} {reached : Reach}
    (found : tree.reach true folder names = .ok reached) :
    tree.reach follows folder (names ++ [name]) = tree.reachOn follows name reached := by
  induction names generalizing folder with
  | nil =>
    cases found
    rfl
  | cons first more inductionHypothesis =>
    rw [reach, bind_eq_ok_iff] at found
    rcases found with ⟨stop, stepped, found⟩
    rw [List.cons_append, reach_cons stepped]
    cases linked : tree.linkAt? stop with
    | none =>
      rw [linked] at found
      exact inductionHypothesis found
    | some target =>
      rw [linked] at found
      simp only [Bool.not_true, Bool.and_false, Bool.false_eq_true, if_false] at found
      cases found
      simp [reachOn]

/-- What has a name in a folder lies there, unless it is a link. -/
theorem walk_concat {follows : Bool} {links : Nat} {names : List String}
    (walked : tree.walk true links folder names = .ok place)
    (stepped : tree.step place name = .ok next) (noLink : tree.linkAt? next = none) :
    tree.walk follows links folder (names ++ [name]) = .ok next := by
  have last : tree.reachOn follows name (.place place) = .ok (.place next) := by
    rw [reachOn, reach_cons stepped, noLink]
    rfl
  induction walked using walk_induction with
  | arrived reach => exact walk_of_arrived ((reach_concat reach).trans last)
  | goesOn reach _ later =>
    rw [List.append_assoc] at later
    rwa [walk_of_link (reach_concat reach)]

/-- A path that goes down from a folder by a name leads to what has the name in it, unless a link
lies there. -/
theorem locateWith_child (down : LeadsDown name) (located : tree.locate directory = .ok place)
    (isFolder : tree.isFolder place = true) (noLink : tree.linkAt? (place ++ [name]) = none)
    {follows : Bool} (locatedChild : tree.locateWith follows (directory.child name) = .ok next) :
    next = place ++ [name] := by
  have sameOrigin : tree.origin (directory.child name) = tree.origin directory := by
    rw [origin, Path.child,
      isAbsolute_join directory (Path.isAbsolute_of_noSlash down.noSlash), origin]
  rcases locateWith_eq_ok_iff_walk.mp located with ⟨_, walked⟩
  rcases locateWith_eq_ok_iff_walk.mp locatedChild with ⟨_, walkedChild⟩
  rw [sameOrigin, steps_child directory down.noSlash down.notEmpty,
    walk_concat walked (step_of_leadsDown down isFolder) noLink] at walkedChild
  exact (Except.ok.inj walkedChild).symm

variable {after : FileTree} {path : Path}

/-! ## Folders behind a folder -/

/-- What has a name in an empty folder is not there. -/
theorem HasEmptyFolder.free (empty : tree.HasEmptyFolder directory) (down : LeadsDown name)
    {follows : Bool} (located : tree.locateWith follows (directory.child name) = .ok place) :
    tree.get? place = none := by
  rcases empty with ⟨folder, locatedFolder, isFolder, nothing⟩
  have noLink := linkAt?_eq_none_of_free (nothing name)
  rw [locateWith_child down locatedFolder isFolder noLink located]
  exact nothing name

theorem HasEmptyFolder.not_hasFolder_child (empty : tree.HasEmptyFolder directory)
    (down : LeadsDown name) : ¬ tree.hasFolder (directory.child name) = true := by
  intro there
  rcases hasFolder_iff_find.mp there with ⟨entry, found, _⟩
  rcases bind_eq_ok_iff.mp found with ⟨place, located, standing⟩
  have missing := empty.free down located
  rw [(entryAt_eq_ok_iff.mp standing).1] at missing
  cases missing

/-- A folder that is there is not created again. -/
theorem createFoldersWithin_of_hasFolder (bound : Nat) (there : tree.hasFolder path = true) :
    ending (createFoldersWithin (bound + 1) path) tree = (.ok (), tree) := by
  rcases hasFolder_iff_find.mp there with ⟨entry, found, _⟩
  rcases bind_eq_ok_iff.mp found with ⟨place, located, standing⟩
  rcases locateWith_of_locate located (entryAt_eq_ok_iff.mp standing).1 (meansFolder path) with
    ⟨other, otherEntry, locatedName, foundOther⟩
  have refused : ending (createFolder path) tree = (.error .alreadyThere, tree) := by
    rw [ending_createFolder, locateName, locatedName]
    dsimp only
    rw [foundOther]
  rw [createFoldersWithin_succ]
  split
  · rfl
  · rw [ending_tryCatch, refused]
    dsimp only
    rw [if_neg (by decide), ending_settle, if_pos there]

theorem createFolders_of_hasFolder (there : tree.hasFolder path = true) :
    ending (createFolders path) tree = (.ok (), tree) :=
  createFoldersWithin_of_hasFolder _ there

/-- A folder that is not created leaves everything as it is. -/
theorem eq_of_createFolder_error {fault : FileFault}
    (ended : ending (createFolder path) tree = (.error fault, after)) : after = tree := by
  rw [ending_createFolder] at ended
  split at ended
  · exact (congrArg Prod.snd ended).symm
  · split at ended
    · exact (congrArg Prod.snd ended).symm
    · cases ended

/-- If a folder is there in the end, it was created or it was there. -/
theorem createOrSettle_eq_ok
    (ended : ending (tryCatch (createFolder path) (settle path)) tree = (.ok (), after)) :
    ending (createFolder path) tree = (.ok (), after) ∨
      after = tree ∧ tree.hasFolder path = true := by
  rw [ending_tryCatch] at ended
  split at ended
  · next created =>
      cases ended
      exact Or.inl created
  · next fault middle created =>
      cases eq_of_createFolder_error created
      rw [ending_settle] at ended
      split at ended
      · next there =>
          cases ended
          exact Or.inr ⟨rfl, there⟩
      · cases ended

/-- If a folder is there in the end, it was created or it was there, or it was missing until its
parent was created. -/
theorem createFoldersWithin_succ_eq_ok {bound : Nat} (notEmpty : path.components.isEmpty = false)
    (ended : ending (createFoldersWithin (bound + 1) path) tree = (.ok (), after)) :
    ending (createFolder path) tree = (.ok (), after) ∨
      after = tree ∧ tree.hasFolder path = true ∨
      exists parent middle, path.parent? = some parent ∧
        ending (createFolder path) tree = (.error .missing, tree) ∧
        ending (createFoldersWithin bound parent) tree = (.ok (), middle) ∧
        ending (tryCatch (createFolder path) (settle path)) middle = (.ok (), after) := by
  rw [createFoldersWithin_succ, notEmpty, if_neg Bool.false_ne_true, ending_tryCatch] at ended
  split at ended
  · next created =>
      cases ended
      exact Or.inl created
  · next fault middle created =>
      cases eq_of_createFolder_error created
      right
      split at ended
      · next isMissing =>
          cases isMissing
          split at ended
          · cases ended
          · next parent isParent =>
              rcases ending_bind_eq_ok_iff.mp ended with ⟨_, middle, parents, rest⟩
              exact Or.inr ⟨parent, middle, isParent, created, parents, rest⟩
      · rw [ending_settle] at ended
        split at ended
        · next there =>
            cases ended
            exact Or.inl ⟨rfl, there⟩
        · cases ended

/-- Behind a folder, creating folders creates the last one of them empty or changes nothing. -/
theorem eq_or_hasEmptyFolder_of_createFoldersWithin (formed : tree.Formed)
    (named : directory.EndsInName) (there : tree.hasFolder directory = true) {names : List String}
    (down : forall name, name ∈ names -> LeadsDown name) {bound : Nat}
    (ended : ending (createFoldersWithin bound (directory.under names)) tree = (.ok (), after)) :
    after = tree ∨ after.HasEmptyFolder (directory.under names) := by
  induction names using List.reverseRecOn generalizing bound after with
  | nil =>
    cases bound with
    | zero => cases ended
    | succ bound =>
      change ending (createFoldersWithin (bound + 1) directory) tree = _ at ended
      rw [createFoldersWithin_of_hasFolder bound there] at ended
      exact Or.inl (congrArg Prod.snd ended).symm
  | append_singleton names name inductionHypothesis =>
    have downNames : forall other, other ∈ names -> LeadsDown other :=
      fun other member => down other (List.mem_append_left _ member)
    have downName : LeadsDown name := down name (by simp)
    have namedNames := named.under downNames
    rw [Path.under_concat] at ended ⊢
    have namedChild : ((directory.under names).child name).EndsInName :=
      Path.endsInName_child _ downName.noSlash downName.notSilent
    cases bound with
    | zero => cases ended
    | succ bound =>
      rcases createFoldersWithin_succ_eq_ok namedChild.components_isEmpty ended with
        created | ⟨same, _⟩ | ⟨parent, middle, isParent, missing, parents, rest⟩
      · exact Or.inr (hasEmptyFolder_of_createFolder formed created)
      · exact Or.inl same
      · rw [namedNames.parent?_child downName.noSlash downName.notSilent] at isParent
        cases isParent
        have formedMiddle : middle.Formed := by
          have outcome := createFoldersWithin_outcome bound (directory.under names) formed
          rw [parents] at outcome
          exact outcome.gains.formed formed
        rcases createOrSettle_eq_ok rest with created | ⟨rfl, found⟩
        · exact Or.inr (hasEmptyFolder_of_createFolder formedMiddle created)
        · -- the folder was found where it had been missing, so no parent was created
          rcases inductionHypothesis downNames parents with same | empty
          · exact Or.inl same
          · exact absurd found (empty.not_hasFolder_child downName)

/-! ## Writing where nothing is -/

/-- What writing at a free place comes to: something is added, and is there if writing succeeded.
All that is new and no folder is what was to be written. -/
structure Placed (path : Path) (content : ByteArray) (tree : FileTree)
    (result : Except FileFault Unit) (after : FileTree) : Prop where
  extension : Extends tree after
  there : result = .ok () -> after.exists? path = true
  created : forall place entry, after.get? place = some entry -> entry.node ≠ .folder ->
    tree.get? place = none -> after.locate path = .ok place ∧ entry.node = .file content

theorem Placed.of_spares {content : ByteArray} {result : Except FileFault Unit}
    (extension : Extends tree after) (there : result = .ok () -> after.exists? path = true)
    (spares : forall place, Spares place tree after) : Placed path content tree result after := by
  refine ⟨extension, there, fun place entry found notFolder free => ?_⟩
  rw [spares place entry found notFolder] at free
  cases free

theorem placed_of_free (formed : tree.Formed) (named : path.EndsInName)
    (free : forall place, tree.locate path = .ok place -> tree.get? place = none)
    (content : ByteArray) :
    Placed path content tree (ending (write path content) tree).1
      (ending (write path content) tree).2 := by
  have outcome := write_outcome formed path content
  revert outcome
  generalize (ending (write path content) tree).1 = result
  generalize (ending (write path content) tree).2 = final
  intro outcome
  cases outcome with
  | refused =>
    exact .of_spares Relation.ReflTransGen.refl (fun failed => by cases failed)
      fun place => .refl place tree
  | @swallowed place entry located found _ =>
    rw [free place located] at found
    cases found
  | @written place _ permissions located _ change found =>
    have locatedAfter := (change.follows formed).locateWith located
    have foundPath : final.find path = .ok ⟨.file content, tree.clock, permissions⟩ := by
      refine bind_eq_ok_iff.mpr ⟨place, locatedAfter, entryAt_eq_ok_iff.mpr ⟨found, ?_⟩⟩
      rw [named.meansFolder]
      exact fun slashed => absurd slashed Bool.false_ne_true
    refine ⟨?_, fun _ => exists?_iff.mpr ⟨_, foundPath⟩, ?_⟩
    case refine_2 =>
      intro other entry foundOther notFolder missing
      by_cases here : other = place
      · subst here
        rw [found, Option.some.injEq] at foundOther
        exact ⟨locatedAfter, foundOther ▸ rfl⟩
      · have spared : Spares other tree final := change.spares formed here fun number numbered => by
          rw [formed.number?_eq_none missing] at numbered
          cases numbered
        rw [spared entry foundOther notFolder] at missing
        cases missing
    rcases change with adds | rewrites
    · exact Extends.of_adds adds
    · cases rewrites with
      | store numbered known =>
        have standing := get?_eq_some_iff.mpr ⟨_, numbered, known⟩
        rw [free place located] at standing
        cases standing

/-- Where a path finds nothing, nothing stands where it leads. -/
theorem free_of_not_exists? (named : path.EndsInName) (missing : ¬ tree.exists? path = true)
    (located : tree.locate path = .ok place) : tree.get? place = none := by
  cases found : tree.get? place with
  | none => rfl
  | some entry =>
    refine absurd (exists?_iff.mpr ⟨entry, bind_eq_ok_iff.mpr ⟨place, located, ?_⟩⟩) missing
    refine entryAt_eq_ok_iff.mpr ⟨found, ?_⟩
    rw [named.meansFolder]
    exact fun slashed => absurd slashed Bool.false_ne_true

end FileTree

namespace Seeding

open FileTree

variable {tree after : FileTree} {target : Path} {source : Path × String}
  {sources : List (Path × String)}

/-! ## One source -/

/-- A source is written as names that lead down. -/
def LiesBelow (source : Path) : Prop :=
  exists folders name, (forall folder, folder ∈ folders -> LeadsDown folder) ∧ LeadsDown name ∧
    source.isAbsolute = false ∧
    '/' :: source.text.toList = (folders ++ [name]).flatMap (fun name => '/' :: name.toList)

/-- Behind a target, such a source is a name in a folder below the target. -/
theorem LiesBelow.exists_child (below : LiesBelow source.1) (named : target.EndsInName) :
    exists folders name, (forall folder, folder ∈ folders -> LeadsDown folder) ∧ LeadsDown name ∧
      target.join source.1 = (target.under folders).child name := by
  rcases below with ⟨folders, name, downFolders, down, relative, spelled⟩
  have downAll : forall folder, folder ∈ folders ++ [name] -> LeadsDown folder := by
    intro folder member
    rcases List.mem_append.mp member with early | late
    · exact downFolders folder early
    · exact List.mem_singleton.mp late ▸ down
  refine ⟨folders, name, downFolders, down, ?_⟩
  rw [named.join_eq_under relative downAll spelled, Path.under_concat]

/-- Putting a source into a folder adds to the tree, and the source is there if it succeeds. -/
theorem placed_of_seedOne (formed : tree.Formed) (below : LiesBelow source.1)
    (named : target.EndsInName) (there : tree.hasFolder target = true) :
    Placed (target.join source.1) (Text.toBytes source.2) tree
      (ending (seedOne target source) tree).1 (ending (seedOne target source) tree).2 := by
  rcases below.exists_child named with ⟨folders, name, downFolders, down, isChild⟩
  have namedChild : ((target.under folders).child name).EndsInName :=
    Path.endsInName_child _ down.noSlash down.notSilent
  have isParent := (named.under downFolders).parent?_child down.noSlash down.notSilent
  unfold seedOne
  dsimp only
  rw [isChild, isParent, ending_bind, ending_get]
  dsimp only
  split
  · next found =>
      exact .of_spares Relation.ReflTransGen.refl (fun _ => found) fun place => .refl place tree
  · next missing =>
      rw [ending_bind]
      have outcome := createFolders_outcome (target.under folders) formed
      rcases created : ending (createFolders (target.under folders)) tree with ⟨result, middle⟩
      rw [created] at outcome
      cases result with
      | error fault =>
        exact .of_spares outcome.gains.extension (fun failed => by cases failed)
          fun place => outcome.gains.spares formed
      | ok =>
        have formedMiddle := outcome.gains.formed formed
        have free : forall place,
            middle.locate ((target.under folders).child name) = .ok place ->
              middle.get? place = none := by
          intro place located
          rcases eq_or_hasEmptyFolder_of_createFoldersWithin formed named there downFolders
            created with rfl | empty
          · exact free_of_not_exists? namedChild missing located
          · exact empty.free down located
        have placed := placed_of_free formedMiddle namedChild free (Text.toBytes source.2)
        refine ⟨outcome.gains.extension.trans placed.extension, placed.there, ?_⟩
        intro place entry found notFolder missing
        exact placed.created place entry found notFolder
          ((outcome.gains.spares formed).none_of_none formedMiddle placed.extension found
            notFolder missing)

/-! ## All sources -/

/-- Where the path of a source leads, the content of this source stands. -/
def IsSource (target : Path) (sources : List (Path × String)) (tree : FileTree) (place : Location)
    (node : FileNode) : Prop :=
  exists source, source ∈ sources ∧ tree.locate (target.join source.1) = .ok place ∧
    node = .file (Text.toBytes source.2)

theorem IsSource.of_follows {place : Location} {node : FileNode}
    (isSource : IsSource target sources tree place node) (follows : Follows tree after) :
    IsSource target sources after place node := by
  rcases isSource with ⟨source, member, located, same⟩
  exact ⟨source, member, follows.locateWith located, same⟩

/-- What seeding comes to: it adds, as far as it gets, and all sources are there if it succeeded.
All that is new and no folder is a source. -/
structure Seeded (target : Path) (sources : List (Path × String)) (tree : FileTree)
    (result : Except FileFault Unit) (after : FileTree) : Prop where
  extension : Extends tree after
  there : result = .ok () -> forall source, source ∈ sources ->
    after.exists? (target.join source.1) = true
  created : forall place entry, after.get? place = some entry -> entry.node ≠ .folder ->
    tree.get? place = none -> IsSource target sources after place entry.node

theorem seeded_of_seeding (formed : tree.Formed) (named : target.EndsInName)
    (there : tree.hasFolder target = true)
    (below : forall source, source ∈ sources -> LiesBelow source.1) :
    Seeded target sources tree (ending (sources.forM (seedOne target)) tree).1
      (ending (sources.forM (seedOne target)) tree).2 := by
  induction sources generalizing tree with
  | nil =>
    refine ⟨Relation.ReflTransGen.refl, (fun _ source member => by cases member), ?_⟩
    exact fun place entry found _ missing => nomatch found.symm.trans missing
  | cons source more inductionHypothesis =>
    change Seeded target (source :: more) tree
      (ending (seedOne target source >>= fun _ => more.forM (seedOne target)) tree).1
      (ending (seedOne target source >>= fun _ => more.forM (seedOne target)) tree).2
    rw [ending_bind]
    have first := placed_of_seedOne formed (below source List.mem_cons_self) named there
    rcases seeded : ending (seedOne target source) tree with ⟨result, middle⟩
    rw [seeded] at first
    have isFirst : forall place entry, middle.get? place = some entry -> entry.node ≠ .folder ->
        tree.get? place = none ->
          IsSource target (source :: more) middle place entry.node :=
      fun place entry found notFolder missing =>
        ⟨source, List.mem_cons_self, first.created place entry found notFolder missing⟩
    cases result with
    | error fault => exact ⟨first.extension, (fun failed => by cases failed), isFirst⟩
    | ok =>
      have formedMiddle := Grows.formed formed first.extension.grows
      have thereMiddle := (Grows.follows formed first.extension.grows).hasFolder there
      have rest := inductionHypothesis formedMiddle thereMiddle
        fun other member => below other (List.mem_cons_of_mem _ member)
      have follows := Grows.follows formedMiddle rest.extension.grows
      refine ⟨first.extension.trans rest.extension, fun succeeded other member => ?_, ?_⟩
      · rcases List.mem_cons.mp member with rfl | late
        · exact follows.exists? (first.there rfl)
        · exact rest.there succeeded other late
      · intro place entry found notFolder missing
        rcases rest.extension.none_or_same formedMiddle found notFolder with nothing | stood
        · rcases rest.created place entry found notFolder nothing with ⟨other, late, isOther⟩
          exact ⟨other, List.mem_cons_of_mem _ late, isOther⟩
        · exact (isFirst place entry stood notFolder missing).of_follows follows

/-- Where all sources are, seeding does nothing. -/
theorem ending_seeding_of_exists?
    (there : forall source, source ∈ sources -> tree.exists? (target.join source.1) = true) :
    ending (sources.forM (seedOne target)) tree = (.ok (), tree) := by
  induction sources with
  | nil => rfl
  | cons source more inductionHypothesis =>
    have seeded : ending (seedOne target source) tree = (.ok (), tree) := by
      unfold seedOne
      rw [ending_bind, ending_get]
      dsimp only
      rw [if_pos (there source List.mem_cons_self)]
      rfl
    change ending (seedOne target source >>= fun _ => more.forM (seedOne target)) tree = _
    rw [ending_bind, seeded]
    exact inductionHypothesis fun other member => there other (List.mem_cons_of_mem _ member)

/-- Wherever a source lies and whatever is found, putting it in place changes files by changes of
trees. -/
theorem grows_seedOne (formed : tree.Formed) (target : Path) (source : Path × String) :
    Grows tree (ending (seedOne target source) tree).2 := by
  unfold seedOne
  rw [ending_bind, ending_get]
  dsimp only
  split
  · exact Relation.ReflTransGen.refl
  · split
    · next parent _ =>
        have gains := (createFolders_outcome parent formed).gains
        rw [ending_bind]
        generalize ending (createFolders parent) tree = created at gains
        rcases created with ⟨result, middle⟩
        have grows : Grows tree middle := gains.extension.grows
        cases result with
        | error fault => exact grows
        | ok => exact grows.trans (grows_write (grows.formed formed) _ _)
    · exact Relation.ReflTransGen.refl

theorem grows_seeding (formed : tree.Formed) (target : Path) (sources : List (Path × String)) :
    Grows tree (ending (sources.forM (seedOne target)) tree).2 := by
  induction sources generalizing tree with
  | nil => exact Relation.ReflTransGen.refl
  | cons source more inductionHypothesis =>
    change Grows tree
      (ending (seedOne target source >>= fun _ => more.forM (seedOne target)) tree).2
    have first := grows_seedOne formed target source
    rw [ending_bind]
    generalize ending (seedOne target source) tree = seeded at first
    rcases seeded with ⟨result, middle⟩
    cases result with
    | error fault => exact first
    | ok =>
      have grows : Grows tree middle := first
      exact grows.trans (inductionHypothesis (grows.formed formed))

/-! ## The shared modules -/

/-- The grammar of the shared module, with its path. -/
def grammarModule : Path × String :=
  (⟨"org/sugarj/soundx/SoundX.sdf"⟩, sharedGrammar)

/-- The rules of the shared module, with their path. -/
def rulesModule : Path × String :=
  (⟨"org/sugarj/soundx/SoundX.str"⟩, sharedRules)

theorem mem_sources_iff :
    source ∈ Seeding.sources <-> source = grammarModule ∨ source = rulesModule := by
  simp only [Seeding.sources, grammarModule, rulesModule, List.mem_cons, List.not_mem_nil, or_false]

theorem liesBelow_sources : forall source, source ∈ Seeding.sources -> LiesBelow source.1 := by
  have downFolders : forall folder, folder ∈ ["org", "sugarj", "soundx"] -> LeadsDown folder := by
    intro folder member
    simp only [List.mem_cons, List.not_mem_nil, or_false] at member
    rcases member with rfl | rfl | rfl
    · exact ⟨by decide, by decide, by decide, by decide⟩
    · exact ⟨by decide, by decide, by decide, by decide⟩
    · exact ⟨by decide, by decide, by decide, by decide⟩
  intro source member
  rcases mem_sources_iff.mp member with rfl | rfl
  · exact ⟨_, "SoundX.sdf", downFolders, ⟨by decide, by decide, by decide, by decide⟩, by decide,
      by decide⟩
  · exact ⟨_, "SoundX.str", downFolders, ⟨by decide, by decide, by decide, by decide⟩, by decide,
      by decide⟩

end Seeding
end BaseLanguage
