import BaseLanguage.Storage.FileTree
import Mathlib.Logic.Relation

namespace BaseLanguage

/-!
# How trees change

Whatever a run does to files comes down to two kinds of change: a file is rewritten where it
stands, or something new is put at a free location of a folder.  A third one, the removal of what
stands at a location, is done to files from outside.

What the three do is said by location.  A location that is not changed itself keeps its entry,
except that a folder gets a new time when something in it is added or removed.  The entry at a
changed location has the time of the clock, which is later than all times that the tree held
before.  So times never go back, and a new time shows a change.
-/

namespace FileEntry

/-- An entry as it was, except that a folder may have got a later time. -/
structure Keeps (old new : FileEntry) : Prop where
  node_eq : new.node = old.node
  modified_le : old.modified.total ≤ new.modified.total
  eq_of_not_folder : old.node ≠ .folder -> new = old

namespace Keeps

theorem refl (entry : FileEntry) : Keeps entry entry :=
  ⟨rfl, Int.le_refl _, fun _ => rfl⟩

theorem trans {first second third : FileEntry} (early : Keeps first second)
    (late : Keeps second third) : Keeps first third := by
  refine ⟨late.node_eq.trans early.node_eq, Int.le_trans early.modified_le late.modified_le, ?_⟩
  intro notFolder
  have same := early.eq_of_not_folder notFolder
  rw [late.eq_of_not_folder (early.node_eq ▸ notFolder), same]

end Keeps
end FileEntry

namespace FileTree

variable {tree after : FileTree} {place other folder : Location} {number m : Nat}

/-! ## Entries after a change -/

theorem get?_eq_some_iff {entry : FileEntry} :
    tree.get? place = some entry <->
      exists number, tree.number? place = some number ∧ tree.node? number = some entry := by
  unfold get?
  exact Option.bind_eq_some_iff

theorem isFolder_iff :
    tree.isFolder place = true <-> exists entry, tree.get? place = some entry ∧
      entry.node = .folder := by
  unfold isFolder
  cases tree.get? place with
  | none => simp
  | some entry => simp

@[simp] theorem number?_store (node : FileNode) :
    (tree.store number node).number? place = tree.number? place := rfl

theorem node?_store (node : FileNode) :
    (tree.store number node).node? m =
      if number = m then
        (tree.node? number).map (fun entry => { entry with node, modified := tree.clock })
      else tree.node? m := by
  unfold node? store
  rw [Std.ExtTreeMap.getElem?_modify]
  simp only [Std.LawfulEqCmp.compare_eq_iff_eq]

@[simp] theorem number?_touch : (tree.touch folder).number? place = tree.number? place := by
  unfold touch
  split <;> rfl

theorem node?_touch :
    (tree.touch folder).node? m =
      if tree.number? folder = some m then
        (tree.node? m).map (fun entry => { entry with modified := tree.clock })
      else tree.node? m := by
  unfold touch
  split
  · next number found =>
      unfold node?
      rw [Std.ExtTreeMap.getElem?_modify]
      simp only [Std.LawfulEqCmp.compare_eq_iff_eq, found, Option.some.injEq]
      split
      · next same => rw [same]
      · rfl
  · next missing => simp [missing]

theorem clock_touch : (tree.touch folder).clock = tree.clock := by
  unfold touch
  split <;> rfl

theorem current_touch : (tree.touch folder).current = tree.current := by
  unfold touch
  split <;> rfl

theorem nextNumber_touch : (tree.touch folder).nextNumber = tree.nextNumber := by
  unfold touch
  split <;> rfl

theorem number?_create (node : FileNode) :
    (tree.create place node).number? other =
      if place = other then some tree.nextNumber else tree.number? other := by
  have inserted : (tree.create place node).number? other =
      ((tree.touch place.dropLast).numbers.insert place
        (tree.touch place.dropLast).nextNumber)[other]? := rfl
  rw [inserted, Std.ExtTreeMap.getElem?_insert, nextNumber_touch]
  simp only [Std.LawfulEqCmp.compare_eq_iff_eq]
  split
  · rfl
  · exact number?_touch

theorem node?_create (node : FileNode) :
    (tree.create place node).node? m =
      if tree.nextNumber = m then some ⟨node, tree.clock, tree.newPermissions node⟩
      else (tree.touch place.dropLast).node? m := by
  have inserted : (tree.create place node).node? m =
      ((tree.touch place.dropLast).nodes.insert (tree.touch place.dropLast).nextNumber
        ⟨node, (tree.touch place.dropLast).clock, tree.newPermissions node⟩)[m]? := rfl
  rw [inserted, Std.ExtTreeMap.getElem?_insert, nextNumber_touch, clock_touch]
  simp only [Std.LawfulEqCmp.compare_eq_iff_eq]
  rfl

theorem nextNumber_create (node : FileNode) :
    (tree.create place node).nextNumber = tree.nextNumber + 1 :=
  congrArg (· + 1) nextNumber_touch

/-! ## Proper trees -/

/-- What holds of the trees that operations make: numbers are given out in order, what has a
number can be looked up, whatever stands somewhere stands in a folder, and nothing is as late as
the clock. -/
structure Proper (tree : FileTree) : Prop where
  number_lt : forall place number, tree.number? place = some number -> number < tree.nextNumber
  exists_node : forall place number, tree.number? place = some number ->
    exists entry, tree.node? number = some entry
  isFolder_dropLast : forall place entry, tree.get? place = some entry ->
    place = [] ∨ tree.isFolder place.dropLast = true
  before_clock : forall number entry, tree.node? number = some entry ->
    entry.modified.total < tree.clock.total

/-- What is left of this if files may be as late as the clock, or later: they may have been given
any time from outside. -/
structure Formed (tree : FileTree) : Prop where
  number_lt : forall place number, tree.number? place = some number -> number < tree.nextNumber
  exists_node : forall place number, tree.number? place = some number ->
    exists entry, tree.node? number = some entry
  isFolder_dropLast : forall place entry, tree.get? place = some entry ->
    place = [] ∨ tree.isFolder place.dropLast = true

theorem Proper.formed (proper : tree.Proper) : tree.Formed :=
  ⟨proper.number_lt, proper.exists_node, proper.isFolder_dropLast⟩

/-- Where nothing stands there is no number. -/
theorem Formed.number?_eq_none (formed : tree.Formed) (free : tree.get? place = none) :
    tree.number? place = none := by
  cases numbered : tree.number? place with
  | none => rfl
  | some number =>
    rcases formed.exists_node place number numbered with ⟨entry, known⟩
    rw [get?_eq_some_iff.mpr ⟨number, numbered, known⟩] at free
    cases free

/-- Whether a tree is well-formed can be seen from what has a number. -/
theorem formed_iff :
    tree.Formed <-> forall named, named ∈ tree.numbers.toList ->
      named.2 < tree.nextNumber ∧ (tree.node? named.2).isSome = true ∧
        (named.1 = [] ∨ tree.isFolder named.1.dropLast = true) := by
  have listed : forall place number, (place, number) ∈ tree.numbers.toList <->
      tree.number? place = some number :=
    fun _ _ => Std.ExtTreeMap.mem_toList_iff_getElem?_eq_some
  constructor
  · rintro formed ⟨place, number⟩ member
    have numbered := (listed place number).mp member
    rcases formed.exists_node place number numbered with ⟨entry, known⟩
    exact ⟨formed.number_lt place number numbered, Option.isSome_iff_exists.mpr ⟨entry, known⟩,
      formed.isFolder_dropLast place entry (get?_eq_some_iff.mpr ⟨number, numbered, known⟩)⟩
  · intro all
    have checked := fun place number numbered => all (place, number) ((listed _ _).mpr numbered)
    refine ⟨fun place number numbered => (checked place number numbered).1,
      fun place number numbered =>
        Option.isSome_iff_exists.mp (checked place number numbered).2.1, ?_⟩
    intro place entry found
    rcases get?_eq_some_iff.mp found with ⟨number, numbered, _⟩
    exact (checked place number numbered).2.2

instance (tree : FileTree) : Decidable tree.Formed :=
  decidable_of_iff' _ formed_iff

/-- What stands at a location stands nowhere else. -/
def Sole (tree : FileTree) (place : Location) : Prop :=
  forall number other, tree.number? place = some number -> tree.number? other = some number ->
    other = place

/-- A location is left as it is; only a folder may get a later time. -/
structure Stays (tree after : FileTree) (place : Location) : Prop where
  none_of_none : tree.get? place = none -> after.get? place = none
  exists_keeps : forall old, tree.get? place = some old ->
    exists new, after.get? place = some new ∧ old.Keeps new

namespace Stays

theorem keeps_of_some (stays : Stays tree after place) {new : FileEntry}
    (found : after.get? place = some new) :
    exists old, tree.get? place = some old ∧ old.Keeps new := by
  cases before : tree.get? place with
  | none =>
    rw [stays.none_of_none before] at found
    cases found
  | some old =>
    rcases stays.exists_keeps old before with ⟨same, foundSame, keeps⟩
    rw [found] at foundSame
    cases foundSame
    exact ⟨old, rfl, keeps⟩

theorem isFolder (stays : Stays tree after place) (folder : tree.isFolder place = true) :
    after.isFolder place = true := by
  rcases isFolder_iff.mp folder with ⟨old, found, node⟩
  rcases stays.exists_keeps old found with ⟨new, foundNew, keeps⟩
  exact isFolder_iff.mpr ⟨new, foundNew, keeps.node_eq.trans node⟩

/-- What is no folder stays exactly as it is. -/
theorem eq_of_not_folder (stays : Stays tree after place) {old : FileEntry}
    (found : tree.get? place = some old) (notFolder : old.node ≠ .folder) :
    after.get? place = some old := by
  rcases stays.exists_keeps old found with ⟨new, foundNew, keeps⟩
  rw [foundNew, keeps.eq_of_not_folder notFolder]

end Stays

/-- Giving a folder a new time changes nothing else. -/
theorem stays_touch (proper : tree.Proper) (isFolder : forall entry,
    tree.get? folder = some entry -> entry.node = .folder) (place : Location) :
    Stays tree (tree.touch folder) place := by
  have lookup : (tree.touch folder).get? place =
      (tree.number? place).bind (tree.touch folder).node? := by
    rw [get?, number?_touch]
  constructor
  · intro missing
    rw [lookup]
    cases found : tree.number? place with
    | none => rfl
    | some number =>
      have unknown : tree.node? number = none := by simpa [get?, found] using missing
      simp [node?_touch, unknown]
  · intro old found
    rcases get?_eq_some_iff.mp found with ⟨number, numbered, known⟩
    rw [lookup, numbered, Option.bind_some, node?_touch, known]
    split
    · next touched =>
        refine ⟨{ old with modified := tree.clock }, rfl, rfl, ?_, ?_⟩
        · exact Int.le_of_lt (proper.before_clock number old known)
        · intro notFolder
          exact absurd (isFolder old (get?_eq_some_iff.mpr ⟨number, touched, known⟩)) notFolder
    · exact ⟨old, rfl, FileEntry.Keeps.refl old⟩

theorem get?_create_self (node : FileNode) :
    (tree.create place node).get? place =
      some ⟨node, tree.clock, tree.newPermissions node⟩ := by
  rw [get?, number?_create, if_pos rfl, Option.bind_some, node?_create, if_pos rfl]

theorem get?_create_of_ne (proper : tree.Proper) (node : FileNode) (different : other ≠ place) :
    (tree.create place node).get? other = (tree.touch place.dropLast).get? other := by
  rw [get?, get?, number?_create, if_neg (Ne.symm different), number?_touch]
  cases found : tree.number? other with
  | none => rfl
  | some number =>
    have less := proper.number_lt other number found
    rw [Option.bind_some, Option.bind_some, node?_create, if_neg (Nat.ne_of_gt less)]

/-! ## The changes that a run makes -/

/-- Files and folders, as opposed to links, channels and devices. -/
def IsPlain (node : FileNode) : Prop :=
  node = .folder ∨ exists content, node = .file content

/-- Something new is put at a free location in a folder. -/
inductive Adds : Location -> FileTree -> FileTree -> Prop
  | create {tree : FileTree} {place : Location} {node : FileNode} (free : tree.get? place = none)
      (inFolder : place = [] ∨ tree.isFolder place.dropLast = true) (plain : IsPlain node) :
      Adds place tree (tree.create place node)

/-- A file is rewritten where it stands. -/
inductive Rewrites : Location -> FileTree -> FileTree -> Prop
  | store {tree : FileTree} {place : Location} {number : Nat} {content old : ByteArray}
      {time : Timestamp} {permissions : Nat} (numbered : tree.number? place = some number)
      (known : tree.node? number = some ⟨.file old, time, permissions⟩) :
      Rewrites place tree (tree.store number (.file content))

/-- One of the two changes at a location. -/
def Change (place : Location) (tree after : FileTree) : Prop :=
  Adds place tree after ∨ Rewrites place tree after

namespace Adds

/-- What is added is there, with the time of the clock. -/
theorem exists_entry (adds : Adds place tree after) :
    exists entry, after.get? place = some entry ∧ entry.modified = tree.clock ∧
      IsPlain entry.node := by
  cases adds with
  | create free inFolder plain => exact ⟨_, get?_create_self _, rfl, plain⟩

/-- Every other location is left as it is. -/
theorem stays (proper : tree.Proper) (adds : Adds place tree after) (different : other ≠ place) :
    Stays tree after other := by
  cases adds with
  | @create _ _ node free inFolder plain =>
    have isFolder : forall entry, tree.get? place.dropLast = some entry ->
        entry.node = .folder := by
      intro entry found
      rcases inFolder with atRoot | folder
      · rw [atRoot] at free found
        rw [List.dropLast_nil, free] at found
        cases found
      · rcases isFolder_iff.mp folder with ⟨same, foundSame, node⟩
        rw [found] at foundSame
        cases foundSame
        exact node
    have touched := stays_touch proper isFolder other
    have same := get?_create_of_ne proper node different
    exact ⟨fun missing => same.trans (touched.none_of_none missing),
      fun old found => by rw [same]; exact touched.exists_keeps old found⟩

theorem clock_eq (adds : Adds place tree after) : after.clock = tree.clock.next := by
  cases adds with
  | create => exact congrArg Timestamp.next clock_touch

theorem current_eq (adds : Adds place tree after) : after.current = tree.current := by
  cases adds with
  | create => exact current_touch

theorem free (adds : Adds place tree after) : tree.get? place = none := by
  cases adds with
  | create free => exact free

/-- Adding keeps a tree well-formed, as folders stay folders. -/
theorem formed (before : tree.Formed) (adds : Adds place tree after)
    (folders : forall other, tree.isFolder other = true -> after.isFolder other = true) :
    after.Formed := by
  cases adds with
  | @create _ _ node free inFolder plain =>
    refine ⟨?_, ?_, ?_⟩
    · intro other number found
      rw [nextNumber_create]
      rw [number?_create] at found
      split at found
      · cases found
        omega
      · have less := before.number_lt other number found
        omega
    · intro other number found
      rw [node?_create]
      split
      · exact ⟨_, rfl⟩
      · next notNext =>
          rw [number?_create] at found
          split at found
          · cases found
            exact absurd rfl notNext
          · rcases before.exists_node other number found with ⟨entry, known⟩
            rw [node?_touch, known]
            split
            · exact ⟨_, rfl⟩
            · exact ⟨_, rfl⟩
    · intro other entry found
      refine Or.imp_right (folders _) ?_
      rcases get?_eq_some_iff.mp found with ⟨number, numbered, _⟩
      rw [number?_create] at numbered
      split at numbered
      · next same => exact same ▸ inFolder
      · rcases before.exists_node other number numbered with ⟨old, known⟩
        exact before.isFolder_dropLast other old (get?_eq_some_iff.mpr ⟨number, numbered, known⟩)

/-- Adding keeps a tree proper, as folders stay folders. -/
theorem proper (before : tree.Proper) (adds : Adds place tree after)
    (folders : forall other, tree.isFolder other = true -> after.isFolder other = true) :
    after.Proper := by
  have clock := adds.clock_eq
  have later := tree.clock.total_next
  have formed := adds.formed before.formed folders
  refine ⟨formed.number_lt, formed.exists_node, formed.isFolder_dropLast, ?_⟩
  cases adds with
  | @create _ _ node free _ plain =>
    intro number entry known
    rw [clock, later]
    rw [node?_create] at known
    split at known
    · cases known
      exact Int.lt_succ _
    · rw [node?_touch] at known
      split at known
      · cases old : tree.node? number with
        | none =>
          rw [old] at known
          cases known
        | some entry =>
          rw [old] at known
          cases known
          exact Int.lt_succ _
      · have earlier := before.before_clock number entry known
        omega

theorem sole (formed : tree.Formed) (adds : Adds place tree after) (sole : tree.Sole other) :
    after.Sole other := by
  cases adds with
  | create free inFolder plain =>
    intro number another found shared
    rw [number?_create] at found shared
    split at found
    · next same =>
        cases found
        split at shared
        · next sameAnother => rw [← same, ← sameAnother]
        · have less := formed.number_lt another _ shared
          omega
    · split at shared
      · cases shared
        have less := formed.number_lt other _ found
        omega
      · exact sole number another found shared

end Adds

namespace Rewrites

/-- What is rewritten is a file, with the time of the clock. -/
theorem exists_entry (rewrites : Rewrites place tree after) :
    exists entry, after.get? place = some entry ∧ entry.modified = tree.clock ∧
      IsPlain entry.node := by
  cases rewrites with
  | @store _ _ number content old time permissions numbered known =>
    have stored : (tree.store number (.file content)).node? number =
        some ⟨.file content, tree.clock, permissions⟩ := by
      rw [node?_store, if_pos rfl, known]
      rfl
    exact ⟨_, get?_eq_some_iff.mpr ⟨number, numbered, stored⟩, rfl, Or.inr ⟨content, rfl⟩⟩

/-- Every location where another file stands is left as it is. -/
theorem stays (rewrites : Rewrites place tree after)
    (different : tree.number? other ≠ tree.number? place) : Stays tree after other := by
  cases rewrites with
  | @store _ _ number content old time permissions numbered known =>
    have same : (tree.store number (.file content)).get? other = tree.get? other := by
      rw [get?, get?, number?_store]
      cases found : tree.number? other with
      | none => rfl
      | some m =>
        have apart : number ≠ m := by
          rintro rfl
          exact different (found.trans numbered.symm)
        rw [Option.bind_some, Option.bind_some, node?_store, if_neg apart]
    exact ⟨fun missing => same.trans missing,
      fun entry found => ⟨entry, same.trans found, FileEntry.Keeps.refl entry⟩⟩

theorem clock_eq (rewrites : Rewrites place tree after) : after.clock = tree.clock.next := by
  cases rewrites with
  | store => rfl

theorem current_eq (rewrites : Rewrites place tree after) : after.current = tree.current := by
  cases rewrites with
  | store => rfl

/-- What has a number after rewriting had it before; its time may be that of the clock. -/
theorem exists_old (rewrites : Rewrites place tree after) {entry : FileEntry}
    (found : after.node? m = some entry) :
    exists old, tree.node? m = some old ∧
      (entry.modified = tree.clock ∨ entry.modified = old.modified) := by
  cases rewrites with
  | @store _ _ number content old time permissions numbered known =>
    rw [node?_store] at found
    split at found
    · next same =>
        rw [known] at found
        cases found
        exact ⟨_, same ▸ known, Or.inl rfl⟩
    · exact ⟨entry, found, Or.inr rfl⟩

/-- Rewriting keeps a tree well-formed, as folders stay folders. -/
theorem formed (before : tree.Formed) (rewrites : Rewrites place tree after)
    (folders : forall other, tree.isFolder other = true -> after.isFolder other = true) :
    after.Formed := by
  have inFolder : forall other entry, after.get? other = some entry ->
      other = [] ∨ tree.isFolder other.dropLast = true := by
    intro other entry found
    rcases get?_eq_some_iff.mp found with ⟨m, numberedOther, knownOther⟩
    rcases rewrites.exists_old knownOther with ⟨entryBefore, knownBefore, _⟩
    have foundBefore : tree.get? other = some entryBefore := by
      cases rewrites with
      | store => exact get?_eq_some_iff.mpr ⟨m, numberedOther, knownBefore⟩
    exact before.isFolder_dropLast other entryBefore foundBefore
  refine ⟨?_, ?_, fun other entry found => (inFolder other entry found).imp_right (folders _)⟩
  · cases rewrites with
    | store => exact before.number_lt
  · cases rewrites with
    | @store _ _ number content old time permissions numbered known =>
      intro other m found
      rw [node?_store]
      split
      · rw [known]
        exact ⟨_, rfl⟩
      · exact before.exists_node other m found

/-- Rewriting keeps a tree proper, as folders stay folders. -/
theorem proper (before : tree.Proper) (rewrites : Rewrites place tree after)
    (folders : forall other, tree.isFolder other = true -> after.isFolder other = true) :
    after.Proper := by
  have later := tree.clock.total_next
  have formed := rewrites.formed before.formed folders
  refine ⟨formed.number_lt, formed.exists_node, formed.isFolder_dropLast, ?_⟩
  intro m entry found
  rcases rewrites.exists_old found with ⟨entryBefore, knownBefore, time⟩
  have earlier := before.before_clock m entryBefore knownBefore
  rw [rewrites.clock_eq, later]
  rcases time with now | asBefore
  · rw [now]
    exact Int.lt_succ _
  · rw [asBefore]
    omega

end Rewrites

namespace Change

theorem clock_eq (change : Change place tree after) : after.clock = tree.clock.next := by
  rcases change with adds | rewrites
  · exact adds.clock_eq
  · exact rewrites.clock_eq

theorem current_eq (change : Change place tree after) : after.current = tree.current := by
  rcases change with adds | rewrites
  · exact adds.current_eq
  · exact rewrites.current_eq

/-- A location other than the changed one is left as it is if its file stands nowhere else. -/
theorem stays (proper : tree.Proper) (change : Change place tree after) (sole : tree.Sole other)
    (different : other ≠ place) : Stays tree after other := by
  rcases change with adds | rewrites
  · exact adds.stays proper different
  · apply rewrites.stays
    intro same
    cases rewrites with
    | store numbered known =>
      exact different (sole _ _ (same.trans numbered) numbered).symm

/-- Wherever something stands after a change, it stood there before or is new. -/
theorem keeps_or_new (proper : tree.Proper) (change : Change place tree after) {new : FileEntry}
    (found : after.get? other = some new) :
    (exists old, tree.get? other = some old ∧ old.Keeps new) ∨
      new.modified = tree.clock ∧ IsPlain new.node := by
  rcases change with adds | rewrites
  · by_cases same : other = place
    · rcases adds.exists_entry with ⟨entry, foundEntry, time, plain⟩
      rw [same, foundEntry] at found
      cases found
      exact Or.inr ⟨time, plain⟩
    · exact Or.inl ((adds.stays proper same).keeps_of_some found)
  · by_cases same : tree.number? other = tree.number? place
    · rcases rewrites.exists_entry with ⟨entry, foundEntry, time, plain⟩
      have shared : after.get? other = after.get? place := by
        cases rewrites with
        | store => simp only [get?, number?_store, same]
      rw [shared, foundEntry] at found
      cases found
      exact Or.inr ⟨time, plain⟩
    · exact Or.inl ((rewrites.stays same).keeps_of_some found)

/-- Folders stay folders. -/
theorem isFolder (proper : tree.Proper) (change : Change place tree after)
    (folder : tree.isFolder other = true) : after.isFolder other = true := by
  rcases isFolder_iff.mp folder with ⟨old, found, node⟩
  rcases change with adds | rewrites
  · have different : other ≠ place := by
      rintro rfl
      rw [adds.free] at found
      cases found
    exact (adds.stays proper different).isFolder folder
  · refine (rewrites.stays ?_).isFolder folder
    intro same
    cases rewrites with
    | store numbered known =>
      rw [get?, same, numbered, Option.bind_some, known] at found
      cases found
      cases node

/-- No link comes from a change. -/
theorem linkAt?_eq_none (proper : tree.Proper) (change : Change place tree after)
    (noLink : tree.linkAt? other = none) : after.linkAt? other = none := by
  unfold linkAt?
  split
  · next target time permissions found =>
      rcases change.keeps_or_new proper found with ⟨old, before, keeps⟩ | ⟨_, plain⟩
      · rcases old with ⟨node, oldTime, oldPermissions⟩
        have isLink : node = .link target := keeps.node_eq.symm
        rw [linkAt?, before, isLink] at noLink
        cases noLink
      · rcases plain with isFolder | ⟨content, isFile⟩
        · cases isFolder
        · cases isFile
  · rfl

/-- Changes keep a tree proper. -/
theorem proper (before : tree.Proper) (change : Change place tree after) : after.Proper := by
  have folders : forall other, tree.isFolder other = true -> after.isFolder other = true :=
    fun other => change.isFolder before
  rcases change with adds | rewrites
  · exact adds.proper before folders
  · exact rewrites.proper before folders

/-- What stood nowhere else still does. -/
theorem sole (formed : tree.Formed) (change : Change place tree after) (sole : tree.Sole other) :
    after.Sole other := by
  rcases change with adds | rewrites
  · exact adds.sole formed sole
  · cases rewrites with
    | store => exact sole

end Change

/-! ## Trees of empty folders -/

section
variable {κ β : Type} [Ord κ] [Std.TransOrd κ] [Std.LawfulEqOrd κ] (key : Nat -> κ)
  (value : Nat -> β) {count : Nat}

theorem exists_of_getElem?_insertAll {wanted : κ} {found : β}
    (known : ((List.range count).foldl (fun map n => map.insert (key n) (value n))
      (∅ : Std.ExtTreeMap κ β))[wanted]? = some found) :
    exists n, n < count ∧ key n = wanted ∧ value n = found := by
  induction count with
  | zero => simp at known
  | succ count inductionHypothesis =>
    rw [List.range_succ, List.foldl_append, List.foldl_cons, List.foldl_nil,
      Std.ExtTreeMap.getElem?_insert] at known
    split at known
    · next same =>
        exact ⟨count, Nat.lt_succ_self count, Std.LawfulEqCmp.compare_eq_iff_eq.mp same,
          Option.some.inj known⟩
    · rcases inductionHypothesis known with ⟨n, less, same⟩
      exact ⟨n, Nat.lt_succ_of_lt less, same⟩

theorem getElem?_insertAll_of_lt {n : Nat} (less : n < count) :
    exists found, ((List.range count).foldl (fun map n => map.insert (key n) (value n))
      (∅ : Std.ExtTreeMap κ β))[key n]? = some found := by
  induction count with
  | zero => omega
  | succ count inductionHypothesis =>
    rw [List.range_succ, List.foldl_append, List.foldl_cons, List.foldl_nil,
      Std.ExtTreeMap.getElem?_insert]
    split
    · exact ⟨value count, rfl⟩
    · next different =>
        apply inductionHypothesis
        have notLast : n ≠ count := by
          rintro rfl
          exact different (Std.LawfulEqCmp.compare_eq_iff_eq.mpr rfl)
        omega

end

section
variable {clock : Timestamp}

theorem node?_rooted {entry : FileEntry} (known : (rooted place clock).node? number = some entry) :
    entry = ⟨.folder, clock, 0o755⟩ := by
  rcases exists_of_getElem?_insertAll (fun n => n) (fun _ => FileEntry.mk .folder clock 0o755)
    known with ⟨n, _, _, same⟩
  exact same.symm

theorem exists_node?_rooted (less : number < place.length + 1) :
    exists entry, (rooted place clock).node? number = some entry :=
  getElem?_insertAll_of_lt (fun n => n) (fun _ => FileEntry.mk .folder clock 0o755) less

theorem number?_rooted (known : (rooted place clock).number? other = some number) :
    number < place.length + 1 ∧ other = place.take number := by
  rcases exists_of_getElem?_insertAll (fun n => place.take n) (fun n => n) known with
    ⟨n, less, same, rfl⟩
  exact ⟨less, same.symm⟩

/-- Each location that the current folder lies in is a folder. -/
theorem isFolder_rooted {count : Nat} (inside : count < place.length + 1) :
    (rooted place clock).isFolder (place.take count) = true := by
  have numbered : exists number, (rooted place clock).number? (place.take count) = some number :=
    getElem?_insertAll_of_lt (fun n => place.take n) (fun n => n) inside
  rcases numbered with ⟨number, known⟩
  rcases exists_node?_rooted (number?_rooted known).1 with ⟨entry, node⟩
  exact isFolder_iff.mpr
    ⟨entry, get?_eq_some_iff.mpr ⟨number, known, node⟩, by rw [node?_rooted node]⟩

/-- The trees that everything starts from are proper. -/
theorem proper_rooted (place : Location) (clock : Timestamp) : (rooted place clock).Proper where
  number_lt := fun _ _ known => (number?_rooted known).1
  exists_node := fun _ _ known => exists_node?_rooted (number?_rooted known).1
  isFolder_dropLast := by
    intro other entry found
    rcases get?_eq_some_iff.mp found with ⟨number, known, _⟩
    rcases number?_rooted known with ⟨less, rfl⟩
    right
    rw [List.dropLast_eq_take, List.take_take]
    exact isFolder_rooted (by omega)
  before_clock := by
    intro number entry known
    rw [node?_rooted known]
    change clock.total < clock.next.total
    rw [Timestamp.total_next]
    omega

theorem linkAt?_rooted : (rooted place clock).linkAt? other = none := by
  unfold linkAt?
  cases found : (rooted place clock).get? other with
  | none => rfl
  | some entry =>
    rcases get?_eq_some_iff.mp found with ⟨number, _, known⟩
    rw [node?_rooted known]

end

/-! ## Many changes -/

/-- A tree after any number of changes. -/
def Grows : FileTree -> FileTree -> Prop :=
  Relation.ReflTransGen (fun tree after => exists place, Change place tree after)

/-- A tree after any number of things were added. -/
def Extends : FileTree -> FileTree -> Prop :=
  Relation.ReflTransGen (fun tree after => exists place, Adds place tree after)

namespace Grows

theorem of_change (change : Change place tree after) : Grows tree after :=
  Relation.ReflTransGen.single ⟨place, change⟩

theorem current_eq (grows : Grows tree after) : after.current = tree.current := by
  induction grows with
  | refl => rfl
  | tail _ step inductionHypothesis =>
    rcases step with ⟨place, change⟩
    rw [change.current_eq, inductionHypothesis]

theorem clock_le (grows : Grows tree after) : tree.clock.total ≤ after.clock.total := by
  induction grows with
  | refl => exact Int.le_refl _
  | tail _ step inductionHypothesis =>
    rcases step with ⟨place, change⟩
    rw [change.clock_eq, Timestamp.total_next]
    omega

theorem proper (before : tree.Proper) (grows : Grows tree after) : after.Proper := by
  induction grows with
  | refl => exact before
  | tail _ step inductionHypothesis =>
    rcases step with ⟨place, change⟩
    exact change.proper inductionHypothesis

theorem isFolder (proper : tree.Proper) (folder : tree.isFolder place = true)
    (grows : Grows tree after) : after.isFolder place = true := by
  induction grows with
  | refl => exact folder
  | tail before step inductionHypothesis =>
    rcases step with ⟨changed, change⟩
    exact change.isFolder (Grows.proper proper before) inductionHypothesis

theorem linkAt?_eq_none (proper : tree.Proper) (noLink : tree.linkAt? place = none)
    (grows : Grows tree after) : after.linkAt? place = none := by
  induction grows with
  | refl => exact noLink
  | tail before step inductionHypothesis =>
    rcases step with ⟨changed, change⟩
    exact change.linkAt?_eq_none (Grows.proper proper before) inductionHypothesis

/-- Wherever something stands in the end, it stood there at first or is newer than all that
did. -/
theorem keeps_or_new (proper : tree.Proper) (grows : Grows tree after) {new : FileEntry}
    (found : after.get? place = some new) :
    (exists old, tree.get? place = some old ∧ old.Keeps new) ∨
      tree.clock.total ≤ new.modified.total ∧ IsPlain new.node := by
  induction grows generalizing new with
  | refl => exact Or.inl ⟨new, found, FileEntry.Keeps.refl new⟩
  | tail before step inductionHypothesis =>
    rcases step with ⟨changed, change⟩
    rcases change.keeps_or_new (Grows.proper proper before) found with
      ⟨middle, foundMiddle, late⟩ | ⟨time, plain⟩
    · rcases inductionHypothesis foundMiddle with ⟨old, foundOld, early⟩ | ⟨time, plain⟩
      · exact Or.inl ⟨old, foundOld, early.trans late⟩
      · exact Or.inr ⟨Int.le_trans time late.modified_le, late.node_eq ▸ plain⟩
    · exact Or.inr ⟨time ▸ Grows.clock_le before, plain⟩

end Grows

namespace Extends

theorem of_adds (adds : Adds place tree after) : Extends tree after :=
  Relation.ReflTransGen.single ⟨place, adds⟩

theorem grows (extension : Extends tree after) : Grows tree after := by
  induction extension with
  | refl => exact Relation.ReflTransGen.refl
  | tail _ step inductionHypothesis =>
    rcases step with ⟨place, adds⟩
    exact inductionHypothesis.tail ⟨place, Or.inl adds⟩

/-- Adding keeps what stands somewhere. -/
theorem exists_keeps (proper : tree.Proper) (extension : Extends tree after) {old : FileEntry}
    (found : tree.get? place = some old) :
    exists new, after.get? place = some new ∧ old.Keeps new := by
  induction extension with
  | refl => exact ⟨old, found, FileEntry.Keeps.refl old⟩
  | tail before step inductionHypothesis =>
    rcases step with ⟨added, adds⟩
    rcases inductionHypothesis with ⟨middle, foundMiddle, early⟩
    have different : place ≠ added := by
      rintro rfl
      rw [adds.free] at foundMiddle
      cases foundMiddle
    have properMiddle := Grows.proper proper (grows before)
    rcases (adds.stays properMiddle different).exists_keeps middle foundMiddle with
      ⟨new, foundNew, late⟩
    exact ⟨new, foundNew, early.trans late⟩

/-- What is no folder stays exactly as it is. -/
theorem eq_of_not_folder (proper : tree.Proper) (extension : Extends tree after)
    {old : FileEntry} (found : tree.get? place = some old) (notFolder : old.node ≠ .folder) :
    after.get? place = some old := by
  rcases extension.exists_keeps proper found with ⟨new, foundNew, keeps⟩
  rw [foundNew, keeps.eq_of_not_folder notFolder]

end Extends

/-! ## Removal -/

/-- Whatever stands at a location afterwards stood there before. -/
def Wanes (tree after : FileTree) (place : Location) : Prop :=
  forall new, after.get? place = some new -> exists old, tree.get? place = some old ∧ old.Keeps new

theorem Wanes.refl (tree : FileTree) (place : Location) : Wanes tree tree place :=
  fun new found => ⟨new, found, FileEntry.Keeps.refl new⟩

theorem Stays.wanes (stays : Stays tree after place) : Wanes tree after place :=
  fun _ found => stays.keeps_of_some found

/-- The tree without what stands at a location or below it. -/
def without (tree : FileTree) (place : Location) : FileTree :=
  { tree.touch place.dropLast with
    numbers := (tree.touch place.dropLast).numbers.filter (fun other _ => !isWithin place other)
    clock := (tree.touch place.dropLast).clock.next }

theorem number?_without :
    (tree.without place).number? other =
      if isWithin place other then none else tree.number? other := by
  have filtered : (tree.without place).number? other =
      ((tree.touch place.dropLast).numbers.filter (fun other _ => !isWithin place other))[other]? :=
    rfl
  have same : (tree.touch place.dropLast).numbers[other]? = tree.number? other := number?_touch
  rw [filtered, Std.ExtTreeMap.getElem?_filter', same]
  cases tree.number? other with
  | none => simp
  | some number => cases inside : isWithin place other <;> simp [Option.filter]

theorem node?_without : (tree.without place).node? m = (tree.touch place.dropLast).node? m := rfl

theorem get?_without :
    (tree.without place).get? other =
      if isWithin place other then none else (tree.touch place.dropLast).get? other := by
  rw [get?, number?_without]
  split
  · rfl
  · rw [get?, number?_touch]
    rfl

theorem isWithin_iff {outer inner : Location} :
    isWithin outer inner = true <-> outer <+: inner := by
  unfold isWithin
  exact List.isPrefixOf_iff_prefix

/-- The folder of what stands somewhere is a folder. -/
theorem Proper.folder_of_dropLast (proper : tree.Proper) {entry : FileEntry}
    (found : tree.get? place = some entry) (notRoot : place ≠ []) {folderEntry : FileEntry}
    (foundFolder : tree.get? place.dropLast = some folderEntry) : folderEntry.node = .folder := by
  rcases proper.isFolder_dropLast place entry found with atRoot | isFolder
  · exact absurd atRoot notRoot
  · rcases isFolder_iff.mp isFolder with ⟨same, foundSame, node⟩
    rw [foundFolder] at foundSame
    cases foundSame
    exact node

/-- Removal makes nothing new. -/
theorem wanes_without (proper : tree.Proper) {entry : FileEntry}
    (found : tree.get? place = some entry) (other : Location) :
    Wanes tree (tree.without place) other := by
  intro new foundNew
  rw [get?_without] at foundNew
  split at foundNew
  · cases foundNew
  · next outside =>
      have notRoot : place ≠ [] := by
        rintro rfl
        exact outside (isWithin_iff.mpr List.nil_prefix)
      exact (stays_touch proper (fun _ => proper.folder_of_dropLast found notRoot)
        other).keeps_of_some foundNew

/-- Removal keeps a tree proper. -/
theorem proper_without (proper : tree.Proper) {entry : FileEntry}
    (found : tree.get? place = some entry) : (tree.without place).Proper := by
  have clock : (tree.without place).clock = tree.clock.next := congrArg Timestamp.next clock_touch
  have next : (tree.without place).nextNumber = tree.nextNumber := nextNumber_touch
  have later := tree.clock.total_next
  refine ⟨?_, ?_, ?_, ?_⟩
  · intro other number numbered
    rw [number?_without] at numbered
    split at numbered
    · cases numbered
    · rw [next]
      exact proper.number_lt other number numbered
  · intro other number numbered
    rw [number?_without] at numbered
    split at numbered
    · cases numbered
    · rcases proper.exists_node other number numbered with ⟨known, foundKnown⟩
      rw [node?_without, node?_touch, foundKnown]
      split
      · exact ⟨_, rfl⟩
      · exact ⟨_, rfl⟩
  · intro other new foundNew
    rcases wanes_without proper found other new foundNew with ⟨old, foundOld, _⟩
    refine (proper.isFolder_dropLast other old foundOld).imp_right ?_
    intro isFolder
    rw [get?_without] at foundNew
    split at foundNew
    · cases foundNew
    · next outside =>
        have notRoot : place ≠ [] := by
          rintro rfl
          exact outside (isWithin_iff.mpr List.nil_prefix)
        have outsideFolder : ¬ isWithin place other.dropLast = true := by
          intro inside
          exact outside (isWithin_iff.mpr
            ((isWithin_iff.mp inside).trans (List.dropLast_prefix other)))
        have stays := stays_touch proper (fun _ => proper.folder_of_dropLast found notRoot)
          other.dropLast
        rcases isFolder_iff.mp (stays.isFolder isFolder) with ⟨folder, foundFolder, node⟩
        refine isFolder_iff.mpr ⟨folder, ?_, node⟩
        rw [get?_without, if_neg outsideFolder]
        exact foundFolder
  · intro number new known
    rw [clock, later]
    rw [node?_without, node?_touch] at known
    split at known
    · cases old : tree.node? number with
      | none =>
        rw [old] at known
        cases known
      | some entry =>
        rw [old] at known
        cases known
        exact Int.lt_succ _
    · have earlier := proper.before_clock number new known
      omega

theorem sole_without (sole : tree.Sole other) : (tree.without place).Sole other := by
  intro number another found shared
  rw [number?_without] at found shared
  split at found
  · cases found
  · split at shared
    · cases shared
    · exact sole number another found shared

end FileTree
end BaseLanguage
