import BaseLanguage.Proofs.Path
import BaseLanguage.Proofs.Storage.Changes
import BaseLanguage.Proofs.Stepwise

namespace BaseLanguage

/-!
# Where paths lead

A path that goes through no link leads to one location only, whatever stands in the tree: its
names say which, for each of them goes down by one, up by one, or nowhere.  Whether it gets there
depends on the folders on its way, of which there are never fewer after a change.

Paths through links are followed here as far as is needed to know that a file which is written
for the first time lies in a folder.
-/

namespace FileTree

variable {tree after : FileTree} {place folder : Location} {path : Path}

/-! ## Names -/

/-- Where a name leads from a folder. -/
def onward (folder : Location) (name : String) : Location :=
  if name = "." then folder
  else if name = ".." then folder.dropLast
  else folder ++ [name]

/-- A name is no longer than a name may be, if it names something. -/
def IsUsable (name : String) : Prop :=
  name = "." ∨ name = ".." ∨ name.utf8ByteSize ≤ longestName

theorem step_eq_ok_iff {name : String} :
    tree.step folder name = .ok place <->
      tree.isFolder folder = true ∧ IsUsable name ∧ place = onward folder name := by
  unfold step onward IsUsable
  cases tree.isFolder folder with
  | false => simp
  | true =>
    simp only [Bool.not_true, Bool.false_eq_true, if_false, true_and]
    split
    · next same => simp [same, eq_comm]
    · split
      · next same => simp [same, eq_comm]
      · split
        · next long =>
            simp only [reduceCtorEq, false_iff, not_and]
            rintro (dot | dots | short)
            · contradiction
            · contradiction
            · omega
        · next short =>
            have usable : name.utf8ByteSize ≤ longestName := by omega
            simp [usable, eq_comm]

/-- The folders that names are taken from are there, and the names are usable. -/
def Passes (tree : FileTree) : Location -> List String -> Prop
  | _, [] => True
  | folder, name :: rest =>
    (tree.isFolder folder = true ∧ IsUsable name) ∧ Passes tree (onward folder name) rest

/-- The locations that names go through. -/
def way : Location -> List String -> List Location
  | _, [] => []
  | folder, name :: rest => onward folder name :: way (onward folder name) rest

theorem passes_mono (folders : forall place, tree.isFolder place = true ->
    after.isFolder place = true) {names : List String} (passes : Passes tree folder names) :
    Passes after folder names := by
  induction names generalizing folder with
  | nil => trivial
  | cons name more inductionHypothesis =>
    exact ⟨⟨folders folder passes.1.1, passes.1.2⟩, inductionHypothesis passes.2⟩

/-- A first name is followed by the others, or leads to a link. -/
theorem reach_cons {follows : Bool} {name : String} {rest : List String}
    (stepped : tree.step folder name = .ok place) :
    tree.reach follows folder (name :: rest) =
      match tree.linkAt? place with
      | none => tree.reach follows place rest
      | some target =>
        if (rest.isEmpty && !follows) = true then .ok (.place place)
        else .ok (.link folder target rest) := by
  rw [reach, stepped]
  rfl

/-- Without links on the way, a walk goes where the names say. -/
theorem reach_eq_ok_iff {follows : Bool} {names : List String}
    (noLinks : forall place, place ∈ way folder names -> tree.linkAt? place = none)
    {reached : Reach} :
    tree.reach follows folder names = .ok reached <->
      Passes tree folder names ∧ reached = .place (names.foldl onward folder) := by
  induction names generalizing folder with
  | nil => simp [reach, Passes, eq_comm]
  | cons name more inductionHypothesis =>
    have noLink := noLinks _ List.mem_cons_self
    have later := inductionHypothesis
      (fun place member => noLinks place (List.mem_cons_of_mem _ member))
    rw [reach, bind_eq_ok_iff]
    constructor
    · rintro ⟨place, stepped, reached⟩
      rcases step_eq_ok_iff.mp stepped with ⟨isFolder, usable, rfl⟩
      simp only [noLink] at reached
      rcases later.mp reached with ⟨passes, same⟩
      exact ⟨⟨⟨isFolder, usable⟩, passes⟩, same⟩
    · rintro ⟨⟨⟨isFolder, usable⟩, passes⟩, same⟩
      refine ⟨onward folder name, step_eq_ok_iff.mpr ⟨isFolder, usable, rfl⟩, ?_⟩
      simp only [noLink]
      exact later.mpr ⟨passes, same⟩

/-! ## Walks -/

section

variable {follows : Bool} {links : Nat} {names : List String}

theorem walk_of_arrived (arrived : tree.reach follows folder names = .ok (.place place)) :
    tree.walk follows links folder names = .ok place := by
  cases links <;> (rw [walk, arrived]; rfl)

theorem walk_of_link {linkFolder : Location} {target : Path} {rest : List String}
    (linked : tree.reach follows folder names = .ok (.link linkFolder target rest)) :
    tree.walk follows (links + 1) folder names =
      tree.walk follows links (if target.isAbsolute then [] else linkFolder)
        (steps target ++ rest) := by
  rw [walk, linked]
  rfl

/-- A walk that ends has arrived, or it goes on from the first link, with one link less to go. -/
theorem walk_induction
    {motive : forall folder links names, tree.walk follows links folder names = .ok place -> Prop}
    (arrived : forall {links folder names}
      (reach : tree.reach follows folder names = .ok (.place place)),
      motive folder links names (walk_of_arrived reach))
    (goesOn : forall {links folder names linkFolder target rest}
      (reach : tree.reach follows folder names = .ok (.link linkFolder target rest))
      (walked : tree.walk follows links (if target.isAbsolute then [] else linkFolder)
        (steps target ++ rest) = .ok place),
      motive _ links _ walked ->
        motive folder (links + 1) names ((walk_of_link reach).trans walked))
    (walked : tree.walk follows links folder names = .ok place) :
    motive folder links names walked := by
  have unfolded := walked
  induction links generalizing folder names with
  | zero =>
    rw [walk, bind_eq_ok_iff] at unfolded
    rcases unfolded with ⟨reached, reach, ended⟩
    cases reached with
    | place =>
      cases ended
      exact arrived reach
    | link => cases ended
  | succ links inductionHypothesis =>
    rw [walk, bind_eq_ok_iff] at unfolded
    rcases unfolded with ⟨reached, reach, ended⟩
    cases reached with
    | place =>
      cases ended
      exact arrived reach
    | link => exact goesOn reach ended (inductionHypothesis ended ended)

/-- Without links on the way, a walk that ends goes where the names say. -/
theorem walk_eq_ok_iff
    (noLinks : forall place, place ∈ way folder names -> tree.linkAt? place = none) :
    tree.walk follows links folder names = .ok place <->
      Passes tree folder names ∧ place = names.foldl onward folder := by
  constructor
  · intro walked
    induction walked using walk_induction with
    | arrived reach =>
      rcases (reach_eq_ok_iff noLinks).mp reach with ⟨passes, stops⟩
      exact ⟨passes, Reach.place.inj stops⟩
    | goesOn reach => cases ((reach_eq_ok_iff noLinks).mp reach).2
  · rintro ⟨passes, rfl⟩
    exact walk_of_arrived ((reach_eq_ok_iff noLinks).mpr ⟨passes, rfl⟩)

end

/-! ## Paths without links -/

/-- Where a path starts. -/
def origin (tree : FileTree) (path : Path) : Location :=
  if path.isAbsolute then [] else tree.current

/-- The location that a path leads to if it goes through no link. -/
def destination (tree : FileTree) (path : Path) : Location :=
  (steps path).foldl onward (tree.origin path)

/-- Nothing that a path goes through is a link. -/
def Direct (tree : FileTree) (path : Path) : Prop :=
  forall place, place ∈ way (tree.origin path) (steps path) -> tree.linkAt? place = none

/-- The text of a path is one that can be looked up. -/
def IsLookedUp (path : Path) : Prop :=
  path.text.isEmpty = false ∧ path.text.toList.contains (Char.ofNat 0) = false ∧
    path.text.utf8ByteSize ≤ longestPath

/-- A path leads to a location exactly if it can be looked up and its names lead there. -/
theorem locateWith_eq_ok_iff_walk {follows : Bool} :
    tree.locateWith follows path = .ok place <->
      IsLookedUp path ∧
        tree.walk follows mostLinks (tree.origin path) (steps path) = .ok place := by
  unfold locateWith IsLookedUp
  split
  · next empty => simp [empty]
  · next notEmpty =>
    have inhabited : path.text.isEmpty = false := by simpa using notEmpty
    split
    · next bad =>
      simp only [Bool.or_eq_true, decide_eq_true_eq] at bad
      simp only [reduceCtorEq, false_iff]
      rintro ⟨⟨_, noZero, short⟩, _⟩
      rcases bad with zero | long
      · rw [noZero] at zero
        cases zero
      · omega
    · next good =>
      simp only [Bool.or_eq_true, decide_eq_true_eq, not_or, Bool.not_eq_true] at good
      have short : path.text.utf8ByteSize ≤ longestPath := by omega
      exact ⟨fun walked => ⟨⟨inhabited, good.1, short⟩, walked⟩, And.right⟩

/-- A path gets to where it leads. -/
def Reaches (tree : FileTree) (path : Path) : Prop :=
  IsLookedUp path ∧ Passes tree (tree.origin path) (steps path)

theorem locateWith_eq_ok_iff (direct : tree.Direct path) {follows : Bool} :
    tree.locateWith follows path = .ok place <->
      tree.Reaches path ∧ place = tree.destination path := by
  rw [locateWith_eq_ok_iff_walk, walk_eq_ok_iff direct, ← and_assoc]
  rfl

theorem locate_eq_ok_iff (direct : tree.Direct path) :
    tree.locate path = .ok place <-> tree.Reaches path ∧ place = tree.destination path :=
  locateWith_eq_ok_iff direct

theorem entryAt_eq_ok_iff {entry : FileEntry} :
    tree.entryAt path place = .ok entry <->
      tree.get? place = some entry ∧ (meansFolder path = true -> entry.node = .folder) := by
  unfold entryAt
  cases tree.get? place with
  | none => simp [throw, throwThe, MonadExceptOf.throw]
  | some found =>
    dsimp only
    split
    · next refused =>
        simp only [Bool.and_eq_true, bne_iff_ne] at refused
        simp only [throw, throwThe, MonadExceptOf.throw, reduceCtorEq, false_iff]
        rintro ⟨same, isFolder⟩
        cases same
        exact refused.2 (isFolder refused.1)
    · next accepted =>
        simp only [Bool.and_eq_true, bne_iff_ne, not_and, Classical.not_not] at accepted
        simp only [pure, Except.pure, Except.ok.injEq, Option.some.injEq]
        constructor
        · rintro rfl
          exact ⟨rfl, accepted⟩
        · exact And.left

/-- What stands where a path leads if it goes through no link. -/
def standing (tree : FileTree) (path : Path) : Option FileEntry :=
  tree.get? (tree.destination path)

/-- A path without links finds what stands where it leads, if it gets there. -/
theorem find_eq_ok_iff (direct : tree.Direct path) {entry : FileEntry} :
    tree.find path = .ok entry <->
      tree.Reaches path ∧ tree.standing path = some entry ∧
        (meansFolder path = true -> entry.node = .folder) := by
  unfold find
  rw [bind_eq_ok_iff]
  constructor
  · rintro ⟨place, located, found⟩
    rcases (locate_eq_ok_iff direct).mp located with ⟨reaches, rfl⟩
    exact ⟨reaches, entryAt_eq_ok_iff.mp found⟩
  · rintro ⟨reaches, found⟩
    exact ⟨_, (locate_eq_ok_iff direct).mpr ⟨reaches, rfl⟩, entryAt_eq_ok_iff.mpr found⟩

/-! ## Paths while trees change -/

theorem origin_eq (same : after.current = tree.current) : after.origin path = tree.origin path := by
  unfold origin
  rw [same]

theorem destination_eq (same : after.current = tree.current) :
    after.destination path = tree.destination path := by
  unfold destination
  rw [origin_eq same]

theorem Direct.of_grows (proper : tree.Proper) (direct : tree.Direct path)
    (grows : Grows tree after) : after.Direct path := by
  intro place member
  rw [origin_eq grows.current_eq] at member
  exact grows.linkAt?_eq_none proper (direct place member)

theorem Reaches.of_grows (proper : tree.Proper) (reaches : tree.Reaches path)
    (grows : Grows tree after) : after.Reaches path := by
  refine ⟨reaches.1, ?_⟩
  rw [origin_eq grows.current_eq]
  exact passes_mono (fun _ folder => grows.isFolder proper folder) reaches.2

/-- No link comes from a removal. -/
theorem linkAt?_eq_none_of_wanes (wanes : Wanes tree after place)
    (noLink : tree.linkAt? place = none) : after.linkAt? place = none := by
  unfold linkAt?
  split
  · next target time permissions found =>
      rcases wanes _ found with ⟨⟨node, oldTime, oldPermissions⟩, before, keeps⟩
      have isLink : node = .link target := keeps.node_eq.symm
      rw [linkAt?, before, isLink] at noLink
      cases noLink
  · rfl

theorem Direct.of_wanes (direct : tree.Direct path) (same : after.current = tree.current)
    (wanes : forall place, Wanes tree after place) : after.Direct path := by
  intro place member
  rw [origin_eq same] at member
  exact linkAt?_eq_none_of_wanes (wanes place) (direct place member)

/-! ## Paths that may go through links

A path that leads to a location where nothing stands leads there from a folder: the last name goes
down from it, for going nowhere or up would lead to a folder.
-/

/-- A location that a name leads to from a folder, or the root. -/
def Arrives (tree : FileTree) (place : Location) : Prop :=
  place = [] ∨ exists folder name, tree.isFolder folder = true ∧ place = onward folder name

theorem Arrives.inFolder (formed : tree.Formed) (arrives : tree.Arrives place)
    (free : tree.get? place = none) : place = [] ∨ tree.isFolder place.dropLast = true := by
  rcases arrives with atRoot | ⟨folder, name, isFolder, rfl⟩
  · exact Or.inl atRoot
  · rcases isFolder_iff.mp isFolder with ⟨entry, found, node⟩
    unfold onward at free ⊢
    split
    · next isDot =>
        rw [if_pos isDot, found] at free
        cases free
    · next notDot =>
        rw [if_neg notDot] at free
        split
        · next isUp =>
            rw [if_pos isUp] at free
            rcases formed.isFolder_dropLast folder entry found with rfl | upper
            · exact Or.inl rfl
            · rcases isFolder_iff.mp upper with ⟨upperEntry, foundUpper, _⟩
              rw [foundUpper] at free
              cases free
        · exact Or.inr (by rw [List.dropLast_concat]; exact isFolder)

theorem arrives_of_reach {follows : Bool} {names : List String} {reached : Reach}
    (found : tree.reach follows folder names = .ok reached) :
    match reached with
    | .place place => names = [] ∧ place = folder ∨ tree.Arrives place
    | .link folder _ _ => tree.isFolder folder = true := by
  induction names generalizing folder with
  | nil =>
    cases found
    exact Or.inl ⟨rfl, rfl⟩
  | cons name more inductionHypothesis =>
    rw [reach, bind_eq_ok_iff] at found
    rcases found with ⟨next, stepped, found⟩
    rcases step_eq_ok_iff.mp stepped with ⟨isFolder, _, rfl⟩
    have here : tree.Arrives (onward folder name) := Or.inr ⟨folder, name, isFolder, rfl⟩
    split at found
    · have later := inductionHypothesis found
      cases reached with
      | place place =>
        rcases later with ⟨_, rfl⟩ | arrives
        · exact Or.inr here
        · exact Or.inr arrives
      | link => exact later
    · split at found
      · cases found
        exact Or.inr here
      · cases found
        exact isFolder

theorem arrives_of_walk {follows : Bool} {links : Nat} {names : List String}
    (found : tree.walk follows links folder names = .ok place) :
    names = [] ∧ place = folder ∨ tree.Arrives place := by
  induction found using walk_induction with
  | arrived reach => exact arrives_of_reach reach
  | goesOn reach _ later =>
    right
    rcases later with ⟨_, rfl⟩ | later
    · split
      · exact Or.inl rfl
      · exact Or.inr ⟨_, ".", arrives_of_reach reach, rfl⟩
    · exact later

/-- A path that is not absolute has names. -/
theorem steps_ne_nil (notEmpty : path.text.isEmpty = false) (relative : path.isAbsolute = false) :
    steps path ≠ [] := by
  unfold steps
  cases text : path.text.toList with
  | nil =>
    have empty : path.text = "" := String.toList_eq_nil_iff.mp text
    rw [empty] at notEmpty
    cases notEmpty
  | cons c rest =>
    have notSlash : c ≠ '/' := by
      rintro rfl
      rw [Path.isAbsolute, text] at relative
      cases relative
    rw [Text.pieces, if_neg notSlash]
    split <;> simp

/-- A path that leads to a location where nothing stands leads into a folder. -/
theorem inFolder_of_locateWith (formed : tree.Formed) {follows : Bool}
    (located : tree.locateWith follows path = .ok place) (free : tree.get? place = none) :
    place = [] ∨ tree.isFolder place.dropLast = true := by
  rcases locateWith_eq_ok_iff_walk.mp located with ⟨⟨notEmpty, _⟩, walked⟩
  rcases arrives_of_walk walked with ⟨noSteps, rfl⟩ | arrives
  · unfold origin
    cases absolute : path.isAbsolute with
    | true => exact Or.inl (by simp)
    | false => exact absurd noSteps (steps_ne_nil notEmpty absolute)
  · exact arrives.inFolder formed free

/-- Names that are followed to their end lead there, or to a link from which one goes on, if the
link at the end is not followed. -/
theorem reach_unfollowed {names : List String} {reached : Reach}
    (found : tree.reach true folder names = .ok reached) (follows : Bool) :
    tree.reach follows folder names = .ok reached ∨
      exists link target rest place, reached = .link link target rest ∧
        tree.reach follows folder names = .ok (.place place) ∧
        tree.linkAt? place = some target := by
  induction names generalizing folder with
  | nil => exact Or.inl found
  | cons name more inductionHypothesis =>
    rw [reach, bind_eq_ok_iff] at found
    rcases found with ⟨place, stepped, found⟩
    cases linked : tree.linkAt? place with
    | none =>
      rw [linked] at found
      rw [reach_cons stepped, linked]
      exact inductionHypothesis found
    | some target =>
      rw [linked] at found
      simp only [Bool.not_true, Bool.and_false, Bool.false_eq_true, if_false] at found
      have isLink : reached = .link folder target more := (Except.ok.inj found).symm
      by_cases last : (more.isEmpty && !follows) = true
      · refine Or.inr ⟨folder, target, more, place, isLink, ?_, linked⟩
        rw [reach_cons stepped, linked]
        exact if_pos last
      · refine Or.inl ?_
        rw [reach_cons stepped, linked, isLink]
        exact if_neg last

theorem exists_get?_of_linkAt? {target : Path} (linked : tree.linkAt? place = some target) :
    exists entry, tree.get? place = some entry := by
  unfold linkAt? at linked
  cases found : tree.get? place with
  | none =>
    rw [found] at linked
    cases linked
  | some entry => exact ⟨entry, rfl⟩

/-- A walk to something gets to something, too, if a link at the end is not followed. -/
theorem walk_unfollowed {links : Nat} {names : List String} {entry : FileEntry}
    (walked : tree.walk true links folder names = .ok place)
    (found : tree.get? place = some entry) (follows : Bool) :
    exists other otherEntry, tree.walk follows links folder names = .ok other ∧
      tree.get? other = some otherEntry := by
  induction walked using walk_induction with
  | arrived reach =>
    rcases reach_unfollowed reach follows with same | ⟨_, _, _, _, isLink, _⟩
    · exact ⟨place, entry, walk_of_arrived same, found⟩
    · cases isLink
  | goesOn reach _ later =>
    rcases reach_unfollowed reach follows with same | ⟨_, _, _, stop, _, stopped, isLink⟩
    · rwa [walk_of_link same]
    · rcases exists_get?_of_linkAt? isLink with ⟨stopEntry, foundStop⟩
      exact ⟨stop, stopEntry, walk_of_arrived stopped, foundStop⟩

/-- A path that leads to something leads to something too if a link at its end is not followed. -/
theorem locateWith_of_locate {entry : FileEntry} (located : tree.locate path = .ok place)
    (found : tree.get? place = some entry) (follows : Bool) :
    exists other otherEntry, tree.locateWith follows path = .ok other ∧
      tree.get? other = some otherEntry := by
  rcases locateWith_eq_ok_iff_walk.mp located with ⟨lookedUp, walked⟩
  rcases walk_unfollowed walked found follows with ⟨other, otherEntry, walkedOther, foundOther⟩
  exact ⟨other, otherEntry, locateWith_eq_ok_iff_walk.mpr ⟨lookedUp, walkedOther⟩, foundOther⟩

/-- Where no link is at the end, it makes no difference whether one would be followed. -/
theorem reach_followed {follows : Bool} {names : List String} {reached : Reach}
    (found : tree.reach follows folder names = .ok reached) :
    tree.reach true folder names = .ok reached ∨
      exists place target, reached = .place place ∧ tree.linkAt? place = some target := by
  induction names generalizing folder with
  | nil => exact Or.inl found
  | cons name more inductionHypothesis =>
    rw [reach, bind_eq_ok_iff] at found
    rcases found with ⟨place, stepped, found⟩
    cases linked : tree.linkAt? place with
    | none =>
      rw [linked] at found
      rw [reach_cons stepped, linked]
      exact inductionHypothesis found
    | some target =>
      rw [linked] at found
      by_cases last : (more.isEmpty && !follows) = true
      · simp only [last, if_true] at found
        exact Or.inr ⟨place, target, (Except.ok.inj found).symm, linked⟩
      · simp only [last] at found
        refine Or.inl ?_
        rw [reach_cons stepped, linked]
        simp only [Bool.not_true, Bool.and_false]
        exact found

/-- A walk that does not end at a link gets there whether or not one would be followed. -/
theorem walk_followed {follows : Bool} {links : Nat} {names : List String}
    (walked : tree.walk follows links folder names = .ok place)
    (noLink : tree.linkAt? place = none) : tree.walk true links folder names = .ok place := by
  induction walked using walk_induction with
  | arrived reach =>
    rcases reach_followed reach with same | ⟨stop, target, stops, isLink⟩
    · exact walk_of_arrived same
    · cases stops
      rw [noLink] at isLink
      cases isLink
  | goesOn reach _ later =>
    rcases reach_followed reach with same | ⟨stop, target, stops, _⟩
    · rwa [walk_of_link same]
    · cases stops

/-- A path that leads to no link leads there whether or not links at its end are followed. -/
theorem locate_of_locateWith {follows : Bool} (located : tree.locateWith follows path = .ok place)
    (noLink : tree.linkAt? place = none) : tree.locate path = .ok place := by
  rcases locateWith_eq_ok_iff_walk.mp located with ⟨lookedUp, walked⟩
  exact locateWith_eq_ok_iff_walk.mpr ⟨lookedUp, walk_followed walked noLink⟩

/-! ## Paths behind a folder -/

/-- The segments of a path behind a folder are those of both, as far as they say something. -/
theorem filter_pieces_join {keeps : List Char -> Bool} (silent : keeps [] = false)
    (directory : Path) (relative : path.isAbsolute = false) :
    (Text.pieces '/' (directory.join path).text.toList).filter keeps =
      (Text.pieces '/' directory.text.toList).filter keeps ++
        (Text.pieces '/' path.text.toList).filter keeps := by
  have nothing : (Text.pieces '/' []).filter keeps = [] := by
    simp [Text.pieces, silent]
  unfold Path.join
  rw [relative]
  simp only [Bool.false_eq_true, if_false]
  split
  · next closed =>
      simp only [Bool.or_eq_true, List.isEmpty_iff, beq_iff_eq] at closed
      rcases closed with empty | slash
      · rw [empty, nothing, Path.ofChars, String.toList_ofList, List.nil_append, List.nil_append]
      · rcases List.getLast?_eq_some_iff.mp slash with ⟨front, text⟩
        rw [text, List.append_assoc, List.singleton_append, Path.ofChars, String.toList_ofList,
          Text.pieces_append, Text.pieces_append, List.filter_append, List.filter_append, nothing,
          List.append_nil]
  · rw [Path.ofChars, String.toList_ofList, Text.pieces_append, List.filter_append]

theorem steps_join (directory : Path) (relative : path.isAbsolute = false) :
    steps (directory.join path) = steps directory ++ steps path := by
  unfold steps
  rw [filter_pieces_join rfl directory relative, List.map_append]

theorem isAbsolute_join (directory : Path) (relative : path.isAbsolute = false) :
    (directory.join path).isAbsolute = directory.isAbsolute := by
  unfold Path.join
  rw [relative]
  simp only [Bool.false_eq_true, if_false]
  unfold Path.isAbsolute at relative ⊢
  cases text : directory.text.toList with
  | nil => simpa [Path.ofChars] using relative
  | cons c rest =>
    split
    · simp [Path.ofChars]
    · simp [Path.ofChars]

end FileTree
end BaseLanguage
