import BaseLanguage.Path
import Mathlib.Data.List.TakeWhile

namespace BaseLanguage

/-!
# Texts that are cut at separators

The names in a path are what is left when the path is cut at its slashes, so there is no slash in
them.  A name is cut in turn at its last dot, and a qualified name at its last slash: cutting at the
last separator gives the two parts of which the second one has no separator.
-/

namespace Text

variable {separator : Char}

theorem not_mem_of_mem_pieces {text piece : List Char} (member : piece ∈ pieces separator text) :
    separator ∉ piece := by
  induction text generalizing piece with
  | nil =>
    rw [pieces, List.mem_singleton] at member
    rw [member]
    exact List.not_mem_nil
  | cons c rest inductionHypothesis =>
    rw [pieces] at member
    split at member
    · rcases List.mem_cons.mp member with rfl | later
      · exact List.not_mem_nil
      · exact inductionHypothesis later
    · next different =>
        cases cut : pieces separator rest with
        | nil => exact absurd cut (pieces_ne_nil separator rest)
        | cons first more =>
          rw [cut] at member inductionHypothesis
          rcases List.mem_cons.mp member with rfl | later
          · rw [List.mem_cons, not_or]
            exact ⟨Ne.symm different, inductionHypothesis List.mem_cons_self⟩
          · exact inductionHypothesis (List.mem_cons_of_mem first later)

/-- A text without separators in front of another belongs to the first piece. -/
theorem pieces_append_of_not_mem {front : List Char} (absent : separator ∉ front)
    (back : List Char) :
    pieces separator (front ++ back) = (pieces separator back).modifyHead (front ++ ·) := by
  induction front with
  | nil =>
    rw [List.nil_append]
    cases pieces separator back <;> rfl
  | cons c rest inductionHypothesis =>
    rw [List.mem_cons, not_or] at absent
    rw [List.cons_append, pieces, if_neg (Ne.symm absent.1), inductionHypothesis absent.2]
    cases cut : pieces separator back with
    | nil => exact absurd cut (pieces_ne_nil separator back)
    | cons piece more => rfl

/-- A text without separators is one piece. -/
theorem pieces_of_not_mem {text : List Char} (absent : separator ∉ text) :
    pieces separator text = [text] := by
  have only := pieces_append_of_not_mem absent []
  rwa [List.append_nil, pieces, List.modifyHead_cons, List.append_nil] at only

/-- A separator between two texts is where their pieces meet. -/
theorem pieces_append (separator : Char) (front back : List Char) :
    pieces separator (front ++ separator :: back) =
      pieces separator front ++ pieces separator back := by
  induction front with
  | nil => simp [pieces]
  | cons c more inductionHypothesis =>
    rw [List.cons_append, pieces, pieces, inductionHypothesis]
    split
    · rfl
    · cases cut : pieces separator more with
      | nil => exact absurd cut (pieces_ne_nil separator more)
      | cons piece others => rfl

/-- Pieces without separators that are joined are cut apart again. -/
theorem pieces_join {row : List (List Char)} (notEmpty : row ≠ [])
    (absent : forall piece, piece ∈ row -> separator ∉ piece) :
    pieces separator (join separator row) = row := by
  fun_induction join separator row with
  | case1 => exact absurd rfl notEmpty
  | case2 piece => exact pieces_of_not_mem (absent piece (by simp))
  | case3 piece next more inductionHypothesis =>
    rw [pieces_append, pieces_of_not_mem (absent piece (by simp)),
      inductionHypothesis (by simp) fun other among => absent other (by simp [among])]
    rfl

/-- A text is cut at its last separator: none stands behind it. -/
theorem splitLast?_eq_some_iff {text front back : List Char} :
    splitLast? separator text = some (front, back) <->
      text = front ++ separator :: back ∧ separator ∉ back := by
  unfold splitLast?
  constructor
  · intro cut
    have isText : text.reverse = text.reverse.takeWhile (· != separator) ++
        text.reverse.dropWhile (· != separator) := List.takeWhile_append_dropWhile.symm
    split at cut
    · cases cut
    · next found before rest =>
        cases cut
        have isSeparator : found = separator := by
          have notPassed := List.head?_dropWhile_not (· != separator) text.reverse
          simpa [rest] using notPassed
        rw [rest, isSeparator] at isText
        constructor
        · have isReverse := congrArg List.reverse isText
          rwa [List.reverse_reverse, List.reverse_append, List.reverse_cons, List.append_assoc,
            List.singleton_append] at isReverse
        · intro member
          have passed := List.mem_takeWhile_imp (List.mem_reverse.mp member)
          simp at passed
  · rintro ⟨rfl, absent⟩
    have passed : forall c, c ∈ back.reverse -> (c != separator) = true := by
      intro c member
      exact bne_iff_ne.mpr fun same => absent (same ▸ List.mem_reverse.mp member)
    have isReverse : (front ++ separator :: back).reverse =
        back.reverse ++ separator :: front.reverse := by simp
    rw [isReverse, List.dropWhile_append_of_pos passed, List.takeWhile_append_of_pos passed]
    simp

/-- A text without separators is not cut. -/
theorem splitLast?_eq_none_iff {text : List Char} :
    splitLast? separator text = none <-> separator ∉ text := by
  constructor
  · intro uncut member
    unfold splitLast? at uncut
    split at uncut
    · next passed =>
        have among := List.mem_reverse.mpr member
        have different := List.dropWhile_eq_nil_iff.mp passed separator among
        simp at different
    · cases uncut
  · intro absent
    cases cut : splitLast? separator text with
    | none => rfl
    | some parts =>
      have isText := (splitLast?_eq_some_iff.mp cut).1
      exact absurd (by simp [isText]) absent

/-! ## Replacing characters -/

variable {old new : Char} {text : List Char}

/-- A character that is replaced by another one is gone. -/
theorem not_mem_replace (different : old ≠ new) (text : List Char) :
    old ∉ replace old new text := by
  intro member
  rcases List.mem_map.mp member with ⟨c, _, image⟩
  split at image
  · exact different image.symm
  · next other => exact other image

theorem replace_of_not_mem (absent : old = new ∨ old ∉ text) : replace old new text = text := by
  refine (List.map_congr_left fun c member => ?_).trans (List.map_id text)
  split
  · next same =>
    rcases absent with equal | absent
    · rw [same, equal, id]
    · exact absurd (same ▸ member) absent
  · rfl

/-- Putting a character that does not occur in the place of another one can be undone. -/
theorem replace_replace (absent : old = new ∨ old ∉ text) :
    replace old new (replace new old text) = text := by
  unfold replace
  rw [List.map_map]
  refine (List.map_congr_left fun c member => ?_).trans (List.map_id text)
  change (if (if c = new then old else c) = old then new else if c = new then old else c) = c
  by_cases isNew : c = new
  · rw [if_pos isNew, if_pos rfl, isNew]
  · rw [if_neg isNew]
    split
    · next isOld =>
      rcases absent with equal | absent
      · exact absurd (isOld.trans equal) isNew
      · exact absurd (isOld ▸ member) absent
    · rfl

end Text

namespace Path

variable {path : Path} {text : List Char}

/-! ## Names -/

/-- Where a path is anchored. -/
def anchor (path : Path) : Anchor :=
  (split path.text.toList).1

/-- The step that an anchor stands for. -/
def Anchor.components : Anchor -> List Component
  | root => [.root]
  | current => [.current]
  | none => []

theorem components_eq (path : Path) :
    path.components = path.anchor.components ++ path.names.map Component.ofName := by
  unfold Path.components anchor
  cases (split path.text.toList).1 <;> rfl

/-- What an anchor leaves out of the segments of a text says nothing. -/
theorem names_eq_filter_pieces (path : Path) :
    path.names = (Text.pieces '/' path.text.toList).filter (fun name => !Path.isSilent name) := by
  unfold Path.names Path.split
  split
  · next cut => rw [cut]; rfl
  · next cut => rw [cut]; rfl
  · rfl

theorem not_mem_of_mem_split {segment : List Char} (member : segment ∈ (split text).2) :
    '/' ∉ segment := by
  have piece : segment ∈ Text.pieces '/' text := by
    unfold split at member
    split at member
    · next cut => exact cut ▸ List.mem_cons_of_mem _ member
    · next cut => exact cut ▸ List.mem_cons_of_mem _ member
    · exact member
  exact Text.not_mem_of_mem_pieces piece

/-- What stands in front of the silent segments at the end is the last name. -/
theorem head?_dropWhile_isSilent (segments : List (List Char)) :
    (segments.reverse.dropWhile isSilent).head? =
      (segments.filter fun segment => !isSilent segment).getLast? := by
  rw [← List.head?_reverse, ← List.filter_reverse, List.head?_filter,
    List.find?_eq_head?_dropWhile_not]
  simp only [Bool.not_not]

/-- The file name is the last name, unless it leads up. -/
theorem fileNameChars?_eq (path : Path) :
    path.fileNameChars? = path.names.getLast?.filter (· ≠ ['.', '.']) := by
  unfold fileNameChars? names
  rw [← head?_dropWhile_isSilent]
  split
  · next silent => rw [silent]; rfl
  · next name before rest =>
    rw [rest]
    by_cases up : name = ['.', '.'] <;> simp [up, Option.filter]

theorem not_mem_of_fileNameChars? {name : List Char} (named : path.fileNameChars? = some name) :
    '/' ∉ name := by
  rw [fileNameChars?_eq] at named
  have last := List.mem_of_getLast? (Option.filter_eq_some_iff.mp named).1
  exact not_mem_of_mem_split (List.mem_filter.mp last).1

/-- No name in a path is empty. -/
theorem ne_nil_of_fileNameChars? {name : List Char} (named : path.fileNameChars? = some name) :
    name ≠ [] := by
  rintro rfl
  rw [fileNameChars?_eq] at named
  have last := List.mem_of_getLast? (Option.filter_eq_some_iff.mp named).1
  exact absurd (List.mem_filter.mp last).2 (by decide)

/-! ## Stems and extensions -/

/-- A name is its own stem, or it is cut at its last dot, and this is not its first character. -/
theorem cutName_cases (name : List Char) :
    cutName name = (name, none) ∨
      exists stem extension, cutName name = (stem, some extension) ∧ stem ≠ [] ∧
        name = stem ++ '.' :: extension ∧ '.' ∉ extension := by
  unfold cutName
  split
  · exact .inl rfl
  · next stem extension proper cut =>
    exact .inr ⟨stem, extension, rfl, proper, Text.splitLast?_eq_some_iff.mp cut⟩
  · exact .inl rfl

/-- A name is cut at a dot that is not its first character, if no dot stands behind that one. -/
theorem cutName_append {front back : List Char} (notEmpty : front ≠ []) (noDot : '.' ∉ back) :
    cutName (front ++ '.' :: back) = (front, some back) := by
  rw [cutName, Text.splitLast?_eq_some_iff.mpr ⟨rfl, noDot⟩]
  cases front with
  | nil => exact absurd rfl notEmpty
  | cons c rest => rfl

/-- The stem of a file is a name, too: it holds no slash and is not empty. -/
theorem of_fileStem? {stem : String} (found : path.fileStem? = some stem) :
    '/' ∉ stem.toList ∧ stem ≠ "" := by
  rcases Option.map_eq_some_iff.mp found with ⟨name, named, rfl⟩
  have noSlash := not_mem_of_fileNameChars? named
  have notEmpty := ne_nil_of_fileNameChars? named
  rw [ne_eq, ← String.toList_inj, String.toList_ofList]
  rcases cutName_cases name with cut | ⟨stem, extension, cut, proper, rfl, _⟩
  · rw [cut]
    exact ⟨noSlash, notEmpty⟩
  · rw [cut]
    exact ⟨fun slash => noSlash (List.mem_append_left _ slash), proper⟩

/-- Nothing behind the last dot of a name holds a dot or a slash. -/
theorem notMem_of_extension? {extension : String} (found : path.extension? = some extension) :
    '.' ∉ extension.toList ∧ '/' ∉ extension.toList := by
  rcases Option.bind_eq_some_iff.mp found with ⟨name, named, isCut⟩
  rcases Option.map_eq_some_iff.mp isCut with ⟨ending, isEnding, rfl⟩
  rw [String.toList_ofList]
  rcases cutName_cases name with cut | ⟨stem, extension, cut, _, rfl, noDot⟩
  · rw [cut] at isEnding
    cases isEnding
  · rw [cut] at isEnding
    cases isEnding
    exact ⟨noDot, fun slash => not_mem_of_fileNameChars? named (by simp [slash])⟩

end Path
end BaseLanguage
