import BaseLanguage.Declaration
import BaseLanguage.Proofs.Namespace
import Mathlib.Data.List.Basic

namespace BaseLanguage

/-!
# Spellings of a path

Lone dots and repeated slashes in a path are silent: a relative path into which they are put goes
through the same names as before.  The name of a module is the last of these without its ending, so
that it stays.

The namespace is made from the components of the directory, and these are more than its names: a dot
in front of a relative path is a component of its own.  So the location of a file depends on the
spelling of its path in this one way, and the files that a declaration fits depend on it with the
location.
-/

namespace Path

variable {path other : Path} {text : List Char}

/-! ## Parents -/

/-- The front of the segments of a text, written behind the same anchor, is split into this anchor
and the same names. -/
theorem split_assemble {kept : List (List Char)} (isFront : kept <+: (split text).2) :
    (split (assemble (split text).1 kept)).1 = (split text).1 ∧
      (split (assemble (split text).1 kept)).2.filter (fun name => !isSilent name) =
        kept.filter (fun name => !isSilent name) := by
  have absent : forall segment, segment ∈ kept -> '/' ∉ segment := fun segment among =>
    not_mem_of_mem_split (isFront.subset among)
  rcases isFront with ⟨others, cut⟩
  cases kept with
  | nil => cases (split text).1 <;> exact ⟨rfl, rfl⟩
  | cons first more =>
    have joined := Text.pieces_join (List.cons_ne_nil first more) absent
    unfold split at cut ⊢
    split at cut
    · simp only [assemble, Text.pieces, if_true, joined, true_and]
    · have dotted : Text.pieces '/' (Text.join '/' (['.'] :: first :: more)) =
          ['.'] :: first :: more := Text.pieces_join (by simp) (by simpa using absent)
      simp only [assemble, dotted, true_and]
    · next noRoot noDot =>
      -- the first segment is no anchor here, as it is none in the longer text
      rw [show Text.pieces '/' (assemble Anchor.none (first :: more)) = first :: more from joined]
      simp only [show Text.pieces '/' text = first :: more ++ others from cut.symm] at noRoot noDot
      split
      · next same => exact (noRoot _ _ (congrArg (· ++ others) same)).elim
      · next same => exact (noDot _ (congrArg (· ++ others) same)).elim
      · exact ⟨rfl, rfl⟩

theorem filter_dropWhile_isSilent (segments : List (List Char)) :
    (segments.dropWhile isSilent).filter (fun name => !isSilent name) =
      segments.filter fun name => !isSilent name := by
  induction segments with
  | nil => rfl
  | cons segment more inductionHypothesis =>
    rw [List.dropWhile_cons, List.filter_cons]
    cases silent : isSilent segment <;> simp [silent, inductionHypothesis]

/-- The parent of a path is anchored at the same place and goes through all names but the last. -/
theorem parent?_of_names {front : List (List Char)} {last : List Char}
    (named : path.names = front ++ [last]) :
    exists parent, path.parent? = some parent ∧ parent.anchor = path.anchor ∧
      parent.names = front := by
  have isLast : ((split path.text.toList).2.reverse.dropWhile isSilent).head? = some last := by
    rw [head?_dropWhile_isSilent]
    exact (congrArg List.getLast? named).trans List.getLast?_concat
  rcases List.head?_eq_some_iff.mp isLast with ⟨before, dropped⟩
  have filtered : (last :: before).filter (fun name => !isSilent name) =
      last :: front.reverse := by
    rw [← dropped, filter_dropWhile_isSilent, List.filter_reverse]
    exact (congrArg List.reverse named).trans (by simp)
  have isFront : (before.dropWhile isSilent).reverse <+: (split path.text.toList).2 := by
    have isSuffix := (List.dropWhile_suffix isSilent).trans
      ((List.suffix_cons last before).trans (dropped ▸ List.dropWhile_suffix isSilent))
    simpa using List.reverse_prefix.mpr isSuffix
  rcases split_assemble isFront with ⟨sameAnchor, sameNames⟩
  refine ⟨ofChars (assemble path.anchor (before.dropWhile isSilent).reverse), ?_, ?_, ?_⟩
  · unfold parent?
    simp only [dropped, anchor]
  · rw [anchor, ofChars, String.toList_ofList]
    exact sameAnchor
  · rw [names, ofChars, String.toList_ofList]
    refine sameNames.trans ?_
    rw [List.filter_reverse, filter_dropWhile_isSilent]
    have visible : (!isSilent last) = true :=
      (List.mem_filter.mp (show last ∈ path.names by simp [named])).2
    rw [List.filter_cons, if_pos visible] at filtered
    rw [(List.cons.inj filtered).2, List.reverse_reverse]

/-! ## Spellings -/

/-- The segments between the slashes of a path; the empty path has none. -/
def segments (path : Path) : List (List Char) :=
  if path.text = "" then [] else Text.pieces '/' path.text.toList

/-- A row with silent segments put in, anywhere and any number of them. -/
inductive Padded (row : List (List Char)) : List (List Char) -> Prop where
  | same : Padded row row
  | insert (before after : List (List Char)) (segment : List Char)
      (earlier : Padded row (before ++ after)) (silent : isSilent segment = true) :
      Padded row (before ++ segment :: after)

/-- A relative path with lone dots and repeated slashes put in. -/
structure Respelled (path other : Path) : Prop where
  relative : path.isAbsolute = false
  stillRelative : other.isAbsolute = false
  padded : Padded path.segments other.segments

theorem names_eq_filter_segments (path : Path) :
    path.names = path.segments.filter fun name => !isSilent name := by
  rw [names_eq_filter_pieces, segments]
  split
  · next empty => rw [empty]; rfl
  · rfl

theorem Padded.filter_eq {row padded : List (List Char)} (isPadded : Padded row padded) :
    padded.filter (fun name => !isSilent name) = row.filter fun name => !isSilent name := by
  induction isPadded with
  | same => rfl
  | insert before after segment earlier silent inductionHypothesis =>
    rw [List.filter_append, List.filter_cons_of_neg (by simp [silent]), ← List.filter_append]
    exact inductionHypothesis

/-- What is put into a path does not change its names. -/
theorem Respelled.names_eq (respelled : Respelled path other) : other.names = path.names := by
  rw [names_eq_filter_segments, names_eq_filter_segments, respelled.padded.filter_eq]

theorem anchor_ne_root (relative : path.isAbsolute = false) : path.anchor ≠ .root := by
  intro atRoot
  unfold anchor split at atRoot
  split at atRoot
  · next segment more cut =>
    have joined := Text.join_pieces '/' path.text.toList
    rw [cut] at joined
    unfold isAbsolute at relative
    rw [← joined] at relative
    cases relative
  · cases atRoot
  · cases atRoot

end Path

namespace ModuleLocation

variable {path other : Path}

/-- The namespace of a file is written as the names of its directory, behind what stands for the
anchor of its path. -/
theorem namespaceName_ofFile {front : List (List Char)} {last : List Char}
    (named : path.names = front ++ [last]) :
    (ofFile path).namespaceName = String.ofList (Text.join '/'
      (path.anchor.components.map Path.Component.chars ++ front)) := by
  have spelled : forall name : List Char, (Path.Component.ofName name).chars = name := by
    intro name
    unfold Path.Component.ofName
    split
    · next up => exact up.symm
    · exact String.toList_ofList
  rcases Path.parent?_of_names named with ⟨parent, isParent, anchor, names⟩
  unfold ofFile
  rw [isParent]
  simp only [Path.components_eq, anchor, names, List.map_append, List.map_map,
    Function.comp_def, spelled, List.map_id']

theorem namespaceName_of_names_eq_nil (unnamed : path.names = []) :
    (ofFile path).namespaceName = "" := by
  have silent : (Path.split path.text.toList).2.reverse.dropWhile Path.isSilent = [] := by
    rw [← List.head?_eq_none_iff, Path.head?_dropWhile_isSilent]
    exact congrArg List.getLast? unnamed
  unfold ofFile Path.parent?
  simp only [silent]
  split_ifs <;> rfl

theorem moduleName_eq (same : other.names = path.names) :
    (ofFile other).moduleName = (ofFile path).moduleName := by
  unfold ofFile Path.fileStem?
  rw [Path.fileNameChars?_eq, Path.fileNameChars?_eq, same]

/-- A dot in front makes another text of a row of names. -/
theorem join_dot_ne (names : List (List Char)) :
    Text.join '/' (['.'] :: names) ≠ Text.join '/' names := by
  intro same
  have lengths := congrArg List.length same
  cases names with
  | nil => cases lengths
  | cons name more =>
    simp only [Text.join, List.length_append, List.length_cons] at lengths
    omega

/-- Two relative paths with the same names have the same location if both start with a dot or
none of them does, or if they have no names at all. -/
theorem ofFile_eq_iff (relative : path.isAbsolute = false)
    (relativeOther : other.isAbsolute = false) (same : other.names = path.names) :
    ofFile other = ofFile path <-> path.names = [] ∨ other.anchor = path.anchor := by
  have names := moduleName_eq same
  have equal : ofFile other = ofFile path <->
      (ofFile other).namespaceName = (ofFile path).namespaceName := by
    constructor
    · exact congrArg namespaceName
    · intro spaces
      exact (ModuleLocation.mk.injEq ..).mpr ⟨spaces, names⟩
  rw [equal]
  rcases path.names.eq_nil_or_concat' with none | ⟨front, last, named⟩
  · rw [namespaceName_of_names_eq_nil none, namespaceName_of_names_eq_nil (same.trans none)]
    exact iff_of_true rfl (.inl none)
  · rw [namespaceName_ofFile named, namespaceName_ofFile (same.trans named), String.ofList_inj]
    have rootless := Path.anchor_ne_root relative
    have rootlessOther := Path.anchor_ne_root relativeOther
    cases atPath : path.anchor <;> cases atOther : other.anchor
    case none.none | current.current => exact iff_of_true rfl (.inr rfl)
    case none.current => exact iff_of_false (join_dot_ne front) (by simp [named])
    case current.none => exact iff_of_false (join_dot_ne front).symm (by simp [named])
    case root.root | root.current | root.none => exact absurd atPath rootless
    case current.root | none.root => exact absurd atOther rootlessOther

/-- Files are told apart by the names that they accept as far as they have different locations. -/
theorem resolve_eq_iff : (forall (kind : NamespaceKind) (identifier : String),
      kind.resolve identifier other = kind.resolve identifier path) <->
    ofFile other = ofFile path := by
  constructor
  · intro alike
    have writable : (NamespaceKind.prefixed '/' ∅).CanWrite (ofFile path).namespaceName :=
      fun _ separated => .inl (Option.some.inj separated).symm
    have isWritten := NamespaceKind.modulePath_of_canWrite writable (.inl rfl)
    have accepted : (NamespaceKind.prefixed '/' ∅).resolve (ofFile path).namespaceName path =
        .ok (ofFile path) := NamespaceKind.resolve_of_declaredPath isWritten
    rw [← alike] at accepted
    exact (NamespaceKind.declared_of_resolve accepted).2.symm
  · intro same kind identifier
    unfold NamespaceKind.resolve
    rw [same]

/-- Lone dots and repeated slashes in a relative path change the location of its file only where a
dot is put in front of a path that did not start with one; then they do, unless the path has no
names.  The names that the file accepts change with the location.  The module names that suffix
declarations give are the same in any case. -/
theorem ofFile_eq_iff_of_respelled (respelled : Path.Respelled path other) :
    (ofFile other = ofFile path <-> path.names = [] ∨ other.anchor = path.anchor) ∧
    ((forall (kind : NamespaceKind) (identifier : String),
        kind.resolve identifier other = kind.resolve identifier path) <->
      path.names = [] ∨ other.anchor = path.anchor) ∧
    forall (language : LanguageDescriptor) (printer : TermPrinter) (declaration : Term),
      language.suffixModuleName printer declaration other =
        language.suffixModuleName printer declaration path := by
  have located := ofFile_eq_iff respelled.relative respelled.stillRelative respelled.names_eq
  refine ⟨located, resolve_eq_iff.trans located, ?_⟩
  intro language printer declaration
  unfold LanguageDescriptor.suffixModuleName
  rw [moduleName_eq respelled.names_eq]

/-- A dot and a repeated slash in the middle of a path. -/
theorem respelled_sample : Path.Respelled ⟨"a/Main.x"⟩ ⟨"a//./Main.x"⟩ where
  relative := by decide
  stillRelative := by decide
  padded := .insert [['a'], []] [_] ['.'] (.insert [['a']] [_] [] .same rfl) rfl

theorem ofFile_eq_iff_of_respelled_sample :
    Path.Respelled ⟨"a/Main.x"⟩ ⟨"a//./Main.x"⟩ ∧
      ofFile ⟨"a//./Main.x"⟩ = ofFile ⟨"a/Main.x"⟩ ∧
      forall (kind : NamespaceKind) (identifier : String),
        kind.resolve identifier ⟨"a//./Main.x"⟩ = kind.resolve identifier ⟨"a/Main.x"⟩ :=
  have unchanged := ofFile_eq_iff_of_respelled respelled_sample
  ⟨respelled_sample, unchanged.1.mpr (.inr (by decide)), unchanged.2.1.mpr (.inr (by decide))⟩

/-- A dot in front of a path gives its file another location: the namespace is a dot, and not the
empty one of the source root. -/
theorem not_forall_respelled_ofFile_eq :
    ¬ forall path other : Path, Path.Respelled path other -> ofFile other = ofFile path := by
  intro always
  have respelled : Path.Respelled ⟨"Main.x"⟩ ⟨"./Main.x"⟩ :=
    ⟨by decide, by decide, .insert [] [_] ['.'] .same rfl⟩
  have same := always _ _ respelled
  revert same
  decide +kernel

end ModuleLocation
end BaseLanguage
