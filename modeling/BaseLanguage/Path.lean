import BaseLanguage.Text.Pieces

namespace BaseLanguage

/-!
# Paths

A path is a text.  It is cut at its slashes: a path that starts with a slash is anchored at the
root, one that is or starts with a lone dot is anchored at the current directory, and any other
has no anchor.  Behind the anchor, empty segments and lone dots say nothing; the remaining
segments are the names that the path goes through.

`parent?`, `fileName?`, `fileStem?` and `extension?` look at the last of these names only, so they
see through slashes and dots at the end of a path.
-/

structure Path where
  text : String
  deriving Repr, DecidableEq, Inhabited

namespace Path

/-- Where a path starts. -/
inductive Anchor where
  | root
  | current
  | none
  deriving Repr, DecidableEq

/-- One step of a path. -/
inductive Component where
  | root
  | current
  | up
  | name (text : String)
  deriving Repr, DecidableEq

def ofChars (text : List Char) : Path :=
  ⟨String.ofList text⟩

/-- The anchor of a text and the segments behind it. -/
def split (text : List Char) : Anchor × List (List Char) :=
  match Text.pieces '/' text with
  | [] :: segment :: more => (.root, segment :: more)
  | ['.'] :: more => (.current, more)
  | segments => (.none, segments)

def assemble (anchor : Anchor) (segments : List (List Char)) : List Char :=
  match anchor with
  | .root => '/' :: Text.join '/' segments
  | .current => Text.join '/' (['.'] :: segments)
  | .none => Text.join '/' segments

/-- Whether a segment says nothing. -/
def isSilent (segment : List Char) : Bool :=
  segment == [] || segment == ['.']

def names (path : Path) : List (List Char) :=
  (split path.text.toList).2.filter (fun segment => !isSilent segment)

/-- The step that a name stands for. -/
def Component.ofName (segment : List Char) : Component :=
  if segment = ['.', '.'] then .up else .name (String.ofList segment)

def components (path : Path) : List Component :=
  let steps := path.names.map Component.ofName
  match (split path.text.toList).1 with
  | .root => .root :: steps
  | .current => .current :: steps
  | .none => steps

def Component.chars : Component -> List Char
  | root => ['/']
  | current => ['.']
  | up => ['.', '.']
  | name text => text.toList

def isAbsolute (path : Path) : Bool :=
  path.text.toList.head? == some '/'

/-- The text without its last name and without what says nothing around it.  A path without names
has a parent only if it is anchored at the current directory. -/
def parent? (path : Path) : Option Path :=
  match split path.text.toList with
  | (anchor, segments) =>
    match segments.reverse.dropWhile isSilent with
    | [] => if anchor = .current then some ⟨""⟩ else none
    | _ :: before =>
      some (ofChars (assemble anchor (before.dropWhile isSilent).reverse))

/-- The last name, unless it leads up. -/
def fileNameChars? (path : Path) : Option (List Char) :=
  match (split path.text.toList).2.reverse.dropWhile isSilent with
  | [] => none
  | name :: _ => if name = ['.', '.'] then none else some name

def fileName? (path : Path) : Option String :=
  path.fileNameChars?.map String.ofList

/-- A file name cut at its last dot.  A dot in front of the whole name cuts nothing. -/
def cutName (name : List Char) : List Char × Option (List Char) :=
  match Text.splitLast? '.' name with
  | some ([], _) => (name, none)
  | some (stem, extension) => (stem, some extension)
  | none => (name, none)

/-- The last name without its extension. -/
def fileStem? (path : Path) : Option String :=
  path.fileNameChars?.map (fun name => String.ofList (cutName name).1)

/-- What follows the last dot of the last name, if that dot is not its first character. -/
def extension? (path : Path) : Option String :=
  path.fileNameChars?.bind (fun name => (cutName name).2.map String.ofList)

/-- `path` as seen from `directory`.  An absolute path stays as it is; any other is written behind
the directory, with a slash between them unless the directory is empty or ends in one. -/
def join (directory path : Path) : Path :=
  if path.isAbsolute then path
  else
    let front := directory.text.toList
    if front.isEmpty || front.getLast? == some '/' then
      ofChars (front ++ path.text.toList)
    else
      ofChars (front ++ '/' :: path.text.toList)

end Path
end BaseLanguage
