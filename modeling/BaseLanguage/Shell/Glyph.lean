import BaseLanguage.Shell.Pattern
import BaseLanguage.Shell.Stream

namespace BaseLanguage.Shell

/-!
# From words to fields

What takes the place of the pieces of a word is a row of glyphs.  They say which characters stand
for themselves, and at which a word may be cut.  The row is cut into fields at the separators of the
shell; a field that is a pattern gives way to the names of the files that it matches.
-/

/-- A character of a word whose pieces have been replaced, or a mark between two. -/
inductive Glyph where
  | plain (c : Char) (cuttable : Bool)
  | exact (c : Char)
  | cut (joint : Option Char)
  | keep

namespace Glyph

def patternChar? : Glyph -> Option PatternChar
  | .plain c _ => some (c, false)
  | .exact c => some (c, true)
  | .cut joint => joint.map (fun c => (c, true))
  | .keep => none

def ofValue (quoted : Bool) (octets : String) : List Glyph :=
  if quoted then .keep :: octets.toList.map .exact else octets.toList.map (.plain · true)

def ofValues (quoted joined : Bool) (joint : Option Char) (values : List String) : List Glyph :=
  if quoted && joined then
    .keep :: List.intercalate (joint.toList.map .exact) (values.map (·.toList.map .exact))
  else List.intercalate [.cut joint] (values.map (ofValue quoted))

def patternChars (glyphs : List Glyph) : List PatternChar := glyphs.filterMap patternChar?

def text (glyphs : List Glyph) : String := .ofList ((patternChars glyphs).map Prod.fst)

end Glyph

structure Cutting where
  fields : List (List PatternChar) := []
  current : List PatternChar := []
  started : Bool := false
  behindBlank : Bool := false

namespace Cutting

def add (cutting : Cutting) (c : PatternChar) : Cutting :=
  { cutting with current := c :: cutting.current, started := true, behindBlank := false }

def finish (cutting : Cutting) (behindBlank : Bool) : Cutting where
  fields := cutting.current.reverse :: cutting.fields
  behindBlank := behindBlank

/-- Takes one glyph.  Blanks among the separators end a field together; of the other separators each
ends one, with the blanks around it. -/
def take (separators : Chars) (cutting : Cutting) : Glyph -> Cutting
  | .keep => { cutting with started := true, behindBlank := false }
  | .cut _ =>
    if cutting.started then cutting.finish false else { cutting with behindBlank := false }
  | .exact c => cutting.add (c, true)
  | .plain c cuttable =>
    if !cuttable || !separators.contains c then cutting.add (c, false)
    else if Text.isSpace c then
      if cutting.started then cutting.finish true else cutting
    else if cutting.behindBlank && !cutting.started then { cutting with behindBlank := false }
    else cutting.finish false

end Cutting

def cutFields (separators : Chars) (glyphs : List Glyph) : List (List PatternChar) :=
  let cutting := glyphs.foldl (Cutting.take separators) {}
  let fields :=
    if cutting.started then cutting.current.reverse :: cutting.fields else cutting.fields
  fields.reverse

def fieldText (field : List PatternChar) : String := .ofList (field.map Prod.fst)

def pathPieces : List PatternChar -> List (List PatternChar)
  | [] => [[]]
  | c :: rest =>
    if c.1 = '/' then [] :: pathPieces rest
    else match pathPieces rest with
      | [] => [[c]]
      | piece :: others => (c :: piece) :: others

structure FileMatching where
  style : Pattern.Style := {}
  dots : Bool := false
  depths : Bool := false
  anyCase : Bool := false
  drops : Bool := false

section

variable (tree : FileTree) (matching : FileMatching)

def namesIn (folder : String) : List String :=
  match tree.locate (if folder.isEmpty then ⟨"."⟩ else pathOf folder) with
  | .error _ => []
  | .ok place => (tree.children place).map Text.toOctets

/-- The names in a folder that a piece of a pattern matches.  A name that begins with a period is
matched by a piece that does. -/
def matchingNames (folder : String) (piece : List PatternChar) : List String :=
  let pattern := Pattern.parse matching.style piece
  let hidden := piece.head?.any (·.1 == '.')
  let isMatched (name : String) : Bool :=
    if matching.anyCase then
      Pattern.holds (pattern.map PatternItem.lowered) (name.toList.map Char.toLower)
    else pattern.holds name.toList
  let dots := if hidden && tree.hasFolder (if folder.isEmpty then ⟨"."⟩ else pathOf folder) then
    [".", ".."] else []
  (dots ++ namesIn tree folder).filter fun name =>
    (hidden || matching.dots || !name.startsWith ".") && isMatched name

def isLinkAt (path : String) : Bool := match tree.locateName (pathOf path) with
  | .ok place => (tree.linkAt? place).isSome
  | .error _ => false

def pathsInside : Nat -> String -> List String
  | 0, _ => []
  | depth + 1, front =>
    let names := (namesIn tree front).filter (matching.dots || !·.startsWith ".")
    names.flatMap fun name =>
      let path := front ++ name
      if !isLinkAt tree path && tree.hasFolder (pathOf path) then
        path :: pathsInside depth (path ++ "/")
      else [path]

def deepestFolder : Nat := 100

def isDeep (piece : List PatternChar) : Bool :=
  matching.depths && piece == [('*', false), ('*', false)]

/-- The folder in front of the names in it, as it is matched itself: with its slash if it was spelled
out. -/
def folderItself (chosen : Bool) (front : String) : List String :=
  if front.isEmpty then []
  else if chosen then [.ofList front.toList.dropLast]
  else [front]

def matchingPaths (chosen : Bool) (front : String) : List (List PatternChar) -> List String
  | [] => [front]
  | [last] =>
    let isThere := front.isEmpty || tree.hasFolder (pathOf front)
    if isDeep matching last then
      if isThere then folderItself chosen front ++ pathsInside tree matching deepestFolder front
      else []
    else if (Pattern.parse matching.style last).isOpen then
      (matchingNames tree matching front last).map (front ++ ·)
    else
      let path := front ++ fieldText last
      if last.isEmpty || tree.exists? (pathOf path) then [path] else []
  | piece :: rest =>
    if isDeep matching piece then
      let folders := (pathsInside tree matching deepestFolder front).filter fun path =>
        tree.hasFolder (pathOf path)
      let isThere := front.isEmpty || tree.hasFolder (pathOf front)
      let isEmpty := !isThere || (rest == [[]] && front.isEmpty)
      let here := if isEmpty then [] else matchingPaths true front rest
      here ++ folders.flatMap (fun folder => matchingPaths true (folder ++ "/") rest)
    else if (Pattern.parse matching.style piece).isOpen then
      (matchingNames tree matching front piece).flatMap fun name =>
        if tree.hasFolder (pathOf (front ++ name)) then
          matchingPaths true (front ++ name ++ "/") rest
        else []
    else matchingPaths chosen (front ++ fieldText piece ++ "/") rest

def filesMatching? (field : List PatternChar) : Option (List String) :=
  if (Pattern.parse matching.style field).isOpen then
    let paths := matchingPaths tree matching false "" (pathPieces field)
    some (paths.mergeSort (fun left right => left <= right)).eraseDups
  else none

def filesOf (field : List PatternChar) : List String :=
  match filesMatching? tree matching field with
  | some [] => if matching.drops then [] else [fieldText field]
  | some paths => paths
  | none => [fieldText field]

end

end BaseLanguage.Shell
