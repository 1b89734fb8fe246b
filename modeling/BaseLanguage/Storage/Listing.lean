import BaseLanguage.Storage.FileTree

namespace BaseLanguage
namespace FileTree

/-!
# Listing trees of files

A listing names all that lies below a location, with folders marked by a slash.  A link shows what
it leads to.  Two listings show what has changed between them.
-/

/-- The content of a listed file, or nothing for a folder. -/
abbrev Listing := List (String × Option ByteArray)

/-- What lies below a location, whose names stand behind others, through so many links. -/
def listingThrough (tree : FileTree) : Nat -> String -> Location -> Listing
  | links, front, root =>
    (tree.below root).flatMap fun (names, entry) =>
      let name := front ++ String.intercalate "/" names
      match entry.node with
      | .file content => [(name, some content)]
      | .folder => [(name ++ "/", none)]
      | .link target =>
        let folder := (root ++ names).dropLast
        let start := if Path.isAbsolute ⟨target⟩ then [] else folder
        match tree.walk true mostLinks start (steps ⟨target⟩), links with
        | .ok place, links + 1 =>
          match tree.get? place with
          | some ⟨.file content, _, _⟩ => [(name, some content)]
          | some ⟨.folder, _, _⟩ =>
            (name ++ "/", none) :: listingThrough tree links (name ++ "/") place
          | _ => [(name, none)]
        | _, _ => [(name, none)]
      | _ => [(name, none)]

/-- The greatest number of links inside one another that a listing goes through. -/
def mostListedLinks : Nat :=
  8

/-- All that lies below a location, in the order of the names. -/
def listing (tree : FileTree) (root : Location) : Listing :=
  (tree.listingThrough mostListedLinks "" root).mergeSort (fun left right => left.1 ≤ right.1)

/-- The names that are new or whose contents differ, with their contents now. -/
def changed (before now : Listing) : Listing :=
  now.filter (fun (name, content) => before.lookup name != some content)

def removed (before now : Listing) : List String :=
  (before.filter (fun (name, _) => (now.lookup name).isNone)).map Prod.fst

end FileTree
end BaseLanguage
