import BaseLanguage.Storage.FileTree

namespace BaseLanguage
namespace Seeding

/-!
# The shared modules

Every rewritten artifact imports a module that all languages share.  Its sources come with the
processor and are put into the folder of artifacts where they are missing.  Copies that are there
stay as they are.
-/

/-- The lines of a text, each with a line feed. -/
def ofLines (lines : List String) : String :=
  String.join (lines.map (· ++ "\n"))

def sharedGrammar : String :=
  ofLines
    ["module org/sugarj/soundx/SoundX",
      "",
      "exports",
      "  sorts ToplevelDeclaration",
      "",
      "  context-free start-symbols",
      "    ToplevelDeclaration"]

def sharedRules : String :=
  ofLines
    ["module org/sugarj/soundx/SoundX",
      "",
      "signature",
      "  sorts",
      "    ToplevelDeclaration",
      "",
      "  constructors",
      "    SXExtensionDecl  : List(ToplevelDeclaration) -> ToplevelDeclaration",
      "    SXExtensionBegin : ToplevelDeclaration",
      "    SXExtensionEnd   : ToplevelDeclaration"]

def sources : List (Path × String) :=
  [(⟨"org/sugarj/soundx/SoundX.sdf"⟩, sharedGrammar),
    (⟨"org/sugarj/soundx/SoundX.str"⟩, sharedRules)]

/-- Puts one source into a folder, unless something is there. -/
def seedOne (target : Path) (source : Path × String) : Filing Unit := do
  let place := target.join source.1
  if (← get).exists? place then return ()
  match place.parent? with
  | some parent => FileTree.createFolders parent
  | none => return ()
  FileTree.write place (Text.toBytes source.2)

/-- Puts every source that is missing into a folder. -/
def ensureShared (target : Path) : Filing Unit :=
  sources.forM (seedOne target)

end Seeding
end BaseLanguage
