import BaseLanguage.CommandLine.Run
import BaseLanguage.Shell.Programs

/-!
# The program

Loads the files that a command line mentions, runs it with the programs that the shell knows,
stores what it changed, and says how it ended.
-/

namespace BaseLanguage
namespace Main

def load (tree : FileTree) (path : Path) : IO FileTree := do
  try
    let content ← IO.FS.readBinFile path.text
    return ((CommandLine.load path content).run.run tree).2
  catch _ => return tree

def stage (invocation : CommandLine.Invocation) : IO FileTree := do
  let tree ← invocation.configuration.toList.foldlM load CommandLine.emptyStage
  match CommandLine.settings tree invocation with
  | .error _ => return tree
  | .ok configuration =>
    match Processor.job configuration ⟨invocation.plugin⟩ invocation.definition with
    | .error _ => return tree
    | .ok job => (CommandLine.mentioned configuration job).foldlM load tree

def store : CommandLine.Change -> IO Unit
  | .removed place => IO.FS.removeFile (CommandLine.diskPath place)
  | .folder place => IO.FS.createDirAll (CommandLine.diskPath place)
  | .file place content => IO.FS.writeBinFile (CommandLine.diskPath place) content

end Main
end BaseLanguage

open BaseLanguage in
/-- Runs a command line on the files on disk. -/
def main (arguments : List String) : IO UInt32 := do
  let before ←
    match CommandLine.parse arguments with
    | .ok invocation => Main.stage invocation
    | .error _ => pure CommandLine.emptyStage
  let (ending, after) := (CommandLine.run Shell.launcher arguments).run before
  (CommandLine.changes before after).forM Main.store
  (← IO.getStdout).putStr ending.output
  (← IO.getStderr).putStr ending.errorOutput
  return UInt32.ofNat ending.code
