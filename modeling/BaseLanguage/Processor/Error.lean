import BaseLanguage.Fact.Basic
import BaseLanguage.Rewriting.Grammar
import BaseLanguage.Tool.Basic

namespace BaseLanguage

/-!
# Errors of a run

Every failure ends the run.  It is internal if a generated module has not the shape that decoding
or rewriting needs, external if a tool or the file system failed, and else a problem with the
definition itself.
-/

/-- What a run was trying to do when something outside it failed. -/
inductive Action where
  | readTime (path : Path)
  | deriveName (path : Path)
  | create (path : Path)
  | compile (path : Path)
  | parse (path : Path)
  | prettyPrint (path : Path)
  | normalise (language : String)
  | generateTable (language : String)
  | read (path : Path)
  | write (path : Path)
  | seed (path : Path)
  deriving Repr, DecidableEq

namespace Action

def text : Action -> String
  | readTime path => s!"read the modification time of {path.text}"
  | deriveName path => s!"derive a language name from {path.text}"
  | create path => s!"create {path.text}"
  | compile path => s!"compile {path.text}"
  | parse path => s!"parse {path.text}"
  | prettyPrint path => s!"pretty print {path.text}"
  | normalise language => s!"normalise the grammar of {language}"
  | generateTable language => s!"generate the pretty-print table of {language}"
  | read path => s!"read {path.text}"
  | write path => s!"write {path.text}"
  | seed path => s!"seed the runtime modules into {path.text}"

end Action

inductive OutsideCause where
  | noFileName
  | file (fault : FileFault)
  | tool (error : ToolError)
  deriving DecidableEq

namespace OutsideCause

/-- Whether the failure is the operating system's, whose wording is its own. -/
def isSystem : OutsideCause -> Bool
  | noFileName => false
  | file _ => true
  | tool error => error.isSystem

/-- The wording of each cause that is not the operating system's. -/
def message : OutsideCause -> String
  | noFileName => "definition path has no file name"
  | file _ => "a file cannot be used"
  | tool error => error.message

end OutsideCause

inductive BuildError where
  | decode (error : DecodeError)
  | rewriting (error : RewriteError)
  | definition (language : String) (errors : List String)
  | outside (action : Action) (cause : OutsideCause)
  deriving DecidableEq

inductive BuildErrorKind where
  | internal
  | external
  | definition
  deriving Repr, DecidableEq

namespace BuildError

def kind : BuildError -> BuildErrorKind
  | decode _ => .internal
  | rewriting _ => .internal
  | definition _ _ => .definition
  | outside _ _ => .external

def message : BuildError -> String
  | decode error => s!"a defect in base language processing occurred: {error.message}"
  | rewriting error => s!"a defect in base language processing occurred: {error.message}"
  | definition language errors =>
    s!"while processing the base language definition for {language} the following errors " ++
      "occurred:\n" ++ String.intercalate "\n" errors
  | outside action cause =>
    s!"base language processing failed unexpectedly while trying to {action.text}: " ++
      cause.message

end BuildError
end BaseLanguage
