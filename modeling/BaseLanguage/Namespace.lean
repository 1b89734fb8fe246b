import BaseLanguage.Path
import Std.Data.ExtTreeMap

namespace BaseLanguage

/-!
# Namespaces

A language relates the name that a source file declares to the place where the file lies, in one
of three ways.  In a flat language the declared name is the file's; in a nested one it is a
qualified name, whose front part is the directory and whose last part is the file's name; in a
prefixed one it names the directory alone.

`NamespaceKind.resolve` accepts a declared name for a file or says how the two differ.
-/

abbrev Positions := Std.ExtTreeMap String Nat

/-- How declared names relate to the places of source files. -/
inductive NamespaceKind where
  /-- The declared name is the name of the file. -/
  | flat
  /-- The declared name is qualified, with `separator` between its parts. -/
  | nested (separator : Char)
  /-- The declared name is that of the directory, with `separator` between its parts.  The
  constructors in `suffixes` declare the name of the module at the given child. -/
  | prefixed (separator : Char) (suffixes : Positions)
  deriving DecidableEq

/-- The place of a source file: its directory, with slashes, and its name without extension. -/
structure ModuleLocation where
  namespaceName : String
  moduleName : String
  deriving Repr, DecidableEq

/-- How a declared name differs from the place of its file. -/
inductive NameMismatch where
  | namespaceName (declared expected : String)
  | moduleName (declared expected : String)
  deriving Repr, DecidableEq

namespace NameMismatch

def message : NameMismatch -> String
  | .namespaceName declared expected =>
    s!"the declared namespace '{declared}' does not match the expected namespace '{expected}'"
  | .moduleName declared expected =>
    s!"the declared module name '{declared}' does not match the expected module name '{expected}'"

end NameMismatch

namespace ModuleLocation

/-- The place of a file, from its path below the source root. -/
def ofFile (file : Path) : ModuleLocation where
  namespaceName :=
    match file.parent? with
    | some directory =>
      String.ofList (Text.join '/' (directory.components.map Path.Component.chars))
    | none => ""
  moduleName := file.fileStem?.getD ""

end ModuleLocation

/-- Accepts a declared module name that is the expected one. -/
def expectModuleName (declared expected : String) : Except NameMismatch Unit :=
  if declared = expected then .ok () else .error (.moduleName declared expected)

/-- Accepts a declared namespace that is the expected one. -/
def expectNamespace (declared expected : String) : Except NameMismatch Unit :=
  if declared = expected then .ok () else .error (.namespaceName declared expected)

namespace NamespaceKind

def separator? : NamespaceKind -> Option Char
  | flat => none
  | nested separator => some separator
  | prefixed separator _ => some separator

/-- A declared or imported name as a path. -/
def modulePath (kind : NamespaceKind) (identifier : String) : String :=
  match kind.separator? with
  | some separator => String.ofList (Text.replace separator '/' identifier.toList)
  | none => identifier

/-- The child at which a constructor declares the name of the module. -/
def suffixIndex? (kind : NamespaceKind) (constructor : String) : Option Nat :=
  match kind with
  | prefixed _ suffixes => suffixes[constructor]?
  | _ => none

/-- A qualified path cut at its last slash; without a slash the directory is empty. -/
def cutQualified (path : String) : String × String :=
  match Text.splitLast? '/' path.toList with
  | some (directory, name) => (String.ofList directory, String.ofList name)
  | none => ("", path)

/-- The place that a file's declared name stands for, if the file lies there. -/
def resolve (kind : NamespaceKind) (identifier : String) (file : Path) :
    Except NameMismatch ModuleLocation := do
  let place := ModuleLocation.ofFile file
  match kind with
  | flat =>
    expectModuleName identifier place.moduleName
    return ⟨"", identifier⟩
  | nested _ =>
    let (directory, name) := cutQualified (kind.modulePath identifier)
    expectNamespace directory place.namespaceName
    expectModuleName name place.moduleName
    return place
  | prefixed _ _ =>
    expectNamespace (kind.modulePath identifier) place.namespaceName
    return place

end NamespaceKind
end BaseLanguage
