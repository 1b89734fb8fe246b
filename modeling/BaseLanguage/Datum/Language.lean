import BaseLanguage.Datum.Basic
import BaseLanguage.Descriptor
import BaseLanguage.Text.Numeral

namespace BaseLanguage

/-!
# Descriptors as data

Namespace kinds and artifact extensions are read from data; descriptors are shown as data.
-/

namespace Positions

/-- The position that a datum is: an integer that is a word. -/
def positionOfDatum? (datum : Datum) : Option Nat := do
  let value ← datum.integer?
  if 0 ≤ value ∧ value < Text.wordBound then some value.toNat else none

def ofDatum? (datum : Datum) : Option Positions := do
  (← datum.fields?).foldlM
    (fun positions (constructor, index) => do
      return positions.insert constructor (← positionOfDatum? index))
    ∅

def toDatum (positions : Positions) : Datum :=
  .record (positions.toList.map (fun (constructor, index) => (constructor, .integer index)))

end Positions

namespace NamespaceKind

/-- The one character of a text. -/
def separatorOfDatum? (datum : Datum) : Option Char := do
  match (← datum.text?).toList with
  | [separator] => some separator
  | _ => none

def name : NamespaceKind -> String
  | flat => "flat"
  | nested _ => "nested"
  | prefixed _ _ => "prefixed"

/-- The kind with a name, from the fields that stand beside the name. -/
def ofFields? (name : String) (fields : List (String × Datum)) : Option NamespaceKind := do
  if name = "flat" then
    return flat
  else if name = "nested" then
    return nested (← Datum.required separatorOfDatum? fields "separator")
  else if name = "prefixed" then
    let separator ← Datum.required separatorOfDatum? fields "separator"
    let suffixes ← Datum.optional Positions.ofDatum? fields "module_suffixes"
    return prefixed separator (suffixes.getD ∅)
  else
    none

/-- The fields of the kind with a name, in their order. -/
def fieldNames (name : String) : List String :=
  if name = "nested" then ["separator"]
  else if name = "prefixed" then ["separator", "module_suffixes"]
  else []

/-- The kind that a datum describes: a record with the name of the kind under `kind`, or a sequence
of the name and the fields. -/
def ofDatum? : Datum -> Option NamespaceKind
  | .record fields => do
    let name ← Datum.required Datum.text? fields "kind"
    ofFields? name fields
  | .sequence (.text name :: items) => do
    let fields ← Datum.fieldsNamed? true (fieldNames name) (.sequence items)
    ofFields? name fields
  | _ => none

def toDatum (kind : NamespaceKind) : Datum :=
  .record (("kind", .text kind.name) ::
    match kind with
    | flat => []
    | nested separator => [("separator", .text (String.ofList [separator]))]
    | prefixed separator suffixes =>
      [("separator", .text (String.ofList [separator])),
        ("module_suffixes", suffixes.toDatum)])

end NamespaceKind

namespace ArtifactExtensions

/-- The extensions that a datum gives; those that it leaves out are the usual ones. -/
def ofDatum? (exact : Bool) (datum : Datum) : Option ArtifactExtensions := do
  let fields ← datum.fieldsNamed? exact ["grammar", "rules"]
  let grammar ← Datum.optional Datum.text? fields "grammar"
  let rules ← Datum.optional Datum.text? fields "rules"
  let usual : ArtifactExtensions := {}
  return ⟨grammar.getD usual.grammar, rules.getD usual.rules⟩

end ArtifactExtensions

namespace ArtifactPaths

def toDatum (paths : ArtifactPaths) : Datum :=
  .record (paths.toList.map (fun (kind, path) => (kind.key, .text path.text)))

end ArtifactPaths

namespace ConstructorArgument

/-- A constructor with its index. -/
def toDatum (argument : ConstructorArgument) : Datum :=
  .record [("constructor", .text argument.constructor), ("index", .integer argument.index)]

end ConstructorArgument

namespace LanguageDescriptor

def datumFields (language : LanguageDescriptor) : List (String × Datum) :=
  let facts := language.facts
  [("name", .text language.name),
    ("toplevel_nonterminal", Datum.ofOption .text facts.toplevelNonterminal),
    ("base_file_extension", Datum.ofOption .text facts.baseFileExtension),
    ("extended_file_extension", Datum.ofOption .text facts.extendedFileExtension),
    ("body_declarations", .sequence (facts.bodyDeclarations.toList.map .text)),
    ("namespace_declaration",
      Datum.ofOption ConstructorArgument.toDatum facts.namespaceDeclaration),
    ("import_declarations", facts.importDeclarations.toDatum),
    ("namespace_kind", language.namespaceKind.toDatum),
    ("artifacts", language.artifacts.toDatum)]

def toDatum (language : LanguageDescriptor) : Datum :=
  .record language.datumFields

end LanguageDescriptor
end BaseLanguage
