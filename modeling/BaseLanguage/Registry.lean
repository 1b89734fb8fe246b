import BaseLanguage.Descriptor

namespace BaseLanguage

/-!
# The registry of languages

Descriptors are registered under their names and found by name, by number, or by the extension of
a source file.  A name keeps the number of its first registration; registering it again replaces
the descriptor and gives up the extensions of the old one.  An extension belongs to the language
that claimed it last.

Languages are numbered in the order of their first registration.  A number has thirty-two bits.
-/

/-- The registered languages in the order of their numbers, the number of each name, and the
number of the owner of each claimed extension. -/
structure LanguageRegistry where
  languages : List LanguageDescriptor := []
  numbers : Std.ExtTreeMap String Nat := ∅
  owners : Std.ExtTreeMap String Nat := ∅

namespace LanguageRegistry

def numberBound : Nat :=
  4294967296

def number? (registry : LanguageRegistry) (name : String) : Option Nat :=
  registry.numbers[name]?

def get? (registry : LanguageRegistry) (number : Nat) : Option LanguageDescriptor :=
  registry.languages[number]?

def byName? (registry : LanguageRegistry) (name : String) : Option LanguageDescriptor :=
  (registry.number? name).bind registry.get?

def forExtension? (registry : LanguageRegistry) (extension : String) :
    Option LanguageDescriptor :=
  registry.owners[extension]?.bind registry.get?

/-- The language of a source file, by its extension. -/
def forPath? (registry : LanguageRegistry) (path : Path) : Option LanguageDescriptor :=
  path.extension?.bind registry.forExtension?

/-- Gives an extension to the language with a number, and warns if another one owned it. -/
def claim (number : Nat) (language : LanguageDescriptor)
    (state : LanguageRegistry × List Warning) (extension : String) :
    LanguageRegistry × List Warning :=
  let (registry, warnings) := state
  let claimed := { registry with owners := registry.owners.insert extension number }
  match registry.owners[extension]? with
  | none => (claimed, warnings)
  | some previous =>
    if previous = number then (claimed, warnings)
    else
      let name := ((registry.get? previous).map LanguageDescriptor.name).getD ""
      (claimed, warnings ++ [.extensionClaimed extension language.name name])

/-- The registry with a descriptor in its place, before its extensions are claimed; the number of
that place; and a warning if another descriptor was there. -/
def place (registry : LanguageRegistry) (language : LanguageDescriptor) :
    Nat × LanguageRegistry × List Warning :=
  match registry.number? language.name with
  | some number =>
    (number,
      { registry with
        languages := registry.languages.set number language
        owners := registry.owners.filter (fun _ owner => owner != number) },
      [.languageReplaced language.name])
  | none =>
    let number := registry.languages.length % numberBound
    (number,
      { registry with
        languages := registry.languages ++ [language]
        numbers := registry.numbers.insert language.name number },
      [])

/-- Registers a descriptor: its number, the new registry and the warnings. -/
def register (registry : LanguageRegistry) (language : LanguageDescriptor) :
    Nat × LanguageRegistry × List Warning :=
  let (number, placed, warnings) := registry.place language
  let (claimed, warnings) := language.extensions.foldl (claim number language) (placed, warnings)
  (number, claimed, warnings)

end LanguageRegistry
end BaseLanguage
