import Std.Data.HashMap

namespace BaseLanguage

/-!
# Ledgers

A ledger holds values by their keys, and tells the keys in the order in which they were first put in.
A key that is put in again keeps its place; one that was taken out gets a new one.
-/

/-- Values by keys, in the order in which the keys came. -/
structure Ledger (κ α : Type) [BEq κ] [Hashable κ] where
  /-- The values, with the turns in which their keys came. -/
  entries : Std.HashMap κ (Nat × α) := ∅
  /-- The turn of the next key. -/
  next : Nat := 0

namespace Ledger

variable {κ α : Type} [BEq κ] [Hashable κ]

instance : Inhabited (Ledger κ α) := ⟨{}⟩

def size (ledger : Ledger κ α) : Nat :=
  ledger.entries.size

def get? (ledger : Ledger κ α) (key : κ) : Option α :=
  ledger.entries[key]?.map Prod.snd

def contains (ledger : Ledger κ α) (key : κ) : Bool :=
  ledger.entries.contains key

def insert (ledger : Ledger κ α) (key : κ) (value : α) : Ledger κ α :=
  match ledger.entries[key]? with
  | some (turn, _) => { ledger with entries := ledger.entries.insert key (turn, value) }
  | none =>
    { entries := ledger.entries.insert key (ledger.next, value), next := ledger.next + 1 }

def erase (ledger : Ledger κ α) (key : κ) : Ledger κ α :=
  { ledger with entries := ledger.entries.erase key }

def toList (ledger : Ledger κ α) : List (κ × α) :=
  let found := ledger.entries.toList.map fun (key, turn, value) => (turn, key, value)
  (found.mergeSort (fun left right => left.1 ≤ right.1)).map Prod.snd

def keys (ledger : Ledger κ α) : List κ :=
  ledger.toList.map Prod.fst

def values (ledger : Ledger κ α) : List α :=
  ledger.toList.map Prod.snd

/-- The ledger into which pairs are put, one after the other. -/
def ofList (pairs : List (κ × α)) : Ledger κ α :=
  pairs.foldl (fun ledger pair => ledger.insert pair.1 pair.2) {}

end Ledger
end BaseLanguage
