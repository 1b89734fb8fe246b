namespace BaseLanguage
namespace Deflate

/-!
# Codes of symbols

Symbols that are frequent get short codes.  The lengths of the codes fix the codes themselves: codes of
one length follow each other, and shorter codes come first.  So the lengths alone are told.
-/

/-- The code of a symbol: its bits, the first one to be written as the lowest, and their number. -/
structure Code where
  bits : Nat
  length : Nat
  deriving Repr, DecidableEq, Inhabited

/-- The lowest bits of a number in the opposite order. -/
def reversed : Nat -> Nat -> Nat
  | 0, _ => 0
  | width + 1, value => value % 2 * Nat.pow 2 width + reversed width (value / 2)

def lengthCounts (lengths : Array Nat) : Array Nat :=
  lengths.foldl (fun counts length => if length = 0 then counts else counts.modify length (· + 1))
    (Array.replicate 17 0)

def firstCodes (lengths : Array Nat) : Array Nat :=
  let counts := lengthCounts lengths
  let step (found : Array Nat × Nat) (length : Nat) : Array Nat × Nat :=
    let code := 2 * (found.2 + counts.getD (length - 1) 0)
    (found.1.push code, code)
  ((List.range 16).map (· + 1)).foldl step (#[0], 0) |>.1

/-- One more code, of a length; the second part holds the next code of each length. -/
def withCode (found : Array Code × Array Nat) (length : Nat) : Array Code × Array Nat :=
  if length = 0 then (found.1.push ⟨0, 0⟩, found.2)
  else
    let code := found.2.getD length 0
    (found.1.push ⟨reversed length code, length⟩, found.2.setIfInBounds length (code + 1))

def codesOf (lengths : Array Nat) : Array Code :=
  (lengths.foldl withCode (#[], firstCodes lengths)).1

/-- Each length adds one code. -/
theorem withCode_size (found : Array Code × Array Nat) (length : Nat) :
    (withCode found length).1.size = found.1.size + 1 := by
  unfold withCode
  split <;> simp

/-- There is one code for each length. -/
theorem codesOf_size (lengths : Array Nat) : (codesOf lengths).size = lengths.size := by
  have general : ∀ (rest : List Nat) (found : Array Code × Array Nat),
      (rest.foldl withCode found).1.size = found.1.size + rest.length := by
    intro rest
    induction rest with
    | nil => intro found; simp
    | cons length rest hypothesis =>
      intro found
      rw [List.foldl_cons, hypothesis, withCode_size, List.length_cons]
      omega
  rw [codesOf, ← Array.foldl_toList, general]
  simp

/-! ## The best lengths -/

/-- The rarest symbols and the trees of them, in an order in which the rarest stands first. -/
structure Forest where
  /-- The trees: those of one symbol first, then the joined ones. -/
  weights : Array Nat
  depths : Array Nat
  parents : Array Nat
  /-- The trees that are not joined yet, from the place with number one on. -/
  heap : Array Nat := #[0]
  /-- The trees in the order in which they were joined, the last one first. -/
  joined : List Nat := []

namespace Forest

/-- Whether a tree is to be joined before another. -/
def isBefore (forest : Forest) (first second : Nat) : Bool :=
  let left := forest.weights.getD first 0
  let right := forest.weights.getD second 0
  left < right || (left = right && forest.depths.getD first 0 ≤ forest.depths.getD second 0)

/-- Lets the tree at a place sink to where it belongs. -/
def sink (forest : Forest) (tree : Nat) : Nat -> Nat -> Forest
  | 0, place => { forest with heap := forest.heap.setIfInBounds place tree }
  | limit + 1, place =>
    let last := forest.heap.size - 1
    let left := 2 * place
    if last < left then { forest with heap := forest.heap.setIfInBounds place tree }
    else
      let child :=
        if left < last &&
            forest.isBefore (forest.heap.getD (left + 1) 0) (forest.heap.getD left 0) then left + 1
        else left
      if forest.isBefore tree (forest.heap.getD child 0) then
        { forest with heap := forest.heap.setIfInBounds place tree }
      else
        let risen := { forest with
          heap := forest.heap.setIfInBounds place (forest.heap.getD child 0) }
        sink risen tree limit child

/-- Lets the tree at a place sink. -/
def settle (forest : Forest) (place : Nat) : Forest :=
  forest.sink (forest.heap.getD place 0) forest.heap.size place

def ordered (forest : Forest) : Nat -> Forest
  | 0 => forest
  | place + 1 => ordered (forest.settle (place + 1)) place

/-- Joins the two rarest trees until one is left. -/
def join : Nat -> Forest -> Forest
  | 0, forest => forest
  | limit + 1, forest =>
    if forest.heap.size ≤ 2 then { forest with joined := forest.heap.getD 1 0 :: forest.joined }
    else
      let first := forest.heap.getD 1 0
      let last := forest.heap.getD (forest.heap.size - 1) 0
      let forest := { forest with heap := (forest.heap.pop).setIfInBounds 1 last }
      let forest := forest.settle 1
      let second := forest.heap.getD 1 0
      let tree := forest.weights.size
      let depth := max (forest.depths.getD first 0) (forest.depths.getD second 0) + 1
      let weight := forest.weights.getD first 0 + forest.weights.getD second 0
      let forest : Forest :=
        { weights := forest.weights.push weight
          depths := forest.depths.push depth
          parents := ((forest.parents.setIfInBounds first tree).setIfInBounds second tree).push 0
          heap := forest.heap.setIfInBounds 1 tree
          joined := second :: first :: forest.joined }
      join limit (forest.settle 1)

end Forest

/-- The symbols that get a code: those that occur, and others as long as there are fewer than two. -/
def codedSymbols (weights : Array Nat) : List Nat :=
  let found := (List.range weights.size).filter (weights.getD · 0 ≠ 0)
  match found with
  | [] => [0, 1]
  | [symbol] => if symbol < 2 then [symbol, symbol + 1] else [symbol, 0]
  | symbols => symbols

/-- Takes away codes of the greatest length that are too many. -/
def shortened (most : Nat) : Nat -> Nat -> Array Nat -> Array Nat
  | 0, _, counts => counts
  | _, 0, counts => counts
  | limit + 1, excess + 1, counts =>
    let shorter := ((List.range most).reverse.find? (counts.getD · 0 ≠ 0)).getD 0
    let counts := counts.modify shorter (· - 1)
    let counts := counts.modify (shorter + 1) (· + 2)
    shortened most limit (excess - 1) (counts.modify most (· - 1))

/-- Gives lengths to symbols, the greatest length to the first ones. -/
def assigned (counts : Array Nat) : Nat -> List Nat -> Array Nat -> Array Nat
  | 0, _, lengths => lengths
  | length + 1, symbols, lengths =>
    let count := counts.getD (length + 1) 0
    let lengths := (symbols.take count).foldl
      (fun lengths symbol => lengths.setIfInBounds symbol (length + 1)) lengths
    assigned counts length (symbols.drop count) lengths

/-- The lengths of codes, none greater than the greatest, with which symbols that occur so often are
written shortest. -/
def bestLengths (weights : Array Nat) (most : Nat) : Array Nat :=
  let size := weights.size
  let symbols := codedSymbols weights
  let given := symbols.foldl
    (fun weights symbol =>
      if weights.getD symbol 0 = 0 then weights.setIfInBounds symbol 1 else weights)
    weights
  let start : Forest :=
    { weights := given
      depths := Array.replicate size 0
      parents := Array.replicate size 0
      heap := #[0] ++ symbols.toArray }
  let forest := (start.ordered (symbols.length / 2)).join (symbols.length + 1)
  let step (found : Array Nat × Nat) (tree : Nat) : Array Nat × Nat :=
    let length := found.1.getD (forest.parents.getD tree 0) 0 + 1
    if most < length then (found.1.setIfInBounds tree most, found.2 + 1)
    else (found.1.setIfInBounds tree length, found.2)
  let (lengths, excess) := (forest.joined.drop 1).foldl step
    (Array.replicate forest.weights.size 0, 0)
  let leaves := forest.joined.filter (· < size)
  let plain := lengths.extract 0 size
  if excess = 0 then plain
  else
    let counts := lengthCounts (leaves.toArray.map (plain.getD · 0))
    assigned (shortened most excess excess counts) most leaves.reverse plain

/-- How many bits symbols take that occur so often, with so many bits behind each code. -/
def sizeOf (weights lengths extra : Array Nat) : Nat :=
  (List.range weights.size).foldl
    (fun size symbol =>
      size + weights.getD symbol 0 * (lengths.getD symbol 0 + extra.getD symbol 0)) 0

/-! ## The symbols -/

/-- The bits behind the codes of lengths. -/
def lengthExtras : Array Nat :=
  #[0, 0, 0, 0, 0, 0, 0, 0, 1, 1, 1, 1, 2, 2, 2, 2, 3, 3, 3, 3, 4, 4, 4, 4, 5, 5, 5, 5, 0]

/-- The bits behind the codes of distances. -/
def distanceExtras : Array Nat :=
  #[0, 0, 0, 0, 1, 1, 2, 2, 3, 3, 4, 4, 5, 5, 6, 6, 7, 7, 8, 8, 9, 9, 10, 10, 11, 11, 12, 12, 13, 13]

/-- The first values of symbols with so many bits behind them. -/
def firstValues (first : Nat) (extras : Array Nat) : Array Nat :=
  (extras.foldl (fun (found : Array Nat × Nat) extra =>
    (found.1.push found.2, found.2 + Nat.pow 2 extra)) (#[], first)).1

/-- The shortest lengths of each symbol; the last symbol stands for the greatest length alone. -/
def firstLengths : Array Nat := (firstValues 3 lengthExtras).setIfInBounds 28 258

def firstDistances : Array Nat := firstValues 1 distanceExtras

/-- The last symbol whose first value is not beyond a value. -/
def symbolOf (firsts : Array Nat) (value : Nat) : Nat :=
  firsts.foldl (fun count first => if first ≤ value then count + 1 else count) 0 - 1

def lengthSymbols : Array Nat := ((List.range 259).map (symbolOf firstLengths)).toArray

/-- The symbols of near distances, and of others in steps of so many. -/
def nearSymbols (step : Nat) : Array Nat :=
  ((List.range 257).map fun place => symbolOf firstDistances (step * place + 1)).toArray

def closeSymbols : Array Nat := nearSymbols 1

def wideSymbols : Array Nat := nearSymbols 128

def distanceSymbol (distance : Nat) : Nat :=
  let place := distance - 1
  if place < 256 then closeSymbols.getD place 0 else wideSymbols.getD (place / 128) 0

/-- The symbol behind the octets that ends a block. -/
def endSymbol : Nat := 256

/-- The lengths of the codes that are known without being told. -/
def knownLengths : Array Nat :=
  Array.replicate 144 8 ++ Array.replicate 112 9 ++ Array.replicate 24 7 ++ Array.replicate 8 8

def knownDistanceLengths : Array Nat := Array.replicate 30 5

/-- The order in which the lengths of the codes of lengths are told. -/
def tellingOrder : List Nat := [16, 17, 18, 0, 8, 7, 9, 6, 10, 5, 11, 4, 12, 3, 13, 2, 14, 1, 15]

end Deflate
end BaseLanguage
