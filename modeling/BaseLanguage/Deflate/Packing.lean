import BaseLanguage.Deflate.Code

namespace BaseLanguage
namespace Deflate

/-!
# Texts that stand in a text again

A text is told as octets and as copies of what stands in front of them.  Where a longer copy begins one
octet later, the octet is told and the longer copy is waited for.
-/

inductive Step where
  | octet (byte : UInt8)
  | copy (length distance : Nat)
  deriving Repr, DecidableEq

namespace Step

def apply (text : ByteArray) : Step -> ByteArray
  | .octet byte => text.push byte
  | .copy length distance =>
    (List.range length).foldl (fun text _ => text.push (text.get! (text.size - distance))) text

end Step

/-- How much work is done to find copies. -/
structure Effort where
  /-- The length of a copy from which less is tried to find a longer one. -/
  good : Nat
  /-- The length of a copy from which none is waited for. -/
  lazy : Nat
  /-- The length of a copy with which the search ends. -/
  nice : Nat
  /-- How many places are tried. -/
  chain : Nat
  /-- Whether longer copies are waited for. -/
  waits : Bool := true
  /-- Whether a block may end as soon as that seems good. -/
  guesses : Bool := true
  deriving Repr, DecidableEq

def Effort.ofLevel (level : Nat) : Effort :=
  match level with
  | 1 => { good := 4, lazy := 4, nice := 8, chain := 4, waits := false, guesses := false }
  | 2 => { good := 4, lazy := 5, nice := 16, chain := 8, waits := false, guesses := false }
  | 3 => { good := 4, lazy := 6, nice := 32, chain := 32, waits := false }
  | 4 => { good := 4, lazy := 4, nice := 16, chain := 16 }
  | 5 => { good := 8, lazy := 16, nice := 32, chain := 32 }
  | 6 => { good := 8, lazy := 16, nice := 128, chain := 128 }
  | 7 => { good := 8, lazy := 32, nice := 128, chain := 256 }
  | 8 => { good := 32, lazy := 128, nice := 258, chain := 1024 }
  | _ => { good := 32, lazy := 258, nice := 258, chain := 4096 }

def shortestCopy : Nat := 3

def longestCopy : Nat := 258

/-- The greatest distance of a copy. -/
def farthestCopy : Nat := 32506

/-- The distance from which the shortest copies do not count. -/
def farForShort : Nat := 4096

/-- The octet at a place of a text; nothing stands behind the end. -/
def byteAt (text : ByteArray) (place : Nat) : Nat :=
  if place < text.size then (text.get! place).toNat else 0

/-- The drawer in which places are kept where three octets stand. -/
def drawerOf (text : ByteArray) (place : Nat) : Nat :=
  (Nat.xor (Nat.xor (byteAt text place * 1024) (byteAt text (place + 1) * 32))
    (byteAt text (place + 2))) % 32768

/-- The places that were passed, by the octets that stand there.  The place at the start of the text
stands for no place. -/
structure Passed where
  drawers : Array Nat := Array.replicate 32768 0
  /-- The place in front of each place in its drawer. -/
  before : Array Nat := Array.replicate 32768 0

/-- Keeps a place; the result tells the last one in the same drawer. -/
def Passed.keep (passed : Passed) (text : ByteArray) (place : Nat) : Passed × Nat :=
  let drawer := drawerOf text place
  let last := passed.drawers.getD drawer 0
  match passed with
  | ⟨drawers, before⟩ =>
    (⟨drawers.setIfInBounds drawer place, before.setIfInBounds (place % 32768) last⟩, last)

def Passed.keepAll (text : ByteArray) : Nat -> Nat -> Passed -> Passed
  | 0, _, passed => passed
  | count + 1, place, passed => keepAll text count (place + 1) (passed.keep text place).1

/-- How many octets are the same from two places on, at most so many. -/
def sameCount (text : ByteArray) (first second : Nat) : Nat -> Nat -> Nat
  | 0, count => count
  | limit + 1, count =>
    if byteAt text (first + count) = byteAt text (second + count) then
      sameCount text first second limit (count + 1)
    else count

/-- The longest copy for a place that is longer than a length: its length, and where it stands. -/
def longestMatch (text : ByteArray) (before : Array Nat) (place nice : Nat) :
    Nat -> Nat -> Nat × Nat -> Nat × Nat
  | 0, _, found => found
  | chain + 1, candidate, found =>
    let mayBeLonger := byteAt text (candidate + found.1) = byteAt text (place + found.1)
    let length := if mayBeLonger then sameCount text candidate place longestCopy 0 else 0
    let found := if found.1 < length then (length, candidate) else found
    if found.1 = length && nice ≤ length then found
    else
      let next := before.getD (candidate % 32768) 0
      if next ≤ place - farthestCopy then found
      else longestMatch text before place nice chain next found

/-! ## Blocks -/

structure Gathered where
  steps : Array Step := #[]
  copies : Nat := 0
  symbols : Array Nat := Array.replicate 286 0
  distances : Array Nat := Array.replicate 30 0
  /-- Where the text of the block begins. -/
  start : Nat := 0

/-- The most steps of a block, and one more. -/
def blockSteps : Nat := 32767

def Gathered.add (gathered : Gathered) (step : Step) : Gathered :=
  match gathered with
  | ⟨steps, copies, symbols, distances, start⟩ =>
    match step with
    | .octet byte => ⟨steps.push step, copies, symbols.modify byte.toNat (· + 1), distances, start⟩
    | .copy length distance =>
      ⟨steps.push step, copies + 1, symbols.modify (257 + lengthSymbols.getD length 0) (· + 1),
        distances.modify (distanceSymbol distance) (· + 1), start⟩

/-- Whether a block ends here, where the text is told up to a place. -/
def Gathered.isFull (gathered : Gathered) (effort : Effort) (place : Nat) : Bool :=
  let count := gathered.steps.size
  let seemsGood :=
    if effort.guesses && count % 4096 = 0 then
      let far := (List.range 30).foldl
        (fun size symbol =>
          size + gathered.distances.getD symbol 0 * (5 + distanceExtras.getD symbol 0)) 0
      gathered.copies < count / 2 && (count * 8 + far) / 8 < (place - gathered.start) / 2
    else false
  seemsGood || count = blockSteps || gathered.copies = 32768

structure Block where
  gathered : Gathered
  last : Nat

structure Telling where
  passed : Passed := {}
  gathered : Gathered := {}
  /-- The blocks that are full, the last one first. -/
  blocks : List Block := []

def Telling.add (telling : Telling) (step : Step) : Telling :=
  match telling with
  | ⟨passed, gathered, blocks⟩ => ⟨passed, gathered.add step, blocks⟩

/-- Begins a new block if the present one is to end. -/
def Telling.close (telling : Telling) (isFull : Bool) (place : Nat) : Telling :=
  if isFull then
    { telling with
      gathered := { start := place }
      blocks := ⟨telling.gathered, place⟩ :: telling.blocks }
  else telling

/-- Keeps places. -/
def Telling.keepAll (telling : Telling) (text : ByteArray) (place count : Nat) : Telling :=
  match telling with
  | ⟨passed, gathered, blocks⟩ => ⟨Passed.keepAll text count place passed, gathered, blocks⟩

/-- Keeps a place; the result tells the last one in the same drawer. -/
def Telling.keep (telling : Telling) (text : ByteArray) (place : Nat) : Telling × Nat :=
  match telling with
  | ⟨passed, gathered, blocks⟩ =>
    let (passed, last) := passed.keep text place
    (⟨passed, gathered, blocks⟩, last)

/-- A copy that was found: its length and where it stands. -/
abbrev Found := Nat × Nat

/-- The copy for a place that is longer than a length, if there is one. -/
def Telling.search (telling : Telling) (effort : Effort) (text : ByteArray)
    (place candidate chain least : Nat) : Found :=
  if candidate = 0 || farthestCopy < place - candidate then (shortestCopy - 1, 0)
  else
    let (length, start) :=
      longestMatch text telling.passed.before place effort.nice chain candidate (least, 0)
    (min length (text.size - place), start)

/-- Tells a text, with each longest copy that is found. -/
def tellAtOnce (effort : Effort) (text : ByteArray) : Nat -> Nat -> Telling -> Telling
  | 0, _, telling => telling
  | limit + 1, place, telling =>
    if text.size ≤ place then telling
    else
      let (telling, candidate) := telling.keep text place
      let (length, start) :=
        telling.search effort text place candidate effort.chain (shortestCopy - 1)
      if shortestCopy ≤ length then
        let telling := telling.add (.copy length (place - start))
        let isFull := telling.gathered.isFull effort place
        let telling :=
          if length ≤ effort.lazy then telling.keepAll text (place + 1) (length - 1) else telling
        tellAtOnce effort text limit (place + length) (telling.close isFull (place + length))
      else
        let telling := telling.add (.octet (text.get! place))
        let isFull := telling.gathered.isFull effort place
        tellAtOnce effort text limit (place + 1) (telling.close isFull (place + 1))

/-- Tells a text; a copy that was found for the octet in front waits, whether a longer one follows. -/
def tellWaiting (effort : Effort) (text : ByteArray) :
    Nat -> Nat -> Bool -> Found -> Telling -> Telling
  | 0, _, _, _, telling => telling
  | limit + 1, place, isPending, (length, start), telling =>
    if text.size ≤ place then
      if isPending then telling.add (.octet (text.get! (place - 1))) else telling
    else
      let (telling, candidate) := telling.keep text place
      let chain := if effort.good ≤ length then effort.chain / 4 else effort.chain
      let found :=
        if length < effort.lazy then telling.search effort text place candidate chain length
        else (shortestCopy - 1, 0)
      let found :=
        if found.1 = shortestCopy && farForShort < place - found.2 then (shortestCopy - 1, 0)
        else found
      if shortestCopy ≤ length && found.1 ≤ length then
        let telling := telling.add (.copy length (place - 1 - start))
        let isFull := telling.gathered.isFull effort place
        let telling := telling.keepAll text (place + 1) (length - 2)
        let next := place + length - 1
        tellWaiting effort text limit next false (shortestCopy - 1, 0) (telling.close isFull next)
      else if isPending then
        let telling := telling.add (.octet (text.get! (place - 1)))
        let isFull := telling.gathered.isFull effort place
        tellWaiting effort text limit (place + 1) true found (telling.close isFull place)
      else tellWaiting effort text limit (place + 1) true found telling

def blocksOf (effort : Effort) (text : ByteArray) : List Block :=
  let telling :=
    if effort.waits then tellWaiting effort text (text.size + 1) 0 false (shortestCopy - 1, 0) {}
    else tellAtOnce effort text (text.size + 1) 0 {}
  (⟨telling.gathered, text.size⟩ :: telling.blocks).reverse

/-!
## Packed texts

Each block is written in the shortest of three ways: as it is, with codes that are known, or with codes
of its own, which are told first.
-/

/-- Bits that are gathered to octets. -/
structure Bits where
  octets : ByteArray := ByteArray.empty
  held : Nat := 0
  count : Nat := 0

namespace Bits

def flush : Nat -> Bits -> Bits
  | 0, bits => bits
  | limit + 1, ⟨octets, held, count⟩ =>
    if count < 8 then ⟨octets, held, count⟩
    else flush limit ⟨octets.push (UInt8.ofNat (held % 256)), held / 256, count - 8⟩

/-- Writes a number with so many bits, the lowest first. -/
def put (bits : Bits) (value width : Nat) : Bits :=
  match bits with
  | ⟨octets, held, count⟩ => flush 4 ⟨octets, held + value * Nat.pow 2 count, count + width⟩

def putCode (bits : Bits) (code : Code) : Bits := bits.put code.bits code.length

/-- Goes on with the next octet. -/
def align (bits : Bits) : Bits := if bits.count = 0 then bits else bits.put 0 (8 - bits.count)

def putOctets (bits : Bits) (octets : ByteArray) : Bits :=
  match bits with
  | ⟨written, held, count⟩ => ⟨written ++ octets, held, count⟩

end Bits

/-- A number of two octets, the lowest first. -/
def twoOctets (value : Nat) : ByteArray :=
  ⟨#[UInt8.ofNat (value % 256), UInt8.ofNat (value / 256 % 256)]⟩

/-! ## Lengths of codes -/

/-- A symbol for lengths of codes, with bits behind it. -/
structure LengthSymbol where
  symbol : Nat
  value : Nat := 0
  width : Nat := 0
  deriving Repr, DecidableEq

def runSymbols (length count : Nat) (isNew : Bool) : List LengthSymbol :=
  let single : LengthSymbol := { symbol := length }
  if length ≠ 0 then
    let (first, rest) := if isNew then ([single], count - 1) else ([], count)
    if isNew && count < 4 || !isNew && count < 3 then List.replicate count single
    else first ++ [{ symbol := 16, value := rest - 3, width := 2 }]
  else if count < 3 then List.replicate count single
  else if count ≤ 10 then [{ symbol := 17, value := count - 3, width := 3 }]
  else [{ symbol := 18, value := count - 11, width := 7 }]

/-- The symbols for lengths, where the same length stands so often in front of the rest. -/
def symbolsFrom (previous : Option Nat) (length : Nat) : Nat -> List Nat -> List LengthSymbol
  | count, [] => runSymbols length count (previous ≠ some length)
  | count, next :: rest =>
    let isNew := previous ≠ some length
    let most := if length = 0 then 138 else if isNew then 7 else 6
    if next = length && count < most then symbolsFrom previous length (count + 1) rest
    else runSymbols length count isNew ++ symbolsFrom (some length) next 1 rest

def lengthSymbolsOf (lengths : List Nat) : List LengthSymbol :=
  match lengths with
  | [] => []
  | first :: rest => symbolsFrom none first 1 rest

def symbolCounts (symbols : List LengthSymbol) : Array Nat :=
  symbols.foldl (fun counts symbol => counts.modify symbol.symbol (· + 1)) (Array.replicate 19 0)

/-- The number of lengths up to the last one that is not zero, and at least so many. -/
def toldCount (least : Nat) (lengths : Array Nat) : Nat :=
  (List.range lengths.size).foldl
    (fun count place => if lengths.getD place 0 = 0 then count else place + 1) least

/-! ## Blocks -/

structure Codes where
  symbols : Array Code
  distances : Array Code

def putStep (codes : Codes) (bits : Bits) (step : Step) : Bits :=
  match step with
  | .octet byte => bits.putCode (codes.symbols.getD byte.toNat default)
  | .copy length distance =>
    let symbol := lengthSymbols.getD length 0
    let bits := bits.putCode (codes.symbols.getD (257 + symbol) default)
    let bits := bits.put (length - firstLengths.getD symbol 0) (lengthExtras.getD symbol 0)
    let symbol := distanceSymbol distance
    let bits := bits.putCode (codes.distances.getD symbol default)
    bits.put (distance - firstDistances.getD symbol 0) (distanceExtras.getD symbol 0)

/-- Writes the steps of a block and its end. -/
def putSteps (codes : Codes) (steps : Array Step) (bits : Bits) : Bits :=
  (steps.foldl (putStep codes) bits).putCode (codes.symbols.getD endSymbol default)

def knownCodes : Codes :=
  { symbols := codesOf knownLengths, distances := codesOf knownDistanceLengths }

def symbolExtras : Array Nat := Array.replicate 257 0 ++ lengthExtras

def putBlock (text : ByteArray) (isLast : Bool) (block : Block) (bits : Bits) : Bits :=
  let gathered := block.gathered
  let mark (kind : Nat) : Nat := 2 * kind + (if isLast then 1 else 0)
  let weights := gathered.symbols.modify endSymbol (· + 1)
  let symbols := bestLengths weights 15
  let distances := bestLengths gathered.distances 15
  let symbolCount := toldCount 257 symbols
  let distanceCount := toldCount 1 distances
  let told := lengthSymbolsOf (symbols.extract 0 symbolCount).toList ++
    lengthSymbolsOf (distances.extract 0 distanceCount).toList
  let counts := symbolCounts told
  let lengths := bestLengths counts 7
  let toldLengths := (tellingOrder.zipIdx.foldl
    (fun count (symbol, place) => if lengths.getD symbol 0 = 0 then count else place + 1) 4)
  let ownSize := sizeOf weights symbols symbolExtras +
    sizeOf gathered.distances distances distanceExtras +
    sizeOf counts lengths #[0, 0, 0, 0, 0, 0, 0, 0, 0, 0, 0, 0, 0, 0, 0, 0, 2, 3, 7] +
    3 * toldLengths + 14
  let knownSize := sizeOf weights knownLengths symbolExtras +
    sizeOf gathered.distances knownDistanceLengths distanceExtras
  let ownOctets := (ownSize + 10) / 8
  let knownOctets := (knownSize + 10) / 8
  let best := min ownOctets knownOctets
  let size := block.last - gathered.start
  if size + 4 ≤ best then
    let bits := (bits.put (mark 0) 3).align
    let bits := bits.putOctets (twoOctets size)
    let bits := bits.putOctets (twoOctets (65535 - size))
    bits.putOctets (text.extract gathered.start block.last)
  else if knownOctets = best then putSteps knownCodes gathered.steps (bits.put (mark 1) 3)
  else
    let bits := bits.put (mark 2) 3
    let bits := bits.put (symbolCount - 257) 5
    let bits := bits.put (distanceCount - 1) 5
    let bits := bits.put (toldLengths - 4) 4
    let bits := (tellingOrder.take toldLengths).foldl
      (fun bits symbol => bits.put (lengths.getD symbol 0) 3) bits
    let lengthCodes := codesOf lengths
    let bits := told.foldl
      (fun bits symbol =>
        (bits.putCode (lengthCodes.getD symbol.symbol default)).put symbol.value symbol.width) bits
    putSteps { symbols := codesOf symbols, distances := codesOf distances } gathered.steps bits

/-- Writes blocks, the last of which is the last of the text. -/
def putBlocks (text : ByteArray) : List Block -> Bits -> Bits
  | [], bits => bits
  | [block], bits => (putBlock text true block bits).align
  | block :: rest, bits => putBlocks text rest (putBlock text false block bits)

def packed (effort : Effort) (text : ByteArray) : ByteArray :=
  (putBlocks text (blocksOf effort text) {}).octets

/-!
## Unpacked texts

A packed text is read bit by bit.  The codes of a block are known, or are told by their lengths.
-/

/-- Why a packed text cannot be read on. -/
inductive Damage where
  /-- The octets end too early. -/
  | ended
  /-- The octets are no packed text. -/
  | wrong
  deriving Repr, DecidableEq

structure Reading where
  octets : ByteArray
  /-- The number of bits that were read. -/
  place : Nat
  text : ByteArray := ByteArray.empty

/-- Steps of reading.  What was read before some damage stays. -/
abbrev Reader := ExceptT Damage (StateM Reading)

def takeBit : Reader Nat := do
  let reading ← get
  let number := reading.place / 8
  if number < reading.octets.size then
    set { reading with place := reading.place + 1 }
    return (reading.octets.get! number).toNat / Nat.pow 2 (reading.place % 8) % 2
  else throw .ended

/-- A number of so many bits, the lowest first. -/
def takeBits : Nat -> Reader Nat
  | 0 => return 0
  | width + 1 => do
    let bit ← takeBit
    return bit + 2 * (← takeBits width)

/-- Codes to be read: how many there are of each length, and the symbols in the order of their
codes. -/
structure Decoder where
  counts : Array Nat
  symbols : Array Nat

def Decoder.ofLengths (lengths : Array Nat) : Decoder where
  counts := lengthCounts lengths
  symbols := ((List.range 15).flatMap fun length =>
    (List.range lengths.size).filter (lengths.getD · 0 = length + 1)).toArray

/-- Whether there are no more codes than there can be. -/
def Decoder.isPossible (decoder : Decoder) : Bool :=
  (List.range 15).foldl
    (fun used length => used + decoder.counts.getD (length + 1) 0 * Nat.pow 2 (14 - length)) 0 ≤
    Nat.pow 2 15

/-- The symbol whose code stands next.  The arguments are the length, the code so far, the first code
of the length, and the place of its symbol. -/
def Decoder.takeFrom (decoder : Decoder) : Nat -> Nat -> Nat -> Nat -> Nat -> Reader Nat
  | 0, _, _, _, _ => throw .wrong
  | limit + 1, length, code, first, index => do
    let code := 2 * code + (← takeBit)
    let count := decoder.counts.getD length 0
    if code < first + count then return decoder.symbols.getD (index + (code - first)) 0
    else decoder.takeFrom limit (length + 1) code (2 * (first + count)) (index + count)

/-- The symbol whose code stands next. -/
def Decoder.take (decoder : Decoder) : Reader Nat := decoder.takeFrom 15 1 0 0 0

/-- The steps of a block up to its end. -/
def takeSteps (symbols distances : Decoder) : Nat -> Reader Unit
  | 0 => throw .wrong
  | limit + 1 => do
    let symbol ← symbols.take
    if symbol = endSymbol then return ()
    else if symbol < endSymbol then
      modify fun reading => { reading with text := reading.text.push (UInt8.ofNat symbol) }
      takeSteps symbols distances limit
    else
      let kind := symbol - 257
      if 29 ≤ kind then throw .wrong
      else
        let length := firstLengths.getD kind 0 + (← takeBits (lengthExtras.getD kind 0))
        let kind ← distances.take
        if 30 ≤ kind then throw .wrong
        else
          let distance := firstDistances.getD kind 0 + (← takeBits (distanceExtras.getD kind 0))
          if (← get).text.size < distance then throw .wrong
          else
            modify fun reading =>
              { reading with text := (Step.copy length distance).apply reading.text }
            takeSteps symbols distances limit

/-- Lengths of codes, so many at least. -/
def takeLengths (decoder : Decoder) (count : Nat) : Nat -> List Nat -> Reader (List Nat)
  | 0, _ => throw .wrong
  | limit + 1, done => do
    if count ≤ done.length then
      if done.length = count then return done.reverse else throw .wrong
    else
      let symbol ← decoder.take
      match symbol with
      | 16 =>
        let times := 3 + (← takeBits 2)
        match done with
        | [] => throw .wrong
        | last :: _ => takeLengths decoder count limit (List.replicate times last ++ done)
      | 17 =>
        let times := 3 + (← takeBits 3)
        takeLengths decoder count limit (List.replicate times 0 ++ done)
      | 18 =>
        let times := 11 + (← takeBits 7)
        takeLengths decoder count limit (List.replicate times 0 ++ done)
      | length => takeLengths decoder count limit (length :: done)

def takeDecoders : Reader (Decoder × Decoder) := do
  let symbolCount := 257 + (← takeBits 5)
  let distanceCount := 1 + (← takeBits 5)
  let toldCount := 4 + (← takeBits 4)
  let told ← (tellingOrder.take toldCount).mapM fun symbol => do
    let length ← takeBits 3
    return (symbol, length)
  let lengths := told.foldl
    (fun (lengths : Array Nat) (symbol, length) => lengths.setIfInBounds symbol length)
    (Array.replicate 19 0)
  let decoder := Decoder.ofLengths lengths
  if !decoder.isPossible then throw .wrong
  let all ← takeLengths decoder (symbolCount + distanceCount) 400 []
  let symbols := Decoder.ofLengths (all.take symbolCount).toArray
  let distances := Decoder.ofLengths (all.drop symbolCount).toArray
  if symbols.isPossible && distances.isPossible then return (symbols, distances) else throw .wrong

/-- A block that stands as it is. -/
def takeStored : Reader Unit := do
  modify fun reading => { reading with place := (reading.place + 7) / 8 * 8 }
  let size ← takeBits 16
  let opposite ← takeBits 16
  if size + opposite ≠ 65535 then throw .wrong
  else
    let reading ← get
    let start := reading.place / 8
    let part := reading.octets.extract start (start + size)
    set { reading with text := reading.text ++ part, place := reading.place + 8 * part.size }
    if part.size < size then throw .ended

/-- The most steps of a block. -/
def mostSteps : Nat := 1000000000

def takeBlocks : Nat -> Reader Unit
  | 0 => throw .wrong
  | limit + 1 => do
    let isLast ← takeBit
    match ← takeBits 2 with
    | 0 => takeStored
    | 1 =>
      takeSteps (Decoder.ofLengths knownLengths) (Decoder.ofLengths knownDistanceLengths) mostSteps
    | 2 => do
      let (symbols, distances) ← takeDecoders
      takeSteps symbols distances mostSteps
    | _ => throw .wrong
    if isLast = 0 then takeBlocks limit

/-- A text that was unpacked: its octets, where the packed octets end, and what kept it from being
read on. -/
structure Unpacked where
  text : ByteArray
  last : Nat
  damage : Option Damage := none

def unpacked (octets : ByteArray) (start : Nat) : Unpacked :=
  let (outcome, reading) := (takeBlocks mostSteps).run { octets, place := 8 * start }
  let damage := match outcome with
    | .ok _ => none
    | .error damage => some damage
  { text := reading.text, last := (reading.place + 7) / 8, damage }

end Deflate
end BaseLanguage
