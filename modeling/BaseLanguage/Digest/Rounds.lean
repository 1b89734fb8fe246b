namespace BaseLanguage

/-!
# Digests

A digest is a short row of bytes that stands for a long one.  The bytes are filled up to whole
blocks, with their number at the end, and each block stirs a state of words; the state behind the
last block is the digest.
-/

namespace Digest

/-! ## Words -/

/-- So many bytes of a number, the most significant one first. -/
def bigBytes (count value : Nat) : List UInt8 :=
  (List.range count).map fun index => UInt8.ofNat (value >>> (8 * (count - 1 - index)))

/-- So many bytes of a number, the least significant one first. -/
def littleBytes (count value : Nat) : List UInt8 := (bigBytes count value).reverse

theorem length_bigBytes (count value : Nat) : (bigBytes count value).length = count := by
  simp [bigBytes]

def byteAt (bytes : ByteArray) (place : Nat) : UInt8 :=
  if inside : place < bytes.size then bytes[place] else 0

/-- The word of 32 bits at a place, the most significant byte first. -/
def bigWord (bytes : ByteArray) (place : Nat) : UInt32 :=
  let byte (index : Nat) : UInt32 := (byteAt bytes (place + index)).toUInt32
  byte 0 <<< 24 ||| byte 1 <<< 16 ||| byte 2 <<< 8 ||| byte 3

/-- The word of 32 bits at a place, the least significant byte first. -/
def littleWord (bytes : ByteArray) (place : Nat) : UInt32 :=
  let byte (index : Nat) : UInt32 := (byteAt bytes (place + index)).toUInt32
  byte 3 <<< 24 ||| byte 2 <<< 16 ||| byte 1 <<< 8 ||| byte 0

/-- The word of 64 bits at a place, the most significant byte first. -/
def bigLongWord (bytes : ByteArray) (place : Nat) : UInt64 :=
  (bigWord bytes place).toUInt64 <<< 32 ||| (bigWord bytes (place + 4)).toUInt64

/-- The word of 64 bits at a place, the least significant byte first. -/
def littleLongWord (bytes : ByteArray) (place : Nat) : UInt64 :=
  (littleWord bytes (place + 4)).toUInt64 <<< 32 ||| (littleWord bytes place).toUInt64

def turnLeft (word : UInt32) (count : UInt32) : UInt32 := word <<< count ||| word >>> (32 - count)

def turnRight (word : UInt32) (count : UInt32) : UInt32 := word >>> count ||| word <<< (32 - count)

def turnLongRight (word : UInt64) (count : UInt64) : UInt64 :=
  word >>> count ||| word <<< (64 - count)

/-! ## Blocks -/

/-- The number of zeros that fill up so many bytes, behind a first one and in front of their number,
to whole blocks. -/
def fillCount (block lengthBytes size : Nat) : Nat :=
  (block - (size + 1 + lengthBytes) % block) % block

/-- Bytes filled up to whole blocks.  The number of bits stands at the end. -/
def filled (block : Nat) (lengthBytes : List UInt8) (bytes : ByteArray) : ByteArray :=
  let zeros := fillCount block lengthBytes.length bytes.size
  bytes.push 0x80 ++ ⟨Array.replicate zeros 0⟩ ++ ⟨lengthBytes.toArray⟩

/-- What is filled up is whole blocks. -/
theorem filled_size (block : Nat) (positive : 0 < block) (size lengthBytes : Nat) :
    (size + 1 + fillCount block lengthBytes size + lengthBytes) % block = 0 := by
  unfold fillCount
  have below := Nat.mod_lt (size + 1 + lengthBytes) positive
  have split := Nat.div_add_mod (size + 1 + lengthBytes) block
  by_cases whole : (size + 1 + lengthBytes) % block = 0
  · simp only [whole, Nat.sub_zero, Nat.mod_self, Nat.add_zero]
  · have small : block - (size + 1 + lengthBytes) % block < block := by omega
    rw [Nat.mod_eq_of_lt small]
    have sum : size + 1 + (block - (size + 1 + lengthBytes) % block) + lengthBytes =
        block * ((size + 1 + lengthBytes) / block) + block := by omega
    rw [sum, Nat.add_mod_right, Nat.mul_mod_right]

/-- The state behind all blocks. -/
def stirAll (block : Nat) (stir : σ -> ByteArray -> Nat -> σ) (start : σ) (bytes : ByteArray) : σ :=
  (List.range (bytes.size / block)).foldl (fun state index => stir state bytes (index * block)) start

/-! ## Roots -/

/-- The greatest number of so many bits, with others in front, whose power is not above a number. -/
def rootFrom (power value : Nat) : Nat -> Nat -> Nat
  | 0, root => root
  | bit + 1, root =>
    let next := root + Nat.pow 2 bit
    rootFrom power value bit (if Nat.pow next power ≤ value then next else root)

/-- The first 64 bits behind the point of a root. -/
def rootBits (power value : Nat) : UInt64 :=
  UInt64.ofNat (rootFrom power (value * Nat.pow 2 (64 * power)) 72 0)

/-- The first so many prime numbers from a number on. -/
def primesFrom : Nat -> Nat -> List Nat -> Nat -> List Nat
  | 0, _, _, _ => []
  | _, 0, _, _ => []
  | limit + 1, count + 1, smaller, value =>
    if smaller.any (value % · = 0) then primesFrom limit (count + 1) smaller (value + 1)
    else value :: primesFrom limit count (value :: smaller) (value + 1)

/-- The first eighty prime numbers. -/
def primes : List Nat := primesFrom 500 80 [] 2

/-!
## Sums

Short numbers by which bytes that were changed by accident are told apart.
-/

/-- One byte stirred into a remainder, the most significant bit first. -/
def crcStep (remainder : UInt32) : UInt32 :=
  (List.range 8).foldl
    (fun value _ => if value &&& 0x80000000 ≠ 0 then value <<< 1 ^^^ 0x04c11db7 else value <<< 1)
    remainder

def crcTable : Array UInt32 :=
  (Array.range 256).map (fun byte => crcStep (UInt32.ofNat byte <<< 24))

def crcNext (remainder : UInt32) (byte : UInt8) : UInt32 :=
  remainder <<< 8 ^^^ crcTable.getD ((remainder >>> 24) ^^^ byte.toUInt32).toNat 0

/-- The bytes of a number without zeros at its end, the least significant one first. -/
def shortBytes : Nat -> Nat -> List UInt8
  | 0, _ => []
  | limit + 1, value =>
    if value = 0 then [] else UInt8.ofNat value :: shortBytes limit (value / 256)

/-- The remainder of bytes, and of their number behind them. -/
def crc (bytes : ByteArray) : Nat :=
  let all := bytes.foldl crcNext 0
  (~~~((shortBytes 8 bytes.size).foldl crcNext all)).toNat

/-- One byte stirred into a remainder, the least significant bit first. -/
def reflectedStep (remainder : UInt32) : UInt32 :=
  (List.range 8).foldl
    (fun value _ => if value &&& 1 ≠ 0 then value >>> 1 ^^^ 0xedb88320 else value >>> 1)
    remainder

def reflectedTable : Array UInt32 :=
  (Array.range 256).map (fun byte => reflectedStep (UInt32.ofNat byte))

def reflectedNext (remainder : UInt32) (byte : UInt8) : UInt32 :=
  remainder >>> 8 ^^^ reflectedTable.getD ((remainder ^^^ byte.toUInt32) &&& 0xff).toNat 0

/-- The remainder that compressed files end with. -/
def reflectedCrc (bytes : ByteArray) : Nat := (~~~(bytes.foldl reflectedNext 0xffffffff)).toNat

/-- The sum of bytes, turned to the right before each. -/
def turningSum (bytes : ByteArray) : Nat :=
  bytes.foldl
    (fun sum byte => (sum / 2 + sum % 2 * 32768 + byte.toNat) % 65536)
    0

/-- The sum of bytes, folded to 16 bits. -/
def plainSum (bytes : ByteArray) : Nat :=
  let sum := (bytes.foldl (fun sum byte => sum + byte.toNat) 0) % Nat.pow 2 32
  let once := sum % 65536 + sum / 65536
  once % 65536 + once / 65536

/-!
## A digest of 16 bytes

Four words are stirred by 64 rounds for each block.
-/

/-- What is added in each round: the sines of the numbers from one on, without their signs. -/
def sines : Array UInt32 :=
  #[0xd76aa478, 0xe8c7b756, 0x242070db, 0xc1bdceee, 0xf57c0faf, 0x4787c62a, 0xa8304613, 0xfd469501,
    0x698098d8, 0x8b44f7af, 0xffff5bb1, 0x895cd7be, 0x6b901122, 0xfd987193, 0xa679438e, 0x49b40821,
    0xf61e2562, 0xc040b340, 0x265e5a51, 0xe9b6c7aa, 0xd62f105d, 0x02441453, 0xd8a1e681, 0xe7d3fbc8,
    0x21e1cde6, 0xc33707d6, 0xf4d50d87, 0x455a14ed, 0xa9e3e905, 0xfcefa3f8, 0x676f02d9, 0x8d2a4c8a,
    0xfffa3942, 0x8771f681, 0x6d9d6122, 0xfde5380c, 0xa4beea44, 0x4bdecfa9, 0xf6bb4b60, 0xbebfbc70,
    0x289b7ec6, 0xeaa127fa, 0xd4ef3085, 0x04881d05, 0xd9d4d039, 0xe6db99e5, 0x1fa27cf8, 0xc4ac5665,
    0xf4292244, 0x432aff97, 0xab9423a7, 0xfc93a039, 0x655b59c3, 0x8f0ccc92, 0xffeff47d, 0x85845dd1,
    0x6fa87e4f, 0xfe2ce6e0, 0xa3014314, 0x4e0811a1, 0xf7537e82, 0xbd3af235, 0x2ad7d2bb, 0xeb86d391]

/-- How far words are turned in the rounds of each quarter. -/
def quarterTurns : List (Array UInt32) :=
  [#[7, 12, 17, 22], #[5, 9, 14, 20], #[4, 11, 16, 23], #[6, 10, 15, 21]]

structure FourWords where
  first : UInt32
  second : UInt32
  third : UInt32
  fourth : UInt32

def FourWords.round (block : ByteArray) (start : Nat) (words : FourWords) (number : Nat) :
    FourWords :=
  let ⟨a, b, c, d⟩ := words
  let (mixed, place) :=
    match number / 16 with
    | 0 => ((b &&& c) ||| (~~~b &&& d), number)
    | 1 => ((d &&& b) ||| (~~~d &&& c), 5 * number + 1)
    | 2 => (b ^^^ c ^^^ d, 3 * number + 5)
    | _ => (c ^^^ (b ||| ~~~d), 7 * number)
  let turns := (quarterTurns.getD (number / 16) #[]).getD (number % 4) 0
  let sum := mixed + a + sines.getD number 0 + littleWord block (start + place % 16 * 4)
  ⟨d, b + turnLeft sum turns, b, c⟩

def FourWords.stir (words : FourWords) (bytes : ByteArray) (start : Nat) : FourWords :=
  let after := (List.range 64).foldl (FourWords.round bytes start) words
  ⟨words.first + after.first, words.second + after.second, words.third + after.third,
    words.fourth + after.fourth⟩

def md5 (bytes : ByteArray) : List UInt8 :=
  let whole := filled 64 (littleBytes 8 (8 * bytes.size)) bytes
  let start : FourWords := ⟨0x67452301, 0xefcdab89, 0x98badcfe, 0x10325476⟩
  let words := stirAll 64 FourWords.stir start whole
  [words.first, words.second, words.third, words.fourth].flatMap (littleBytes 4 ·.toNat)

/-!
## Digests of 20 to 64 bytes

The words of a block are spread to one for each round.  The first of these digests has five words;
the later ones have eight, of 32 or of 64 bits, which begin with bits of the roots of prime numbers,
as does what is added in each round.
-/

/-! ## Five words -/

structure FiveWords where
  first : UInt32
  second : UInt32
  third : UInt32
  fourth : UInt32
  fifth : UInt32

/-- The words of a block, spread to eighty. -/
def spreadToEighty (bytes : ByteArray) (start : Nat) : Array UInt32 :=
  let own := (Array.range 16).map (fun index => bigWord bytes (start + 4 * index))
  (List.range 64).foldl
    (fun words index =>
      let word (place : Nat) : UInt32 := words.getD place 0
      words.push (turnLeft (word (index + 13) ^^^ word (index + 8) ^^^ word (index + 2) ^^^
        word index) 1))
    own

def FiveWords.stir (words : FiveWords) (bytes : ByteArray) (start : Nat) : FiveWords :=
  let spread := spreadToEighty bytes start
  let after := (List.range 80).foldl
    (fun (words : FiveWords) number =>
      let ⟨a, b, c, d, e⟩ := words
      let (mixed, added) : UInt32 × UInt32 :=
        match number / 20 with
        | 0 => ((b &&& c) ||| (~~~b &&& d), 0x5a827999)
        | 1 => (b ^^^ c ^^^ d, 0x6ed9eba1)
        | 2 => ((b &&& c) ||| (b &&& d) ||| (c &&& d), 0x8f1bbcdc)
        | _ => (b ^^^ c ^^^ d, 0xca62c1d6)
      ⟨turnLeft a 5 + mixed + e + added + spread.getD number 0, a, turnLeft b 30, c, d⟩)
    words
  ⟨words.first + after.first, words.second + after.second, words.third + after.third,
    words.fourth + after.fourth, words.fifth + after.fifth⟩

def sha1 (bytes : ByteArray) : List UInt8 :=
  let whole := filled 64 (bigBytes 8 (8 * bytes.size)) bytes
  let start : FiveWords := ⟨0x67452301, 0xefcdab89, 0x98badcfe, 0x10325476, 0xc3d2e1f0⟩
  let words := stirAll 64 FiveWords.stir start whole
  [words.first, words.second, words.third, words.fourth, words.fifth].flatMap (bigBytes 4 ·.toNat)

/-! ## Eight words -/

/-- What is added in each round: bits of the cube roots of prime numbers. -/
def cubeRootBits : Array UInt64 := (primes.map (rootBits 3)).toArray

/-- The first half of what is added in each round. -/
def shortCubeRootBits : Array UInt32 :=
  cubeRootBits.map (fun (bits : UInt64) => (bits >>> 32).toUInt32)

/-- Bits of the square roots of the first and the second eight prime numbers. -/
def squareRootBits : List UInt64 × List UInt64 :=
  let bits := (primes.take 16).map (rootBits 2)
  (bits.take 8, bits.drop 8)

structure EightWords (ω : Type) where
  first : ω
  second : ω
  third : ω
  fourth : ω
  fifth : ω
  sixth : ω
  seventh : ω
  eighth : ω

def EightWords.toList (words : EightWords ω) : List ω :=
  [words.first, words.second, words.third, words.fourth, words.fifth, words.sixth, words.seventh,
    words.eighth]

def EightWords.ofList (missing : ω) (words : List ω) : EightWords ω :=
  let word (place : Nat) : ω := words.getD place missing
  ⟨word 0, word 1, word 2, word 3, word 4, word 5, word 6, word 7⟩

def EightWords.plus [Add ω] (left right : EightWords ω) : EightWords ω :=
  ⟨left.first + right.first, left.second + right.second, left.third + right.third,
    left.fourth + right.fourth, left.fifth + right.fifth, left.sixth + right.sixth,
    left.seventh + right.seventh, left.eighth + right.eighth⟩

def spreadShort (bytes : ByteArray) (start : Nat) : Array UInt32 :=
  let own := (Array.range 16).map (fun index => bigWord bytes (start + 4 * index))
  (List.range 48).foldl
    (fun words index =>
      let word (place : Nat) : UInt32 := words.getD place 0
      let early := word (index + 1)
      let late := word (index + 14)
      let first := turnRight early 7 ^^^ turnRight early 18 ^^^ early >>> 3
      let second := turnRight late 17 ^^^ turnRight late 19 ^^^ late >>> 10
      words.push (word index + first + word (index + 9) + second))
    own

def stirShort (words : EightWords UInt32) (bytes : ByteArray) (start : Nat) : EightWords UInt32 :=
  let spread := spreadShort bytes start
  let after := (List.range 64).foldl
    (fun (words : EightWords UInt32) number =>
      let ⟨a, b, c, d, e, f, g, h⟩ := words
      let turned := turnRight e 6 ^^^ turnRight e 11 ^^^ turnRight e 25
      let chosen := (e &&& f) ^^^ (~~~e &&& g)
      let first := h + turned + chosen + shortCubeRootBits.getD number 0 + spread.getD number 0
      let other := turnRight a 2 ^^^ turnRight a 13 ^^^ turnRight a 22
      let most := (a &&& b) ^^^ (a &&& c) ^^^ (b &&& c)
      ⟨first + other + most, a, b, c, d + first, e, f, g⟩)
    words
  words.plus after

def shortSha (start : List UInt32) (bytes : ByteArray) : List UInt8 :=
  let whole := filled 64 (bigBytes 8 (8 * bytes.size)) bytes
  let words := stirAll 64 stirShort (EightWords.ofList 0 start) whole
  words.toList.flatMap (bigBytes 4 ·.toNat)

def sha256 (bytes : ByteArray) : List UInt8 :=
  shortSha (squareRootBits.1.map (fun (bits : UInt64) => (bits >>> 32).toUInt32)) bytes

def sha224 (bytes : ByteArray) : List UInt8 :=
  (shortSha (squareRootBits.2.map UInt64.toUInt32) bytes).take 28

def spreadLong (bytes : ByteArray) (start : Nat) : Array UInt64 :=
  let own := (Array.range 16).map (fun index => bigLongWord bytes (start + 8 * index))
  (List.range 64).foldl
    (fun words index =>
      let word (place : Nat) : UInt64 := words.getD place 0
      let early := word (index + 1)
      let late := word (index + 14)
      let first := turnLongRight early 1 ^^^ turnLongRight early 8 ^^^ early >>> 7
      let second := turnLongRight late 19 ^^^ turnLongRight late 61 ^^^ late >>> 6
      words.push (word index + first + word (index + 9) + second))
    own

def stirLong (words : EightWords UInt64) (bytes : ByteArray) (start : Nat) : EightWords UInt64 :=
  let spread := spreadLong bytes start
  let after := (List.range 80).foldl
    (fun (words : EightWords UInt64) number =>
      let ⟨a, b, c, d, e, f, g, h⟩ := words
      let turned := turnLongRight e 14 ^^^ turnLongRight e 18 ^^^ turnLongRight e 41
      let chosen := (e &&& f) ^^^ (~~~e &&& g)
      let first := h + turned + chosen + cubeRootBits.getD number 0 + spread.getD number 0
      let other := turnLongRight a 28 ^^^ turnLongRight a 34 ^^^ turnLongRight a 39
      let most := (a &&& b) ^^^ (a &&& c) ^^^ (b &&& c)
      ⟨first + other + most, a, b, c, d + first, e, f, g⟩)
    words
  words.plus after

def longSha (start : List UInt64) (bytes : ByteArray) : List UInt8 :=
  let whole := filled 128 (bigBytes 16 (8 * bytes.size)) bytes
  let words := stirAll 128 stirLong (EightWords.ofList 0 start) whole
  words.toList.flatMap (bigBytes 8 ·.toNat)

def sha512 (bytes : ByteArray) : List UInt8 := longSha squareRootBits.1 bytes

def sha384 (bytes : ByteArray) : List UInt8 := (longSha squareRootBits.2 bytes).take 48

/-!
## A digest of as many bytes as are asked for

Sixteen words are stirred in columns and diagonals, with the words of a block in an order that is
another one in each round.
-/

/-- The orders of the words of a block. -/
def blakeOrders : Array (Array Nat) :=
  #[#[0, 1, 2, 3, 4, 5, 6, 7, 8, 9, 10, 11, 12, 13, 14, 15],
    #[14, 10, 4, 8, 9, 15, 13, 6, 1, 12, 0, 2, 11, 7, 5, 3],
    #[11, 8, 12, 0, 5, 2, 15, 13, 10, 14, 3, 6, 7, 1, 9, 4],
    #[7, 9, 3, 1, 13, 12, 11, 14, 2, 6, 5, 10, 4, 0, 15, 8],
    #[9, 0, 5, 7, 2, 4, 10, 15, 14, 1, 11, 12, 6, 8, 3, 13],
    #[2, 12, 6, 10, 0, 11, 8, 3, 4, 13, 7, 5, 15, 14, 1, 9],
    #[12, 5, 1, 15, 14, 13, 4, 10, 0, 7, 6, 3, 9, 2, 8, 11],
    #[13, 11, 7, 14, 12, 1, 3, 9, 5, 0, 15, 4, 8, 6, 2, 10],
    #[6, 15, 14, 9, 11, 3, 0, 8, 12, 2, 13, 7, 1, 4, 10, 5],
    #[10, 2, 8, 4, 7, 6, 1, 5, 15, 11, 9, 14, 3, 12, 13, 0]]

/-- The columns and the diagonals of four times four words. -/
def blakeLines : List (Nat × Nat × Nat × Nat) :=
  [(0, 4, 8, 12), (1, 5, 9, 13), (2, 6, 10, 14), (3, 7, 11, 15), (0, 5, 10, 15), (1, 6, 11, 12),
    (2, 7, 8, 13), (3, 4, 9, 14)]

/-- Stirs four words of a line with two words of a block. -/
def stirLine (words : Array UInt64) (line : Nat × Nat × Nat × Nat) (x y : UInt64) : Array UInt64 :=
  let (ia, ib, ic, id) := line
  let word (place : Nat) : UInt64 := words.getD place 0
  let half (a b c d added : UInt64) (first second : UInt64) : UInt64 × UInt64 × UInt64 × UInt64 :=
    let a := a + b + added
    let d := turnLongRight (d ^^^ a) first
    let c := c + d
    (a, turnLongRight (b ^^^ c) second, c, d)
  let (a, b, c, d) := half (word ia) (word ib) (word ic) (word id) x 32 24
  let (a, b, c, d) := half a b c d y 16 63
  (((words.set! ia a).set! ib b).set! ic c).set! id d

/-- Stirs a state with the block at a place; so many bytes were stirred with it. -/
def stirBlake (state : List UInt64) (bytes : ByteArray) (start count : Nat) (isLast : Bool) :
    List UInt64 :=
  let base := squareRootBits.1
  let block := (Array.range 16).map (fun index => littleLongWord bytes (start + 8 * index))
  let whole := (state ++ base).toArray
  let whole := whole.set! 12 (whole.getD 12 0 ^^^ UInt64.ofNat count)
  let whole := if isLast then whole.set! 14 (~~~(whole.getD 14 0)) else whole
  let after := (List.range 12).foldl
    (fun words round =>
      let order := blakeOrders.getD (round % 10) #[]
      blakeLines.zipIdx.foldl
        (fun words (line, index) =>
          stirLine words line (block.getD (order.getD (2 * index) 0) 0)
            (block.getD (order.getD (2 * index + 1) 0) 0))
        words)
    whole
  state.zipIdx.map fun (word, index) => word ^^^ after.getD index 0 ^^^ after.getD (index + 8) 0

def blake2b (length : Nat) (bytes : ByteArray) : List UInt8 :=
  let blocks := max 1 ((bytes.size + 127) / 128)
  let base := squareRootBits.1
  let start := base.modify 0 (· ^^^ UInt64.ofNat (0x01010000 + length))
  let state := (List.range blocks).foldl
    (fun state index =>
      stirBlake state bytes (128 * index) (min bytes.size (128 * (index + 1)))
        (index + 1 == blocks))
    start
  (state.flatMap (littleBytes 8 ·.toNat)).take length

end Digest
end BaseLanguage
