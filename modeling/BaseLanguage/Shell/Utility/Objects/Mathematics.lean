import BaseLanguage.Shell.Utility.Dump
import BaseLanguage.Shell.Utility.Objects.System

namespace BaseLanguage.Shell.Objects

open Text

/-!
# Mathematics

Functions of numbers: whole numbers are exact, others are kept in bits.
-/

section

variable (engine : Engine)

def wholeRoot (value : Nat) : Nat -> Nat -> Nat
  | 0, guess => guess
  | limit + 1, guess =>
    if guess = 0 then 0
    else
      let next := (guess + value / guess) / 2
      if next < guess then wholeRoot value limit next else guess

def factorialOf (value : Nat) : Nat :=
  (List.range value).foldl (fun product index => product * (index + 1)) 1

def fallingProduct (value count : Nat) : Nat :=
  (List.range count).foldl (fun product index => product * (value - index)) 1

def exactSum (values : List Float) : Float :=
  if values.any (fun value => value.isNaN || value.isInf) then values.foldl (· + ·) 0
  else
    let (top, bottom) := values.foldl (fun (sum : Int × Nat) value =>
      match Records.realOfFloat value with
      | .finite negative size =>
        let top : Int := if negative then -(size.numerator : Int) else size.numerator
        let common := Nat.lcm sum.2 size.denominator
        (sum.1 * (common / sum.2 : Nat) + top * (common / size.denominator : Nat), common)
      | _ => sum) ((0 : Int), 1)
    realOf (top < 0) top.natAbs bottom

def wholeNear (special : String) (near : Float -> Float) (value : Value) : Machine Value := do
  match <- callSpecial? engine value special [] with
  | some found => return found
  | none => match <- heldBy value with
    | .whole value => return .whole value
    | .truth holds => return .whole (if holds then 1 else 0)
    | value =>
      let number <- realOfValue engine value
      match wholeOfReal? (near number) with
      | some whole => return .whole whole
      | none =>
        if number.isNaN then failValue "cannot convert float NaN to integer"
        else fail "OverflowError" "cannot convert float infinity to integer"

def realFunctions : List (String × (Float -> Float)) :=
  [("sin", Float.sin), ("cos", Float.cos), ("tan", Float.tan), ("asin", Float.asin),
    ("acos", Float.acos), ("atan", Float.atan), ("sinh", Float.sinh), ("cosh", Float.cosh),
    ("tanh", Float.tanh), ("asinh", Float.asinh), ("acosh", Float.acosh), ("atanh", Float.atanh),
    ("exp", Float.exp), ("exp2", Float.exp2), ("cbrt", Float.cbrt), ("fabs", Float.abs),
    ("expm1", fun value => if value.abs < 1e-5 then value + value * value / 2 else value.exp - 1),
    ("degrees", (· * (180.0 / 3.141592653589793))),
    ("radians", (· * (3.141592653589793 / 180.0)))]

def logarithm (log : Float -> Float) (ofTwo : Float) (value : Value) : Machine Float := do
  match <- heldBy value with
  | .whole number =>
    if number <= 0 then failValue "math domain error"
    else match realOfWhole? number with
      | some real => return log real
      | none =>
        let shift := number.natAbs.log2 - 60
        let rest := realOf false number.natAbs (Nat.pow 2 shift)
        return log rest + Float.ofNat shift * ofTwo
  | value =>
    let number <- realOfValue engine value
    if number <= 0 then failValue "math domain error" else return log number

def numberFunction (name : String) (given : Arguments) : Machine Value := do
  let first := argumentAt given 0
  let second := argumentAt given 1
  let real (value : Value) : Machine Float := do
    match <- heldBy value with
    | .text _ => failType "must be real number, not str"
    | .nothing => failType "must be real number, not NoneType"
    | _ => realOfValue engine value
  let checked (inputs : List Float) (result : Float) : Machine Value := do
    let isPlain := inputs.all (fun value => !value.isNaN && !value.isInf)
    if isPlain && result.isNaN then failValue "math domain error"
    else if isPlain && result.isInf then fail "OverflowError" "math range error"
    else return .real result
  let natural (value : Value) (what : String) : Machine Nat := do
    let number <- indexOf engine value
    if number < 0 then failValue what
    return number.toNat
  match realFunctions.lookup name with
  | some function =>
    let value <- real (<- given.one)
    if (name = "sin" || name = "cos" || name = "tan") && value.isInf then
      failValue "math domain error"
    checked [value] (function value)
  | none => match name with
    | "floor" => wholeNear engine "__floor__" Float.floor (<- given.one)
    | "ceil" => wholeNear engine "__ceil__" Float.ceil (<- given.one)
    | "trunc" =>
      wholeNear engine "__trunc__" (fun value => if value < 0 then value.ceil else value.floor)
        (<- given.one)
    | "sqrt" =>
      let value <- real (<- given.one)
      if value < 0 then failValue "math domain error" else return .real value.sqrt
    | "pow" =>
      let base <- real first
      let exponent <- real second
      checked [base, exponent] (base.pow exponent)
    | "atan2" => return .real (Float.atan2 (<- real first) (<- real second))
    | "hypot" =>
      return .real ((<- given.placed.mapM real).foldl (fun sum value => sum + value * value) 0).sqrt
    | "dist" =>
      let left <- (<- itemsOf engine first).mapM real
      let right <- (<- itemsOf engine second).mapM real
      return .real ((left.zip right).foldl (fun (sum : Float) (pair : Float × Float) =>
        sum + (pair.1 - pair.2) * (pair.1 - pair.2)) 0).sqrt
    | "log" =>
      let value <- logarithm engine Float.log (Float.log 2) first
      match given.placed with
      | [_, base] =>
        let base <- logarithm engine Float.log (Float.log 2) base
        if base == 0 then fail "ZeroDivisionError" "float division by zero"
        return .real (value / base)
      | _ => return .real value
    | "log2" => return .real (<- logarithm engine Float.log2 1 first)
    | "log10" => return .real (<- logarithm engine Float.log10 (Float.log10 2) first)
    | "log1p" =>
      let value <- real first
      if value <= -1 then failValue "math domain error"
      return .real (if value.abs < 1e-5 then value - value * value / 2 else (1 + value).log)
    | "isnan" => return .truth (<- real first).isNaN
    | "isinf" => return .truth (<- real first).isInf
    | "isfinite" =>
      let value <- real first
      return .truth (!value.isNaN && !value.isInf)
    | "copysign" =>
      let size := (<- real first).abs
      return .real (if (<- real second).toBits.toNat < Nat.pow 2 63 then size else -size)
    | "fmod" =>
      let left <- real first
      let right <- real second
      if right == 0 || left.isInf then failValue "math domain error"
      return .real (realQuotient.remainder left right)
    | "modf" =>
      let value <- real first
      let whole := if value < 0 then value.ceil else value.floor
      return .tuple [.real (value - whole), .real whole]
    | "frexp" =>
      let (part, exponent) := (<- real first).frExp
      return .tuple [.real part, .whole exponent]
    | "ldexp" =>
      let value <- real first
      checked [value] (value.scaleB (<- indexOf engine second))
    | "isclose" =>
      let left <- real first
      let right <- real second
      let relative <- match given.named.lookup "rel_tol" with
        | some value => real value
        | none => pure 1e-9
      let absolute <- match given.named.lookup "abs_tol" with
        | some value => real value
        | none => pure 0
      let bound := max (relative * max left.abs right.abs) absolute
      return .truth (left == right || (left - right).abs <= bound)
    | "fsum" => return .real (exactSum (<- (<- itemsOf engine first).mapM real))
    | "prod" =>
      let start := (given.named.lookup "start").getD (.whole 1)
      (<- itemsOf engine first).foldlM (fun product item => binary engine .times product item) start
    | "factorial" =>
      let value <- natural first "factorial() not defined for negative values"
      return .whole (factorialOf value)
    | "comb" =>
      let whole <- natural first "n must be a non-negative integer"
      let part <- natural second "k must be a non-negative integer"
      if whole < part then return .whole 0
      let part := min part (whole - part)
      return .whole (fallingProduct whole part / factorialOf part)
    | "perm" =>
      let whole <- natural first "n must be a non-negative integer"
      let part <- match second with
        | .nothing => pure whole
        | value => natural value "k must be a non-negative integer"
      return .whole (if whole < part then 0 else fallingProduct whole part)
    | "isqrt" =>
      let value <- natural first "isqrt() argument must be nonnegative"
      return .whole (wholeRoot value (value.log2 + 10) (Nat.pow 2 (value.log2 / 2 + 1)))
    | "gcd" =>
      let numbers <- given.placed.mapM (indexOf engine)
      return .whole (numbers.foldl (fun (found : Nat) (number : Int) => Nat.gcd found number.natAbs) 0 : Nat)
    | "lcm" =>
      let numbers <- given.placed.mapM (indexOf engine)
      return .whole (numbers.foldl (fun (found : Nat) (number : Int) => Nat.lcm found number.natAbs) 1 : Nat)
    | name => fail "AttributeError" s!"module 'math' has no attribute '{name}'"

def numberFunctions : List String :=
  realFunctions.map Prod.fst ++ wordsIn "floor ceil trunc sqrt pow atan2 hypot dist log log2 log10
    log1p isnan isinf isfinite copysign fmod modf frexp ldexp isclose fsum prod factorial comb perm
    isqrt gcd lcm"

end

/-!
## Bytes in other forms

Bytes are written with characters of an alphabet, summed up in digests, and kept as numbers.
-/

section

variable (engine : Engine)

def plainBytes (value : Value) : Machine ByteArray := do
  match <- heldBy value with
  | .text text =>
    if text.toList.any (127 < ·.toNat) then
      failValue "string argument should contain only ASCII characters"
    return bytesOf text.toList
  | .octets bytes => return bytes
  | .object address => match <- thingAt address with
    | .octets bytes => return bytes
    | _ => failType s!"a bytes-like object is required, not '{← typeName value}'"
  | _ => failType s!"a bytes-like object is required, not '{← typeName value}'"

def bytesOfValue (value : Value) : Machine ByteArray := do
  match <- heldBy value with
  | .text _ => failType "a bytes-like object is required, not 'str'"
  | _ => plainBytes value

def failCoding (message : String) : Machine α := fail "Error" message

def decodeSixtyFour (bytes : ByteArray) (alphabet : Alphabet) (isStrict : Bool) :
    Machine Value := do
  let all := octetsOf bytes
  let isKnown (c : Char) : Bool := (alphabet.value? c).isSome
  if isStrict && all.any (fun c => !isKnown c && c ≠ '=') then
    failCoding "Only base64 data is allowed"
  let kept := all.filter (fun c => isKnown c || c = '=')
  let (front, back) := (kept.takeWhile (· ≠ '='), kept.dropWhile (· ≠ '='))
  let rest := front.length % 4
  if rest = 1 then
    let count := numberText front.length
    failCoding
      (s!"Invalid base64-encoded string: number of data characters ({count}) cannot be 1 more " ++
        "than a multiple of 4")
  if rest ≠ 0 && back.length + rest < 4 then failCoding "Incorrect padding"
  let filled := front ++ List.replicate ((4 - rest) % 4) '='
  return .octets ⟨(alphabet.decode (filled.length + 1) filled).1.toArray⟩

def adlerSum (start : Nat) (bytes : ByteArray) : Nat :=
  let (low, high) := bytes.foldl (fun (low, high) byte =>
    let low := (low + byte.toNat) % 65521
    (low, (high + low) % 65521)) (start % 65536, start / 65536)
  high * 65536 + low

def crcFrom (start : Nat) (bytes : ByteArray) : Nat :=
  let begun := UInt32.ofNat start ^^^ 0xffffffff
  ((bytes.foldl Digest.reflectedNext begun) ^^^ 0xffffffff).toNat

def alphabetNamed (name : String) : Alphabet :=
  (Alphabet.named.lookup name).getD (.sixtyFour ['+', '/'])

def codingFunction (name : String) (given : Arguments) : Machine Value := do
  let first := argumentAt given 0
  let coded (chars : Chars) : Value := .octets (bytesOf chars)
  match name with
  | "encode" =>
    let bytes <- bytesOfValue first
    match argumentAt given 1 with
    | .text alphabet => return coded ((alphabetNamed alphabet).encode bytes)
    | _ => return coded ((alphabetNamed "base64").encode bytes)
  | "decode" =>
    let bytes <- plainBytes first
    match argumentAt given 1 with
    | .text "base64" =>
      decodeSixtyFour bytes (alphabetNamed "base64") (<- isTrue engine (argumentAt given 2))
    | .text name =>
      if name = "base64url" then decodeSixtyFour bytes (alphabetNamed name) false
      else
        let alphabet := alphabetNamed name
        let text := octetsOf bytes
        let (found, whole) := alphabet.decode (text.length + 1) text
        if !whole then
          failCoding (if name = "base16" then "Non-base16 digit found"
            else if text.length % 8 ≠ 0 then "Incorrect padding" else "Non-base32 digit found")
        return .octets ⟨found.toArray⟩
    | _ => return .nothing
  | "hexlify" => return coded (hexText (<- bytesOfValue first).toList).toList
  | "unhexlify" =>
    let text := octetsOf (<- plainBytes first)
    if text.length % 2 ≠ 0 then failCoding "Odd-length string"
    if !(text.all isHexDigit) then failCoding "Non-hexadecimal digit found"
    let digits := text.toArray
    let bytes := (List.range (text.length / 2)).map fun index =>
      UInt8.ofNat (hexadecimalValue (digits.extract (2 * index) (2 * index + 2)).toList)
    return .octets ⟨bytes.toArray⟩
  | "crc32" =>
    return .whole (crcFrom (<- indexOr engine 0 given.placed[1]?).toNat (<- bytesOfValue first))
  | "adler32" =>
    return .whole (adlerSum (<- indexOr engine 1 given.placed[1]?).toNat (<- bytesOfValue first))
  | "digest" =>
    let kind <- match first with
      | .text kind => pure (String.ofList (kind.toList.map Char.toLower))
      | _ => failType "name must be a string"
    let kind := if kind.startsWith "sha-" then "sha" ++ String.ofList (kind.toList.drop 4) else kind
    match DigestKind.named.lookup kind with
    | none => failValue s!"unsupported hash type {kind}"
    | some _ =>
      let data? : Option Value := given.placed[1]?
      match data? with
      | none => newObject (.digest kind .empty)
      | some (.text _) => failType "Strings must be encoded before hashing"
      | some value => newObject (.digest kind (<- bytesOfValue value))
  | "bits" => match <- heldBy first, argumentAt given 1 with
    | value, .whole 8 => return .whole ((<- realOfValue engine value).toBits.toNat)
    | value, _ => return .whole ((<- realOfValue engine value).toFloat32.toBits.toNat)
  | "unbits" =>
    let bits := (<- indexOf engine first).toNat
    match argumentAt given 1 with
    | .whole 8 => return .real (Float.ofBits (.ofNat bits))
    | _ => return .real (Float32.ofBits (UInt32.ofNat bits)).toFloat
  | name => fail "AttributeError" s!"module 'codecs' has no attribute '{name}'"

end

end BaseLanguage.Shell.Objects
