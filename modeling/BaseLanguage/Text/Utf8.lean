namespace BaseLanguage
namespace Text

/-!
# Bytes as text

Text travels as UTF-8.  `ofBytes?` accepts well-formed bytes only.  `ofBytesLossy` accepts any
bytes: each maximal beginning of a character that is not completed is shown as U+FFFD, and so is
each byte that cannot begin a character.
-/

/-- The text that the bytes spell, if they are well formed. -/
def ofBytes? (bytes : ByteArray) : Option String := String.fromUTF8? bytes

def toBytes (text : String) : ByteArray := text.toUTF8

/-- What stands for bytes that spell no character. -/
def replacement : Char := Char.ofNat 0xFFFD

def isContinuation (byte : UInt8) : Bool := 0x80 ≤ byte && byte ≤ 0xBF

/-- Whether `next` may follow the first byte `lead` of a character of three or four bytes.  The
bounds leave out overlong forms, surrogates and what lies above U+10FFFF. -/
def maySecond (lead next : UInt8) : Bool :=
  if lead == 0xE0 then 0xA0 ≤ next && next ≤ 0xBF
  else if lead == 0xED then 0x80 ≤ next && next ≤ 0x9F
  else if lead == 0xF0 then 0x90 ≤ next && next ≤ 0xBF
  else if lead == 0xF4 then 0x80 ≤ next && next ≤ 0x8F
  else isContinuation next

/-- The six low bits of a continuation byte. -/
def payload (byte : UInt8) : Nat := byte.toNat % 64

/-- The character at the front of `lead :: rest`, or the replacement, and what is left. -/
def decodeFront (lead : UInt8) (rest : List UInt8) : Char × List UInt8 :=
  if lead < 0x80 then (Char.ofNat lead.toNat, rest)
  else if 0xC2 ≤ lead && lead ≤ 0xDF then
    match rest with
    | second :: more =>
      if isContinuation second then (Char.ofNat ((lead.toNat % 32) * 64 + payload second), more)
      else (replacement, rest)
    | [] => (replacement, rest)
  else if 0xE0 ≤ lead && lead ≤ 0xEF then
    match rest with
    | second :: more =>
      if maySecond lead second then
        match more with
        | third :: others =>
          if isContinuation third then
            (Char.ofNat ((lead.toNat % 16) * 4096 + payload second * 64 + payload third), others)
          else (replacement, more)
        | [] => (replacement, more)
      else (replacement, rest)
    | [] => (replacement, rest)
  else if 0xF0 ≤ lead && lead ≤ 0xF4 then
    match rest with
    | second :: more =>
      if maySecond lead second then
        match more with
        | third :: others =>
          if isContinuation third then
            match others with
            | fourth :: final =>
              if isContinuation fourth then
                (Char.ofNat ((lead.toNat % 8) * 262144 + payload second * 4096 +
                  payload third * 64 + payload fourth), final)
              else (replacement, others)
            | [] => (replacement, others)
          else (replacement, more)
        | [] => (replacement, more)
      else (replacement, rest)
    | [] => (replacement, rest)
  else (replacement, rest)

theorem decodeFront_length (lead : UInt8) (rest : List UInt8) :
    (decodeFront lead rest).2.length ≤ rest.length := by
  unfold decodeFront
  repeat' split
  all_goals simp only [List.length_cons]
  all_goals omega

/-- Decodes any bytes, in front of the characters found so far, in reverse. -/
def decodeOnto (found : List Char) (bytes : List UInt8) : List Char :=
  match bytes with
  | [] => found
  | lead :: rest =>
    let front := decodeFront lead rest
    decodeOnto (front.1 :: found) front.2
termination_by bytes.length
decreasing_by
  have := decodeFront_length lead rest
  simp only [List.length_cons]
  omega

/-- The characters that any bytes spell, with replacements for what spells none. -/
def ofBytesLossy (bytes : ByteArray) : List Char := (decodeOnto [] bytes.toList).reverse

/-!
## Texts of octets

Programs pass bytes on, whatever these spell.  A text of octets is a text whose characters have
numbers below 256: each stands for the byte with its number.  So bytes can be looked at and put
together like characters, and none is lost.
-/

def octet (byte : UInt8) : Char := Char.ofNat byte.toNat

def octetsOf (bytes : ByteArray) : List Char := bytes.toList.map octet

/-- The bytes that octets stand for. -/
def bytesOf (octets : List Char) : ByteArray := ⟨(octets.map (UInt8.ofNat ·.toNat)).toArray⟩

def toOctets (text : String) : String := String.ofList (octetsOf (toBytes text))

def ofOctets (octets : String) : String := String.ofList (ofBytesLossy (bytesOf octets.toList))

theorem octet_toNat (byte : UInt8) : (octet byte).toNat = byte.toNat := by
  have below : byte.toNat < 256 := byte.toNat_lt
  have valid : byte.toNat.isValidChar := Or.inl (by omega)
  rw [octet, Char.ofNat, dif_pos valid]
  rfl

theorem octet_toByte (byte : UInt8) : UInt8.ofNat (octet byte).toNat = byte := by
  rw [octet_toNat, UInt8.ofNat_toNat]

/-- No byte is lost: octets stand for the bytes that they were made of. -/
theorem bytesOf_octets (bytes : List UInt8) : (bytesOf (bytes.map octet)).data.toList = bytes := by
  simp [bytesOf, Function.comp_def, octet_toByte]

end Text
end BaseLanguage
