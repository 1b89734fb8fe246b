import BaseLanguage.Storage.FileTree

namespace BaseLanguage

/-!
# What is known of files

A file takes room in blocks, of which the last one may be filled in part only; a folder takes one
block.  The room is measured in sectors.
-/

def blockBytes : Nat :=
  4096

def sectorBytes : Nat :=
  512

def Device.numbers : Device -> Nat × Nat
  | .nothing => (1, 3)
  | .zeros => (1, 5)
  | .full => (1, 7)
  | .noise => (1, 9)
  | .terminal => (5, 0)

namespace FileEntry

/-- The number of bytes that can be read. -/
def size (entry : FileEntry) : Nat :=
  match entry.node with
  | .file content => content.size
  | .folder => blockBytes
  | .link target => target.utf8ByteSize
  | _ => 0

/-- The number of sectors that something takes. -/
def sectors (entry : FileEntry) : Nat :=
  match entry.node with
  | .file content =>
    (content.size + blockBytes - 1) / blockBytes * (blockBytes / sectorBytes)
  | .folder => blockBytes / sectorBytes
  | _ => 0

def letter (entry : FileEntry) : Char :=
  match entry.node with
  | .file _ => '-'
  | .folder => 'd'
  | .link _ => 'l'
  | .queue _ => 'p'
  | .device _ => 'c'

def kind (entry : FileEntry) : String :=
  match entry.node with
  | .file content => if content.isEmpty then "regular empty file" else "regular file"
  | .folder => "directory"
  | .link _ => "symbolic link"
  | .queue _ => "fifo"
  | .device _ => "character special file"

/-- The bits of a kind of file in front of its permissions. -/
def kindBits (entry : FileEntry) : Nat :=
  match entry.node with
  | .file _ => 0o100000
  | .folder => 0o040000
  | .link _ => 0o120000
  | .queue _ => 0o010000
  | .device _ => 0o020000

/-- Whether something is a file with bytes. -/
def isFile (entry : FileEntry) : Bool :=
  match entry.node with
  | .file _ => true
  | _ => false

def isFolder (entry : FileEntry) : Bool :=
  match entry.node with
  | .folder => true
  | _ => false

def isLink (entry : FileEntry) : Bool :=
  match entry.node with
  | .link _ => true
  | _ => false

def target? (entry : FileEntry) : Option String :=
  match entry.node with
  | .link target => some target
  | _ => none

def numbers? (entry : FileEntry) : Option (Nat × Nat) :=
  match entry.node with
  | .device device => some device.numbers
  | _ => none

/-- The sectors of a file hold all of its bytes. -/
theorem size_le_sectors (content : ByteArray) (time : Timestamp) (permissions : Nat) :
    (FileEntry.mk (.file content) time permissions).size ≤
      (FileEntry.mk (.file content) time permissions).sectors * sectorBytes := by
  simp only [size, sectors, blockBytes, sectorBytes]
  omega

end FileEntry
end BaseLanguage

namespace BaseLanguage

/-!
## Archives

An archive is a row of members.  Each has a block with its name and what is known of it, and its octets
behind that, filled up to whole blocks.  A name that is too long stands in a member of its own.
-/

def archiveBlock : Nat :=
  512

/-- The number of octets that are written at a time. -/
def archiveRecord : Nat :=
  20 * archiveBlock

structure ArchiveMember where
  name : List Char
  permissions : Nat := 0o644
  owner : Nat := 0
  group : Nat := 0
  /-- Seconds. -/
  modified : Nat := 0
  /-- What kind of member it is. -/
  kind : Char := '0'
  /-- Where a link leads. -/
  target : List Char := []
  ownerName : String := "root"
  groupName : String := "root"
  content : ByteArray := ByteArray.empty

namespace ArchiveMember

/-- So many octets, with zeros behind a text. -/
def field (width : Nat) (text : List Char) : List Char :=
  text.take width ++ List.replicate (width - text.length) (Char.ofNat 0)

/-- A number in octal digits, and a zero. -/
def octalField (width value : Nat) : List Char :=
  let digits := Nat.toDigits 8 value
  List.replicate (width - 1 - digits.length) '0' ++ digits ++ [Char.ofNat 0]

/-- A field is as wide as told. -/
theorem field_length (width : Nat) (text : List Char) : (field width text).length = width := by
  simp [field]
  omega

/-- The fields in front of the sum of a block, and those behind it. -/
def fields (member : ArchiveMember) : List Char × List Char :=
  (field 100 member.name ++ octalField 8 member.permissions ++ octalField 8 member.owner ++
      octalField 8 member.group ++ octalField 12 member.content.size ++
      octalField 12 member.modified,
    [member.kind] ++ field 100 member.target ++ "ustar  ".toList ++ [Char.ofNat 0] ++
      field 32 member.ownerName.toList ++ field 32 member.groupName.toList)

/-- The sum of octets. -/
def sumOf (octets : List Char) : Nat :=
  octets.foldl (fun sum c => sum + c.toNat) 0

/-- Octets filled up to whole blocks. -/
def filled (size : Nat) (bytes : ByteArray) : ByteArray :=
  let missing := (size - bytes.size % size) % size
  bytes ++ ⟨Array.replicate missing 0⟩

/-- A member as octets, without one for a name that is too long. -/
def plainOctets (member : ArchiveMember) : ByteArray :=
  let (front, behind) := member.fields
  let sum := sumOf front + 8 * ' '.toNat + sumOf behind
  let digits := Nat.toDigits 8 sum
  let told := List.replicate (6 - digits.length) '0' ++ digits ++ [Char.ofNat 0, ' ']
  filled archiveBlock (Text.bytesOf (front ++ told ++ behind)) ++
    filled archiveBlock member.content

/-- A member that holds a name that is too long. -/
def nameMember (kind : Char) (name : List Char) : ArchiveMember :=
  { name := "././@LongLink".toList, kind, content := Text.bytesOf (name ++ [Char.ofNat 0]) }

def octets (member : ArchiveMember) : ByteArray :=
  let target :=
    if member.target.length ≤ 100 then ByteArray.empty
    else (nameMember 'K' member.target).plainOctets
  let name :=
    if member.name.length ≤ 100 then ByteArray.empty
    else (nameMember 'L' member.name).plainOctets
  target ++ name ++ member.plainOctets

end ArchiveMember

def archiveOf (members : List ArchiveMember) : ByteArray :=
  let all := members.foldl (fun all member => all ++ member.octets) ByteArray.empty
  ArchiveMember.filled archiveRecord (all ++ ⟨Array.replicate (2 * archiveBlock) 0⟩)

/-! ## Reading -/

structure ArchiveContent where
  members : List ArchiveMember := []
  /-- Where the octets of the archive end behind the last member. -/
  last : Nat := 0
  /-- Whether something is there that is no member. -/
  isDamaged : Bool := false
  /-- Whether the octets end in the middle of a member. -/
  isCut : Bool := false

/-- The octets of a field up to a zero. -/
def archiveField (bytes : ByteArray) (start width : Nat) : List Char :=
  (Text.octetsOf (bytes.extract start (start + width))).takeWhile (· != Char.ofNat 0)

def archiveNumber (bytes : ByteArray) (start width : Nat) : Nat :=
  ((archiveField bytes start width).filter Text.isDigit).foldl
    (fun value c => 8 * value + (c.toNat - '0'.toNat)) 0

/-- The lines of facts about a member, each with its length, a name and a value. -/
def archiveFacts : Nat -> List Char -> List (String × List Char)
  | 0, _ => []
  | limit + 1, text =>
    let digits := text.takeWhile Text.isDigit
    let size := Text.valueOf digits
    if digits.isEmpty || size ≤ digits.length + 1 then []
    else
      let line := ((text.take size).drop (digits.length + 1)).dropLast
      let name := line.takeWhile (· != '=')
      (String.ofList name, line.drop (name.length + 1)) :: archiveFacts limit (text.drop size)

/-- The members from a place on.  The names and the facts for the next one were told in front. -/
def archiveMembers (bytes : ByteArray) :
    Nat -> Nat -> List (String × List Char) -> List ArchiveMember -> ArchiveContent
  | 0, place, _, done => { members := done.reverse, last := place }
  | limit + 1, place, facts, done =>
    let block := bytes.extract place (place + archiveBlock)
    if block.isEmpty then { members := done.reverse, last := place }
    else if block.size < archiveBlock then { members := done.reverse, last := place }
    else if block.foldl (fun zero byte => zero && byte == 0) true then
      { members := done.reverse, last := place }
    else
      let octets := Text.octetsOf block
      let sum := ArchiveMember.sumOf (octets.take 148) + 8 * ' '.toNat +
        ArchiveMember.sumOf (octets.drop 156)
      if sum ≠ archiveNumber block 148 8 then
        { members := done.reverse, last := place, isDamaged := true }
      else
        let size := archiveNumber block 124 12
        let start := place + archiveBlock
        let content := bytes.extract start (start + size)
        let next := start + (size + archiveBlock - 1) / archiveBlock * archiveBlock
        let kind := (octets.getD 156 '0')
        let kind := if kind = Char.ofNat 0 then '0' else kind
        let told := (Text.octetsOf content).takeWhile (· != Char.ofNat 0)
        if kind = 'L' then archiveMembers bytes limit next (("path", told) :: facts) done
        else if kind = 'K' then archiveMembers bytes limit next (("linkpath", told) :: facts) done
        else if kind = 'x' then
          let found := archiveFacts (content.size + 1) (Text.octetsOf content)
          archiveMembers bytes limit next (found ++ facts) done
        else if kind = 'g' then archiveMembers bytes limit next facts done
        else
          let isPlain := (octets.drop 257).take 6 == "ustar".toList ++ [Char.ofNat 0]
          let front := if isPlain then archiveField block 345 155 else []
          let name := archiveField block 0 100
          let name := if front.isEmpty then name else front ++ '/' :: name
          let name := (facts.lookup "path").getD name
          let isFolder := kind = '5' || (kind = '0' && name.getLast? == some '/')
          let member : ArchiveMember :=
            { name
              permissions := archiveNumber block 100 8
              owner := archiveNumber block 108 8
              group := archiveNumber block 116 8
              modified := archiveNumber block 136 12
              kind := if isFolder then '5' else kind
              target := (facts.lookup "linkpath").getD (archiveField block 157 100)
              ownerName := String.ofList (archiveField block 265 32)
              groupName := String.ofList (archiveField block 297 32)
              content }
          if bytes.size < next then
            { members := (member :: done).reverse, last := place, isCut := true }
          else archiveMembers bytes limit next [] (member :: done)

def readArchive (bytes : ByteArray) : ArchiveContent :=
  archiveMembers bytes (bytes.size / archiveBlock + 2) 0 [] []

end BaseLanguage
