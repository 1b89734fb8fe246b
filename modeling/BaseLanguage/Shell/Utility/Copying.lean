import BaseLanguage.Shell.Utility.Options

namespace BaseLanguage.Shell

open Text

/-!
# Copying in blocks

`dd` copies bytes in blocks from a place of one file to a place of another one, and may convert them
on the way.  At its end it says how many blocks were whole, and how many were not.
-/

structure BlockCopy where
  source : Option String := none
  target : Option String := none
  inputBlock : Nat := 512
  outputBlock : Nat := 512
  keepsBlocks : Bool := false
  conversionBlock : Nat := 0
  skip : Nat := 0
  seek : Nat := 0
  count : Option Nat := none
  conversions : List String := []
  inputFlags : List String := []
  outputFlags : List String := []
  status : String := ""

namespace BlockCopy

def number? (text : String) : Option Nat :=
  let values := (pieces 'x' text.toList).map part?
  if values.all Option.isSome then some ((values.filterMap id).foldl (· * ·) 1) else none
where
  part? (text : Chars) : Option Nat :=
    let digits := text.takeWhile isDigit
    let unit := text.drop digits.length
    if digits.isEmpty then none
    else
      let factor : Option Nat := match unit with
        | ['c'] => some 1
        | ['w'] => some 2
        | ['b'] => some 512
        | ['B'] => some 1
        | _ => unitFactor? unit
      factor.map (valueOf digits * ·)

def conversionWords : List String :=
  wordsIn "ascii block unblock lcase ucase sparse swab noerror nocreat excl notrunc sync fdatasync
  fsync"

def flagWords : List String :=
  wordsIn "append binary cio direct directory dsync noatime nocache noctty nofollow nolinks nonblock
  sync text fullblock count_bytes skip_bytes seek_bytes"

variable (copy : BlockCopy)

def withOperand (program text : String) : Except String BlockCopy := do
  let hint := helpHint program
  let name := text.toList.takeWhile (· != '=')
  let value := .ofList (text.toList.drop (name.length + 1))
  let number (least : Nat) : Except String Nat := match number? value with
    | some found => if least <= found then .ok found else .error s!"invalid number: {quoted value}"
    | none => .error s!"invalid number: {quoted value}"
  let inBytes : Bool := value.endsWith "B" && (value.toList.dropLast.all isDigit)
  let words (what : String) (known : List String) : Except String (List String) := do
    let words := (pieces ',' value.toList).map .ofList
    match words.find? (!known.contains ·) with
    | some word => throw s!"invalid {what}: {quoted word}\n{hint}"
    | none => return words
  if name.length = text.length then throw s!"unrecognized operand {quoted text}\n{hint}"
  match .ofList name with
  | "if" => return { copy with source := some value }
  | "of" => return { copy with target := some value }
  | "ibs" => return { copy with inputBlock := <- number 1 }
  | "obs" => return { copy with outputBlock := <- number 1 }
  | "bs" =>
    let size <- number 1
    return { copy with inputBlock := size, outputBlock := size, keepsBlocks := true }
  | "cbs" => return { copy with conversionBlock := <- number 1 }
  | "skip" =>
    let flags := if inBytes then "skip_bytes" :: copy.inputFlags else copy.inputFlags
    return { copy with skip := <- number 0, inputFlags := flags }
  | "iseek" => return { copy with skip := <- number 0 }
  | "seek" =>
    let flags := if inBytes then "seek_bytes" :: copy.outputFlags else copy.outputFlags
    return { copy with seek := <- number 0, outputFlags := flags }
  | "oseek" => return { copy with seek := <- number 0 }
  | "count" =>
    let flags := if inBytes then "count_bytes" :: copy.inputFlags else copy.inputFlags
    return { copy with count := some (<- number 0), inputFlags := flags }
  | "conv" =>
    return { copy with conversions := copy.conversions ++ (<- words "conversion" conversionWords) }
  | "iflag" =>
    return { copy with inputFlags := copy.inputFlags ++ (<- words "input flag" flagWords) }
  | "oflag" =>
    return { copy with outputFlags := copy.outputFlags ++ (<- words "output flag" flagWords) }
  | "status" =>
    if ["none", "noxfer", "progress"].contains value then return { copy with status := value }
    else throw s!"invalid status level: {quoted value}\n{hint}"
  | _ => throw s!"unrecognized operand {quoted text}\n{hint}"

def clash? : Option String :=
  let both (left right : String) : Bool :=
    copy.conversions.contains left && copy.conversions.contains right
  if both "lcase" "ucase" then some "cannot combine lcase and ucase"
  else if both "block" "unblock" then some "cannot combine block and unblock"
  else if both "excl" "nocreat" then some "cannot combine excl and nocreat"
  else none

def swapped : List UInt8 -> List UInt8
  | first :: second :: rest => second :: first :: swapped rest
  | rest => rest

def blocked (size : Nat) (text : Chars) : Chars × Nat :=
  (linesOf '\n' text).foldl
    (fun ((said, cut) : Chars × Nat) line =>
      (said ++ line.take size ++ List.replicate (size - line.length) ' ',
        if size < line.length then cut + 1 else cut))
    ([], 0)

def unblocked (size : Nat) : Nat -> Chars -> Chars
  | 0, _ => []
  | limit + 1, text =>
    if text.isEmpty then []
    else
      let block := text.take size
      (dropTrailing (· = ' ') block) ++ '\n' :: unblocked size limit (text.drop size)

def converted (bytes : ByteArray) : ByteArray :=
  let has (word : String) : Bool := copy.conversions.contains word
  let bytes := if has "swab" then ⟨(swapped bytes.data.toList).toArray⟩ else bytes
  let upper (byte : UInt8) : UInt8 := if 97 <= byte && byte <= 122 then byte - 32 else byte
  let lower (byte : UInt8) : UInt8 := if 65 <= byte && byte <= 90 then byte + 32 else byte
  if has "ucase" then ⟨bytes.data.map upper⟩
  else if has "lcase" then ⟨bytes.data.map lower⟩
  else bytes

def recordText (whole part : Nat) (direction : String) : String :=
  s!"{numberText whole}+{numberText part} records {direction}"

def readBlocks (copy : BlockCopy) (stream : Nat) :
    Nat -> Nat -> List ByteArray -> Act (List ByteArray)
  | 0, _, blocks => return blocks.reverse
  | limit + 1, left, blocks => do
    let inBytes := copy.inputFlags.contains "count_bytes"
    if copy.count.isSome && left = 0 then return blocks.reverse
    let wanted := if inBytes && copy.count.isSome then min left copy.inputBlock else copy.inputBlock
    let window <-
      if copy.inputFlags.contains "fullblock" then takeBytes wanted stream
      else do
        match <- waitFor (0 < ·.size) stream with
        | none => pure none
        | some window =>
          let bytes := window.front wanted
          drop bytes.size stream
          pure (some bytes)
    match window with
    | none => return blocks.reverse
    | some bytes =>
      if bytes.isEmpty then return blocks.reverse
      else
        let left := if inBytes then left - bytes.size else left - 1
        readBlocks copy stream limit left (bytes :: blocks)

def skipBytes (stream : Nat) (count : Nat) : Act Nat := do
  match <- takeBytes count stream with
  | some bytes => return count - bytes.size
  | none => return count

def perform (program : String) (input output : Nat) : Act Nat := do
  let has (word : String) : Bool := copy.conversions.contains word
  let offset :=
    if copy.inputFlags.contains "skip_bytes" then copy.skip else copy.skip * copy.inputBlock
  let missing <- if offset = 0 then pure 0 else skipBytes input offset
  if 0 < missing then
    let name := copy.source.getD "standard input"
    discard <| complain program s!"{quoted name}: cannot skip to specified offset"
  let limit := if copy.count == some 0 then 0 else mostWaits
  let blocks <- readBlocks copy input limit (copy.count.getD 0) []
  let whole := (blocks.filter (·.size = copy.inputBlock)).length
  let part := blocks.length - whole
  let padded := blocks.map fun block =>
    if has "sync" && block.size < copy.inputBlock then
      let filler : UInt8 := if has "block" || has "unblock" then 32 else 0
      block ++ ⟨Array.replicate (copy.inputBlock - block.size) filler⟩
    else block
  let changed := padded.map copy.converted
  let isPlain := copy.keepsBlocks && !(has "block" || has "unblock")
  let (written, cut) : List ByteArray × Nat :=
    if isPlain then (changed, 0)
    else
      let all := changed.foldl (fun all block => all ++ block) .empty
      let (all, cut) : ByteArray × Nat :=
        if has "block" && copy.conversionBlock ≠ 0 then
          let (text, cut) := blocked copy.conversionBlock (octetsOf all)
          (bytesOf text, cut)
        else if has "unblock" && copy.conversionBlock ≠ 0 then
          let text := octetsOf all
          (bytesOf (unblocked copy.conversionBlock (text.length + 1) text), 0)
        else (all, 0)
      let count := (all.size + copy.outputBlock - 1) / copy.outputBlock
      ((List.range count).map fun index =>
        all.extract (index * copy.outputBlock) ((index + 1) * copy.outputBlock), cut)
  let fault <- written.foldlM
    (fun fault block => do
      match fault with
      | some _ => return fault
      | none => tryPut output block)
    none
  if let some fault := fault then
    let name := copy.target.getD "standard output"
    discard <| complain program s!"error writing {quoted name}: {wording fault}"
  let wholeOut := (written.filter (·.size = copy.outputBlock)).length
  let partOut := written.length - wholeOut
  let total := written.foldl (fun total block => total + block.size) 0
  if copy.status != "none" then
    let cutText :=
      if cut = 0 then ""
      else if cut = 1 then "1 truncated record\n"
      else s!"{numberText cut} truncated records\n"
    let unit := if total = 1 then "byte" else "bytes"
    let decimalSize := shortSize 1000 "B" total
    let binarySize := shortSize 1024 "iB" total
    let human :=
      if total < 1000 then ""
      else if total < 1024 then s!" ({decimalSize})"
      else s!" ({decimalSize}, {binarySize})"
    let figures :=
      if copy.status = "noxfer" then ""
      else s!"{numberText total} {unit}{human} copied, 0.0001 s, {rate total}\n"
    discard <| putText standardError
      (recordText whole part "in" ++ "\n" ++ recordText wholeOut partOut "out" ++ "\n" ++ cutText ++
        figures)
  return if fault.isSome then failure else success
where
  shortSize (base : Nat) (ending : String) (size : Nat) : String :=
    let letters := if base = 1000 then ["k", "M", "G", "T"] else ["K", "M", "G", "T"]
    let power := ((List.range 4).filter fun index => Nat.pow base (index + 1) <= size).length
    if power = 0 then s!"{numberText size} B"
    else
      let unit := Nat.pow base power
      let tenths := (size * 10 + unit / 2) / unit
      let text :=
        if tenths < 100 then s!"{numberText (tenths / 10)}.{numberText (tenths % 10)}"
        else numberText ((size + unit / 2) / unit)
      let letter := letters.getD (power - 1) ""
      s!"{text} {letter}{ending}"
  rate (total : Nat) : String :=
    let perSecond := total * 10000
    if perSecond < 1000 then "0.0 kB/s" else shortSize 1000 "B" perSecond ++ "/s"

end BlockCopy

def dd : Utility :=
  withOptions { letters := "" } fun program call => do
    match call.operands.foldlM (fun copy text => BlockCopy.withOperand copy program text)
        ({} : BlockCopy) with
    | .error fault => complain program fault
    | .ok copy =>
      if let some fault := copy.clash? then return <- complain program fault
      let truncates := !copy.conversions.contains "notrunc"
      let offset :=
        if copy.outputFlags.contains "seek_bytes" then copy.seek else copy.seek * copy.outputBlock
      let mode : OpeningMode := {
        writes := true
        creates := !copy.conversions.contains "nocreat"
        empties := truncates && offset = 0
        appends := copy.outputFlags.contains "append" }
      let run (input output : Nat) : Act Nat := copy.perform program input output
      let writing (input : Nat) : Act Nat := do
        match copy.target with
        | none =>
          if 0 < offset then
            modify fun session => match session.stream? standardOutput with
              | some (.opened number) => session.advance number offset
              | _ => session
          run input standardOutput
        | some name =>
          if copy.conversions.contains "excl" && ((<- get).files.find (pathOf name)).isOk then
            complain program s!"failed to open {quoted name}: File exists"
          else
            match <- withStream mode name (fun stream => do
              if 0 < offset then place stream truncates offset
              run input stream) with
            | .ok status => return status
            | .error fault => complain program s!"failed to open {quoted name}: {wording fault}"
      match copy.source with
      | none => writing standardInput
      | some name =>
        match <- withStream .reading name (fun stream => do
          match <- readingFault? stream with
          | some fault => complain program s!"error reading {quoted name}: {wording fault}"
          | none => writing stream) with
        | .ok status => return status
        | .error fault => complain program s!"failed to open {quoted name}: {wording fault}"
where
  place (stream : Nat) (cuts : Bool) (offset : Nat) : Act Unit :=
    modify fun session => match session.stream? stream with
      | some (.opened number) => match session.opened[number]? with
        | some opening =>
          let files := match session.files.node? opening.node with
            | some ⟨.file content, _, _⟩ =>
              if cuts then
                let kept := content.extract 0 offset
                let filler : ByteArray := ⟨Array.replicate (offset - kept.size) 0⟩
                session.files.store opening.node (.file (kept ++ filler))
              else session.files
            | _ => session.files
          { session with files }.advance number offset
        | none => session
      | _ => session

end BaseLanguage.Shell
