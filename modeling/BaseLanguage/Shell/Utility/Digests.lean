import BaseLanguage.Digest.Rounds
import BaseLanguage.Shell.Utility.Options
import BaseLanguage.Text.Binary

namespace BaseLanguage.Shell

open Text

/-!
# Programs for digests and sums

These say the digests of files, or check them against those that were said before.
-/

structure DigestKind where
  tag : String
  length : Nat
  digest : ByteArray -> List UInt8

namespace DigestKind

def named : List (String × DigestKind) :=
  [("md5", ⟨"MD5", 16, Digest.md5⟩), ("sha1", ⟨"SHA1", 20, Digest.sha1⟩),
    ("sha224", ⟨"SHA224", 28, Digest.sha224⟩), ("sha256", ⟨"SHA256", 32, Digest.sha256⟩),
    ("sha384", ⟨"SHA384", 48, Digest.sha384⟩), ("sha512", ⟨"SHA512", 64, Digest.sha512⟩),
    ("blake2b", ⟨"BLAKE2b", 64, Digest.blake2b 64⟩)]

def withBits (kind : DigestKind) (bits : Nat) : DigestKind :=
  if kind.tag != "BLAKE2b" || bits = 0 || bits = 512 then kind
  else ⟨s!"BLAKE2b-{numberText bits}", bits / 8, Digest.blake2b (bits / 8)⟩

end DigestKind

def hexText (bytes : List UInt8) : String :=
  .ofList (bytes.flatMap fun byte =>
    [Nat.digitChar (byte.toNat / 16), Nat.digitChar (byte.toNat % 16)])

def nameOnLine (name : String) : Bool × String :=
  let text := name.toList.flatMap fun
    | '\n' => ['\\', 'n']
    | '\r' => ['\\', 'r']
    | '\\' => ['\\', '\\']
    | c => [c]
  (text.length ≠ name.length, .ofList text)

def nameFromLine : Chars -> Option Chars
  | [] => some []
  | '\\' :: 'n' :: rest => (nameFromLine rest).map ('\n' :: ·)
  | '\\' :: 'r' :: rest => (nameFromLine rest).map ('\r' :: ·)
  | '\\' :: '\\' :: rest => (nameFromLine rest).map ('\\' :: ·)
  | '\\' :: _ => none
  | c :: rest => (nameFromLine rest).map (c :: ·)

structure DigestRequest where
  program : String
  call : ProgramCall
  kind : DigestKind
  tagged : Bool

namespace DigestRequest

variable (request : DigestRequest)

def line (name : String) (bytes : ByteArray) : Chars :=
  let digest := hexText (request.kind.digest bytes)
  let isZero := request.call.has 'z'
  let (changed, shown) := if isZero then (false, name) else nameOnLine name
  let front := if changed then "\\" else ""
  let text :=
    if request.tagged then s!"{front}{request.kind.tag} ({shown}) = {digest}"
    else
      let mark := if request.call.lastOf ['b', 't'] == some 'b' then "*" else " "
      s!"{front}{digest} {mark}{shown}"
  text.toList ++ [if isZero then Char.ofNat 0 else '\n']

def read? (line : Chars) : Option (String × String) :=
  let line := line.dropWhile (fun c => c = ' ' || c = '\t')
  let (escaped, line) : Bool × Chars := match line with
    | '\\' :: rest => (true, rest)
    | line => (false, line)
  let nameOf (text : Chars) : Option String :=
    (if escaped then nameFromLine text else some text).map .ofList
  let tag := request.kind.tag.toList
  let size := 2 * request.kind.length
  let tagged? : Option (String × String) := do
    if !tag.isPrefixOf line then none
    else
      let behind := (line.drop tag.length).dropWhile (· = ' ')
      match behind with
      | '(' :: rest =>
        let digest := rest.drop (rest.length - size)
        let front := rest.take (rest.length - size)
        if digest.length = size && digest.all isHexDigit && ") = ".toList.isSuffixOf front then
          (nameOf (front.take (front.length - 4))).map fun name => (.ofList digest, name)
        else none
      | _ => none
  tagged?.orElse fun _ =>
    let digest := line.takeWhile isHexDigit
    match line.drop digest.length with
    | blank :: rest =>
      if digest.length = size && (blank = ' ' || blank = '\t') then
        let name := match rest with
          | mark :: name => if (mark = ' ' || mark = '*') && !name.isEmpty then name else rest
          | [] => []
        if name.isEmpty then none else (nameOf name).map fun name => (.ofList digest, name)
      else none
    | [] => none

structure Checked where
  right : Nat := 0
  wrong : Nat := 0
  unread : Nat := 0
  missed : Nat := 0
  unclear : Nat := 0
  lines : Nat := 0

def checkLine (source : String) (state : Checked) (line : Chars) : Act Checked := do
  let state := { state with lines := state.lines + 1 }
  let call := request.call
  let silent := call.has 'σ'
  if line.isEmpty || line.head? == some '#' then return state
  else
    let isInput (name : String) : Bool := name = "-" && source = "'standard input'"
    match (request.read? line).filter (!isInput ·.2) with
    | none =>
      if call.has 'w' then
        let number := numberText state.lines
        let tag := request.kind.tag
        discard <| complain request.program
          s!"{source}: {number}: improperly formatted {tag} checksum line"
      return { state with unclear := state.unclear + 1 }
    | some (digest, name) =>
      let (changed, shown) := nameOnLine name
      let shown := (if changed then "\\" else "") ++ shown
      match <- readOperand name with
      | .error fault =>
        if call.has 'μ' && fault = wording .missing then
          return { state with missed := state.missed + 1 }
        discard <| complain request.program s!"{quotedIfNeeded name}: {fault}"
        if !silent then discard <| answerLines request.program [s!"{shown}: FAILED open or read"]
        return { state with unread := state.unread + 1 }
      | .ok bytes =>
        if hexText (request.kind.digest bytes) = digest.toLower then
          if !silent && !call.has 'κ' then discard <| answerLines request.program [s!"{shown}: OK"]
          return { state with right := state.right + 1 }
        else
          if !silent then discard <| answerLines request.program [s!"{shown}: FAILED"]
          return { state with wrong := state.wrong + 1 }

def check (source : String) : Act Nat := do
  let program := request.program
  match <- readOperand source with
  | .error fault => complain program s!"{quotedIfNeeded source}: {fault}"
  | .ok bytes =>
    let shown := if source = "-" then "'standard input'" else quotedIfNeeded source
    let lines := linesOf '\n' (octetsOf bytes)
    let state <- lines.foldlM (request.checkLine shown) {}
    let call := request.call
    let warn (count : Nat) (one many : String) : Act Unit := do
      if count ≠ 0 then
        let number := numberText count
        let text := if count = 1 then one else many
        discard <| complain program s!"WARNING: {number} {text}"
    if state.right + state.wrong + state.unread + state.missed = 0 then
      complain program s!"{shown}: no properly formatted checksum lines found"
    else
      if !call.has 'σ' then
        warn state.unclear "line is improperly formatted" "lines are improperly formatted"
        warn state.unread "listed file could not be read" "listed files could not be read"
        warn state.wrong "computed checksum did NOT match" "computed checksums did NOT match"
        if call.has 'μ' && state.right = 0 then
          discard <| complain program s!"{shown}: no file was verified"
      return statusOf (0 < state.right && state.wrong = 0 && state.unread = 0 &&
        !(call.has 'ς' && state.unclear ≠ 0))

def perform : Act Nat := do
  let names := operandsOrInput request.call.operands
  if request.call.has 'c' then allOf (names.map request.check)
  else
    allOf <| names.map fun name => do
      match <- readOperand name with
      | .error fault => complain request.program s!"{quotedIfNeeded name}: {fault}"
      | .ok bytes => answerText request.program (request.line name bytes)

def fault? (call : ProgramCall) : Option String :=
  let checking := call.has 'c'
  let only (letter : Char) (word : String) : Option String :=
    if call.has letter && !checking then
      some s!"the --{word} option is meaningful only when verifying checksums"
    else none
  if checking && call.has 'τ' then some "the --tag option is meaningless when verifying checksums"
  else if checking && call.has 'z' then
    some "the --zero option is not supported when verifying checksums"
  else if checking && (call.has 'b' || call.has 't') then
    some "the --binary and --text options are meaningless when verifying checksums"
  else
    ((((only 'μ' "ignore-missing").orElse fun _ => only 'σ' "status").orElse fun _ =>
      only 'w' "warn").orElse fun _ => only 'κ' "quiet").orElse fun _ => only 'ς' "strict"

end DigestRequest

def digestWords : List (String × Char) :=
  [("binary", 'b'), ("check", 'c'), ("ignore-missing", 'μ'), ("quiet", 'κ'), ("status", 'σ'),
    ("text", 't'), ("warn", 'w'), ("strict", 'ς'), ("tag", 'τ'), ("zero", 'z'), ("length", 'l')]

def digestBits (call : ProgramCall) : Except String Nat := match call.argument? 'l' with
  | none => .ok 0
  | some text => match digitsValue? text with
    | none => .error s!"invalid length: {quoted text}"
    | some bits =>
      if bits % 8 ≠ 0 then .error s!"invalid length: {quoted text}\nlength is not a multiple of 8"
      else if 512 < bits then
        .error (s!"invalid length: {quoted text}\nmaximum digest length for 'BLAKE2b'" ++
          " is 512 bits")
      else .ok bits

def digestProgram (kind : String) : Utility :=
  let letters := if kind = "blake2b" then "bcl:twzμκσςτ" else "bctwzμκσςτ"
  withOptions { letters, words := digestWords } fun program call => do
    match DigestKind.named.lookup kind, DigestRequest.fault? call, digestBits call with
    | none, _, _ => return failure
    | _, some fault, _ => complainOfCall program fault
    | _, _, .error fault => do
      let lines := (pieces '\n' fault.toList).map .ofList
      lines.forM (discard <| complain program ·)
      return failure
    | some kind, none, .ok bits =>
      DigestRequest.perform { program, call, kind := kind.withBits bits, tagged := call.has 'τ' }

/-! ## Sums -/

inductive SumKind where
  | remainder
  | turning
  | plain

def saySum (program : String) (kind : SumKind) (named : Bool) (name : String) : Act Nat := do
  match <- readOperand name with
  | .error fault => complain program s!"{quotedIfNeeded name}: {fault}"
  | .ok bytes =>
    let blocks (size : Nat) : Nat := (bytes.size + size - 1) / size
    let text := match kind with
      | .remainder =>
        let sum := numberText (Digest.crc bytes)
        s!"{sum} {numberText bytes.size}"
      | .turning =>
        let sum := String.ofList (withZeros 5 (decimal (Digest.turningSum bytes)))
        let count := numberText (blocks 1024)
        let gap := String.ofList (List.replicate (5 - count.length) ' ')
        s!"{sum} {gap}{count}"
      | .plain =>
        let sum := numberText (Digest.plainSum bytes)
        s!"{sum} {numberText (blocks 512)}"
    answerLines program [if named then s!"{text} {name}" else text]

def sum : Utility :=
  withOptions { letters := "rs", words := [("sysv", 's')] } fun program call => do
    let kind : SumKind := if call.lastOf ['r', 's'] == some 's' then .plain else .turning
    allOf ((operandsOrInput call.operands).map (saySum program kind (!call.operands.isEmpty)))

def sumKinds : List (String × SumKind) := [("bsd", .turning), ("sysv", .plain), ("crc", .remainder)]

def cksum : Utility :=
  withOptions
    { letters := "a:bcl:tzwμκσςτυδ",
      words := [("algorithm", 'a'), ("debug", 'δ'), ("untagged", 'υ')] ++ digestWords }
    fun program call => do
      let names := ["bsd", "sysv", "crc"] ++ DigestKind.named.map Prod.fst ++ ["sm3"]
      let chosen := choiceOf "--algorithm" ((call.argument? 'a').getD "crc")
        (names.map fun name => (name, name))
      match chosen with
      | .error fault => complainOfCall program fault
      | .ok name => match sumKinds.lookup name, DigestKind.named.lookup name with
        | some kind, _ =>
          if call.has 'l' then
            complain program "--length is only supported with --algorithm=blake2b"
          else if call.has 'c' then
            complain program "--check is not supported with --algorithm=\x7bbsd,sysv,crc\x7d"
          else
            allOf ((operandsOrInput call.operands).map
              (saySum program kind (!call.operands.isEmpty)))
        | none, some kind => match DigestRequest.fault? call, digestBits call with
          | some fault, _ => complainOfCall program fault
          | none, .error fault => complain program fault
          | none, .ok bits =>
            DigestRequest.perform
              { program, call, kind := kind.withBits bits, tagged := !call.has 'υ' }
        | none, none => return failure

end BaseLanguage.Shell
