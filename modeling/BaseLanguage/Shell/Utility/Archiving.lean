import BaseLanguage.Shell.Utility.Compressing
import BaseLanguage.Shell.Utility.Dates

namespace BaseLanguage.Shell

open Text

/-!
# A program for archives

The first option tells whether an archive is written, read or listed.  It may stand without a minus
sign in front of it; then the arguments of options follow in their order.
-/

namespace Archiving

inductive Task where
  | create
  | append
  | extract
  | list
  | delete

structure Request where
  call : ProgramCall := {}
  names : List (String × String) := []
  folder : String := ""

def options : OptionTable where
  letters := "crutxf:vzjJaOC:X:T:pPkhmSwlUWZGK:N:V:b:H:IoABgsM:R:nL:Fdα:βγδ"
  words := [("create", 'c'), ("append", 'r'), ("update", 'u'), ("list", 't'), ("extract", 'x'),
    ("get", 'x'), ("file", 'f'), ("verbose", 'v'), ("gzip", 'z'), ("gunzip", 'z'), ("ungzip", 'z'),
    ("bzip2", 'j'), ("xz", 'J'), ("auto-compress", 'a'), ("to-stdout", 'O'), ("directory", 'C'),
    ("exclude", 'α'), ("exclude-from", 'X'), ("files-from", 'T'), ("preserve-permissions", 'p'),
    ("same-permissions", 'p'), ("absolute-names", 'P'), ("keep-old-files", 'k'), ("dereference", 'h'),
    ("touch", 'm'), ("strip-components", 'K'), ("mtime", 'N'), ("owner", 'M'), ("group", 'R'),
    ("mode", 'L'), ("sort", 'b'), ("format", 'H'), ("numeric-owner", 'n'), ("no-recursion", 'β'),
    ("no-same-owner", 'o'), ("no-same-permissions", 'o'), ("same-owner", 's'), ("overwrite", 'U'),
    ("delete", 'd'), ("skip-old-files", 'γ'), ("wildcards", 'W'), ("full-time", 'F'),
    ("transform", 'V'), ("totals", 'g'), ("version", 'δ')]

def takingLetters : Chars := ['f', 'C', 'X', 'T', 'K', 'N', 'V', 'b', 'H', 'M', 'R', 'L']

def oldStyle (letters : Chars) (rest : List String) : Except Char (List String) := do
  let step (found : List String × List String) (letter : Char) :
      Except Char (List String × List String) :=
    let option := .ofList ['-', letter]
    if takingLetters.contains letter then
      match found.2 with
      | argument :: rest => .ok (found.1 ++ [option, argument], rest)
      | [] => .error letter
    else .ok (found.1 ++ [option], found.2)
  let (options, rest) <- letters.foldlM step ([], rest)
  return options ++ rest

namespace Request

variable (request : Request)

def settle (call : ProgramCall) : Request :=
  let isNew := request.call.options.length < call.options.length
  let request := { request with call }
  match call.options with
  | (letter, folder) :: _ =>
    if isNew && letter = 'C' then
      let isWhole := folder.startsWith "/" || request.folder.isEmpty
      { request with folder := if isWhole then folder else nameWithin request.folder folder }
    else request
  | [] => request

def read : Nat -> Request -> List String -> Except String Request
  | 0, request, _ => .ok request
  | _, request, [] => .ok request
  | limit + 1, request, argument :: rest => do
    let goOn (found : ProgramCall × Bool) : Except String Request :=
      read limit (request.settle found.1) (if found.2 then rest.drop 1 else rest)
    match argument.toList with
    | ['-', '-'] =>
      return { request with names := rest.reverse.map (request.folder, ·) ++ request.names }
    | '-' :: '-' :: text => goOn (<- options.readWord rest.head? request.call text)
    | '-' :: letter :: letters =>
      goOn (<- options.readLetters rest.head? request.call (letter :: letters))
    | _ => read limit { request with names := (request.folder, argument) :: request.names } rest

def has (request : Request) (letter : Char) : Bool := request.call.has letter

def task? : Option Task :=
  match request.call.lastOf ['c', 'r', 'u', 't', 'x', 'd'] with
  | some 'c' => some .create
  | some 'r' => some .append
  | some 'u' => some .append
  | some 'x' => some .extract
  | some 't' => some .list
  | some 'd' => some .delete
  | _ => none

def archive : String := (request.call.argument? 'f').getD "-"

def excludes (name : String) : Bool :=
  let parts := name.splitOn "/"
  let tails := (List.range parts.length).map (fun count => "/".intercalate (parts.drop count))
  (request.call.allArguments 'α').any fun pattern =>
    let matcher := Pattern.ofText (withoutSlashes pattern)
    tails.any (matcher.holds ·.toList)

end Request

def warn (message : String) : Act Unit := do discard <| putText standardError s!"tar: {message}\n"

def finish (failed : Bool) : Act Nat := do
  if failed then
    warn "Exiting with failure status due to previous errors"
    return 2
  else return 0

def stop : Act Nat := do
  warn "Error is not recoverable: exiting now"
  return 2

/-! ## Writing -/

structure Writing where
  members : List ArchiveMember := []
  known : List (Nat × Chars) := []
  hasCut : Bool := false
  hasCutTarget : Bool := false
  failed : Bool := false

abbrev Writer := StateT Writing Act

def memberName (name : Chars) : Chars × Chars := match name with
  | '/' :: _ => (['/'], name.dropWhile (· == '/'))
  | '.' :: '.' :: '/' :: rest => (['.', '.', '/'], rest)
  | name => ([], name)

def cutName (request : Request) (name : Chars) : Writer Chars := do
  if request.has 'P' then return name
  else
    let (cut, rest) := memberName name
    if !cut.isEmpty && !(<- get).hasCut then
      modify ({ · with hasCut := true })
      warn s!"Removing leading \x60{String.ofList cut}' from member names"
    return if rest.isEmpty then ['.', '/'] else rest

def givenTime (request : Request) (now : Timestamp) : Option Int :=
  match request.call.argument? 'N' with
  | some text => match text.toList with
    | '@' :: digits => some (valueOf digits)
    | _ => (dateTime? now text).map Timestamp.seconds
  | none => none

def givenOwner (isNumeric : Bool) : Option String -> Nat × String
  | none => (0, if isNumeric then "" else "root")
  | some text =>
    let parts := text.splitOn ":"
    let name := parts.headD ""
    let number := (parts.getLast?).bind digitsValue?
    let isNumber := (digitsValue? name).isSome
    let shown := if isNumber then (if number == some 0 then "root" else "") else name
    (number.getD 0, if isNumeric then "" else shown)

def addFile (request : Request) : Nat -> String -> String -> Writer Unit
  | 0, _, _ => return ()
  | limit + 1, folder, name => do
    if request.excludes (withoutSlashes name) then return ()
    let path := if folder.isEmpty || name.startsWith "/" then name else nameWithin folder name
    let session <- liftM (m := Act) get
    let found := if request.has 'h' then session.entry path else session.ownEntry path
    match found with
    | .error fault =>
      warn s!"{name}: Cannot stat: {wording fault}"
      modify ({ · with failed := true })
    | .ok entry =>
      let isFolder := entry.node = .folder
      let shown := if isFolder then withoutSlashes name ++ "/" else name
      let shown <- cutName request shown.toList
      let number := (session.ownPlace? path).bind session.files.number?
      let known := (<- get).known
      let before := number.bind (known.lookup ·)
      let isNumeric := request.has 'n'
      let (owner, ownerName) := givenOwner isNumeric (request.call.argument? 'M')
      let (group, groupName) := givenOwner isNumeric (request.call.argument? 'R')
      let seconds := (givenTime request session.files.clock).getD entry.modified.seconds
      let mask := session.files.mask
      let permissions := ((request.call.argument? 'L').bind
        (permissions? ⟨entry.permissions, isFolder, mask⟩)).getD entry.permissions
      let member : ArchiveMember :=
        { name := shown, permissions, owner, group, ownerName, groupName, modified := seconds.toNat }
      let member : ArchiveMember := match entry.node, before with
        | .folder, _ => { member with kind := '5' }
        | .link target, _ => { member with kind := '2', target := octetsOf (toBytes target) }
        | .queue _, _ => { member with kind := '6' }
        | .device _, _ => { member with kind := '3' }
        | .file _, some first => { member with kind := '1', target := first }
        | .file content, none => { member with content }
      match entry.node, before, number with
      | .file _, none, some number =>
        modify fun writing => { writing with known := (number, shown) :: writing.known }
      | _, _, _ => pure ()
      if member.kind = '1' && name.startsWith "/" && !(<- get).hasCutTarget && !request.has 'P' then
        modify ({ · with hasCutTarget := true })
        warn "Removing leading \x60/' from hard link targets"
      modify fun writing => { writing with members := member :: writing.members }
      if request.has 'v' then
        let stream := if request.archive = "-" then standardError else standardOutput
        discard <| putText stream (.ofList shown ++ "\n")
      if isFolder && !request.has 'β' then
        match session.files.locate (pathOf path) with
        | .ok place =>
          let children := (session.files.children place).map toOctets
          children.forM fun child => addFile request limit folder (nameWithin name child)
        | .error _ => pure ()

def listedNames (request : Request) : Act (List (String × String)) := do
  let lists <- (request.call.allArguments 'T').mapM fun name => do
    let bytes <- if name = "-" then do pure ((<- takeAll standardInput).getD .empty)
      else do pure ((<- readNamed name).toOption.getD .empty)
    let lines := pieces '\n' (octetsOf bytes)
    return (lines.filter (!·.isEmpty)).map fun line => (request.folder, .ofList line)
  return lists.flatten

def isPacked (request : Request) : Bool :=
  let name := request.archive
  request.has 'z' || (request.has 'a' && (name.endsWith ".gz" || name.endsWith ".tgz"))

def deliver (request : Request) (bytes : ByteArray) : Act (Option Nat) := do
  let bytes := if isPacked request then Compressed.ofText bytes none 0 6 else bytes
  if request.archive = "-" then
    discard <| answer "tar" bytes
    return none
  else match <- writeNamed .writing request.archive bytes with
    | .ok _ => return none
    | .error fault =>
      warn s!"{request.archive}: Cannot open: {wording fault}"
      return some (<- stop)

def writeArchive (request : Request) (before : List ArchiveMember) : Act Nat := do
  let names := request.names.reverse ++ (<- listedNames request)
  let work : Writer Unit := names.forM fun (folder, name) => addFile request 200 folder name
  let (_, writing) <- work.run {}
  match <- deliver request (archiveOf (before ++ writing.members.reverse)) with
  | some status => return status
  | none => finish writing.failed

/-! ## Reading -/

def readMembers (request : Request) : Act (Except Nat ArchiveContent) := do
  let content <- if request.archive = "-" then do
      pure (.ok ((<- takeAll standardInput).getD .empty))
    else readNamed request.archive
  match content with
  | .error fault =>
    let operation := if fault = .isFolder then "Cannot read" else "Cannot open"
    if request.has 'z' then
      discard <| putText standardError
        (s!"tar (child): {request.archive}: {operation}: {wording fault}\n" ++
          "tar (child): Error is not recoverable: exiting now\n")
      warn "Child returned status 2"
    else warn s!"{request.archive}: {operation}: {wording fault}"
    return .error (<- stop)
  | .ok bytes =>
    if Compressed.isMarked bytes 0 && (request.has 'z' || request.archive ≠ "-") then
      let (text, ending) := Compressed.text bytes
      if ending.status = failure then
        discard <| putText standardError (ending.wording "stdin")
        warn "Child returned status 1"
        return .error (<- stop)
      else return .ok (readArchive text)
    else if request.has 'z' then
      discard <| putText standardError (Compressed.Ending.notCompressed.wording "stdin")
      warn "Child returned status 1"
      return .error (<- stop)
    else if Compressed.isMarked bytes 0 then
      warn "Archive is compressed. Use -z option"
      return .error (<- stop)
    else return .ok (readArchive bytes)

def isMeant (name : String) (member : ArchiveMember) : Bool :=
  let own := (withoutSlashes (.ofList member.name))
  let wanted := withoutSlashes name
  own = wanted || own.startsWith (wanted ++ "/")

def isWanted (request : Request) (member : ArchiveMember) : Bool :=
  let names := request.names.map Prod.snd
  let isNamed (name : String) : Bool :=
    isMeant name member ||
      (request.has 'W' && (Pattern.ofText name).holds (withoutSlashes (.ofList member.name)).toList)
  (names.isEmpty || names.any isNamed) && !request.excludes (withoutSlashes (.ofList member.name))

def kindLetter : Char -> Char
  | '1' => 'h'
  | '2' => 'l'
  | '3' => 'c'
  | '5' => 'd'
  | '6' => 'p'
  | _ => '-'

def memberLine (request : Request) (width : Nat) (member : ArchiveMember) : String × Nat :=
  let name := .ofList member.name
  if !(request.has 'v' && request.has 't') then (name, width)
  else
    let isNumeric := request.has 'n'
    let owner := if isNumeric || member.ownerName.isEmpty then numberText member.owner
      else member.ownerName
    let group := if isNumeric || member.groupName.isEmpty then numberText member.group
      else member.groupName
    let size := numberText member.content.size
    let needed := owner.length + 1 + group.length + 1 + size.length
    let width := max width needed
    let shownSize := String.ofList (fillTo [] (width - needed + size.length) size.toList)
    let time := dateText "%Y-%m-%d %H:%M" ⟨(member.modified : Int), 0⟩
    let mode := String.ofList (kindLetter member.kind :: (permissionText member.permissions).toList)
    let target := String.ofList member.target
    let behind :=
      if member.kind = '2' then s!" -> {target}"
      else if member.kind = '1' then s!" link to {target}"
      else ""
    (s!"{mode} {owner}/{group} {shownSize} {time} {name}{behind}", width)

def strippedName (count : Nat) (name : Chars) : String :=
  let parts := (pieces '/' name).filter (fun part => !part.isEmpty && part ≠ ['.'])
  "/".intercalate ((parts.drop count).map .ofList)

def placeMember (request : Request) (member : ArchiveMember) (name path : String) :
    Act (Option String) := do
  let session <- get
  let parent := .ofList (dropTrailing (· != '/') path.toList)
  if !parent.isEmpty && parent ≠ "/" then
    discard <| filing (FileTree.createFolders (pathOf (withoutSlashes parent)))
  let there := (session.ownEntry path).toOption
  let time : Timestamp := ⟨(member.modified : Int), 0⟩
  let keep (_ : Unit) : Act Unit := do
    if !request.has 'm' then discard <| filing (FileTree.setModified (pathOf path) time)
    discard <| filing (FileTree.setPermissions (pathOf path) (member.permissions % 4096))
  if member.kind = '5' then
    if there.isNone then
      match <- filing (FileTree.createFolder (pathOf path)) with
      | .error fault => return some s!"{name}: Cannot mkdir: {wording fault}"
      | .ok _ => pure ()
    keep ()
    return none
  else if there.isSome && request.has 'γ' then return none
  else if there.isSome && request.has 'k' then
    let target := String.ofList member.target
    return some (match member.kind with
      | '2' => s!"{name}: Cannot create symlink to '{target}': File exists"
      | '1' => s!"{name}: Cannot hard link to '{target}': File exists"
      | _ => s!"{name}: Cannot open: File exists")
  else if there.any (·.node = .folder) && member.kind ≠ '5' then
    return some s!"{name}: Cannot open: Is a directory"
  else
    if there.isSome then discard <| filing (FileTree.remove (pathOf path))
    match member.kind with
    | '2' =>
      match <- filing (FileTree.createAt (pathOf path) (.link (ofOctets (.ofList member.target)))) with
      | .ok _ => return none
      | .error fault =>
        let target := String.ofList member.target
        return some s!"{name}: Cannot create symlink to '{target}': {wording fault}"
    | '1' =>
      let (_, target) := memberName member.target
      let stripped := strippedName ((request.call.argument? 'K').bind digitsValue? |>.getD 0) target
      let source := if request.folder.isEmpty then stripped else nameWithin request.folder stripped
      match <- filing (FileTree.link (pathOf source) (pathOf path)) with
      | .ok _ => return none
      | .error fault => return some s!"{name}: Cannot hard link to '{stripped}': {wording fault}"
    | '6' =>
      let (session, channel) := (<- get).addChannel { bounded := true }
      set session
      discard <| filing (FileTree.createAt (pathOf path) (.queue channel))
      return none
    | _ => match <- writeNamed .writing path member.content with
      | .error fault => return some s!"{name}: Cannot open: {wording fault}"
      | .ok _ =>
        keep ()
        return none

structure Extracting where
  failed : Bool := false
  hasCut : Bool := false
  width : Nat := 19
  folders : List (String × Timestamp) := []

def extractMember (request : Request) (found : Extracting) (member : ArchiveMember) :
    Act Extracting := do
  let count := ((request.call.argument? 'K').bind digitsValue?).getD 0
  let (cut, rest) := if request.has 'P' then ([], member.name) else memberName member.name
  let isNews := !cut.isEmpty && !found.hasCut
  if isNews then warn s!"Removing leading \x60{String.ofList cut}' from member names"
  let found := { found with hasCut := found.hasCut || isNews }
  let stripped := if count = 0 then withoutSlashes (.ofList rest) else strippedName count rest
  if stripped.isEmpty then return found
  else
    let isFolder := member.kind = '5'
    if request.has 'v' then
      let stream := if request.has 'O' then standardError else standardOutput
      discard <| putText stream (.ofList member.name ++ "\n")
    if request.has 'O' then
      if !isFolder then discard <| answer "tar" member.content
      return found
    else
      let path := if request.folder.isEmpty then stripped else nameWithin request.folder stripped
      match <- placeMember request member stripped path with
      | some message =>
        warn message
        return { found with failed := true }
      | none =>
        let time : Timestamp := ⟨(member.modified : Int), 0⟩
        return if isFolder && !request.has 'm' then
          { found with folders := (path, time) :: found.folders } else found

def tellDamage (content : ArchiveContent) : Act Bool := do
  if content.isDamaged || (content.members.isEmpty && content.last = 0) then
    if content.members.isEmpty then warn "This does not look like a tar archive"
    else warn "Skipping to next header"
    return true
  else return false

def tellMissing (request : Request) (members : List ArchiveMember) : Act Bool := do
  let missing := (request.names.reverse.map Prod.snd).filter fun name =>
    !members.any (isMeant name) &&
      !(request.has 'W' && members.any fun member =>
        (Pattern.ofText name).holds (withoutSlashes (.ofList member.name)).toList)
  missing.forM fun name => warn s!"{name}: Not found in archive"
  return !missing.isEmpty

def readThrough (request : Request) (lists : Bool) : Act Nat := do
  match <- readMembers request with
  | .error status => return status
  | .ok content =>
    let wanted := content.members.filter (isWanted request)
    if !lists && !request.folder.isEmpty && !(<- get).hasFolder request.folder then
      warn s!"{request.folder}: Cannot open: {wording .missing}"
      stop
    else
      let step (found : Extracting) (member : ArchiveMember) : Act Extracting := do
        if lists then
          let (line, width) := memberLine request found.width member
          discard <| putText standardOutput (line ++ "\n")
          return { found with width }
        else extractMember request found member
      let found <- wanted.foldlM step {}
      found.folders.forM fun (path, time) =>
        discard <| filing (FileTree.setModified (pathOf path) time)
      if content.isCut then
        warn "Unexpected EOF in archive"
        if !lists then warn "Unexpected EOF in archive"
        stop
      else
        let isDamaged <- tellDamage content
        let isMissing <- tellMissing request content.members
        finish (found.failed || isDamaged || isMissing)

def deleteMembers (request : Request) : Act Nat := do
  match <- readMembers request with
  | .error status => return status
  | .ok content =>
    let names := request.names.map Prod.snd
    let kept := content.members.filter (fun member => !names.any (isMeant · member))
    let isMissing <- tellMissing request content.members
    match <- deliver request (archiveOf kept) with
    | some status => return status
    | none => finish isMissing

def tellHint : Act Unit := do
  discard <| putText standardError "Try 'tar --help' or 'tar --usage' for more information.\n"

def run (request : Request) : Act Nat := do
  match request.task? with
  | none =>
    warn "You must specify one of the '-Acdtrux', '--delete' or '--test-label' options"
    tellHint
    return 2
  | some .create =>
    if request.names.isEmpty && !request.has 'T' then
      warn "Cowardly refusing to create an empty archive"
      tellHint
      return 2
    else writeArchive request []
  | some .append => match <- readNamed request.archive with
    | .ok bytes => writeArchive request (readArchive bytes).members
    | .error _ => writeArchive request []
  | some .extract => readThrough request false
  | some .list => readThrough request true
  | some .delete => deleteMembers request

end Archiving

def archiving : Utility := fun _ arguments => do
  let all : Except Char (List String) := match arguments with
    | first :: rest =>
      if first.startsWith "-" || first.isEmpty then .ok arguments
      else Archiving.oldStyle first.toList rest
    | [] => .ok []
  match all with
  | .error letter =>
    let shown := String.singleton letter
    Archiving.warn s!"Old option '{shown}' requires an argument."
    Archiving.tellHint
    return 2
  | .ok arguments => match Archiving.Request.read (arguments.length + 1) {} arguments with
    | .error message =>
      Archiving.warn message
      Archiving.tellHint
      return 64
    | .ok request =>
      if request.has 'δ' then
        discard <| putText standardOutput "tar (GNU tar) 1.34\n"
        return success
      else Archiving.run { request with call := { request.call with
        options := request.call.options.reverse } }

end BaseLanguage.Shell
