import BaseLanguage.Shell.Permission
import BaseLanguage.Shell.Utility.PathNames

namespace BaseLanguage.Shell

open Text

/-!
# Programs that put files somewhere else

These copy and move files and folders, and give files second names.  They have a target in common:
what has one source goes to the target itself, unless the target is a folder; then it goes into
that, under its last name.
-/

def nameWithin (folder name : String) : String :=
  if folder.endsWith "/" then folder ++ name else s!"{folder}/{name}"

def withoutSlashes (name : String) : String := .ofList (withoutEndSlashes name.toList)

variable (session : Session)

def Session.place? (name : String) : Option Location :=
  (session.files.locate (pathOf name)).toOption

def Session.ownPlace? (name : String) : Option Location :=
  (session.files.locateName (pathOf name)).toOption

def Session.entry (name : String) : Except FileFault FileEntry := session.files.find (pathOf name)

def Session.ownEntry (name : String) : Except FileFault FileEntry :=
  session.files.findName (pathOf name)

def Session.hasFolder (session : Session) (name : String) : Bool :=
  session.files.hasFolder (pathOf name)

def Session.folderFault (name : String) : Option FileFault :=
  match session.entry name with
  | .error fault => some fault
  | .ok entry => if entry.node = .folder then none else some .notFolder

structure Transfer where
  source : String
  target : String

def transfersOf (program : String) (call : ProgramCall) (entersLinks : Bool) :
    Act (Except Nat (List Transfer)) := do
  let session <- get
  let complained (act : Act Nat) : Act (Except Nat (List Transfer)) := do return .error (<- act)
  let into (folder : String) (sources : List String) : List Transfer :=
    sources.map fun source =>
      let name :=
        if call.has 'Y' then .ofList ((withoutSlashes source).toList.dropWhile (· == '/'))
        else lastName "" source
      ⟨source, nameWithin folder name⟩
  let enters (name : String) : Bool :=
    if entersLinks then session.hasFolder name
    else match session.ownEntry name with
      | .ok entry => entry.node = .folder
      | .error _ => false
  match call.argument? 't', call.operands with
  | some folder, sources => match session.folderFault folder with
    | some fault =>
      complained (complain program s!"target directory {quoted folder}: {wording fault}")
    | none =>
      if sources.isEmpty then complained (complainOfCall program "missing file operand")
      else return .ok (into folder sources)
  | none, [] => complained (complainOfCall program "missing file operand")
  | none, [only] =>
    complained (complainOfCall program s!"missing destination file operand after {quoted only}")
  | none, [source, target] =>
    if !call.has 'T' && (enters target || call.has 'Y') then
      match session.folderFault target with
      | some _ =>
        complained (complainOfCall program "with --parents, the destination must be a directory")
      | none => return .ok (into target [source])
    else return .ok [⟨source, target⟩]
  | none, operands =>
    let target := operands.getLastD ""
    if call.has 'T' then complained (complainOfExtra program (operands.getD 2 ""))
    else match session.folderFault target with
      | some fault => complained (complain program s!"target {quoted target}: {wording fault}")
      | none => return .ok (into target operands.dropLast)

/-- Does something with every source and its target.  Nothing is put where something else was put a
moment ago. -/
def transferring (program : String) (call : ProgramCall) (entersLinks : Bool)
    (each : String -> String -> Act Nat) : Act Nat := do
  match <- transfersOf program call entersLinks with
  | .error status => return status
  | .ok transfers =>
    let step (done : List Location × Nat) (transfer : Transfer) : Act (List Location × Nat) := do
      let ⟨source, target⟩ := transfer
      let place := (<- get).ownPlace? target
      let isFile := match (<- get).ownEntry source with
        | .ok entry => entry.node != .folder
        | .error _ => false
      if isFile && place.any done.1.contains then
        let status <- complain program
          s!"will not overwrite just-created {quoted target} with {quoted source}"
        return (done.1, max done.2 status)
      else
        let status <- each source target
        return (if status = success then place.toList ++ done.1 else done.1, max done.2 status)
    return (<- transfers.foldlM step ([], success)).2

/-! ## What stays of a target -/

variable (call : ProgramCall)

def keepsTarget (source target : FileEntry) : Bool :=
  call.lastOf ['n', 'f', 'i'] == some 'n' ||
    (call.has 'u' && !target.modified.before source.modified)

def keptName? (call : ProgramCall) (target : String) : Option String :=
  let suffix := (call.argument? 'S').getD "~"
  let numbers := (List.range 1000).map (· + 1)
  let numbered (number : Nat) : String := s!"{target}.~{numberText number}~"
  let isThere (name : String) : Bool := (session.ownEntry name).isOk
  let free := numbered ((numbers.find? (fun number => !isThere (numbered number))).getD 1)
  if !(call.has 'b' || call.has 'B' || call.has 'S') then none
  else match (call.argument? 'B').getD "existing" with
    | "none" => none
    | "off" => none
    | "numbered" => some free
    | "t" => some free
    | "simple" => some (target ++ suffix)
    | "never" => some (target ++ suffix)
    | _ => some (if isThere (numbered 1) then free else target ++ suffix)

def sayTransfer (program : String) (call : ProgramCall) (arrow : String) (source target : String)
    (kept : Option String) : Act Nat := do
  if call.has 'v' then
    let behind := match kept with
      | some name => s!" (backup: {quoted name})"
      | none => ""
    answerLines program [s!"{quoted source} {arrow} {quoted target}{behind}"]
  else return success

def creationFault (target : String) (fault : FileFault) : FileFault :=
  if fault = .isFolder && target.endsWith "/" then .notFolder else fault

/-! ## Copies -/

inductive LinkManner where
  | never
  | asOperands
  | always

def copiesFolders : Bool := call.has 'r' || call.has 'R' || call.has 'a'

def linkManner : LinkManner := match call.lastOf ['P', 'd', 'a', 'H', 'L'] with
  | some 'L' => .always
  | some 'H' => .asOperands
  | some _ => .never
  | none => if copiesFolders call then .never else .always

def keepFacts (entry : FileEntry) (isNew : Bool) (target : String) : Act Unit := do
  let mask := (<- get).files.mask
  let operation : Filing Unit := do
    if call.has 'p' || call.has 'a' then
      FileTree.setModified (pathOf target) entry.modified
      FileTree.setPermissions (pathOf target) entry.permissions
    else if isNew then
      FileTree.setPermissions (pathOf target)
        ((entry.permissions &&& 0o777) - (entry.permissions &&& mask &&& 0o777))
  discard <| filing operation

def writeCopy (entry : FileEntry) (source target : String) : Act (Except FileFault Unit) := do
  let isNew := ((<- get).entry target).toOption.isNone
  match entry.node with
  | .link path => filing (FileTree.createAt (pathOf target) (.link path))
  | .queue _ =>
    if copiesFolders call then
      let (session, channel) := (<- get).addChannel { bounded := true }
      set session
      filing (FileTree.createAt (pathOf target) (.queue channel))
    else match <- readNamed source with
      | .ok bytes => writeNamed .writing target bytes
      | .error fault => return .error fault
  | .device device =>
    if copiesFolders call then filing (FileTree.createAt (pathOf target) (.device device))
    else match <- readNamed source with
      | .ok bytes => writeNamed .writing target bytes
      | .error fault => return .error fault
  | .folder => return .error .isFolder
  | .file content => match <- writeNamed .writing target content with
    | .error fault => return .error (creationFault target fault)
    | .ok () =>
      keepFacts call entry isNew target
      return .ok ()

def copyFile (program : String) (call : ProgramCall) (entry : FileEntry) (source target : String) :
    Act Nat := do
  let session <- get
  let isLink := match entry.node with
    | .link _ => true
    | _ => false
  let isFile := match entry.node with
    | .file _ => true
    | _ => false
  let links := call.has 'l' || call.has 's'
  let there := if links || !isFile then session.ownEntry target else session.entry target
  let isDangling := (session.ownEntry target).isOk && (session.entry target).toOption.isNone
  match there with
  | .error .notFolder => complain program s!"cannot stat {quoted target}: {wording .notFolder}"
  | .error .tooManyLinks =>
    complain program s!"cannot stat {quoted target}: {wording .tooManyLinks}"
  | there =>
    let same :=
      if isLink then
        (session.ownPlace? source).isSome && session.ownPlace? source == session.ownPlace? target
      else session.isSame source target && there.toOption.isSome
    let isFolder := there.toOption.any (·.node = .folder)
    let kept := if there.toOption.isSome then keptName? session call target else none
    if isFolder then
      complain program s!"cannot overwrite directory {quoted target} with non-directory"
    else if same && !(kept.isSome && !isLink) && !(call.has 'l' && call.has 'f') then
      if call.has 'l' then return success
      else complain program s!"{quoted source} and {quoted target} are the same file"
    else if there.toOption.any (keepsTarget call entry) then return success
    else if isDangling && isFile && !links && kept.isNone then
      if call.has 'f' && call.has 'X' then return failure
      else complain program s!"not writing through dangling symlink {quoted target}"
    else
      let prepare : Filing Unit := do
        if let some name := kept then FileTree.move (pathOf target) (pathOf name)
        else if there.toOption.isSome then
          if (links && call.has 'f') || call.has 'X' || (!links && !isFile && copiesFolders call)
              || isLink then
            FileTree.remove (pathOf target)
      match <- filing prepare with
      | .error fault => complain program s!"cannot remove {quoted target}: {wording fault}"
      | .ok () =>
        if call.has 's' then
          if !source.startsWith "/" && folderOf target != "." then
            complain program
              s!"{target}: can make relative symbolic links only in current directory"
          else match <- filing (FileTree.createAt (pathOf target) (.link source)) with
            | .ok () => sayTransfer program call "->" source target kept
            | .error fault =>
              let link := s!"symbolic link {quoted target} to {quoted source}"
              complain program s!"cannot create {link}: {wording fault}"
        else if call.has 'l' then
          match <- filing (FileTree.link (pathOf source) (pathOf target)) with
          | .ok () => sayTransfer program call "->" source target kept
          | .error fault =>
            let link := s!"hard link {quoted target} to {quoted source}"
            complain program s!"cannot create {link}: {wording fault}"
        else match <- writeCopy call entry source target with
          | .ok () => sayTransfer program call "->" source target kept
          | .error fault =>
            let kind := if isLink then "symbolic link" else "regular file"
            complain program s!"cannot create {kind} {quoted target}: {wording fault}"

def copyWithin (program : String) (call : ProgramCall) (first : Option Location) :
    Nat -> Bool -> String -> String -> Act Nat
  | 0, _, _, _ => return failure
  | depth + 1, isOperand, source, target => do
    let session <- get
    let follows := match linkManner call with
      | .never => false
      | .asOperands => isOperand
      | .always => true
    match if follows then session.entry source else session.ownEntry source with
    | .error fault => complain program s!"cannot stat {quoted source}: {wording fault}"
    | .ok entry =>
      if entry.node != .folder then copyFile program call entry source target
      else if !copiesFolders call then
        complain program s!"-r not specified; omitting directory {quoted source}"
      else
        let old := (session.place? source).getD []
        let there := session.ownEntry target
        if first.isSome && some old == first then
          let inner := quoted (folderOf target)
          complain program
            s!"cannot copy a directory, {quoted (folderOf source)}, into itself, {inner}"
        else if session.isSame source target && there.toOption.isSome then
          complain program
            s!"cannot copy a directory, {quoted source}, into itself, {quoted target}"
        else if there.toOption.isSome && !session.hasFolder target then
          complain program
            s!"cannot overwrite non-directory {quoted target} with directory {quoted source}"
        else
          let isNew := there.toOption.isNone
          let names := session.files.children old
          let made <-
            if isNew then filing (FileTree.createFolder (pathOf (withoutSlashes target)))
            else pure (.ok ())
          match made with
          | .error fault =>
            complain program s!"cannot create directory {quoted target}: {wording fault}"
          | .ok () =>
            let place := (<- get).place? target
            let isInside := place.any (FileTree.isWithin old)
            let first := first.orElse fun _ => if isInside then place else none
            if isNew then discard <| sayTransfer program call "->" source target none
            let names := if isInside && names.isEmpty then [lastName "" target] else names
            let status <- allOf <| names.map fun name => do
              let inner := nameWithin source (toOctets name)
              if isInside && (<- get).place? inner == first then
                complain program
                  s!"cannot copy a directory, {quoted source}, into itself, {quoted target}"
              else
                copyWithin program call first depth false inner (nameWithin target (toOctets name))
            keepFacts call entry isNew target
            return status

def deepestCopy : Nat := 1000

def copyParents (program : String) (call : ProgramCall) (source target : String) : Act Nat := do
  let front := folderOf source
  if front = "." || front = "/" then return success
  let base := .ofList (target.toList.take (target.length - source.length))
  let pieces := (pieces '/' front.toList).map .ofList
  let prefixes := (List.range pieces.length).map fun count =>
    "/".intercalate (pieces.take (count + 1))
  allOf <| prefixes.map fun name => do
    let folder := base ++ name
    if (<- get).hasFolder folder then return success
    match <- filing (FileTree.createFolder (pathOf folder)) with
    | .ok () => if call.has 'v' then answerLines program [s!"{name} -> {folder}"] else return success
    | .error fault => complain program s!"cannot make directory {quoted folder}: {wording fault}"

def cp : Utility :=
  withOptions
    { letters := "abB::dfHilnpPLRrsS:t:TuvxXW:QYZ", words := [("archive", 'a'), ("backup", 'B'),
      ("force", 'f'), ("interactive", 'i'), ("link", 'l'), ("no-clobber", 'n'),
      ("dereference", 'L'), ("no-dereference", 'P'), ("preserve", 'p'), ("no-preserve", 'W'),
      ("recursive", 'R'), ("symbolic-link", 's'), ("suffix", 'S'), ("target-directory", 't'),
      ("no-target-directory", 'T'), ("update", 'u'), ("verbose", 'v'), ("one-file-system", 'x'),
      ("strip-trailing-slashes", 'Q'), ("parents", 'Y'), ("remove-destination", 'X'),
      ("attributes-only", 'Z')] }
    fun program call =>
      transferring program call true fun source target => do
        let status <- if call.has 'Y' then copyParents program call source target else pure success
        if status ≠ success then return status
        else
          let source := if call.has 'Q' then withoutSlashes source else source
          copyWithin program call none deepestCopy true source target

/-! ## Moves -/

def moveOne (program : String) (call : ProgramCall) (source target : String) : Act Nat := do
  let session <- get
  let cannot (fault : FileFault) : Act Nat :=
    complain program s!"cannot move {quoted source} to {quoted target}: {wording fault}"
  match session.ownEntry source, session.ownPlace? source with
  | .ok entry, some old => match session.files.locateName (pathOf target) with
    | .error .notFolder => complain program s!"cannot stat {quoted target}: {wording .notFolder}"
    | .error fault => cannot fault
    | .ok new =>
      let isFolder := entry.node = .folder
      let there := session.files.get? new
      let isOver := there.any (·.node = .folder)
      let kept := if there.isSome then keptName? session call target else none
      let same := session.files.number? old == session.files.number? new
      if same && kept.isNone then
        complain program s!"{quoted source} and {quoted target} are the same file"
      else if isFolder && FileTree.isWithin old new then
        complain program
          s!"cannot move {quoted source} to a subdirectory of itself, {quoted target}"
      else if isOver && !isFolder && kept.isNone then
        complain program s!"cannot overwrite directory {quoted target} with non-directory"
      else if there.any (keepsTarget call entry) then return success
      else if there.isSome && !isOver && isFolder && kept.isNone then
        complain program
          s!"cannot overwrite non-directory {quoted target} with directory {quoted source}"
      else if there.isSome && isFolder && kept.isNone && !(session.files.children new).isEmpty then
        complain program s!"cannot overwrite {quoted target}: Directory not empty"
      else if target.endsWith "/" && !isFolder then cannot .notFolder
      else
        let operation : Filing Unit := do
          if let some name := kept then FileTree.move (pathOf target) (pathOf name)
          FileTree.move (pathOf (withoutSlashes source)) (pathOf (withoutSlashes target))
        match <- filing operation with
        | .error fault => cannot fault
        | .ok () =>
          if call.has 'v' then
            let behind := match kept with
              | some name => s!" (backup: {quoted name})"
              | none => ""
            answerLines program [s!"renamed {quoted source} -> {quoted target}{behind}"]
          else return success
  | .error fault, _ => complain program s!"cannot stat {quoted source}: {wording fault}"
  | _, none => complain program s!"cannot stat {quoted source}: {wording .missing}"

def mv : Utility :=
  withOptions
    { letters := "bB::finS:Tt:uvQ", words := [("backup", 'B'), ("force", 'f'),
      ("interactive", 'i'), ("no-clobber", 'n'), ("suffix", 'S'), ("no-target-directory", 'T'),
      ("target-directory", 't'), ("update", 'u'), ("verbose", 'v'),
      ("strip-trailing-slashes", 'Q')] }
    fun program call => transferring program call true (moveOne program call)

/-! ## Second names -/

def linkOne (program : String) (call : ProgramCall) (source target : String) : Act Nat := do
  let session <- get
  let symbolic := call.has 's'
  let text :=
    if symbolic && call.has 'r' then
      match session.place? (folderOf target), session.files.locate (pathOf source) with
      | some folder, .ok place => pathBetween folder place
      | _, _ => source
    else source
  let kind := if symbolic then "symbolic link" else "hard link"
  let there := session.ownEntry target
  let cannot (fault : FileFault) : Act Nat :=
    let shown :=
      if symbolic || fault = .alreadyThere then quoted target
      else s!"{quoted target} => {quoted source}"
    let shown :=
      if symbolic && (fault = .badName || source.isEmpty) then
        s!"{quoted target} -> {quoted source}"
      else shown
    complain program s!"failed to create {kind} {shown}: {wording fault}"
  let sourceEntry :=
    if symbolic then session.ownEntry source
    else if call.has 'L' then session.entry source
    else session.ownEntry source
  match symbolic, sourceEntry with
  | false, .error fault => complain program s!"failed to access {quoted source}: {wording fault}"
  | false, .ok ⟨.folder, _, _⟩ => complain program s!"{source}: hard link not allowed for directory"
  | _, _ =>
    let kept := if there.toOption.isSome then keptName? session call target else none
    let isFolder := there.toOption.any (·.node = .folder)
    let same := there.toOption.isSome && !symbolic &&
      ((session.ownPlace? source).bind session.files.number?) ==
        ((session.ownPlace? target).bind session.files.number?)
    let forced := call.has 'f' || kept.isSome
    if forced && same && session.ownPlace? source == session.ownPlace? target then
      complain program s!"{quoted source} and {quoted target} are the same file"
    else if forced && symbolic && session.isSame source target && there.toOption.isSome &&
        session.ownPlace? source == session.ownPlace? target then
      complain program s!"{quoted source} and {quoted target} are the same file"
    else if forced && isFolder then complain program s!"{target}: cannot overwrite directory"
    else
      let operation : Filing Unit := do
        if let some name := kept then FileTree.move (pathOf target) (pathOf name)
        else if call.has 'f' && there.toOption.isSome then FileTree.remove (pathOf target)
        if symbolic then
          if text.isEmpty then throw .missing
          FileTree.createAt (pathOf target) (.link (ofOctets text))
        else FileTree.link (pathOf source) (pathOf target)
      match <- filing operation with
      | .error fault => cannot fault
      | .ok () =>
        sayTransfer program { call with options := call.options }
          (if symbolic then "->" else "=>") target text kept

def ln : Utility :=
  withOptions
    { letters := "bB::fiLnPrsS:Tt:v", words := [("backup", 'B'), ("force", 'f'),
      ("interactive", 'i'), ("logical", 'L'), ("no-dereference", 'n'), ("physical", 'P'),
      ("relative", 'r'), ("symbolic", 's'), ("suffix", 'S'), ("no-target-directory", 'T'),
      ("target-directory", 't'), ("verbose", 'v')] }
    fun program call =>
      let entersLinks := !call.has 'n'
      match call.operands, call.has 't' || call.has 'T' with
      | [only], false =>
        transferring program { call with operands := [only, "."] } entersLinks
          (linkOne program call)
      | _, _ => transferring program call entersLinks (linkOne program call)

def link : Utility :=
  withOptions { letters := "" } fun program call => do
    match call.operands with
    | [] => complainOfMissing program []
    | [only] => complainOfMissing program [only]
    | [source, target] => match <- filing (FileTree.link (pathOf source) (pathOf target)) with
      | .ok () => return success
      | .error fault =>
        complain program s!"cannot create link {quoted target} to {quoted source}: {wording fault}"
    | _ :: _ :: extra :: _ => complainOfExtra program extra

/-! ## Installing -/

def installOne (program : String) (call : ProgramCall) (permissions : Nat)
    (source target : String) : Act Nat := do
  let session <- get
  match session.entry source with
  | .error fault => complain program s!"cannot stat {quoted source}: {wording fault}"
  | .ok entry =>
    if entry.node = .folder then complain program s!"omitting directory {quoted source}"
    else
      let call := call.add 'X'
      let call := if call.has 'p' then call else call.add 'f'
      let status <- copyFile program call entry source target
      if status = success then
        discard <| filing (FileTree.setPermissions (pathOf target) permissions)
      return status

def install : Utility :=
  withOptions
    { letters := "bcCdDg:m:o:pst:TvS:B::", words := [("directory", 'd'), ("mode", 'm'),
      ("owner", 'o'), ("group", 'g'), ("preserve-timestamps", 'p'), ("target-directory", 't'),
      ("no-target-directory", 'T'), ("strip", 's'), ("verbose", 'v'), ("compare", 'C'),
      ("backup", 'B'), ("suffix", 'S')] }
    fun program call => do
      let text := (call.argument? 'm').getD "755"
      match permissions? ⟨0, false, 0⟩ text with
      | none => complain program s!"invalid mode {quoted text}"
      | some permissions =>
        if call.has 'd' then
          if call.operands.isEmpty then complainOfCall program "missing file operand"
          else
            allOf <| call.operands.map fun name => do
              let isNew := !(<- get).files.exists? (pathOf name)
              let operation : Filing Unit := do
                FileTree.createFolders (pathOf name)
                FileTree.setPermissions (pathOf name) permissions
              match <- filing operation with
              | .ok () =>
                if call.has 'v' && isNew then
                  answerLines program [s!"{program}: creating directory {quoted name}"]
                else return success
              | .error fault =>
                complain program s!"cannot create directory {quoted name}: {wording fault}"
        else
          if call.has 'D' then
            let folders := match call.argument? 't', call.operands.getLast? with
              | some folder, _ => [folder]
              | none, some target => [folderOf target]
              | none, none => []
            folders.forM fun folder => discard <| filing (FileTree.createFolders (pathOf folder))
          transferring program call true (installOne program call permissions)

end BaseLanguage.Shell
