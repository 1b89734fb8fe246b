import BaseLanguage.Shell.Utility.Dates
import BaseLanguage.Shell.Utility.Filter
import BaseLanguage.Shell.Utility.Transfer

namespace BaseLanguage.Shell

/-!
# Programs that change single files

These create and remove files and folders, and set their times, their permissions and their sizes.
-/

def endsInDots (name : String) : Bool := [".", ".."].contains (lastName "" name)

def removeOne (program : String) (call : ProgramCall) (name : String) : Act Nat := do
  let session <- get
  let recursive := call.has 'r' || call.has 'R'
  let cannot (text : String) : Act Nat := complain program s!"cannot remove {quoted name}: {text}"
  match session.ownEntry name, session.ownPlace? name with
  | .error fault, _ =>
    if call.has 'f' && (fault = .missing || fault = .notFolder) &&
        !(fault = .notFolder && name.endsWith "/") then return success
    else cannot (wording fault)
  | .ok _, none => cannot (wording .missing)
  | .ok entry, some place =>
    let isFolder := entry.node = .folder
    let isLink := (session.ownPlace? (withoutSlashes name)).any fun own =>
      (session.files.linkAt? own).isSome
    if recursive && endsInDots name then
      complain program s!"refusing to remove '.' or '..' directory: skipping {quoted name}"
    else if recursive && place.isEmpty then
      discard <| complain program s!"it is dangerous to operate recursively on {quoted name}"
      complain program "use --no-preserve-root to override this failsafe"
    else if isFolder && !recursive && !call.has 'd' then cannot (wording .isFolder)
    else if isFolder && isLink then cannot (wording .notFolder)
    else if isFolder && !recursive && !(session.files.children place).isEmpty then
      cannot "Directory not empty"
    else
      let within := (session.files.below place).reverse
      match <- filing (FileTree.remove (pathOf name)) with
      | .error fault => cannot (wording fault)
      | .ok () =>
        let shown (name : String) (node : FileNode) : String :=
          if node = .folder then s!"removed directory {quoted name}" else s!"removed {quoted name}"
        if call.has 'v' then
          answerLines program
            (within.map (fun (rest, entry) =>
              shown (nameWithin name ("/".intercalate (rest.map Text.toOctets))) entry.node) ++
                [shown name entry.node])
        else return success

def rm : Utility :=
  withOptions
    { letters := "dfiIrRvQ", words := [("force", 'f'), ("recursive", 'r'), ("dir", 'd'),
      ("verbose", 'v'), ("one-file-system", 'Q'), ("preserve-root", 'Q'), ("interactive", 'I')] }
    fun program call => do
      if call.operands.isEmpty && !call.has 'f' then complainOfCall program "missing operand"
      else allOf (call.operands.map (removeOne program call))

def removeFolder (program : String) (call : ProgramCall) (isOuter : Bool) (name : String) :
    Act (Except Nat Unit) := do
  let session <- get
  if call.has 'v' then
    discard <| answerLines program [s!"{program}: removing directory, {quoted name}"]
  let what := if isOuter then "directory " else ""
  let cannot (text : String) : Act (Except Nat Unit) := do
    return .error (<- complain program s!"failed to remove {what}{quoted name}: {text}")
  match session.ownEntry name, session.ownPlace? name with
  | .error fault, _ => cannot (wording fault)
  | .ok _, none => cannot (wording .missing)
  | .ok entry, some place =>
    if entry.node != .folder then cannot (wording .notFolder)
    else if lastName "" name = "." then cannot "Invalid argument"
    else if !(session.files.children place).isEmpty then
      if call.has 'i' then return .error success else cannot "Directory not empty"
    else match <- filing (FileTree.remove (pathOf name)) with
      | .ok () => return .ok ()
      | .error fault => cannot (wording fault)

def withOuterNames : Nat -> String -> List String
  | 0, name => [name]
  | limit + 1, name =>
    let outer := folderOf name
    if outer = "." || outer = "/" then [name] else name :: withOuterNames limit outer

def removeFolders (program : String) (call : ProgramCall) : Bool -> List String -> Act Nat
  | _, [] => return success
  | isOuter, name :: rest => do
    match <- removeFolder program call isOuter name with
    | .error status => return status
    | .ok () => removeFolders program call true rest

def rmdir : Utility :=
  withOptions
    { letters := "pvi", words := [("parents", 'p'), ("verbose", 'v'),
      ("ignore-fail-on-non-empty", 'i')] }
    fun program call => do
      if call.operands.isEmpty then complainOfCall program "missing operand"
      else
        allOf <| call.operands.map fun name =>
          let names :=
            if call.has 'p' then withOuterNames name.length (withoutSlashes name) else [name]
          removeFolders program call false names

def makeFolderChain (program : String) (call : ProgramCall) : Bool -> List String -> Act Nat
  | _, [] => return success
  | isLast, name :: outer => do
    let status <- makeFolderChain program call false outer
    if status ≠ success then return status
    let session <- get
    let cannot (fault : FileFault) : Act Nat :=
      complain program s!"cannot create directory {quoted name}: {wording fault}"
    if call.has 'p' && session.hasFolder name then return success
    match <- filing (FileTree.createFolder (pathOf name)) with
    | .ok () =>
      if call.has 'v' then answerLines program [s!"{program}: created directory {quoted name}"]
      else return success
    | .error fault =>
      cannot (if fault = .alreadyThere && call.has 'p' && !isLast then .notFolder else fault)

def mkdir : Utility :=
  withOptions
    { letters := "m:pvZ", words := [("mode", 'm'), ("parents", 'p'), ("verbose", 'v')] }
    fun program call => do
      let mode := call.argument? 'm'
      let shown := quoted (mode.getD "")
      let subject : PermissionSubject := ⟨0o777, true, (<- get).files.mask⟩
      match call.operands, mode.map (permissions? subject) with
      | [], _ => complainOfCall program "missing operand"
      | _, some none => complain program s!"invalid mode {shown}"
      | names, permissions =>
        allOf <| names.map fun name => do
          let chain :=
            if call.has 'p' then withOuterNames name.length (withoutSlashes name) else [name]
          let isNew := !(<- get).files.exists? (pathOf name)
          let status <- makeFolderChain program call true chain
          if let some (some permissions) := permissions then
            if isNew && status = success then
              discard <| filing (FileTree.setPermissions (pathOf name) permissions)
          return status

def touchTime (call : ProgramCall) : Act (Except String Timestamp) := do
  let session <- get
  let now := session.files.clock
  match call.argument? 'r', call.argument? 'd', call.argument? 't' with
  | some name, _, _ => match session.files.modified (pathOf name) with
    | .ok time => return .ok time
    | .error fault => return .error s!"failed to get attributes of {quoted name}: {wording fault}"
  | none, some text, _ => match dateTime? now text with
    | some time => return .ok time
    | none => return .error s!"invalid date format {quoted text}"
  | none, none, some text => match stampTime? now.date.year text with
    | some time => return .ok time
    | none => return .error s!"invalid date format {quoted text}"
  | none, none, none => return .ok now

def touch : Utility :=
  withOptions
    { letters := "acd:fhmr:t:T:", words := [("no-create", 'c'), ("date", 'd'), ("reference", 'r'),
      ("no-dereference", 'h'), ("time", 'T')] }
    fun program call => do
      match <- touchTime call, call.operands with
      | .error message, _ => complain program message
      | _, [] => complainOfCall program "missing file operand"
      | .ok time, names =>
        allOf <| names.map fun name => do
          let files := (<- get).files
          let isThere := files.exists? (pathOf name)
          let change : Filing Unit := do
            if !isThere then
              if call.has 'c' then return ()
              FileTree.write (pathOf name) .empty
            if !call.has 'a' || call.has 'm' then FileTree.setModified (pathOf name) time
          if name = "-" then return success
          match <- filing change with
          | .ok () => return success
          | .error .isFolder =>
            complain program s!"setting times of {quoted name}: {wording .missing}"
          | .error fault => complain program s!"cannot touch {quoted name}: {wording fault}"

def mkfifo : Utility :=
  withOptions { letters := "m:Z", words := [("mode", 'm')] } fun program call => do
    let mode := call.argument? 'm'
    let mask := (<- get).files.mask
    match call.operands, mode.map (permissions? ⟨0o666, false, mask⟩) with
    | [], _ => complainOfCall program "missing operand"
    | _, some none => complain program "invalid mode"
    | names, permissions =>
      allOf <| names.map fun name => do
        let (session, channel) := (<- get).addChannel { bounded := true }
        set session
        let operation : Filing Unit := do
          FileTree.createAt (pathOf name) (.queue channel)
          if let some (some permissions) := permissions then
            FileTree.setPermissions (pathOf name) permissions
        match <- filing operation with
        | .ok () => return success
        | .error fault => complain program s!"cannot create fifo {quoted name}: {wording fault}"

def isModeLetter (c : Char) : Bool := "rwxXstugoa,=+-01234567".toList.contains c

def isMinusMode (argument : String) : Bool := match argument.toList with
  | '-' :: c :: rest => (c :: rest).all isModeLetter && c != '-'
  | _ => false

def changeMode (program : String) (call : ProgramCall) (mode : String) (name : String) :
    Act Nat := do
  let session <- get
  match session.entry name with
  | .ok entry =>
    let isFolder := entry.node = .folder
    let old := entry.permissions
    let new := (permissions? ⟨old, isFolder, session.files.mask⟩ mode).getD old
    discard <| filing (FileTree.setPermissions (pathOf name) new)
    let described (permissions : Nat) : String :=
      s!"{octalText 4 permissions} ({permissionText permissions})"
    if old ≠ new && (call.has 'v' || call.has 'c') then
      answerLines program
        [s!"mode of {quoted name} changed from {described old} to {described new}"]
    else if call.has 'v' then
      answerLines program [s!"mode of {quoted name} retained as {described new}"]
    else return success
  | .error fault =>
    if call.has 'f' then return failure
    else if fault = .missing && (session.ownEntry name).isOk then
      complain program s!"cannot operate on dangling symlink {quoted name}"
    else complain program s!"cannot access {quoted name}: {wording fault}"

def chmod : Utility
  | program, arguments => do
    let minus := arguments.find? isMinusMode
    let arguments := if minus.isSome then arguments.erase (minus.getD "") else arguments
    withOptions
      { letters := "Rcfvr:Q", words := [("recursive", 'R'), ("changes", 'c'), ("silent", 'f'),
        ("quiet", 'f'), ("verbose", 'v'), ("reference", 'r'), ("preserve-root", 'Q'),
        ("no-preserve-root", 'Q')] }
      (fun program call => do
        let session <- get
        let reference : Option String := call.argument? 'r'
        let given : Option String × List String := match minus, reference with
          | some mode, _ => (some mode, call.operands)
          | none, some name =>
            ((session.entry name).toOption.map (octalText 1 ·.permissions), call.operands)
          | none, none => (call.operands.head?, call.operands.tail)
        match given with
        | (none, _) => match reference with
          | some name =>
            let fault := wording .missing
            complain program s!"failed to get attributes of {quoted name}: {fault}"
          | none => complainOfCall program "missing operand"
        | (some mode, []) => complainOfCall program s!"missing operand after {quoted mode}"
        | (some mode, names) =>
          if (permissions? ⟨0, false, 0⟩ mode).isNone then
            complainOfCall program s!"invalid mode: {quoted mode}"
          else
            allOf <| names.map fun name => do
              let below := match call.has 'R', session.place? name with
                | true, some place =>
                  (session.files.below place).filterMap fun (rest, entry) => match entry.node with
                    | .link _ => none
                    | _ => some (nameWithin name ("/".intercalate (rest.map Text.toOctets)))
                | _, _ => []
              allOf ((name :: below).map (changeMode program call mode)))
      program arguments

def unlink : Utility :=
  withOptions { letters := "" } fun program call => do
    match call.operands with
    | [] => complainOfCall program "missing operand"
    | [name] =>
      let session <- get
      let cannot (fault : FileFault) : Act Nat :=
        complain program s!"cannot unlink {quoted name}: {wording fault}"
      match session.ownEntry name with
      | .error fault => cannot fault
      | .ok entry =>
        if entry.node = .folder then cannot .isFolder
        else match <- filing (FileTree.remove (pathOf name)) with
          | .ok () => return success
          | .error fault => cannot fault
    | _ :: extra :: _ => complainOfExtra program extra

structure SizeChange where
  sign : Char
  value : Nat

def sizeChange? (text : String) : Option SizeChange := match text.toList with
  | c :: rest =>
    if ['+', '-', '<', '>', '/', '%'].contains c then (sizeValue? rest).map (.mk c)
    else (sizeValue? (c :: rest)).map (.mk ' ')
  | [] => none

def SizeChange.apply (change : SizeChange) (size : Nat) : Nat := match change.sign with
  | '+' => size + change.value
  | '-' => size - change.value
  | '<' => min size change.value
  | '>' => max size change.value
  | '/' => size / change.value * change.value
  | '%' => (size + change.value - 1) / change.value * change.value
  | _ => change.value

def bytesOfSize (bytes : ByteArray) (size : Nat) : ByteArray :=
  bytes.extract 0 size ++ ⟨Array.replicate (size - bytes.size) 0⟩

def truncate : Utility :=
  withOptions
    { letters := "cor:s:", words := [("no-create", 'c'), ("io-blocks", 'o'), ("reference", 'r'),
      ("size", 's')] }
    fun program call => do
      let session <- get
      let change : Except String SizeChange := match call.argument? 's', call.argument? 'r' with
        | some text, _ => match sizeChange? text with
          | some change => .ok change
          | none => .error s!"Invalid number: {quoted text}"
        | none, some name => match session.files.read (pathOf name) with
          | .ok bytes => .ok ⟨' ', bytes.size⟩
          | .error fault => .error s!"cannot stat {quoted name}: {wording fault}"
        | none, none => .error ""
      match change, call.operands with
      | .error "", _ => complainOfCall program "you must specify either '--size' or '--reference'"
      | .error message, _ => complain program message
      | .ok _, [] => complainOfCall program "missing file operand"
      | .ok change, names =>
        allOf <| names.map fun name => do
          let before := ((<- get).files.read (pathOf name)).toOption
          if call.has 'c' && before.isNone then return success
          let bytes := before.getD .empty
          match <- filing (FileTree.write (pathOf name)
            (bytesOfSize bytes (change.apply bytes.size))) with
          | .ok () => return success
          | .error fault =>
            complain program s!"cannot open {quoted name} for writing: {wording fault}"

def fillingLetters (count seed : Nat) : Chars :=
  ((List.range count).map fun index =>
    let digit := (seed * 7919 + 104729) / Nat.pow 26 (count - 1 - index) % 26
    Char.ofNat ('a'.toNat + digit))

def mktemp : Utility :=
  withOptions
    { letters := "dp:qtuS:", words := [("directory", 'd'), ("tmpdir", 'p'), ("quiet", 'q'),
      ("dry-run", 'u'), ("suffix", 'S')] }
    fun program call => do
      match call.operands with
      | _ :: _ :: _ => complainOfCall program "too many templates"
      | operands =>
        let session <- get
        let usual := (session.environment.lookup "TMPDIR").getD "/tmp"
        let template := operands.headD "tmp.XXXXXXXXXX"
        let folder : Option String :=
          if call.has 'p' then some ((call.argument? 'p').getD usual)
          else if operands.isEmpty || call.has 't' then some usual
          else none
        let ending := (call.argument? 'S').getD ""
        let text := template.toList.reverse
        let behind := if ending.isEmpty then text.takeWhile (· != 'X') else []
        let xs := (text.drop behind.length).takeWhile (· = 'X')
        let front := (text.drop (behind.length + xs.length)).reverse
        let complained (message : String) : Act Nat :=
          if call.has 'q' then return failure else complain program message
        if xs.length < 3 then complained s!"too few X's in template {quoted template}"
        else
          let named (letters : Chars) : String :=
            let name := .ofList (front ++ letters ++ behind.reverse) ++ ending
            match folder with
            | some folder => nameWithin folder name
            | none => name
          let candidates := (List.range (session.files.numbers.size + 1)).map fun index =>
            named (fillingLetters xs.length index)
          let name := (candidates.find? (fun name => !session.files.exists? (pathOf name))).getD ""
          let create : Filing Unit :=
            if call.has 'u' then return ()
            else if call.has 'd' then do
              FileTree.createFolder (pathOf name)
              FileTree.setPermissions (pathOf name) 0o700
            else do
              FileTree.write (pathOf name) .empty
              FileTree.setPermissions (pathOf name) 0o600
          match <- filing create with
          | .ok () => answerLines program [name]
          | .error fault =>
            let what := if call.has 'd' then "directory" else "file"
            let template := named xs
            complained s!"failed to create {what} via template {quoted template}: {wording fault}"

end BaseLanguage.Shell
