import BaseLanguage.Shell.BuiltIn.Variables
import BaseLanguage.Shell.Installed
import BaseLanguage.Shell.Permission

namespace BaseLanguage.Shell

/-!
# Commands of the shell for places and limits

These change the current folder and say where it is, and change or say the permissions that new
files do not get, and the limits of the shell.
-/

/-- The location that a path names if its steps upwards are taken back in the path itself. -/
def namedPlace (current : Location) (name : String) : Location :=
  let start := if name.startsWith "/" then [] else current
  (Text.pieces '/' (pathOf name).text.toList).foldl
    (fun place step =>
      if step.isEmpty || step = ['.'] then place
      else if step = ['.', '.'] then place.dropLast
      else place ++ [.ofList step])
    start

def setExported (name octets : String) : Act Unit :=
  modifyVariables fun bindings =>
    let old := (bindings.find? name).getD {}
    bindings.set name { old with value := some (.text octets), exported := true }

def currentNames : Act Location := do return (<- settings).folder.getD (<- get).files.current

def currentPath : Act String := do return pathTo (<- currentNames)

/-- Goes to a folder, if it is there.  Links in front of steps upwards count as folders unless the
true folder is asked for. -/
def goTo (truly : Bool) (name : String) : Act Bool := do
  let tree := (<- get).files
  let here <- currentNames
  let names := namedPlace here name
  let target := if name.isEmpty then "." else if truly then name else pathTo names
  match tree.locate (pathOf target) with
  | .error _ => return false
  | .ok place =>
    if !tree.isFolder place then return false
    else
      let folder := if truly || names == place then none else some names
      setExported "OLDPWD" (pathTo here)
      modify (fun session => { session with files := { session.files with current := place } })
      modifySettings ({ · with folder })
      setExported "PWD" (pathTo (folder.getD place))
      return true

def behindLetters (known : Chars) : List String -> List String
  | [] => []
  | argument :: rest => match argument.toList with
    | ['-', '-'] => rest
    | '-' :: letter :: letters =>
      if (letter :: letters).all known.contains then behindLetters known rest else argument :: rest
    | _ => argument :: rest

/-- Goes to a folder that is looked for in a row of folders unless its name says where it is, and
tells whether it was there, and whether it was found in one of them. -/
def goToNamed (truly : Bool) (name : String) : Act (Bool × Bool) := do
  let isPlaced := name.startsWith "/" || name = "." || name = ".." || name.startsWith "./" ||
    name.startsWith "../"
  let row := ((<- textOf? "CDPATH").getD "").toList
  let folders := if isPlaced || row.isEmpty then [] else Text.pieces ':' row
  let session <- get
  let found := folders.find? fun folder =>
    session.files.hasFolder (pathOf (.ofList folder ++ "/" ++ name)) && !folder.isEmpty
  match found with
  | some folder => return (<- goTo truly (.ofList folder ++ "/" ++ name), true)
  | none => return (<- goTo truly name, false)

def changeFolder : BuiltIn := fun _ _ arguments => do
  let kind := (<- settings).kind
  let (letters, arguments) <-
    if arguments.head? = some "-" then pure ([], arguments)
    else leadingOptions (if kind = .plain then ['L', 'P'] else ['L', 'P', 'e', '@']) arguments
  let fallback (name : String) : Work (Option String) := do
    match kind, <- textOf? name with
    | _, some octets => return some octets
    | .plain, none => return some ""
    | .extended, none => return none
  let (target, tells) : Option String × Bool <-
    match arguments with
    | [] => pure (<- fallback "HOME", false)
    | "-" :: _ => pure (<- fallback "OLDPWD", true)
    | name :: _ => pure (some name, false)
  match target with
  | none => refuse failure (if tells then "OLDPWD not set" else "HOME not set")
  | some name =>
    if kind = .extended && arguments.length > 1 then return <- refuse failure "too many arguments"
    let truly := (letters.filter ['L', 'P'].contains).getLast? == some 'P'
    let (isThere, wasFound) <- goToNamed truly name
    if isThere then
      if tells || wasFound then answerLines "cd" [<- currentPath] else return success
    else match kind with
      | .plain => shellFault s!"can't cd to {name}"
      | .extended =>
        let fault : FileFault := match (<- get).files.find (pathOf name) with
          | .error fault => fault
          | .ok entry => if entry.node = .folder then .missing else .notFolder
        refuse failure s!"{name}: {wording fault}"

def withTilde (home path : String) : String :=
  if home.isEmpty || home = "/" then path
  else if path = home then "~"
  else if path.startsWith (home ++ "/") then "~" ++ .ofList (path.toList.drop home.length)
  else path

def sayVisited : BuiltIn := fun _ _ arguments => do
  let home := (<- textOf? "HOME").getD ""
  let paths := (<- currentPath) :: (<- settings).visited
  let whole := arguments.any (·.toList.contains 'l')
  let shown := if whole then paths else paths.map (withTilde home)
  if arguments.any (·.toList.contains 'c') then
    modifySettings ({ · with visited := [] })
    return success
  else if arguments.any (·.toList.contains 'v') then
    answerLines "dirs" (shown.zipIdx.map fun (path, index) => s!" {numberText index}  {path}")
  else if arguments.any (·.toList.contains 'p') then answerLines "dirs" shown
  else answerLines "dirs" [" ".intercalate shown]

def pushFolder : BuiltIn := fun services tested arguments => do
  let here <- currentPath
  match arguments, (<- settings).visited with
  | [], [] => refuse failure "no other directory"
  | [], last :: rest =>
    if <- goTo false last then
      modifySettings ({ · with visited := here :: rest })
      sayVisited services tested []
    else refuse failure s!"{last}: No such file or directory"
  | name :: _, visited =>
    if <- goTo false name then
      modifySettings ({ · with visited := here :: visited })
      sayVisited services tested []
    else
      let fault : FileFault := match (<- get).files.find (pathOf name) with
        | .error fault => fault
        | .ok _ => .notFolder
      refuse failure s!"{name}: {wording fault}"

def popFolder : BuiltIn := fun services tested _ => do
  match (<- settings).visited with
  | [] => refuse failure "directory stack empty"
  | last :: rest =>
    modifySettings ({ · with visited := rest })
    if <- goTo false last then sayVisited services tested []
    else refuse failure s!"{last}: No such file or directory"

def sayFolder : BuiltIn := fun _ _ arguments => do
  let (letters, _) <- leadingOptions ['L', 'P'] arguments
  let truly := letters.getLast? == some 'P'
  let place <- if truly then pure (<- get).files.current else currentNames
  answerLines "pwd" [pathTo place]

def givenLetters (bits : Nat) : String := .ofList ((permissionTriple bits none).filter (· != '-'))

def setMask : BuiltIn := fun _ _ arguments => do
  let kind := (<- settings).kind
  let (letters, names) <- leadingOptions (if kind = .plain then ['S'] else ['S', 'p']) arguments
  let mask := (<- get).files.mask
  let given := 0o777 - mask
  match names with
  | [] =>
    let said :=
      if letters.contains 'S' then
        let user := givenLetters (given / 64 % 8)
        let group := givenLetters (given / 8 % 8)
        let others := givenLetters (given % 8)
        s!"u={user},g={group},o={others}"
      else octalText 4 mask
    answerLines "umask" [if letters.contains 'p' then s!"umask {said}" else said]
  | name :: _ =>
    let isNumber := name.toList.head?.any Text.isDigit
    let new? : Option Nat :=
      if isNumber then (octalPermissions? name.toList).map (· % 0o1000)
      else (permissions? ⟨given, false, 0⟩ name).map (0o777 - · % 0o1000)
    match new?, kind with
    | some new, _ =>
      modify (fun session => { session with files := { session.files with mask := new } })
      return success
    | none, .plain =>
      shellFault (if isNumber then s!"Illegal number: {name}" else s!"Illegal mode: {name}")
    | none, .extended =>
      refuse failure
        (if isNumber then s!"{name}: octal number out of range"
        else s!"\x60{name}': invalid symbolic mode operator")

def sayLimits : BuiltIn := fun _ _ arguments => do
  discard <| leadingOptions "HSatfdscmlpnvwre".toList arguments
  if (arguments.filter (!·.startsWith "-")).isEmpty then answerLines "ulimit" ["unlimited"]
  else return success

end BaseLanguage.Shell
