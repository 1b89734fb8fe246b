import BaseLanguage.Shell.Installed
import BaseLanguage.Shell.Utility.Options

namespace BaseLanguage.Shell

open Text

/-!
# Parts of paths

`basename` says the last name of a path, and `dirname` what stands in front of it.  Both look at the
text of the path only; `realpath` and `readlink` look at the files.
-/

def withoutEndSlashes (text : Chars) : Chars := match dropTrailing (· == '/') text with
  | [] => text.take 1
  | kept => kept

def lastName (ending path : String) : String :=
  let text := withoutEndSlashes path.toList
  let name := if text = ['/'] then text else (text.reverse.takeWhile (· != '/')).reverse
  let ending := ending.toList
  if ending.isSuffixOf name && name != ending then .ofList (name.take (name.length - ending.length))
  else .ofList name

def folderOf (path : String) : String :=
  let text := withoutEndSlashes path.toList
  if text = ['/'] then "/"
  else
    let front := text.reverse.dropWhile (· != '/')
    if front.isEmpty then "." else .ofList (withoutEndSlashes front.reverse)

def basename : Utility :=
  withOptions
    { letters := "as:z", words := [("multiple", 'a'), ("suffix", 's'), ("zero", 'z')],
      mixes := false }
    fun program call => do
      let ending := if call.has 'z' then Char.ofNat 0 else '\n'
      let say (names : List String) : Act Nat :=
        answerText program (names.flatMap (·.toList ++ [ending]))
      match call.has 'a' || call.has 's', call.operands with
      | _, [] => complainOfCall program "missing operand"
      | true, names => say (names.map (lastName ((call.argument? 's').getD "")))
      | false, [name] => say [lastName "" name]
      | false, [name, ending] => say [lastName ending name]
      | false, _ :: _ :: extra :: _ => complainOfExtra program extra

def dirname : Utility :=
  withOptions { letters := "z", words := [("zero", 'z')] } fun program call => do
    let ending := if call.has 'z' then Char.ofNat 0 else '\n'
    if call.operands.isEmpty then complainOfCall program "missing operand"
    else answerText program (call.operands.flatMap (fun name => (folderOf name).toList ++ [ending]))

inductive Presence where
  | everything
  | allButLast
  | nothing

def plainPlace (current : Location) (name : String) : Location :=
  let start := if name.startsWith "/" then [] else current
  (pieces '/' (pathOf name).text.toList).foldl
    (fun place step =>
      if step.isEmpty || step = ['.'] then place
      else if step = ['.', '.'] then place.dropLast
      else place ++ [.ofList step])
    start

def fullPlace (tree : FileTree) (presence : Presence) (name : String) : Except FileFault Location :=
  match presence, tree.locate (pathOf name) with
  | .everything, .ok place => if (tree.get? place).isSome then .ok place else .error .missing
  | _, .ok place => .ok place
  | .nothing, .error fault =>
    if name.isEmpty then .error fault
    else
      let names := FileTree.steps (pathOf name)
      let front := if name.startsWith "/" then "/" else "./"
      let known (count : Nat) : Option Location :=
        (tree.locate ⟨front ++ "/".intercalate (names.take count)⟩).toOption
      let counts := (List.range (names.length + 1)).reverse
      match counts.find? (fun count => (known count).isSome) with
      | some count =>
        .ok ((names.drop count).foldl
          (fun place name =>
            if name = ".." then place.dropLast
            else if name = "." then place
            else place ++ [name])
          ((known count).getD []))
      | none => .error fault
  | _, .error fault => .error fault

def presenceOf (call : ProgramCall) : Presence := match call.lastOf ['e', 'm', 'f', 'E'] with
  | some 'e' => .everything
  | some 'm' => .nothing
  | _ => .allButLast

def pathBetween (folder place : Location) : String :=
  let shared := ((folder.zip place).takeWhile (fun (left, right) => left == right)).length
  let ups := List.replicate (folder.length - shared) ".."
  let names := ups ++ (place.drop shared).map toOctets
  if names.isEmpty then "." else "/".intercalate names

def realpath : Utility :=
  withOptions
    { letters := "emsqzLPr:b:E", words := [("canonicalize-existing", 'e'),
      ("canonicalize-missing", 'm'), ("canonicalize", 'E'), ("strip", 's'), ("no-symlinks", 's'),
      ("quiet", 'q'), ("zero", 'z'), ("logical", 'L'), ("physical", 'P'), ("relative-to", 'r'),
      ("relative-base", 'b')] }
    fun program call => do
      if call.operands.isEmpty then complainOfCall program "missing operand"
      else
        let find (name : String) : Act (Except FileFault Location) := do
          let tree := (<- get).files
          if call.lastOf ['s', 'L', 'P'] == some 's' then
            if name.isEmpty then return .error .missing
            else return .ok (plainPlace tree.current name)
          else return fullPlace tree (presenceOf call) name
        let ending := if call.has 'z' then Char.ofNat 0 else '\n'
        let folder? (letter : Char) : Act (Option Location) := do
          match call.argument? letter with
          | some name => return (<- find name).toOption
          | none => return none
        let base? <- folder? 'b'
        let start? := (<- folder? 'r').orElse fun _ => base?
        allOf <| call.operands.map fun name => do
          match <- find name with
          | .error fault =>
            if call.has 'q' then return failure
            else complain program s!"{quotedIfNeeded name}: {wording fault}"
          | .ok place =>
            let isInside := base?.all (FileTree.isWithin · place)
            let said := match start? with
              | some start => if isInside then pathBetween start place else pathTo place
              | none => pathTo place
            answerText program (said.toList ++ [ending])

def readlink : Utility :=
  withOptions
    { letters := "efmnqsvz", words := [("canonicalize", 'f'), ("canonicalize-existing", 'e'),
      ("canonicalize-missing", 'm'), ("no-newline", 'n'), ("quiet", 'q'), ("silent", 's'),
      ("verbose", 'v'), ("zero", 'z')] }
    fun program call => do
      if call.operands.isEmpty then complainOfCall program "missing operand"
      else
        let many := 1 < call.operands.length
        if many && call.has 'n' then
          discard <| complain program "ignoring --no-newline with multiple arguments"
        let ending :=
          if call.has 'n' && !many then []
          else if call.has 'z' then [Char.ofNat 0]
          else ['\n']
        let isFull := call.has 'f' || call.has 'e' || call.has 'm'
        allOf <| call.operands.map fun name => do
          let tree := (<- get).files
          let refused (text : String) : Act Nat :=
            if call.has 'v' then complain program s!"{quotedIfNeeded name}: {text}"
            else return failure
          if isFull then
            match fullPlace tree (presenceOf call) name with
            | .ok place => answerText program ((pathTo place).toList ++ ending)
            | .error fault => refused (wording fault)
          else match tree.findName (pathOf name) with
            | .ok ⟨.link target, _, _⟩ => answerText program ((toOctets target).toList ++ ending)
            | .ok _ => refused "Invalid argument"
            | .error fault => refused (wording fault)

def pwd : Utility :=
  withOptions { letters := "LP", words := [("logical", 'L'), ("physical", 'P')] }
    fun program call => do
      let session <- get
      let told := (session.environment.lookup "PWD").getD ""
      let isTrue := told.startsWith "/" &&
        (session.files.locate (pathOf told)).toOption == some session.files.current
      let isLogical := call.lastOf ['L', 'P'] == some 'L' && isTrue
      answerLines program [if isLogical then told else pathTo session.files.current]

end BaseLanguage.Shell
