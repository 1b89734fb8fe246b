import BaseLanguage.Shell.Redirection

namespace BaseLanguage.Shell

open Text

/-!
# What is there

Some folders and files are there on every system, and so are programs.  A program is found by its
path, or by its name in a row of folders.  What a file holds says what it runs: the image of a
program, or a script, whose first line may name the program that reads it.
-/

/-! ## Images of programs -/

def imageFront : List UInt8 := [0x7f, 0x45, 0x4c, 0x46, 2, 1, 1, 0, 0, 0, 0, 0, 0, 0, 0, 0]

def imageOf (name : String) : ByteArray := ⟨imageFront.toArray⟩ ++ toBytes name ++ ⟨#[0]⟩

def imageName? (bytes : ByteArray) : Option String :=
  if bytes.size < imageFront.length || bytes.get! 0 != 0x7f then none
  else
    let octets := octetsOf bytes
    if (octetsOf ⟨imageFront.toArray⟩).isPrefixOf octets then
      some (.ofList ((octets.drop imageFront.length).takeWhile (· != Char.ofNat 0)))
    else none

/-! ## The system -/

def systemFolders : List Location :=
  [[], ["boot"], ["dev"], ["dev", "shm"], ["etc"], ["etc", "alternatives"], ["home"], ["media"],
    ["mnt"], ["opt"], ["proc"], ["proc", "self"], streamFolder, ["root"], ["run"], ["srv"],
    ["sys"], ["tmp"], ["usr"], ["usr", "bin"], ["usr", "games"], ["usr", "include"],
    ["usr", "lib"], ["usr", "local"], ["usr", "local", "bin"], ["usr", "local", "lib"],
    ["usr", "local", "sbin"], ["usr", "sbin"], ["usr", "share"], ["usr", "src"], ["var"],
    ["var", "log"], ["var", "tmp"]]

def systemLinks : List (Location × String) :=
  [(["bin"], "usr/bin"), (["sbin"], "usr/sbin"), (["lib"], "usr/lib"),
    (["dev", "fd"], "/proc/self/fd"), (["dev", "stdin"], "/proc/self/fd/0"),
    (["dev", "stdout"], "/proc/self/fd/1"), (["dev", "stderr"], "/proc/self/fd/2"),
    (["usr", "bin", "sh"], "dash"), (["usr", "bin", "awk"], "/etc/alternatives/awk"),
    (["etc", "alternatives", "awk"], "/usr/bin/mawk"), (["usr", "bin", "python3"], "python3.11"),
    (["var", "run"], "/run")]

def systemDevices : List (String × Device) :=
  [("null", .nothing), ("zero", .zeros), ("full", .full), ("random", .noise), ("urandom", .noise),
    ("tty", .terminal)]

/-- The users of every system, by their names: their numbers, and those of their groups, what else
is known of them, their folders and their shells. -/
def systemUsers : List (String × Nat × Nat × String × String × String) :=
  let none := "/usr/sbin/nologin"
  [("root", 0, 0, "root", "/root", "/bin/bash"), ("daemon", 1, 1, "daemon", "/usr/sbin", none),
    ("bin", 2, 2, "bin", "/bin", none), ("sys", 3, 3, "sys", "/dev", none),
    ("sync", 4, 65534, "sync", "/bin", "/bin/sync"), ("games", 5, 60, "games", "/usr/games", none),
    ("man", 6, 12, "man", "/var/cache/man", none), ("lp", 7, 7, "lp", "/var/spool/lpd", none),
    ("mail", 8, 8, "mail", "/var/mail", none), ("news", 9, 9, "news", "/var/spool/news", none),
    ("uucp", 10, 10, "uucp", "/var/spool/uucp", none), ("proxy", 13, 13, "proxy", "/bin", none),
    ("www-data", 33, 33, "www-data", "/var/www", none),
    ("backup", 34, 34, "backup", "/var/backups", none),
    ("list", 38, 38, "Mailing List Manager", "/var/list", none),
    ("irc", 39, 39, "ircd", "/run/ircd", none), ("_apt", 42, 65534, "", "/nonexistent", none),
    ("nobody", 65534, 65534, "nobody", "/nonexistent", none)]

def userLine : String × Nat × Nat × String × String × String -> String
  | (name, user, group, about, folder, shell) =>
    let user := numberText user
    let group := numberText group
    s!"{name}:x:{user}:{group}:{about}:{folder}:{shell}\n"

def systemTexts : List (Location × String) :=
  [(["etc", "passwd"], .join (systemUsers.map userLine)),
    (["etc", "group"], "root:x:0:\ndaemon:x:1:\nbin:x:2:\nsys:x:3:\n"),
    (["etc", "hostname"], "localhost\n"),
    (["etc", "hosts"], "127.0.0.1\tlocalhost\n"),
    (["etc", "shells"], "# /etc/shells: valid login shells\n/bin/sh\n/usr/bin/sh\n/bin/bash\n" ++
      "/usr/bin/bash\n/bin/rbash\n/usr/bin/rbash\n/bin/dash\n/usr/bin/dash\n")]

def programNames : List String :=
  wordsIn "[ arch awk b2sum base32 base64 basename basenc bash cat chgrp chmod chown cksum cmp comm
  cp csplit cut dash date dd diff dir dirname du echo egrep env expand expr factor false fgrep find
  fmt fold getopt grep groups gunzip gzip head hostid hostname iconv id install join kill link ln
  logname ls m4 make mawk md5sum mkdir mkfifo mktemp mv nawk nice nl nohup nproc numfmt od paste
  pathchk perl pinky pr printenv printf pwd python3 python3.11 readlink realpath rev rm rmdir sed
  seq setsid sha1sum sha224sum sha256sum sha384sum sha512sum shuf sleep sort split stat stdbuf
  strings stty sum sync tac tail tar tee test timeout touch tr true truncate tsort tty uname
  unexpand uniq unlink users vdir wc which who whoami xargs yes zcat"

def systemNodes : List (Location × FileNode × Nat) :=
  let isShared (place : Location) : Bool := place.getLast?.any ["tmp", "shm"].contains
  systemFolders.map (fun place =>
    (place, .folder, if isShared place then 0o1777 else if place = ["root"] then 0o700 else 0o755)) ++
  systemLinks.map (fun (place, target) => (place, .link target, 0o777)) ++
  systemDevices.map (fun (name, device) => (["dev", name], .device device, 0o666)) ++
  systemTexts.map (fun (place, text) => (place, .file (toBytes text), 0o644)) ++
  programNames.map (fun name => (["usr", "bin", name], .file (imageOf name), 0o755))

def usualFolders : String := "/usr/local/sbin:/usr/local/bin:/usr/sbin:/usr/bin:/sbin:/bin"

def withSystem (tree : FileTree) : FileTree :=
  if (tree.number? streamFolder).isSome then tree
  else
    systemNodes.foldl
      (fun tree (place, node, permissions) => match tree.number? place, tree.get? place with
        | some number, some entry => tree.put number { entry with permissions }
        | _, _ =>
          { tree with
            numbers := tree.numbers.insert place tree.nextNumber
            nodes := tree.nodes.insert tree.nextNumber ⟨node, ⟨0, 0⟩, permissions⟩
            nextNumber := tree.nextNumber + 1 })
      tree

/-! ## Programs by their paths -/

inductive StartFault where
  | missing
  | notFolder
  | isFolder
  | forbidden
  | tooManyLinks
  | noInterpreter (name : String)
  deriving DecidableEq

inductive Executable where
  | image (program : String)
  | script (interpreter : String) (arguments : List String)
  | other
  deriving DecidableEq

def interpreter? : Chars -> Option (String × List String)
  | '#' :: '!' :: rest =>
    let line := (rest.takeWhile (· != '\n')).dropWhile isBlank
    let name := line.takeWhile (!isBlank ·)
    let behind := (line.drop name.length).dropWhile isBlank
    let argument := dropTrailing isBlank behind
    if name.isEmpty then none
    else some (.ofList name, if argument.isEmpty then [] else [.ofList argument])
  | _ => none

def executable (bytes : ByteArray) : Executable := match imageName? bytes with
  | some name => .image name
  | none => match interpreter? (octetsOf (bytes.extract 0 256)) with
    | some (interpreter, arguments) => .script interpreter arguments
    | none => .other

def mostInterpreters : Nat := 5

namespace Session

/-- What a path runs, or why it cannot be run.  The program that reads a script must be there too. -/
def executableAt (session : Session) : Nat -> String -> Except StartFault Executable
  | 0, _ => .error .tooManyLinks
  | limit + 1, path => match session.files.find (pathOf path) with
    | .error .notFolder => .error .notFolder
    | .error .tooManyLinks => .error .tooManyLinks
    | .error _ => .error .missing
    | .ok entry => match entry.node with
      | .folder => .error .isFolder
      | .file content =>
        if entry.permissions &&& 0o111 = 0 then .error .forbidden
        else match executable content with
          | .script interpreter arguments => match session.executableAt limit interpreter with
            | .error .missing => .error (.noInterpreter interpreter)
            | .error fault => .error fault
            | .ok _ => .ok (.script interpreter arguments)
          | found => .ok found
      | _ => .error .forbidden

def runnable (session : Session) (path : String) : Except StartFault Executable :=
  session.executableAt mostInterpreters path

def candidates (folders name : String) : List String :=
  (pieces ':' folders.toList).map fun folder =>
    if folder.isEmpty then name else .ofList folder ++ "/" ++ name

def lookUp (session : Session) (folders name : String) : Except StartFault String :=
  if name.toList.contains '/' then (session.runnable name).map (fun _ => name)
  else
    let found := (candidates folders name).map (fun path => (path, session.runnable path))
    match found.find? (·.2.isOk) with
    | some (path, _) => .ok path
    | none =>
      let isThere := found.any fun entry => match entry.2 with
        | .error .isFolder => true
        | .error .forbidden => true
        | _ => false
      .error (if isThere then .forbidden else .missing)

end Session
end BaseLanguage.Shell
