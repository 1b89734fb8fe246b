import BaseLanguage.Shell.Utility.Running
import BaseLanguage.Shell.Utility.Columns

namespace BaseLanguage.Shell

open Text

/-!
# Who and where

These say who uses the machine and what machine it is.  There is one user, who may do everything, and
a few names beside it that only own things.
-/

def knownUsers : List (String × Nat × Nat) :=
  [("root", 0, 0), ("daemon", 1, 1), ("bin", 2, 2), ("sys", 3, 3), ("sync", 4, 65534),
    ("games", 5, 60), ("man", 6, 12), ("lp", 7, 7), ("mail", 8, 8), ("news", 9, 9),
    ("uucp", 10, 10), ("proxy", 13, 13), ("www-data", 33, 33), ("backup", 34, 34),
    ("list", 38, 38), ("irc", 39, 39), ("nobody", 65534, 65534)]

def knownGroups : List (String × Nat) :=
  [("root", 0), ("daemon", 1), ("bin", 2), ("sys", 3), ("adm", 4), ("tty", 5), ("disk", 6),
    ("lp", 7), ("mail", 8), ("news", 9), ("uucp", 10), ("man", 12), ("proxy", 13),
    ("kmem", 15), ("dialout", 20), ("fax", 21), ("voice", 22), ("cdrom", 24), ("floppy", 25),
    ("tape", 26), ("sudo", 27), ("audio", 29), ("dip", 30), ("www-data", 33), ("backup", 34),
    ("operator", 37), ("list", 38), ("irc", 39), ("src", 40), ("shadow", 42), ("utmp", 43),
    ("video", 44), ("sasl", 45), ("plugdev", 46), ("staff", 50), ("games", 60), ("users", 100),
    ("nogroup", 65534)]

def groupName (number : Nat) : String :=
  ((knownGroups.find? (·.2 = number)).map Prod.fst).getD (numberText number)

def userOf? (text : String) : Option (String × Nat × Nat) :=
  match knownUsers.find? (·.1 = text) with
  | some user => some user
  | none => match digitsValue? text with
    | some number => knownUsers.find? (·.2.1 = number)
    | none => none

/-! ## Users -/

def idOptions : OptionTable where
  letters := "aZgGnruz"
  words := [("context", 'Z'), ("group", 'g'), ("groups", 'G'), ("name", 'n'), ("real", 'r'),
    ("user", 'u'), ("zero", 'z')]

def identity : Utility :=
  withOptions idOptions fun program call => do
    let kinds := ['u', 'g', 'G'].filter call.has
    if kinds.isEmpty && (call.has 'n' || call.has 'r') then
      complain program "cannot print only names or real IDs in default format"
    else if kinds.isEmpty && call.has 'z' then
      complain program "option --zero not permitted in default format"
    else if 1 < kinds.length then complain program "cannot print \"only\" of more than one choice"
    else
      let names := if call.operands.isEmpty then ["root"] else call.operands
      let ending := if call.has 'z' then Char.ofNat 0 else '\n'
      allOf <| names.map fun name => do
        match userOf? name with
        | none => complain program s!"{quoted name}: no such user"
        | some (user, number, group) =>
          let named := call.has 'n'
          let groupText := if named then groupName group else numberText group
          let text := match kinds with
            | ['u'] => if named then user else numberText number
            | [_] => groupText
            | _ =>
              let shown := s!"{numberText group}({groupName group})"
              s!"uid={numberText number}({user}) gid={shown} groups={shown}"
          answerText program (text.toList ++ [ending])

def whoami : Utility :=
  withOptions { letters := "" } fun program call => do
    match call.operands with
    | [] => answerLines program ["root"]
    | extra :: _ => complainOfExtra program extra

def groups : Utility :=
  withOptions { letters := "" } fun program call => do
    match call.operands with
    | [] => answerLines program ["root"]
    | names =>
      allOf <| names.map fun name => do
        match userOf? name with
        | some (_, _, group) => answerLines program [s!"{name} : {groupName group}"]
        | none => complain program s!"{quoted name}: no such user"

def logname : Utility :=
  withOptions { letters := "" } fun program call => do
    match call.operands with
    | [] => complain program "no login name"
    | extra :: _ => complainOfExtra program extra

def nobodyThere : Utility := fun _ _ => return success

def tty : Utility :=
  withOptions { letters := "s", words := [("silent", 's'), ("quiet", 's')], status := misuse }
    fun program call => do
      match call.operands with
      | extra :: _ => complainOfExtra program extra misuse
      | [] =>
        if !call.has 's' then discard <| answerLines program ["not a tty"]
        return failure

def stty : Utility := fun program _ =>
  complain program "'standard input': Inappropriate ioctl for device"

/-! ## The machine -/

def hostName : String := "localhost"

def unameOptions : OptionTable where
  letters := "asnrvmpio"
  words := [("all", 'a'), ("kernel-name", 's'), ("sysname", 's'), ("nodename", 'n'),
    ("kernel-release", 'r'), ("release", 'r'), ("kernel-version", 'v'), ("machine", 'm'),
    ("processor", 'p'), ("hardware-platform", 'i'), ("operating-system", 'o')]

def uname : Utility :=
  withOptions unameOptions fun program call => do
    match call.operands with
    | extra :: _ => complainOfExtra program extra
    | [] =>
      let all := call.has 'a'
      let facts : List (Char × String) :=
        [('s', "Linux"), ('n', hostName), ('r', "6.1.0"), ('v', "#1 SMP"), ('m', "x86_64"),
          ('p', "unknown"), ('i', "unknown"), ('o', "GNU/Linux")]
      let chosen := facts.filter fun (letter, text) =>
        if all then text ≠ "unknown" else call.has letter
      let chosen := if call.options.isEmpty then facts.take 1 else chosen
      answerLines program [" ".intercalate (chosen.map Prod.snd)]

def arch : Utility :=
  withOptions { letters := "" } fun program call => do
    match call.operands with
    | [] => answerLines program ["x86_64"]
    | extra :: _ => complainOfExtra program extra

def hostname : Utility :=
  withOptions
    { letters := "aAdfiIsyb", words := [("short", 's'), ("fqdn", 'f'), ("long", 'f')] }
    fun program call => do
      match call.operands with
      | [] => answerLines program [hostName]
      | _ => complain program "you must be root to change the host name"

def hostid : Utility :=
  withOptions { letters := "" } fun program call => do
    match call.operands with
    | [] => answerLines program ["007f0100"]
    | extra :: _ => complainOfExtra program extra

def nproc : Utility :=
  withOptions { letters := "αβ:", words := [("all", 'α'), ("ignore", 'β')] }
    fun program call => do
      match call.operands, call.argument? 'β' with
      | extra :: _, _ => complainOfExtra program extra
      | [], some text => match digitsValue? text with
        | some value => answerLines program [numberText (max 1 (4 - value))]
        | none => complain program s!"invalid number: {quoted text}"
      | [], none => answerLines program ["4"]

def sync : Utility :=
  withOptions { letters := "df", words := [("data", 'd'), ("file-system", 'f')] }
    fun program call => do
      if call.has 'd' && call.has 'f' then
        complain program "cannot specify both --data and --file-system"
      else if call.has 'd' && call.operands.isEmpty then
        complain program "--data needs at least one argument"
      else
        allOf <| call.operands.map fun name => do
          match (<- get).files.find (pathOf name) with
          | .ok _ => return success
          | .error fault => complain program s!"error opening {quoted name}: {wording fault}"

/-! ## Owners -/

def ownerOptions : OptionTable where
  letters := "cfhHLPRvα:β:"
  words := [("changes", 'c'), ("silent", 'f'), ("quiet", 'f'), ("no-dereference", 'h'),
    ("recursive", 'R'), ("verbose", 'v'), ("reference", 'α'), ("from", 'β')]

def ownerOf (text : String) : Except String (Option Nat × Option Nat) :=
  let user := text.toList.takeWhile (· ≠ ':')
  let group : Option Chars := match text.toList.drop user.length with
    | _ :: group => some group
    | [] => none
  let userNumber : Except String (Option Nat) :=
    if user.isEmpty then .ok none
    else
      let name := .ofList user
      match (knownUsers.find? (·.1 = name)).map (·.2.1) with
      | some number => .ok (some number)
      | none => match digitsValue? name with
        | some number => .ok (some number)
        | none => .error s!"invalid user: {quoted text}"
  let groupNumber : Except String (Option Nat) := match group with
    | none => .ok none
    | some [] => .ok none
    | some group =>
      let name := .ofList group
      match (knownGroups.lookup name).orElse fun _ => digitsValue? name with
      | some number => .ok (some number)
      | none => .error s!"invalid group: {quoted text}"
  match userNumber, groupNumber with
  | .error fault, _ => .error fault
  | _, .error fault => .error fault
  | .ok user, .ok group => .ok (user, group)

def changeOwner (byGroup : Bool) : Utility :=
  withOptions ownerOptions fun program call => do
    let hasReference := call.has 'α'
    let names := if hasReference then call.operands else call.operands.drop 1
    let owner := call.operands.headD ""
    if call.operands.isEmpty || names.isEmpty then complainOfMissing program call.operands
    else
      let checked : Except String Unit :=
        if hasReference then .ok ()
        else if byGroup then
          match (knownGroups.lookup owner).orElse fun _ => digitsValue? owner with
          | some _ => .ok ()
          | none => .error s!"invalid group: {quoted owner}"
        else (ownerOf owner).map fun _ => ()
      match checked with
      | .error fault => complain program fault
      | .ok () =>
        allOf <| names.map fun name => do
          match (<- get).files.find (pathOf name) with
          | .ok _ =>
            if call.has 'v' then
              let what := if byGroup then "group" else "ownership"
              let shown := if owner.contains ':' then "root:root" else "root"
              answerLines program [s!"{what} of {quoted name} retained as {shown}"]
            else return success
          | .error fault =>
            if call.has 'f' then return failure
            else complain program s!"cannot access {quoted name}: {wording fault}"

def chown : Utility := changeOwner false

def chgrp : Utility := changeOwner true

/-! ## Other orders -/

def shufOptions : OptionTable where
  letters := "ei:n:o:rzα:"
  words := [("echo", 'e'), ("input-range", 'i'), ("head-count", 'n'), ("output", 'o'),
    ("random-source", 'α'), ("repeat", 'r'), ("zero-terminated", 'z')]

def numberRange? (text : String) : Option (Nat × Nat) := match pieces '-' text.toList with
  | [first, last] =>
    match digitsValue? (.ofList first), digitsValue? (.ofList last) with
    | some first, some last => if first <= last + 1 then some (first, last) else none
    | _, _ => none
  | _ => none

def mixed (items : List α) : List α :=
  let count := items.length
  let indexed := items.zipIdx.map fun (item, index) => ((index * 7919 + 104729) % (count + 1), item)
  (indexed.mergeSort (fun x y => x.1 <= y.1)).map Prod.snd

def shuf : Utility :=
  withOptions shufOptions fun program call => do
    let ending := if call.has 'z' then Char.ofNat 0 else '\n'
    let count := (call.argument? 'n').map fun text => (text, digitsValue? text)
    if let some (text, none) := count then
      return <- complain program s!"invalid line count: {quoted text}"
    let most := (count.bind Prod.snd)
    let say (items : List Chars) : Act Nat := do
      let chosen := (most.map (mixed items).take).getD (mixed items)
      let said := chosen.flatMap (· ++ [ending])
      let some name := call.argument? 'o' | answerText program said
      match <- writeNamed .writing name (bytesOf said) with
      | .ok () => return success
      | .error fault => complain program s!"{quotedIfNeeded name}: {wording fault}"
    match call.argument? 'i' with
    | some text => match numberRange? text, call.operands with
      | none, _ => complain program s!"invalid input range: {quoted text}"
      | some _, extra :: _ => complainOfExtra program extra
      | some (first, last), [] =>
        say ((List.range (last + 1 - first)).map fun index => decimal (first + index))
    | none =>
      if call.has 'e' then say (call.operands.map String.toList)
      else match call.operands with
        | _ :: extra :: _ => complainOfExtra program extra
        | operands => match <- readOrComplain program (operands.headD "-") with
          | some text => say (linesOf ending text)
          | none => return failure

/-! ## Names of files -/

def pathchk : Utility :=
  withOptions { letters := "pPα", words := [("portability", 'α')] } fun program call => do
    let isStrict := call.has 'p' || call.has 'α'
    let isCareful := call.has 'P' || call.has 'α'
    if call.operands.isEmpty then complainOfMissing program []
    else
      allOf <| call.operands.map fun name => do
        let parts := (pieces '/' name.toList).filter (!·.isEmpty)
        let isPlain (c : Char) : Bool :=
          isAlphanumeric c || c = '.' || c = '_' || c = '-' || c = '/'
        let odd := name.toList.find? (!isPlain ·)
        let limit := if isStrict then 14 else 255
        if isCareful && parts.any (·.head? == some '-') then
          complain program s!"leading '-' in a component of file name {quoted name}"
        else if (isStrict || isCareful) && name.isEmpty then complain program "empty file name"
        else match isStrict, odd with
          | true, some c =>
            let shown := quoted (.singleton c)
            complain program s!"non-portable character {shown} in file name {quoted name}"
          | _, _ => match parts.find? (limit < ·.length) with
            | some part =>
              let size := numberText part.length
              let shown := quoted (.ofList part)
              complain program
                (s!"limit {numberText limit} exceeded by length {size} of file name " ++
                  s!"component {shown}")
            | none =>
              if isStrict then return success
              else match (<- get).files.find (pathOf name) with
                | .error .notFolder =>
                  complain program s!"{quotedIfNeeded name}: {wording .notFolder}"
                | .error fault =>
                  if name.isEmpty then complain program s!"{quoted name}: {wording fault}"
                  else return success
                | .ok _ => return success

/-! ## Other conditions -/

def stdbuf : Program := fun services =>
  withOptions
    { letters := "i:o:e:", words := [("input", 'i'), ("output", 'o'), ("error", 'e')]
      mixes := false, status := 125 }
    fun program call => do
      let isMode (text : String) : Bool :=
        text = "L" || (let digits := text.toList.takeWhile isDigit
           !digits.isEmpty && digits.length + 2 ≥ text.length)
      match call.options.find? (!isMode ·.2) with
      | some (_, text) => complainWith 125 program s!"invalid mode {quoted text}"
      | none =>
        if call.options.any (fun option => option.1 = 'i' && option.2 = "L") then
          complainOfCall program "line buffering stdin is meaningless" 125
        else match call.operands with
          | [] => complainOfMissing program [] 125
          | name :: arguments =>
            if call.options.isEmpty then
              complainOfCall program "you must specify a buffering mode option" 125
            else startNamedSaying services program "failed to run command " name arguments

def setsid : Program := fun services =>
  withOptions
    { letters := "cfw", words := [("ctty", 'c'), ("fork", 'f'), ("wait", 'w')], mixes := false }
    fun program call => do
      match call.operands with
      | [] => complainOfCall program "no command specified"
      | name :: arguments => match (<- get).lookUp (<- environmentFolders) name with
        | .ok path => asideFully (services.start path name arguments)
        | .error fault =>
          let (status, reason) := programFault fault
          complainWith status program s!"failed to execute {name}: {reason}"

end BaseLanguage.Shell
