import BaseLanguage.Shell.Utility.Editing.Reader
import BaseLanguage.Shell.Utility.Running

namespace BaseLanguage

open Text
namespace Shell
namespace Editing

/-!
# Running the line editor

The steps of a script are taken for each line.  What they say goes to the output; a line that lacked
its end is said without it, unless something follows.
-/

structure Line where
  text : Chars
  ended : Bool
  name : String := "-"

inductive Pending where
  | text (text : Chars)
  | file (name : String)
  | lineOf (name : String)

structure State where
  lines : List Line := []
  streaming : Bool := false
  names : List String
  number : Nat := 0
  current : Line := { text := [], ended := true }
  kept : Chars := []
  changed : Bool := false
  last : Option Target := none
  /-- The last lines of the ranges that have begun, by the places of their steps; a range may be
  without a known end. -/
  ranges : List (Nat × Option Nat) := []
  pending : List Pending := []
  lacksEnd : Bool := false
  said : List Chars := []
  unended : List String := []
  rows : List (String × List Chars) := []
  status : Nat := 0
  missed : Bool := false
  again : Bool := false
  silent : Bool := false
  finished : Bool := false

structure Manner where
  silent : Bool := false
  ending : Char := '\n'
  separate : Bool := false
  width : Nat := 70
  inPlace : Option String := none
  strict : Bool := false
  program : String := "sed"
  services : Services
  steps : Array Step := #[]

abbrev Work := StateT State (ExceptT String Act)

section

variable (manner : Manner)

def emit (octets : Chars) : Work Unit := do
  if manner.inPlace.isSome then modify (fun state => { state with said := octets :: state.said })
  else discard <| putOctets standardOutput octets

def sayLine (text : Chars) (ended : Bool) : Work Unit := do
  let front := if (<- get).lacksEnd then [manner.ending] else []
  emit manner (front ++ (if ended then text ++ [manner.ending] else text))
  modify ({ · with lacksEnd := !ended })

def sayText (text : Chars) : Work Unit := do
  if !text.isEmpty then
    let front := if (<- get).lacksEnd then [manner.ending] else []
    emit manner (front ++ text)
    modify ({ · with lacksEnd := false })

def writeLine (name : String) (text : Chars) (ended : Bool) : Work Unit := do
  let octets := if ended then text ++ [manner.ending] else text
  if name = "/dev/stdout" then sayLine manner text ended
  else if name = "/dev/stderr" then discard <| putOctets standardError octets
  else
    let lacks := (<- get).unended.contains name
    discard <| appendTo name (bytesOf (if lacks then manner.ending :: octets else octets))
    modify fun state =>
      let others := state.unended.filter (· != name)
      { state with unended := if ended then others else name :: others }

/-! ## Reading lines -/

def lineOfOctets (name : String) (octets : Chars) : Line :=
  let ended := octets.getLast? == some manner.ending
  { text := if ended then octets.dropLast else octets, ended, name }

def readingFault (name fault : String) : String :=
  if fault != wording .isFolder then s!"can't read {name}: {fault}"
  else if manner.inPlace.isSome then s!"couldn't edit {name}: not a regular file"
  else s!"read error on {name}: {fault}"

def finishFile (name : String) : Work Unit := do
  let some suffix := manner.inPlace | return ()
  if !suffix.isEmpty then
    match <- readNamed name with
    | .ok before => discard <| filing (FileTree.write (pathOf (name ++ suffix)) before)
    | .error _ => pure ()
  let octets := (<- get).said.reverse.flatten
  discard <| filing (FileTree.write (pathOf name) (bytesOf octets))
  modify ({ · with said := [], lacksEnd := false })

/-- Sees to it that the next line has been read, if there is one among the files that are open, and
says so. -/
def loadLine : Work Bool := do
  let state <- get
  if !state.lines.isEmpty then return true
  else if state.streaming then
    let octets := octetsOf ((<- takeLine manner.ending standardInput).getD .empty)
    if octets.isEmpty then
      modify ({ · with streaming := false })
      return false
    else
      modify ({ · with lines := [lineOfOctets manner "-" octets] })
      return true
  else return false

def loadNext : List String -> Work Bool
  | [] => loadLine manner
  | name :: rest => do
    if <- loadLine manner then return true
    else
      modify ({ · with names := rest })
      if name = "-" && manner.inPlace.isNone then modify ({ · with streaming := true })
      else match <- readOperand name with
        | .error fault =>
          discard <| complain manner.program (readingFault manner name fault)
          modify ({ · with missed := true })
        | .ok bytes =>
          let lines := (linesWithEnds manner.ending (octetsOf bytes)).map (lineOfOctets manner name)
          modify ({ · with lines })
          if lines.isEmpty then finishFile manner name
      loadNext rest

def hasNext : Work Bool := do loadNext manner (<- get).names

def hasFollowing : Work Bool := do
  if manner.separate then loadLine manner else hasNext manner

/-! ## Choosing lines -/

def resolve (target : Target) : Work (Regex × Bool × Bool) := do
  let target <-
    match target with
    | .last => match (<- get).last with
      | some target => pure target
      | none => throw "no previous regular expression"
    | target => pure target
  modify ({ · with last := some target })
  match target with
  | .regex regex ignoresCase lines => return (regex, ignoresCase, lines)
  | .last => throw "no previous regular expression"

def isLast : Work Bool := do return !(<- hasFollowing manner)

def isMeant (address : Address) : Work Bool := do
  let state <- get
  match address with
  | .line number => return state.number = number
  | .lastLine => isLast manner
  | .every first step =>
    return if step = 0 then state.number = first
      else first <= state.number && (state.number - first) % step = 0
  | .matching target => do
    let (regex, ignoresCase, lines) <- resolve target
    let subject : Subject := { text := state.current.text.toArray, ignoresCase, lines }
    return (regex.search? subject 0).isSome

def beginRange (place : Nat) (last : Option Nat) : Work Unit :=
  modify fun state => { state with ranges := (place, last) :: state.ranges.filter (·.1 != place) }

def endRange (place : Nat) : Work Unit :=
  modify fun state => { state with ranges := state.ranges.filter (·.1 != place) }

def enterRange (place : Nat) (ending : RangeEnd) : Work Unit := do
  let number := (<- get).number
  let upTo (last : Nat) : Work Unit :=
    if number < last then beginRange place (some last) else return ()
  match ending with
  | .address (.line last) => upTo last
  | .after count => upTo (number + count)
  | .multiple count => upTo (if count = 0 then number else (number + count - 1) / count * count)
  | .address .lastLine => if <- isLast manner then return () else beginRange place none
  | .address _ => beginRange place none

def staysInRange (place : Nat) (step : Step) (ending : RangeEnd) (last : Option Nat) :
    Work Bool := do
  let number := (<- get).number
  match last with
  | some last =>
    if last <= number then endRange place
    if number <= last then return true
    else match step.start with
      | some (.matching target) =>
        if <- isMeant manner (.matching target) then
          enterRange manner place ending
          return true
        else return false
      | _ => return false
  | none => match ending with
    | .address address =>
      if <- isMeant manner address then endRange place
      return true
    | _ => return true

def chooses (place : Nat) (step : Step) : Work Bool := do
  match step.start, step.ending with
  | none, _ => return true
  | some start, none => isMeant manner start
  | some start, some ending => do
    match (<- get).ranges.lookup place with
    | some last => staysInRange manner place step ending last
    | none =>
      if <- isMeant manner start then
        enterRange manner place ending
        return true
      else return false

/-! ## Replacing -/

def LetterCase.apply (letterCase : LetterCase) (c : Char) : Char := match letterCase with
  | .upper => c.toUpper
  | .lower => c.toLower
  | .same => c

def replacementText (subject : Subject) (found : Found) (parts : List ReplacementPart) : Chars :=
  let add (state : Chars × LetterCase × Option LetterCase) (text : Chars) :
      Chars × LetterCase × Option LetterCase :=
    let (said, letters, next) := state
    match next, text with
    | some first, c :: rest =>
      (((rest.map letters.apply).reverse ++ (first.apply c :: said)), letters, none)
    | next, text => ((text.map letters.apply).reverse ++ said, letters, next)
  let (said, _, _) := parts.foldl
    (fun (state : Chars × LetterCase × Option LetterCase) part => match part with
      | .text text => add state text
      | .group number => add state ((found.group? subject number).getD [])
      | .letters letters => (state.1, letters, none)
      | .nextLetter letters => (state.1, state.2.1, some letters))
    ([], .same, none)
  said.reverse

/-- Replaces occurrences from a place on; what is done is in reverse.  An empty occurrence right
behind another one does not count.  -/
def replaceFrom (regex : Regex) (subject : Subject) (substitution : Substitution) :
    Nat -> Nat -> Nat -> Option Nat -> List Chars -> Bool -> List Chars × Bool
  | 0, _, _, _, done, changed => (done, changed)
  | limit + 1, start, count, before, done, changed =>
    let size := subject.text.size
    let finish : List Chars × Bool := (subject.between start size :: done, changed)
    if size < start then (done, changed)
    else match regex.search? subject start with
      | none => finish
      | some found =>
        let front := subject.between start found.start
        let next := subject.between found.ending (found.ending + 1)
        if found.start = found.ending && before == some found.start then
          replaceFrom regex subject substitution limit (found.ending + 1) count none
            (next :: front :: done) changed
        else
          let count := count + 1
          let counts := substitution.occurrence <= count
          let shown :=
            if counts then replacementText subject found substitution.replacement
            else subject.between found.start found.ending
          let done := shown :: front :: done
          if counts && !substitution.all then (subject.between found.ending size :: done, true)
          else if found.start = found.ending then
            replaceFrom regex subject substitution limit (found.ending + 1) count none
              (next :: done) (changed || counts)
          else
            replaceFrom regex subject substitution limit found.ending count
              (some found.ending) done (changed || counts)

def runText (text : Chars) : Work Chars := do
  let octets := octetsOf (<- outputOf manner.services "/bin/sh" "sh" ["-c", .ofList text])
  return if octets.getLast? == some manner.ending then octets.dropLast else octets

def substitute (substitution : Substitution) : Work Unit := do
  let (regex, ignoresCase, lines) <- resolve substitution.target
  let text := (<- get).current.text
  let subject : Subject := { text := text.toArray, ignoresCase, lines }
  let (done, changed) := replaceFrom regex subject substitution (text.length + 2) 0 0 none [] false
  if changed then
    modify fun state => { state with
      current := { state.current with text := done.reverse.flatten }
      changed := true }
    let current := (<- get).current
    if substitution.runs then
      let said <- runText manner current.text
      modify fun state => { state with current := { state.current with text := said } }
    let current := (<- get).current
    if substitution.tells then sayLine manner current.text current.ended
    match substitution.file with
    | some name => writeLine manner name current.text current.ended
    | none => return ()

/-! ## Saying -/

def visibly : Char -> Chars
  | '\\' => ['\\', '\\']
  | '\x08' => ['\\', 'b']
  | c => if isVisible c then [c] else hiddenEscape c

def visibleText (width : Nat) (text : Chars) : Chars :=
  let (said, _) := text.foldl
    (fun ((said, column) : List Chars × Nat) c =>
      let shown := visibly c
      if 1 < width && width - 1 < column + shown.length then
        (shown :: ['\\', '\n'] :: said, shown.length)
      else (shown :: said, column + shown.length))
    ([], 0)
  said.reverse.flatten ++ ['$', '\n']

/-! ## Steps -/

inductive Onward where
  | following
  | to (place : Nat)
  | finished

def setText (text : Chars) : Work Unit :=
  modify (fun state => { state with current := { state.current with text } })

def putOff (pending : Pending) : Work Unit :=
  modify (fun state => { state with pending := pending :: state.pending })

def placeOf (label : String) : Nat :=
  if label.isEmpty then manner.steps.size
  else
    (manner.steps.findIdx? fun step => match step.action with
      | .label name => name == label
      | _ => false).getD manner.steps.size

def takeRow (name : String) : Work Chars := do
  let rows <-
    match (<- get).rows.lookup name with
    | some rows => pure rows
    | none => match <- readNamed name with
      | .ok bytes => pure (linesWithEnds manner.ending (octetsOf bytes))
      | .error _ => pure []
  modify fun state => { state with rows := (name, rows.drop 1) :: state.rows.filter (·.1 != name) }
  return rows.headD []

def sayPending : Work Unit := do
  let pending := (<- get).pending.reverse
  modify ({ · with pending := [] })
  pending.forM fun entry => do
    match entry with
    | .text text => sayText manner text
    | .lineOf name => sayText manner (<- takeRow manner name)
    | .file name =>
      let text := ((<- readNamed name).toOption.map octetsOf).getD []
      sayText manner text

def endRound : Work Unit := do
  let state <- get
  if !manner.silent && !state.silent then sayLine manner state.current.text state.current.ended
  sayPending manner

def readNext : Work Bool := do
  if manner.separate && !(<- loadLine manner) then
    let before := (<- get).current.name
    if 0 < (<- get).number then finishFile manner before
    modify ({ · with number := 0, ranges := [] })
  if !(<- hasNext manner) then return false
  else
    modify fun state => match state.lines with
      | [] => state
      | line :: rest => { state with lines := rest, current := line, number := state.number + 1 }
    return true

def quit (status : Nat) (silently : Bool) : Work Onward := do
  modify fun state => { state with finished := true, status, silent := state.silent || silently }
  return .finished

def perform (place : Nat) (step : Step) : Work Onward := do
  let state <- get
  let text := state.current.text
  match step.action with
  | .nothing => return .following
  | .block _ => return .following
  | .label _ => return .following
  | .jump label => return .to (placeOf manner label)
  | .jumpIfChanged label =>
    if state.changed then
      modify ({ · with changed := false })
      return .to (placeOf manner label)
    else return .following
  | .jumpUnlessChanged label =>
    if state.changed then
      modify ({ · with changed := false })
      return .following
    else return .to (placeOf manner label)
  | .append text =>
    putOff (.text text)
    return .following
  | .insert text =>
    sayText manner text
    return .following
  | .change text =>
    let inside := (state.ranges.lookup place).isSome && !step.opposite
    if !inside then sayText manner text
    modify ({ · with silent := true })
    return .finished
  | .delete =>
    modify ({ · with silent := true })
    return .finished
  | .deleteFirst =>
    modify ({ · with silent := true })
    match text.dropWhile (· != '\n') with
    | _ :: rest =>
      setText rest
      modify ({ · with again := true })
    | [] => pure ()
    return .finished
  | .say =>
    sayLine manner text state.current.ended
    return .following
  | .sayFirst =>
    let first := text.takeWhile (· != '\n')
    sayLine manner first (first.length < text.length || state.current.ended)
    return .following
  | .sayNumber =>
    sayText manner (decimal state.number ++ ['\n'])
    return .following
  | .sayVisibly width =>
    sayText manner (visibleText (width.getD manner.width) text)
    return .following
  | .sayName =>
    sayText manner (state.current.name.toList ++ ['\n'])
    return .following
  | .next =>
    if <- hasFollowing manner then
      endRound manner
      discard (readNext manner)
      return .following
    else quit 0 manner.strict
  | .appendNext =>
    if <- hasFollowing manner then
      sayPending manner
      discard (readNext manner)
      modify fun state => { state with
        current := { state.current with text := text ++ manner.ending :: state.current.text } }
      return .following
    else if manner.separate && (<- hasNext manner) then return .finished
    else quit 0 manner.strict
  | .keep =>
    modify ({ · with kept := text })
    return .following
  | .appendKept =>
    modify (fun state => { state with kept := state.kept ++ '\n' :: text })
    return .following
  | .fetch =>
    setText state.kept
    return .following
  | .appendFetched =>
    setText (text ++ '\n' :: state.kept)
    return .following
  | .exchange =>
    setText state.kept
    modify ({ · with kept := text })
    return .following
  | .clear =>
    setText []
    return .following
  | .quit status silently => quit status silently
  | .readFile name =>
    putOff (.file name)
    return .following
  | .readRow name =>
    putOff (.lineOf name)
    return .following
  | .run none =>
    setText (<- runText manner text)
    return .following
  | .run (some command) =>
    sayText manner (octetsOf (<- outputOf manner.services "/bin/sh" "sh" ["-c", .ofList command]))
    return .following
  | .writeFile name onlyFirst =>
    if onlyFirst then writeLine manner name (text.takeWhile (· != '\n')) true
    else writeLine manner name text state.current.ended
    return .following
  | .substitute substitution =>
    substitute manner substitution
    return .following
  | .transliterate first second =>
    setText (text.map fun c => match first.idxOf? c with
      | some index => second.getD index c
      | none => c)
    return .following

def takeSteps : Nat -> Nat -> Work Unit
  | 0, _ => return ()
  | limit + 1, place => do
    let some step := manner.steps[place]? | return ()
    if (<- chooses manner place step) != step.opposite then
      match <- perform manner place step with
      | .following => takeSteps limit (place + 1)
      | .to place => takeSteps limit place
      | .finished => return ()
    else match step.action with
      | .block ending => takeSteps limit ending
      | _ => takeSteps limit (place + 1)

def mostSteps : Nat := 1000000

def firstRanges : List (Nat × Option Nat) :=
  manner.steps.toList.zipIdx.filterMap fun (step, place) =>
    if step.fromZero then some (place, none) else none

def workOn : Nat -> Work Unit
  | 0 => return ()
  | limit + 1 => do
    let again := (<- get).again
    let goesOn <- if again then pure true else readNext manner
    if !goesOn then return ()
    else
      modify fun state => { state with
        again := false
        silent := false
        changed := state.changed && again
        ranges := if state.number = 1 && !again then firstRanges manner else state.ranges }
      takeSteps manner mostSteps 0
      endRound manner
      if (<- get).finished then
        if manner.inPlace.isSome then
          let state <- get
          modify ({ · with lines := [] })
          state.lines.forM fun line => sayLine manner line.text line.ended
          finishFile manner state.current.name
      else workOn limit

end

def writtenFiles (steps : List Step) : List String :=
  (steps.filterMap fun step => match step.action with
    | .writeFile name _ => some name
    | .substitute substitution => substitution.file
    | _ => none).filter (!·.startsWith "/dev/std")

def run (manner : Manner) (names : List String) : Act (Except String Nat) := do
  (writtenFiles manner.steps.toList).forM fun name => do
    discard <| filing (FileTree.write (pathOf name) .empty)
  let work : Work Nat := do
    workOn manner mostWaits
    let state <- get
    return if state.missed then max state.status misuse else state.status
  match <- (work.run { names }).run with
  | .ok (status, _) => return .ok status
  | .error fault => return .error fault

end Editing

def sedOptions : OptionTable where
  letters := "bsnrzuEe:f:l:i::hdpS"
  words := [("quiet", 'n'), ("silent", 'n'), ("expression", 'e'), ("file", 'f'),
    ("in-place", 'i'), ("line-length", 'l'), ("null-data", 'z'), ("zero-terminated", 'z'),
    ("separate", 's'), ("regexp-extended", 'E'), ("unbuffered", 'u'), ("posix", 'p'),
    ("debug", 'd'), ("sandbox", 'S'), ("follow-symlinks", 'd'), ("binary", 'b')]

def sedParts (call : ProgramCall) : Act (Except String (List Editing.Part × List String)) := do
  let given := call.options.filter (fun option => option.1 = 'e' || option.1 = 'f')
  match given, call.operands with
  | [], [] => return .error "no script"
  | [], script :: names => return .ok ([(none, script.toList)], names)
  | given, names => do
    let read (option : Char × String) : Act (Except String Editing.Part) := do
      let (letter, text) := option
      if letter = 'e' then return .ok (none, text.toList)
      else match <- readOperand text with
        | .ok bytes => return .ok (some text, octetsOf bytes)
        | .error fault => return .error s!"couldn't open file {text}: {fault}"
    let parts <- given.mapM read
    return (parts.mapM id).map (fun parts => (parts, names))

def seriousFailure : Nat := 4

def sed : Program := fun services program arguments => do
  match sedOptions.read arguments with
  | .error message =>
    complainWith failure program
      (s!"{message}\nUsage: {program} [OPTION]... \x7bscript-only-if-no-other-script\x7d " ++
        "[input-file]...")
  | .ok call => match <- sedParts call with
    | .error "no script" =>
      discard <| putText standardError
        (s!"Usage: {program} [OPTION]... \x7bscript-only-if-no-other-script\x7d " ++
          "[input-file]...\n")
      return failure
    | .error fault => complainWith seriousFailure program fault
    | .ok (parts, names) =>
      let silentFirst := parts.head?.any (·.2.take 3 == ['#', 'n', '\n'])
      match Editing.parse (call.has 'E' || call.has 'r') (call.has 'p') (call.has 'S') parts with
      | .error ⟨"", message⟩ => complainWith seriousFailure program message
      | .error ⟨source, message⟩ => complain program s!"{source} {message}"
      | .ok steps =>
        let inPlace := call.has 'i'
        if inPlace && names.isEmpty then
          return <- complainWith seriousFailure program "no input files"
        let manner : Editing.Manner := {
          silent := call.has 'n' || silentFirst
          ending := if call.has 'z' then Char.ofNat 0 else '\n'
          separate := call.has 's' || inPlace
          width := ((call.argument? 'l').bind digitsValue?).getD 70
          inPlace := call.argument? 'i'
          strict := call.has 'p'
          program
          services
          steps := steps.toArray }
        match <- Editing.run manner (operandsOrInput names) with
        | .ok status => return status
        | .error fault => complain program s!"-e expression #1, char 0: {fault}"

end Shell
end BaseLanguage
