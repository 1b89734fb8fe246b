import BaseLanguage.Shell.Test
import BaseLanguage.Shell.Utility.Extraction.Form
import BaseLanguage.Shell.Utility.Extraction.Matching
import BaseLanguage.Shell.Utility.Transfer

namespace BaseLanguage.Shell.Extraction

open Text

/-!
# Functions on texts and numbers

These functions look at nothing but their arguments.
-/

/-! ## Letters -/

def changeFirst (change : Char -> Char) (text : String) : String := match text.toList with
  | c :: rest => .ofList (change c :: rest)
  | [] => ""

def capital (c : Char) : Char :=
  let code := c.toNat
  if code < 256 then c.toUpper
  else if (0x3b1 <= code && code <= 0x3c9 && code ≠ 0x3c2) || (0x430 <= code && code <= 0x44f) then
    Char.ofNat (code - 32)
  else if code < 0x180 && code % 2 = 1 then Char.ofNat (code - 1)
  else c

def small (c : Char) : Char :=
  let code := c.toNat
  if code < 256 then c.toLower
  else if (0x391 <= code && code <= 0x3a9) || (0x410 <= code && code <= 0x42f) then
    Char.ofNat (code + 32)
  else if code < 0x180 && code % 2 = 0 then Char.ofNat (code + 1)
  else c

def quotedForPattern (text : String) : String :=
  .ofList (text.toList.flatMap fun c =>
    if isAlphanumeric c || c = '_' || 128 <= c.toNat then [c] else ['\\', c])

/-! ## Numbers -/

def digitsToBase (base : Nat) (text : Chars) : Value :=
  let digits := (text.filter (· != '_')).takeWhile fun c =>
    isHexDigit c && hexadecimalValue [c] < base
  (Number.ofInt (Reading.valueOfDigits base digits)).asValue

def valueFromBase (text : String) : Value := match text.toList.dropWhile isSpace with
  | '0' :: 'x' :: rest => digitsToBase 16 rest
  | '0' :: 'X' :: rest => digitsToBase 16 rest
  | 'x' :: rest => digitsToBase 16 rest
  | '0' :: 'b' :: rest => digitsToBase 2 rest
  | '0' :: 'B' :: rest => digitsToBase 2 rest
  | 'b' :: rest => digitsToBase 2 rest
  | '0' :: 'o' :: rest => digitsToBase 8 rest
  | rest => digitsToBase 8 rest

def valueFromHex (text : String) : Value := match text.toList with
  | '0' :: 'x' :: rest => digitsToBase 16 rest
  | '0' :: 'X' :: rest => digitsToBase 16 rest
  | 'x' :: rest => digitsToBase 16 rest
  | rest => digitsToBase 16 rest

def withoutPlaces (value : Value) : Value := match value.number with
  | .whole value => .whole value
  | .real value =>
    if value.isNaN || value.isInf then .real value
    else
      let cut := if value < 0 then value.ceil else value.floor
      (Number.real cut).settled.asValue

def sizeValue (value : Value) : Value := match value.number with
  | .whole value => .whole value.natAbs
  | .real value => .real value.abs

/-! ## Parts of texts -/

def placeFrom (part : Chars) : Nat -> Chars -> Option Nat
  | place, text =>
    if part.isPrefixOf text then some place
    else match text with
      | [] => none
      | _ :: rest => placeFrom part (place + 1) rest

def lastPlaceUpTo (part text : Chars) : Nat -> Option Nat
  | 0 => if part.isPrefixOf text then some 0 else none
  | place + 1 =>
    if part.isPrefixOf (text.drop (place + 1)) then some (place + 1)
    else lastPlaceUpTo part text place

def indexValue : Option Nat -> Value
  | some place => .whole place
  | none => .whole (-1)

def spanOf (size : Nat) (offset : Int) (length : Option Int) : Option (Nat × Nat) :=
  let start := if offset < 0 then (size : Int) + offset else offset
  let ending : Int := match length with
    | none => size
    | some length => if length < 0 then (size : Int) + length else min (start + length) size
  if (size : Int) < start || (start < 0 && ending < 0) then none
  else
    let first := (max start 0).toNat
    some (first, (ending - first).toNat)

/-! ## Time -/

/-- The parts of a moment: seconds, minutes, hours, the day, the month from zero on, the years since
1900, the day of the week, the day of the year, and zero. -/
def momentParts (time : Timestamp) : List Int :=
  let date := time.date
  let day := time.dayTime
  [day.second, day.minute, day.hour, date.day, (date.month : Int) - 1, date.year - 1900, date.weekday,
    (date.dayOfYear : Int), 0]

def momentText (time : Timestamp) : String := dateText "%a %b %e %H:%M:%S %Y" time

def momentOfParts : List Int -> Int
  | second :: minute :: hour :: day :: month :: year :: _ =>
    let months := (year + 1900) * 12 + month
    let first : Date := ⟨months / 12, (months % 12).toNat + 1, 1⟩
    (first.dayNumber + (day - 1)) * 86400 + hour * 3600 + minute * 60 + second
  | _ => 0

/-! ## The functions -/

section

variable (engine : Engine)

def textFunction? (name : String) (values : List Value) : Machine (Option Value) := do
  let first := values.headD .undefined
  let text : Machine String := textBy engine first
  let number (use : Float -> Float) : Machine (Option Value) :=
    return some (.real (use first.float))
  match name, values with
  | "lc", _ => return some (.text ((<- text).map small))
  | "fc", _ => return some (.text ((<- text).map small))
  | "uc", _ => return some (.text ((<- text).map capital))
  | "lcfirst", _ => return some (.text (changeFirst small (<- text)))
  | "ucfirst", _ => return some (.text (changeFirst capital (<- text)))
  | "quotemeta", _ => return some (.text (quotedForPattern (<- text)))
  | "length", _ =>
    if first.isDefined then return some (.whole (<- text).length) else return some .undefined
  | "chr", _ => return some (.text (.singleton (Char.ofNat first.int.toNat)))
  | "ord", _ => return some (.whole (((<- text).toList.head?).map Char.toNat |>.getD 0))
  | "int", _ => return some (withoutPlaces first)
  | "abs", _ => return some (sizeValue first)
  | "sqrt", _ =>
    if first.float < 0 then
      let shown <- textOf first.number.asValue
      stop s!"Can't take sqrt of {shown}"
    else number Float.sqrt
  | "log", _ =>
    if first.float <= 0 then
      let shown <- textOf first.number.asValue
      stop s!"Can't take log of {shown}"
    else number Float.log
  | "exp", _ => number Float.exp
  | "sin", _ => number Float.sin
  | "cos", _ => number Float.cos
  | "atan2", [left, right] => return some (.real (Float.atan2 left.float right.float))
  | "hex", _ => return some (valueFromHex (<- text))
  | "oct", _ => return some (valueFromBase (<- text))
  | "index", whole :: part :: rest =>
    let whole := (<- textBy engine whole).toList
    let part := (<- textBy engine part).toList
    let start := min ((rest.head?.map Value.int).getD 0).toNat whole.length
    return some (indexValue (placeFrom part start (whole.drop start)))
  | "rindex", whole :: part :: rest =>
    let whole := (<- textBy engine whole).toList
    let part := (<- textBy engine part).toList
    let last : Int := (rest.head?.map Value.int).getD whole.length
    if last < 0 then return some (indexValue (if part.isEmpty then some 0 else none))
    else
      let start := min last.toNat (whole.length - part.length)
      return some (indexValue (lastPlaceUpTo part whole start))
  | "substr", whole :: offset :: rest =>
    let whole := (<- textBy engine whole).toList
    let length := match rest with
      | length :: _ => if length.isDefined then some length.int else none
      | [] => none
    match spanOf whole.length offset.int length with
    | some (start, count) => return some (.text (.ofList ((whole.drop start).take count)))
    | none => return some .undefined
  | "join", between :: parts =>
    return some (.text ((<- textBy engine between).intercalate (<- parts.mapM (textBy engine))))
  | "sprintf", form :: values => return some (.text (<- inForm (<- textBy engine form) values))
  | _, _ => return none

end

def scalarFunctions : List String :=
  wordsIn "index rindex substr atan2 rename link symlink mkdir seek vec truncate crypt bless waitpid
  flock binmode opendir"

/-!
## Files in a program

Functions on files tell by their result whether they could do what they should; what went wrong can
be asked for.
-/

def tryFiling (operation : Filing Unit) : Machine Bool := do
  match <- filing operation with
  | .ok () => return true
  | .error fault =>
    setFailure (faultNumber fault)
    return false

def sessionNow : Machine Session := liftM (m := Act) get

def momentNow : Machine Timestamp := do return (<- sessionNow).files.clock

def cannot (number : Nat) : Machine Bool := do
  setFailure number
  return false

/-! ## Tests -/

def daysSince (time : Timestamp) : Machine Value := do
  return .real (Float.ofInt ((<- get).startTime - time.seconds) / 86400)

def fileTest (letter : Char) (name : String) : Machine Value := do
  let session <- sessionNow
  match letter with
  | 't' => return truthValue false
  | 'l' => return truthValue (unaryTest session "-L" name)
  | letter => match session.entry name with
    | .error fault =>
      if (namedStream? session.files name).isSome then return truthValue true
      else
        setFailure (faultNumber fault)
        return .undefined
    | .ok entry =>
      let isEmpty := entry.size = 0
      match letter with
      | 's' => return if isEmpty then .text "" else .whole entry.size
      | 'z' => return truthValue isEmpty
      | 'M' => daysSince entry.modified
      | 'A' => daysSince entry.modified
      | 'C' => daysSince entry.modified
      | 'T' => return truthValue (isEmpty || isText entry)
      | 'B' => return truthValue (isEmpty || !isText entry)
      | 'o' => return truthValue true
      | 'R' => return truthValue true
      | 'W' => return truthValue true
      | 'X' => return truthValue (entryTest "-x" entry)
      | 'b' => return truthValue false
      | 'S' => return truthValue false
      | letter => return truthValue (entryTest (.ofList ['-', letter]) entry)
where
  isText (entry : FileEntry) : Bool := match entry.node with
    | .file content =>
      let front := (content.extract 0 512).toList
      !front.contains 0 &&
        3 * (front.filter (fun byte => byte < 9 || (13 < byte && byte < 32))).length <
          front.length + 1
    | _ => false

def fileNumbers (followsLinks : Bool) (name : String) : Machine (List Value) := do
  let session <- sessionNow
  match if followsLinks then session.entry name else session.ownEntry name with
  | .error fault =>
    setFailure (faultNumber fault)
    return []
  | .ok entry =>
    let place? := (session.files.locate (pathOf name)).toOption
    let number := (place?.bind session.files.number?).getD 0
    let links := (place?.map session.files.linkCount).getD 1
    let time : Int := entry.modified.seconds
    let mode := entry.kindBits + entry.permissions
    return ([2049, 1000 + number, mode, links, 0, 0, 0, entry.size].map fun (value : Nat) =>
      .whole value) ++ [.whole time, .whole time, .whole time, .whole 4096, .whole entry.sectors]

/-! ## Changes -/

def removeFile (name : String) : Machine Bool := do
  let session <- sessionNow
  match session.ownEntry name with
  | .error fault => cannot (faultNumber fault)
  | .ok entry => if entry.isFolder then cannot 21 else tryFiling (FileTree.remove (pathOf name))

def removeEmptyFolder (name : String) : Machine Bool := do
  let session <- sessionNow
  match session.ownEntry name, session.ownPlace? name with
  | .error fault, _ => cannot (faultNumber fault)
  | .ok _, none => cannot 2
  | .ok entry, some place =>
    if !entry.isFolder then cannot 20
    else if !(session.files.children place).isEmpty then cannot 39
    else tryFiling (FileTree.remove (pathOf name))

def makeFolder (name : String) (permissions : Option Nat) : Machine Bool := do
  if <- tryFiling (FileTree.createFolder (pathOf name)) then
    match permissions with
    | some permissions =>
      let mask := (<- sessionNow).files.mask
      let kept := permissions - (permissions &&& mask)
      tryFiling (FileTree.setPermissions (pathOf name) kept)
    | none => return true
  else return false

def makeFolders (name : String) : Machine Bool := tryFiling (FileTree.createFolders (pathOf name))

def renameFile (source target : String) : Machine Bool := do
  let session <- sessionNow
  match session.ownEntry source, session.ownEntry target with
  | .error fault, _ => cannot (faultNumber fault)
  | .ok _, .error _ => tryFiling (FileTree.move (pathOf source) (pathOf target))
  | .ok first, .ok second =>
    if second.isFolder && !first.isFolder then cannot 21
    else if first.isFolder && !second.isFolder then cannot 20
    else tryFiling (FileTree.move (pathOf source) (pathOf target))

def enterFolder (name : String) : Machine Bool := do
  let files := (<- sessionNow).files
  match files.hasFolder (pathOf name), files.locate (pathOf name) with
  | true, .ok place =>
    liftM (m := Act) (modify fun session =>
      { session with files := { session.files with current := place } })
    return true
  | false, .ok _ => cannot (if files.exists? (pathOf name) then 20 else 2)
  | _, .error fault => cannot (faultNumber fault)

def presentFolder : Machine String := do return pathTo (<- sessionNow).files.current

def folderNames (name : String) : Machine (Option (List String)) := do
  let session <- sessionNow
  match session.entry name with
  | .error fault =>
    setFailure (faultNumber fault)
    return none
  | .ok entry =>
    if entry.isFolder then return some (["." , ".."] ++ namesIn session.files name)
    else
      setFailure 20
      return none

/-! ## Names of files -/

def withAlternatives : Nat -> Chars -> List Chars
  | 0, text => [text]
  | limit + 1, text =>
    let front := text.takeWhile (· != '{')
    match text.drop front.length with
    | [] => [text]
    | _ :: rest =>
      let inside := rest.takeWhile (· != '}')
      match rest.drop inside.length with
      | [] => [text]
      | _ :: behind =>
        (pieces ',' inside).flatMap fun choice => withAlternatives limit (front ++ choice ++ behind)

def filesLike (text : String) : Machine (List String) := do
  let tree := (<- sessionNow).files
  let words := Records.partsAtBlanks isSpace text.toList
  let texts := words.flatMap fun word => withAlternatives (word.length + 1) word
  return texts.flatMap fun text =>
    let field : List PatternChar := text.map (fun c => (c, false))
    match filesMatching? tree {} field with
    | some paths => paths
    | none => [.ofList text]

end BaseLanguage.Shell.Extraction
