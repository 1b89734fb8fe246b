import BaseLanguage.Shell.Utility.FileStatus
import BaseLanguage.Text.Regex.Reader

namespace BaseLanguage.Shell

open Text

/-!
# Looking for files

An expression is asked about every file below some folders.  Its parts are conditions, which look
at the file only, and actions, which do something with it and hold if that went well.
-/

inductive FindNumber where
  | exactly (value : Nat)
  | above (value : Nat)
  | below (value : Nat)

namespace FindNumber

def read? (text : Chars) : Option FindNumber :=
  let value? (digits : Chars) : Option Nat :=
    if !digits.isEmpty && digits.all isDigit then some (valueOf digits) else none
  match text with
  | '+' :: digits => (value? digits).map .above
  | '-' :: digits => (value? digits).map .below
  | digits => (value? digits).map .exactly

def holds (number : FindNumber) (value : Nat) : Bool := match number with
  | .exactly expected => value == expected
  | .above least => least < value
  | .below most => value < most

end FindNumber

inductive ModeMatch where
  | exactly
  | allOf
  | anyOf

inductive FindPiece where
  | text (octets : Chars)
  | fact (flags : Chars) (width : Nat) (precision : Option Nat) (letters : Chars)
  | stop

inductive FindTest where
  | always (holds : Bool)
  | name (pattern : Pattern) (ignoresCase : Bool)
  | path (pattern : Pattern) (ignoresCase : Bool)
  | target (pattern : Pattern) (ignoresCase : Bool)
  | regex (regex : Regex) (ignoresCase : Bool)
  | kind (letters : Chars) (other : Bool)
  | size (number : FindNumber) (unit : Nat)
  | empty
  | mode (manner : ModeMatch) (permissions : Nat)
  | newer (time : Timestamp)
  | age (number : FindNumber) (unit : Nat) (full : Bool)
  | links (number : FindNumber)
  | number (number : FindNumber)
  | executable

inductive FindAction where
  | say (ending : Char) (place : Option String)
  | sayForm (pieces : List FindPiece) (place : Option String)
  | list (place : Option String)
  | run (words : List String) (inFolder asks : Bool)
  | gather (number : Nat) (words : List String) (inFolder : Bool)
  | delete
  | prune
  | quit

inductive FindExpression where
  | test (test : FindTest)
  | action (action : FindAction)
  | not (inside : FindExpression)
  | both (first second : FindExpression)
  | either (first second : FindExpression)
  | list (first second : FindExpression)

namespace FindExpression

def acts : FindExpression -> Bool
  | .test _ => false
  | .action .prune => false
  | .action .quit => false
  | .action _ => true
  | .not inside => inside.acts
  | .both first second => first.acts || second.acts
  | .either first second => first.acts || second.acts
  | .list first second => first.acts || second.acts

def gathered : FindExpression -> List (Nat × List String × Bool)
  | .action (.gather number words inFolder) => [(number, words, inFolder)]
  | .not inside => inside.gathered
  | .both first second => first.gathered ++ second.gathered
  | .either first second => first.gathered ++ second.gathered
  | .list first second => first.gathered ++ second.gathered
  | _ => []

def places : FindExpression -> List String
  | .action (.say _ place) => place.toList
  | .action (.sayForm _ place) => place.toList
  | .action (.list place) => place.toList
  | .not inside => inside.places
  | .both first second => first.places ++ second.places
  | .either first second => first.places ++ second.places
  | .list first second => first.places ++ second.places
  | _ => []

end FindExpression

structure FindSubject where
  start : String
  path : String
  depth : Nat
  place : Location
  entry : FileEntry
  other : Option FileEntry
  number : Nat
  links : Nat

namespace FindSubject

variable (subject : FindSubject)

def name : String := lastName "" subject.path

def inside : String :=
  let behind := (subject.path.toList).drop subject.start.length
  .ofList (behind.dropWhile (· = '/'))

def folder : String :=
  let path := subject.path.toList
  let name := path.reverse.takeWhile (· != '/')
  if name.length = path.length then "." else .ofList (path.take (path.length - name.length - 1))

def kindLetter (entry : FileEntry) : Char := match entry.letter with
  | '-' => 'f'
  | letter => letter

def patternHolds (pattern : Pattern) (ignoresCase : Bool) (text : String) : Bool :=
  if ignoresCase then Pattern.holds (pattern.map PatternItem.lowered) (text.toLower).toList
  else pattern.holds text.toList

def satisfies (tree : FileTree) (now : Timestamp) : FindTest -> Bool
  | .always holds => holds
  | .name pattern ignoresCase => patternHolds pattern ignoresCase subject.name
  | .path pattern ignoresCase => patternHolds pattern ignoresCase subject.path
  | .target pattern ignoresCase =>
    (subject.entry.target?).any fun target => patternHolds pattern ignoresCase (toOctets target)
  | .regex regex ignoresCase =>
    let text : Subject :=
      { text := subject.path.toList.toArray, ignoresCase, keepsWays := regex.hasBack }
    (Regex.ends text regex ⟨0, []⟩).any (·.place = text.text.size)
  | .kind letters other =>
    if other then letters.contains (kindLetter (subject.other.getD subject.entry))
    else letters.contains (kindLetter subject.entry)
  | .size number unit => number.holds ((subject.entry.size + unit - 1) / unit)
  | .empty =>
    if subject.entry.isFolder then (tree.children subject.place).isEmpty
    else subject.entry.isFile && subject.entry.size = 0
  | .mode manner permissions =>
    let own := subject.entry.permissions
    match manner with
    | .exactly => own == permissions
    | .allOf => own &&& permissions == permissions
    | .anyOf => permissions = 0 || own &&& permissions != 0
  | .newer time => time.before subject.entry.modified
  | .age number unit full =>
    let age := (now.total - subject.entry.modified.total).toNat
    let span := unit * Timestamp.nanosPerSecond
    if full then number.holds (age / span)
    else match number with
      | .exactly value => (age + span - 1) / span == value
      | .above value => value * span < age
      | .below value => age < value * span
  | .links number => number.holds subject.links
  | .number number => number.holds subject.number
  | .executable =>
    let reached := if subject.entry.isLink then subject.other else some subject.entry
    reached.any fun entry => entry.isFolder || entry.permissions &&& 0o111 != 0

/-! ## Forms -/

def nanosText (time : Timestamp) : Chars := '.' :: withZeros 9 (decimal time.nanos) ++ ['0']

def datePartText (time : Timestamp) (letter : Char) : Chars :=
  let text (format : String) : Chars := (dateText format time).toList
  match letter with
  | '@' => signedDecimal time.seconds ++ nanosText time
  | '+' => text "%Y-%m-%d+%H:%M:%S" ++ nanosText time
  | 'S' => text "%S" ++ nanosText time
  | 'T' => text "%H:%M:%S" ++ nanosText time
  | 'X' => text "%H:%M:%S" ++ nanosText time
  | 'r' => text "%I:%M:%S" ++ nanosText time ++ text " %p"
  | 'c' => text "%a %b %e %H:%M:%S %Y"
  | letter => text (.ofList ['%', letter])

def wholeDateText (time : Timestamp) : Chars :=
  (dateText "%a %b %e %H:%M:%S" time).toList ++ nanosText time ++ (dateText " %Y" time).toList

def fact : Chars -> Chars ⊕ (Nat × Char)
  | ['p'] => .inl subject.path.toList
  | ['P'] => .inl subject.inside.toList
  | ['f'] => .inl subject.name.toList
  | ['h'] => .inl subject.folder.toList
  | ['H'] => .inl subject.start.toList
  | ['d'] => .inr (subject.depth, 'd')
  | ['s'] => .inl (decimal subject.entry.size)
  | ['k'] => .inl (decimal ((subject.entry.sectors + 1) / 2))
  | ['b'] => .inl (decimal subject.entry.sectors)
  | ['m'] => .inr (subject.entry.permissions, 'o')
  | ['M'] => .inl (ListManner.modeText subject.entry).toList
  | ['u'] => .inl "root".toList
  | ['U'] => .inl ['0']
  | ['g'] => .inl "root".toList
  | ['G'] => .inl ['0']
  | ['i'] => .inl (decimal subject.number)
  | ['n'] => .inl (decimal subject.links)
  | ['l'] => .inl ((subject.entry.target?.map toOctets).getD "").toList
  | ['y'] => .inl [kindLetter subject.entry]
  | ['Y'] => match subject.entry.isLink, subject.other with
    | true, some entry => .inl [kindLetter entry]
    | true, none => .inl ['N']
    | false, _ => .inl [kindLetter subject.entry]
  | ['F'] => .inl "overlay".toList
  | ['D'] => .inl ['6', '4']
  | ['S'] =>
    let size := subject.entry.size
    let room := subject.entry.sectors * sectorBytes
    if size = 0 then .inl ['1'] else .inl ((Fraction.ratio room size).general 6 false)
  | ['t'] => .inl (wholeDateText subject.entry.modified)
  | ['a'] => .inl (wholeDateText subject.entry.modified)
  | ['c'] => .inl (wholeDateText subject.entry.modified)
  | ['T', letter] => .inl (datePartText subject.entry.modified letter)
  | ['A', letter] => .inl (datePartText subject.entry.modified letter)
  | ['C', letter] => .inl (datePartText subject.entry.modified letter)
  | ['B', letter] => .inl (datePartText subject.entry.modified letter)
  | _ => .inl []

def written (subject : FindSubject) : List FindPiece -> Chars
  | [] => []
  | .text octets :: rest => octets ++ written subject rest
  | .stop :: _ => []
  | .fact flags width precision letters :: rest =>
    let text := match subject.fact letters with
      | .inl text =>
        fillTo flags width (match precision with
          | some count => text.take count
          | none => text)
      | .inr (value, letter) => integerAt flags width precision letter value
    text ++ written subject rest

def listed (now : Timestamp) : String :=
  let entry := subject.entry
  let recent := !now.before entry.modified &&
    now.total - entry.modified.total < ListManner.halfYear * Timestamp.nanosPerSecond
  let date := dateText (if recent then "%b %e %H:%M" else "%b %e  %Y") entry.modified
  let behind := match entry.target? with
    | some target => s!" -> {Text.toOctets target}"
    | none => ""
  let size := match entry.numbers? with
    | some (major, minor) => s!"{numberText major}, {numberText minor}"
    | none => numberText entry.size
  " ".intercalate [atRight 9 (numberText subject.number),
    atRight 6 (numberText ((entry.sectors + 1) / 2)), ListManner.modeText entry,
    atRight 3 (numberText subject.links), atLeft 8 "root", atLeft 8 "root", atRight 8 size,
    date, subject.path ++ behind]

end FindSubject

/-!
## How searches are written

Arguments up to the first one that looks like a part of an expression name folders.  The parts of
an expression are read one after the other, and then put together: a comma binds least, then `-o`,
then `-a`, which may be left out, then the sign for the opposite.
-/

structure FindSettings where
  least : Nat := 0
  most : Option Nat := none
  inward : Bool := false
  view : LinkView := .never
  /-- Whether regular expressions are in the extended way of writing; nothing stands for a third way,
  in which groups have backslashes and repetitions have none. -/
  extended : Option Bool := none

inductive FindToken where
  | part (expression : FindExpression)
  | not (word : String)
  | both (word : String)
  | either (word : String)
  | comma (word : String)
  | opening
  | closing

namespace FindToken

def endsPart : FindToken -> Bool
  | .part _ => true
  | .closing => true
  | _ => false

def beginsPart : FindToken -> Bool
  | .part _ => true
  | .opening => true
  | .not _ => true
  | _ => false

def joint? : FindToken -> Option (Nat × String)
  | .comma word => some (1, word)
  | .either word => some (2, word)
  | .both word => some (3, word)
  | _ => none

def completed : List FindToken -> List FindToken
  | first :: second :: rest =>
    if first.endsPart && second.beginsPart then first :: .both "-a" :: completed (second :: rest)
    else first :: completed (second :: rest)
  | tokens => tokens

end FindToken

abbrev FindReading := StateT (List String × FindSettings × Nat) (ExceptT String Act)

namespace FindReading

def argumentFault (argument option : String) : String :=
  s!"invalid argument \x60{argument}' to \x60{option}'"

def argumentOf (option : String) : FindReading String := do
  match <- get with
  | (argument :: rest, others) =>
    set (rest, others)
    return argument
  | ([], _) => throw s!"missing argument to \x60{option}'"

def numberOf (option : String) : FindReading FindNumber := do
  let text <- argumentOf option
  match FindNumber.read? text.toList with
  | some number => return number
  | none => throw (argumentFault text option)

def patternOf (option : String) : FindReading Pattern := do return .ofText (<- argumentOf option)

def modifyFindSettings (change : FindSettings -> FindSettings) : FindReading Unit :=
  modify (fun (arguments, settings, number) => (arguments, change settings, number))

def depthOf (option : String) : FindReading Nat := do
  let text <- argumentOf option
  match digitsValue? text with
  | some value => return value
  | none =>
    throw s!"Expected a positive decimal integer argument to {option}, but got {quoted text}"

def entryOf (name : String) : FindReading FileEntry := do
  let session <- (get : Act Session)
  match session.files.find (pathOf name) with
  | .ok entry => return entry
  | .error fault => throw s!"{quoted name}: {wording fault}"

def regexOf (option : String) : FindReading Regex := do
  let text <- argumentOf option
  let (_, settings, _) <- get
  let written := match settings.extended with
    | none => extendedText (text.length + 1) text.toList
    | some _ => text.toList
  let style : RegexStyle := { extended := settings.extended != some false, lenient := true }
  match Regex.parse style written with
  | .ok (regex, _) => return regex
  | .error fault => throw s!"failed to compile regular expression '{text}': {fault.message}"

def regexKinds : List (String × Option Bool) :=
  [("findutils-default", none), ("ed", some false), ("emacs", none), ("gnu-awk", some true),
    ("grep", some false), ("posix-awk", some true), ("awk", some true),
    ("posix-basic", some false), ("posix-egrep", some true), ("egrep", some true),
    ("posix-extended", some true), ("posix-minimal-basic", some false), ("sed", some false)]

def escapePiece (text : Chars) : FindPiece × Chars × Option String := match text with
  | [] => (.text ['\\'], [], some "warning: escape \x60\\' followed by nothing at all")
  | 'c' :: _ => (.stop, [], none)
  | c :: rest =>
    if isOctalDigit c then
      let digits := (text.take 3).takeWhile isOctalDigit
      (.text [Char.ofNat (valueInBase 8 digits % 256)], text.drop digits.length, none)
    else if c = '\\' then (.text ['\\'], rest, none)
    else match letterOctet? c with
      | some octet => (.text [octet], rest, none)
      | none =>
        let shown := String.ofList ['\\', c]
        (.text ['\\', c], rest, some s!"warning: unrecognized escape \x60{shown}'")

def factPiece (text : Chars) : FindPiece × Chars × Option String :=
  let flags := text.takeWhile ['-', '+', ' ', '#', '0'].contains
  let behind := text.drop flags.length
  let digits := behind.takeWhile isDigit
  let behind := behind.drop digits.length
  let (precision, behind) : Option Nat × Chars := match behind with
    | '.' :: behind =>
      let places := behind.takeWhile isDigit
      (some (valueOf places), behind.drop places.length)
    | behind => (none, behind)
  let fact (letters rest : Chars) : FindPiece × Chars × Option String :=
    (.fact flags (valueOf digits) precision letters, rest, none)
  match behind with
  | [] => (.text ('%' :: text), [], some "error: % at end of format string")
  | '%' :: rest => (.text ['%'], rest, none)
  | letter :: rest =>
    if ['A', 'B', 'C', 'T'].contains letter then
      match rest with
      | part :: rest => fact [letter, part] rest
      | [] => (.text ('%' :: text), [], none)
    else if "abcdDfFgGhHiklmMnpPsStuUyYZ".toList.contains letter then fact [letter] rest
    else
      let front := '%' :: text.take (text.length - rest.length)
      let shown := String.ofList front
      (.text front, rest, some s!"warning: unrecognized format directive \x60{shown}'")

def formPieces : Nat -> Chars -> List FindPiece × List String
  | 0, _ => ([], [])
  | _, [] => ([], [])
  | limit + 1, c :: rest =>
    let (piece, rest, complaint) := match c with
      | '\\' => escapePiece rest
      | '%' => factPiece rest
      | c => (.text [c], rest, none)
    let (pieces, complaints) := formPieces limit rest
    (piece :: pieces, complaint.toList ++ complaints)

def formOf (option : String) : FindReading (List FindPiece) := do
  let text <- argumentOf option
  let (pieces, complaints) := formPieces (text.length + 1) text.toList
  complaints.forM fun complaint => do
    let _ <- (complain "find" complaint : Act Nat)
  return pieces

def commandOf (option : String) : List String -> List String -> Option (List String × Bool × List String)
  | _, [] => none
  | words, ";" :: rest => some (words.reverse, false, rest)
  | "\x7b\x7d" :: words, "+" :: rest => some (words.reverse, true, rest)
  | words, word :: rest => commandOf option (word :: words) rest

def runOf (option : String) (inFolder asks : Bool) : FindReading FindExpression := do
  let (arguments, settings, number) <- get
  match commandOf option [] arguments with
  | none => throw s!"missing argument to \x60{option}'"
  | some ([], _, _) => throw s!"missing argument to \x60{option}'"
  | some (words, gathers, rest) =>
    if gathers && !asks then
      if words.any (·.toList = ['\x7b', '\x7d']) then
        throw ("Only one instance of \x7b\x7d is supported with " ++ option ++ " ... +")
      set (rest, settings, number + 1)
      return .action (.gather number words inFolder)
    else
      set (rest, settings, number)
      return .action (.run words inFolder asks)

def testing (test : FindTest) : FindReading FindToken := return .part (.test test)

def acting (action : FindAction) : FindReading FindToken := return .part (.action action)

def kindsOf (option : String) : FindReading Chars := do
  let text <- argumentOf option
  let letters := pieces ',' text.toList
  let known := ['b', 'c', 'd', 'D', 'f', 'l', 'p', 's']
  letters.mapM fun
    | [] =>
      if text.isEmpty then throw s!"Arguments to {option} should contain at least one letter"
      else throw s!"Last file type in list argument to {option} is missing, i.e., list is ending on: ','"
    | [c] =>
      if known.contains c then return c
      else throw s!"Unknown argument to {option}: {String.singleton c}"
    | c :: _ =>
      if known.contains c then throw s!"Must separate multiple arguments to {option} using: ','"
      else throw s!"Unknown argument to {option}: {String.singleton c}"

def sizeOf : FindReading FindToken := do
  let text <- argumentOf "-size"
  let unit? : Option (Nat × Chars) := match text.toList.reverse with
    | [] => none
    | letter :: digits => match letter with
      | 'b' => some (512, digits.reverse)
      | 'c' => some (1, digits.reverse)
      | 'w' => some (2, digits.reverse)
      | 'k' => some (1024, digits.reverse)
      | 'M' => some (1048576, digits.reverse)
      | 'G' => some (1073741824, digits.reverse)
      | letter => if isDigit letter then some (512, text.toList) else none
  match unit? with
  | none =>
    if text.isEmpty then throw "invalid null argument to -size"
    else
      let letter := String.ofList (text.toList.drop (text.length - 1))
      throw s!"invalid -size type \x60{letter}'"
  | some (unit, digits) => match FindNumber.read? digits with
    | some number => testing (.size number unit)
    | none => throw s!"Invalid argument \x60{text}' to -size"

def modeOf : FindReading FindToken := do
  let text <- argumentOf "-perm"
  let (manner, mode) : ModeMatch × Chars := match text.toList with
    | '-' :: mode => (.allOf, mode)
    | '/' :: mode => (.anyOf, mode)
    | mode => (.exactly, mode)
  match permissions? ⟨0, false, 0⟩ (.ofList mode) with
  | some permissions => testing (.mode manner permissions)
  | none => throw s!"invalid mode {quoted text}"

def ageOf (option : String) (unit : Nat) (full : Bool) : FindReading FindToken := do
  testing (.age (<- numberOf option) unit full)

def ownerOf (option kind : String) : FindReading FindToken := do
  let text <- argumentOf option
  match digitsValue? text with
  | some value => testing (.always (value = 0))
  | none =>
    if text = "root" then testing (.always true)
    else if systemUsers.any (·.1 == text) then testing (.always false)
    else if kind = "user" then throw s!"{quoted text} is not the name of a known user"
    else throw s!"{quoted text} is not the name of an existing group"

def setting (change : FindSettings -> FindSettings) : FindReading FindToken := do
  modifyFindSettings change
  testing (.always true)

def newerOf (option : String) : FindReading FindToken := do
  let kinds := (option.toList.drop "-newer".length)
  let isDate := kinds.length = 2 && kinds.getLast? == some 't'
  let isKnown := kinds.all ['a', 'B', 'c', 'm', 't'].contains && kinds.head? != some 't'
  if option.startsWith "-newer" && !isKnown then throw s!"invalid predicate \x60{option}'"
  if isDate && (<- get).1.isEmpty then throw s!"The '{option}' test needs an argument"
  let text <- argumentOf option
  if isDate then
    let session <- (get : Act Session)
    match dateTime? session.files.clock text with
    | some time => testing (.newer time)
    | none => throw s!"I cannot figure out how to interpret '{text}' as a date or time"
  else testing (.newer (<- entryOf text).modified)

def partOf (word : String) : FindReading FindToken := do
  match word with
  | "(" => return .opening
  | ")" => return .closing
  | "!" => return .not word
  | "-not" => return .not word
  | "-a" => return .both word
  | "-and" => return .both word
  | "-o" => return .either word
  | "-or" => return .either word
  | "," => return .comma word
  | "-true" => testing (.always true)
  | "-false" => testing (.always false)
  | "-name" => testing (.name (<- patternOf word) false)
  | "-iname" => testing (.name (<- patternOf word) true)
  | "-path" => testing (.path (<- patternOf word) false)
  | "-wholename" => testing (.path (<- patternOf word) false)
  | "-ipath" => testing (.path (<- patternOf word) true)
  | "-iwholename" => testing (.path (<- patternOf word) true)
  | "-lname" => testing (.target (<- patternOf word) false)
  | "-ilname" => testing (.target (<- patternOf word) true)
  | "-regex" => testing (.regex (<- regexOf word) false)
  | "-iregex" => testing (.regex (<- regexOf word) true)
  | "-type" => testing (.kind (<- kindsOf word) false)
  | "-xtype" => testing (.kind (<- kindsOf word) true)
  | "-size" => sizeOf
  | "-empty" => testing .empty
  | "-perm" => modeOf
  | "-mtime" => ageOf word 86400 true
  | "-atime" => ageOf word 86400 true
  | "-ctime" => ageOf word 86400 true
  | "-mmin" => ageOf word 60 false
  | "-amin" => ageOf word 60 false
  | "-cmin" => ageOf word 60 false
  | "-used" => testing (.links (<- numberOf word))
  | "-links" => testing (.links (<- numberOf word))
  | "-inum" => testing (.number (<- numberOf word))
  | "-samefile" =>
    let name <- argumentOf word
    let _ <- entryOf name
    let session <- (get : Act Session)
    let place := (session.place? name).getD []
    testing (.number (.exactly ((session.files.number? place).getD 0)))
  | "-user" => ownerOf word "user"
  | "-group" => ownerOf word "group"
  | "-uid" => testing (.always ((<- numberOf word).holds 0))
  | "-gid" => testing (.always ((<- numberOf word).holds 0))
  | "-nouser" => testing (.always false)
  | "-nogroup" => testing (.always false)
  | "-fstype" => testing (.always ((<- argumentOf word) == "overlay"))
  | "-readable" => testing (.always true)
  | "-writable" => testing (.always true)
  | "-executable" => testing .executable
  | "-newer" => newerOf word
  | "-anewer" => newerOf word
  | "-cnewer" => newerOf word
  | "-depth" => setting ({ · with inward := true })
  | "-d" => setting ({ · with inward := true })
  | "-follow" => setting ({ · with view := .always })
  | "-maxdepth" =>
    let depth <- depthOf word
    setting ({ · with most := some depth })
  | "-mindepth" =>
    let depth <- depthOf word
    setting ({ · with least := depth })
  | "-regextype" =>
    let kind <- argumentOf word
    match regexKinds.lookup kind with
    | some extended => setting ({ · with extended })
    | none =>
      let words := regexKinds.map fun known => s!"'{known.1}'"
      let all := ", ".intercalate words
      throw s!"Unknown regular expression type {quoted kind}; valid types are {all}."
  | "-xdev" => testing (.always true)
  | "-mount" => testing (.always true)
  | "-daystart" => testing (.always true)
  | "-noleaf" => testing (.always true)
  | "-warn" => testing (.always true)
  | "-nowarn" => testing (.always true)
  | "-ignore_readdir_race" => testing (.always true)
  | "-noignore_readdir_race" => testing (.always true)
  | "-print" => acting (.say '\n' none)
  | "-print0" => acting (.say (Char.ofNat 0) none)
  | "-fprint" => acting (.say '\n' (some (<- argumentOf word)))
  | "-fprint0" => acting (.say (Char.ofNat 0) (some (<- argumentOf word)))
  | "-printf" => acting (.sayForm (<- formOf word) none)
  | "-fprintf" =>
    let place <- argumentOf word
    acting (.sayForm (<- formOf word) (some place))
  | "-ls" => acting (.list none)
  | "-fls" => acting (.list (some (<- argumentOf word)))
  | "-exec" => return .part (<- runOf word false false)
  | "-execdir" => return .part (<- runOf word true false)
  | "-ok" => return .part (<- runOf word false true)
  | "-okdir" => return .part (<- runOf word true true)
  | "-delete" =>
    modifyFindSettings ({ · with inward := true })
    acting .delete
  | "-prune" => acting .prune
  | "-quit" => acting .quit
  | word =>
    if word.startsWith "-newer" && word.length = 8 then newerOf word
    else throw s!"unknown predicate \x60{word}'"

def looksLikePart (leads : Bool) (argument : String) : Bool := match argument.toList with
  | ['-'] => false
  | '-' :: _ => true
  | ['('] => true
  | ['!'] => true
  | [')'] => !leads
  | [','] => !leads
  | _ => false

def tokensFrom (last : Option String) : Nat -> FindReading (List FindToken)
  | 0 => return []
  | limit + 1 => do
    match <- get with
    | ([], _) => return []
    | (word :: rest, others) =>
      if !looksLikePart false word then
        let session <- (get : Act Session)
        let hint := match last with
          | some last =>
            if session.files.exists? (pathOf word) then
              s!"\nfind: possible unquoted pattern after predicate \x60{last}'?"
            else ""
          | none => ""
        throw s!"paths must precede expression: \x60{word}'{hint}"
      set (rest, others)
      let token <- partOf word
      return token :: (<- tokensFrom (some word) limit)

end FindReading

/-! ## Putting together -/

namespace FindExpression

def joined (tightness : Nat) (first second : FindExpression) : FindExpression :=
  match tightness with
  | 1 => .list first second
  | 2 => .either first second
  | _ => .both first second

mutual

/-- The expression in front, as far as it binds more tightly than what stands in front of it. -/
def readFrom (before : Option FindToken) (tightness : Nat) :
    Nat -> List FindToken -> Except String (FindExpression × List FindToken)
  | 0, _ => .error "invalid expression"
  | limit + 1, tokens => do
    let (first, rest) <- readFirst before limit tokens
    readBehind tightness limit first rest

def readFirst (before : Option FindToken) :
    Nat -> List FindToken -> Except String (FindExpression × List FindToken)
  | 0, _ => .error "invalid expression"
  | limit + 1, tokens => do
    match tokens with
    | [] => match before with
      | some (.not word) => throw s!"expected an expression after '{word}'"
      | some token => match token.joint? with
        | some (_, word) => throw s!"expected an expression after '{word}'"
        | none =>
          throw (s!"invalid expression; expected to find a ')' but didn't see one. " ++
            "Perhaps you need an extra predicate after '('")
      | none => throw "invalid expression"
    | .part expression :: rest => return (expression, rest)
    | .not word :: rest =>
      let (inside, rest) <- readFrom (some (.not word)) 4 limit rest
      return (.not inside, rest)
    | .opening :: rest =>
      let (inside, rest) <- readFrom (some .opening) 0 limit rest
      match rest with
      | .closing :: rest => return (inside, rest)
      | _ =>
        throw ("invalid expression; I was expecting to find a ')' somewhere but " ++
          "did not see one.")
    | .closing :: _ => match before with
      | some .opening => throw "invalid expression; empty parentheses are not allowed."
      | some (.not word) => throw s!"expected an expression between '{word}' and ')'"
      | some token => match token.joint? with
        | some (_, word) => throw s!"expected an expression between '{word}' and ')'"
        | none => throw "invalid expression; you have too many ')'"
      | none => throw "invalid expression; you have too many ')'"
    | token :: _ =>
      let word := ((token.joint?).map Prod.snd).getD ""
      throw (s!"invalid expression; you have used a binary operator '{word}' " ++
        "with nothing before it.")

def readBehind (tightness : Nat) :
    Nat -> FindExpression -> List FindToken -> Except String (FindExpression × List FindToken)
  | 0, first, tokens => .ok (first, tokens)
  | limit + 1, first, tokens => match tokens with
    | [] => .ok (first, [])
    | token :: rest => match token.joint? with
      | none => .ok (first, tokens)
      | some (own, _) =>
        if own <= tightness then .ok (first, tokens)
        else do
          let (second, rest) <- readFrom (some token) own limit rest
          readBehind tightness limit (joined own first second) rest

end

def ofTokens (tokens : List FindToken) : Except String FindExpression := do
  let all := FindToken.completed tokens
  if all.isEmpty then return .test (.always true)
  else
    let (expression, rest) <- readFrom none 0 (4 * all.length + 4) all
    match rest with
    | [] => return expression
    | .closing :: _ => throw "you have too many ')'"
    | _ => throw "invalid expression"

end FindExpression

structure FindRequest where
  starts : List String
  expression : FindExpression
  settings : FindSettings

def findOptions : FindSettings -> List String -> FindSettings × List String
  | settings, "-H" :: rest => findOptions { settings with view := .named } rest
  | settings, "-L" :: rest => findOptions { settings with view := .always } rest
  | settings, "-P" :: rest => findOptions { settings with view := .never } rest
  | settings, "--" :: rest => (settings, rest)
  | settings, word :: rest =>
    if word.startsWith "-O" || (word = "-D" && !rest.isEmpty) then
      findOptions settings (if word = "-D" then rest.tail else rest)
    else (settings, word :: rest)
  | settings, [] => (settings, [])
termination_by _ arguments => arguments.length
decreasing_by all_goals (try split) <;> simp_all <;> omega

def FindRequest.read (arguments : List String) : Act (Except String FindRequest) := do
  let (settings, arguments) := findOptions {} arguments
  let starts := arguments.takeWhile (!FindReading.looksLikePart true ·)
  let rest := arguments.drop starts.length
  let reading := (FindReading.tokensFrom none (rest.length + 1)).run (rest, settings, 0)
  match <- reading.run with
  | .error fault => return .error fault
  | .ok (tokens, _, settings, _) => match FindExpression.ofTokens tokens with
    | .error fault => return .error fault
    | .ok expression => return .ok ⟨if starts.isEmpty then ["."] else starts, expression, settings⟩

end BaseLanguage.Shell
