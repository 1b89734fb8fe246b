import BaseLanguage.Shell.Parameter
import BaseLanguage.Shell.Script

namespace BaseLanguage.Shell

open Text

/-!
# Expansion

The words of a command become its arguments.  Each piece of a word gives way to glyphs: a parameter
to its value or what is made of it, a sum to its value, and commands to what they say.  This may
fail, and may change variables.
-/

def homeOf? (settings : Settings) (user : Chars) : Option String :=
  if user.isEmpty then settings.bindings.text? "HOME"
  else if user = ['r', 'o', 'o', 't'] then some "/root"
  else if settings.kind = .extended && user = ['+'] then settings.bindings.text? "PWD"
  else if settings.kind = .extended && user = ['-'] then settings.bindings.text? "OLDPWD"
  else none

/-- The pieces of a text that may begin with a tilde, which stands for the folder of a user; the
text goes on behind it if the word does.  -/
def withHome (settings : Settings) (goesOn : Bool) (octets : Chars) : Word := match octets with
  | '~' :: rest =>
    let user := rest.takeWhile (· != '/')
    let behind := rest.drop user.length
    match homeOf? settings user, behind.isEmpty && goesOn with
    | some home, false => [.text true home.toList, .text false behind]
    | _, _ => [.text false octets]
  | _ => [.text false octets]

def Word.withHome (settings : Settings) : Word -> Word
  | .text false octets :: rest => Shell.withHome settings (!rest.isEmpty) octets ++ rest
  | word => word

def Word.withHomes (settings : Settings) (word : Word) : Word :=
  let pieces (goesOn : Bool) (octets : Chars) : Word :=
    let parts := pieces ':' octets
    let count := parts.length
    (parts.zipIdx.map fun (part, index) =>
      let last := index + 1 = count
      Shell.withHome settings (goesOn && last) part ++ (if last then [] else [.text false [':']])
    ).flatten
  match word with
  | .text false octets :: rest => pieces (!rest.isEmpty) octets ++ rest
  | word => word

variable (services : Services)

def captureBytes (body : List Command) : Work ByteArray := do
  let fails <- hasOption "errexit"
  let keeps := fails && !(<- inExtended)
  let body : Work Nat := do
    if fails && !keeps then
      modifySettings fun settings => { settings with
        options := settings.options.filter (· != "errexit") }
    services.perform false body
  let (said, status) <- liftM (collect (encloseWith services body))
  modifySettings ({ · with outputStatus := status })
  return said

def capture (body : List Command) : Work String := do
  let said := (octetsOf (<- captureBytes services body)).filter (· != Char.ofNat 0)
  return .ofList (dropTrailing (· == '\n') said)

def nameOfSaid (reads : Bool) (body : List Command) : Work String := do
  let before := (<- get).streams
  let (session, channel) := (<- get).addChannel { bounded := true }
  set (if reads then session.turn standardInput (some (.reading channel))
    else session.turn standardOutput (some (.writing channel)))
  discard <| startProcess (encloseWith services (services.perform false body))
  let taken := before.map Prod.fst
  let number := ((List.range 64).reverse.find? (!taken.contains ·)).getD 64
  modify fun session =>
    { session with streams := before }.turn number
      (some (if reads then .writing channel else .reading channel))
  modifySettings (fun settings => { settings with borrowed := number :: settings.borrowed })
  return s!"/dev/fd/{numberText number}"

def patternStyle : Act Pattern.Style := do
  return { carets := <- inExtended, groups := <- hasOption "extglob" }

def fileMatching : Act FileMatching := do
  return {
    style := <- patternStyle
    dots := <- hasOption "dotglob"
    depths := <- hasOption "globstar"
    anyCase := <- hasOption "nocaseglob"
    drops := <- hasOption "nullglob" }

def holdingOf (name : Chars) (index : Index) (octets : String) : Work Holding := do
  let settings <- settings
  match name with
  | [c] => if isSpecialParameter c && !isDigit c then return settings.sign c
  | _ => pure ()
  if !name.isEmpty && name.all isDigit then return settings.argument (valueOf name)
  else
    let value <- currentValue (.ofList name)
    let place <-
      match index, value with
      | .at _, some (.table _) => pure none
      | .at _, _ => pure (some (<- sumOf octets.toList))
      | _, _ => pure none
    return holdingAt value index octets place

def demandValue (name : Chars) (holding : Holding) : Work Unit := do
  if holding = .nothing && (<- hasOption "nounset") then
    match (<- settings).kind with
    | .plain => shellFault s!"{String.ofList name}: parameter not set"
    | .extended =>
      complainInShell s!"{String.ofList name}: unbound variable"
      throw (.exit 127)

def missingFault (name : Chars) (empty : Bool) (message : String) : Work α := do
  let usual := match (<- settings).kind, empty with
    | .plain, true => "parameter not set or null"
    | .plain, false => "parameter not set"
    | .extended, true => "parameter null or not set"
    | .extended, false => "parameter not set"
  let text := if message.isEmpty then usual else message
  match (<- settings).kind with
  | .plain => shellFault s!"{String.ofList name}: {text}"
  | .extended =>
    complainInShell s!"{String.ofList name}: {text}"
    throw (.exit 127)

def assignParameter (name : Chars) (index : Index) (octets value : String) : Work Unit := do
  if !isName name then shellFault s!"{String.ofList name}: bad variable name"
  let name := .ofList name
  match index with
  | .at _ =>
    let old <- variableOf name
    if old.fixed then fixedFault name
    match old.value with
    | some (.table entries) => storeValue name (.table (Value.insertEntry octets value entries))
    | old =>
      storeValue name (Sum.withElement old (Sum.elementIndex old (<- sumOf octets.toList)) value)
  | _ => assignText name value

def badForm (name octets : Chars) : Work α := do
  match (<- settings).kind with
  | .plain => shellFault "Bad substitution"
  | .extended =>
    let text := if octets.isEmpty then name else octets
    shellFault s!"$\x7b{String.ofList text}\x7d: bad substitution"

def Index.isJoined : Index -> Bool
  | .joined => true
  | _ => false

def pointedTo (holding : Holding) : Chars := (holding.text none).toList

def keyedText : Value -> String
  | .text octets => quoteForReuse octets
  | .row elements =>
    " ".intercalate (elements.map fun (index, octets) =>
      s!"{numberText index} {quoteInDouble octets}")
  | .table entries =>
    .join (entries.map fun (key, octets) => s!"{writtenKey key} {quoteInDouble octets} ")

def transformed (letter : Char) (name : String) (held : Variable) (index : Index)
    (holding : Holding) : Holding :=
  let all := match index with
    | .each | .joined => true
    | _ => false
  let first : Option String := match holding with
    | .one octets => some octets
    | _ => none
  match letter with
  | 'Q' => holding.map quoteForReuse
  | 'U' => holding.map (fun value => .ofList (value.toList.map Char.toUpper))
  | 'L' => holding.map (fun value => .ofList (value.toList.map Char.toLower))
  | 'u' => holding.map (fun value => .ofList (recase .upper false [] value.toList))
  | 'E' => holding.map fun value => .ofList (unescapeQuoted (value.length + 1) value.toList)
  | 'a' => match holding with
    | .nothing => if held.letters.isEmpty then .nothing else .one held.letters
    | holding => holding.map (fun _ => held.letters)
  | 'A' =>
    if !isName name.toList then holding
    else if all then
      match held.value with
      | some (.text _) => .one (held.assignment name (held.value.bind Value.first?))
      | some _ => .one (held.declaration name)
      | none => .nothing
    else if held.letters.isEmpty && first.isNone then .nothing
    else .one (held.assignment name first)
  | 'K' => match all, held.value with
    | true, some value => .one (keyedText value)
    | _, _ => holding.map quoteForReuse
  | 'k' => match all, held.value with
    | true, some (.row elements) =>
      .several index.isJoined (elements.flatMap fun (place, octets) => [numberText place, octets])
    | true, some (.table entries) =>
      .several index.isJoined (entries.flatMap fun (key, octets) => [key, octets])
    | _, _ => holding.map quoteForReuse
  | _ => holding

mutual

/-- The glyphs of the pieces of a word.  In a word that stands in for a value, text is cut too. -/
def expandParts (services : Services) (inside : Bool) : List WordPart -> Work (List Glyph)
  | [] => return []
  | part :: rest => do
    return (<- expandPart services inside part) ++ (<- expandParts services inside rest)

def expandPart (services : Services) (inside : Bool) : WordPart -> Work (List Glyph)
  | .text quoted octets => match quoted, octets with
    | true, [] => return [.keep]
    | true, octets => return octets.map .exact
    | false, octets => return octets.map (.plain · inside)
  | .parameter quoted name index form => do
    expandForm services quoted name index (<- expandIndex services index) form
  | .output quoted body => return Glyph.ofValue quoted (<- capture services body)
  | .said reads body => return Glyph.ofValue true (<- nameOfSaid services reads body)
  | .sum quoted expression => do
    let text := Glyph.text (<- expandParts services false expression)
    return Glyph.ofValue quoted (.ofList (signedDecimal (<- sumOf text.toList)))

def expandIndex (services : Services) : Index -> Work String
  | .at expression => return Glyph.text (<- expandParts services false expression)
  | _ => return ""

def expandForm (services : Services) (quoted : Bool) (name : Chars) (index : Index)
    (octets : String) : Form -> Work (List Glyph)
  | .value => do
    let holding <- holdingOf name index octets
    demandValue name holding
    let joint := (<- settings).joint (index.isJoined || name = ['*'])
    return holding.glyphs quoted joint
  | .length => do
    let holding <- holdingOf name index octets
    demandValue name holding
    let extended <- inExtended
    return Glyph.ofValue quoted
      (numberText (if extended then holding.length else holding.textLength))
  | .wrong text => badForm name text
  | .fallback empty kind word => do
    let holding <- holdingOf name index octets
    let missing := holding.isMissing empty
    let joint := (<- settings).joint (name = ['*'])
    let kept : List Glyph := if quoted then [.keep] else []
    match kind, missing with
    | .use, true => return kept ++ (<- expandParts services (!quoted) word)
    | .replace, true => return kept
    | .replace, false => return kept ++ (<- expandParts services (!quoted) word)
    | .assign, true => do
      let value := Glyph.text (<- expandParts services false word)
      assignParameter name index octets value
      return Glyph.ofValue quoted value
    | .demand, true => do missingFault name empty (Glyph.text (<- expandParts services false word))
    | _, false => return holding.glyphs quoted joint
  | .trim front longest word => do
    let holding <- holdingOf name index octets
    demandValue name holding
    let chars := Glyph.patternChars (<- expandParts services false word)
    let pattern := Pattern.parse (<- patternStyle) chars
    let trim (value : String) : String :=
      .ofList
        (if front then pattern.trimFront longest value.toList
        else pattern.trimBack longest value.toList)
    let joint := (<- settings).joint (name = ['*'])
    return (holding.map trim).glyphs quoted joint
  | .slice offset count => do
    let holding <- holdingOf name index octets
    demandValue name holding
    let start <- sumOf (Glyph.text (<- expandParts services false offset)).toList
    let size <- expandCount services count
    let joint := (<- settings).joint (name = ['*'])
    match holding with
    | .nothing => return holding.glyphs quoted joint
    | .one value => match slice? value.toList start size with
      | some part => return Glyph.ofValue quoted (.ofList part)
      | none => shellFault s!"{size.getD 0}: substring expression < 0"
    | .several joined values =>
      let isArguments := name = ['@'] || name = ['*']
      let script := (<- settings).name
      let values := if isArguments then script :: values else values
      match slice? values start size with
      | some part => return (Holding.several joined part).glyphs quoted joint
      | none => shellFault s!"{size.getD 0}: substring expression < 0"
  | .substitute occurrence patternWord replacementWord => do
    let holding <- holdingOf name index octets
    demandValue name holding
    let chars := Glyph.patternChars (<- expandParts services false patternWord)
    let pattern := .parse (<- patternStyle) chars
    let replacement := Glyph.patternChars (<- expandParts services false replacementWord)
    let replacement := if quoted then replacement.map (fun c => (c.1, c.1 != '&')) else replacement
    let change (value : String) : String :=
      .ofList (substitute occurrence pattern replacement value.toList)
    let joint := (<- settings).joint (name = ['*'])
    return (holding.map change).glyphs quoted joint
  | .recase recasing all word => do
    let holding <- holdingOf name index octets
    demandValue name holding
    let chars := Glyph.patternChars (<- expandParts services false word)
    let pattern := .parse (<- patternStyle) chars
    let change (value : String) : String := .ofList (recase recasing all pattern value.toList)
    let joint := (<- settings).joint (name = ['*'])
    return (holding.map change).glyphs quoted joint
  | .indices => do
    let indices := ((<- currentValue (.ofList name)).map Value.indices).getD []
    return (Holding.several index.isJoined indices).glyphs quoted (some ' ')
  | .indirect => do
    let known <- variableOf (.ofList name)
    let direct := ((<- settings).bindings.find? (.ofList name)).getD known
    if direct.reference then
      let target := (direct.value.bind Value.first?).getD ""
      return Glyph.ofValue quoted target
    let holding <- holdingOf name index octets
    demandValue name holding
    let target := pointedTo holding
    let named := target.takeWhile (· != '[')
    let element : Index :=
      if target = named ++ ['[', '@', ']'] then .each
      else if target = named ++ ['[', '*', ']'] then .joined
      else .only
    return (<- holdingOf named element "").glyphs quoted (some ' ')
  | .names => do
    let own := if <- inExtended then ownNames else []
    let all := ((<- settings).bindings.names ++ own).eraseDups
    let names := (all.filter (·.startsWith (String.ofList name))).mergeSort
      (fun left right => left <= right)
    return (Holding.several index.isJoined names).glyphs quoted (some ' ')
  | .transform letter => do
    let holding <- holdingOf name index octets
    let held <- variableOf (.ofList name)
    return (transformed letter (.ofList name) held index holding).glyphs quoted (some ' ')

def expandCount (services : Services) : Option (List WordPart) -> Work (Option Int)
  | none => return none
  | some word => do return some (<- sumOf (Glyph.text (<- expandParts services false word)).toList)

end

namespace Word

def glyphs (word : Word) : Work (List Glyph) := do
  expandParts services false (word.withHome (<- settings))

def fields (word : Word) : Work (List String) := do
  let glyphs <- word.glyphs services
  let found := cutFields (<- settings).separators glyphs
  if <- hasOption "noglob" then return found.map fieldText
  else
    let tree := (<- get).files
    let matching <- fileMatching
    if <- hasOption "failglob" then
      match found.find? (filesMatching? tree matching · == some []) with
      | some field => shellFault s!"no match: {fieldText field}"
      | none => pure ()
    return found.flatMap (filesOf tree matching)

def allFields (services : Services) : List Word -> Work (List String)
  | [] => return []
  | word :: rest => do
    let words := if <- inExtended then word.expandBraces else [word]
    return (<- words.mapM (fields services)).flatten ++ (<- allFields services rest)

def text (services : Services) (word : Word) : Work String := do
  return Glyph.text (<- word.glyphs services)

def assignedText (word : Word) : Work String := do
  return Glyph.text (<- expandParts services false (word.withHomes (<- settings)))

def pattern (word : Word) : Work Pattern := do
  return Pattern.parse (<- patternStyle) (Glyph.patternChars (<- word.glyphs services))

end Word

/-!
## Assigning

Variables are given the texts of words.  In an extended shell a value may be added to, one element
of a row may be given a value, and a whole row.
-/

def recasedFor (held : Variable) (octets : String) : String := match held.recasing with
  | some .upper => .ofList (octets.toList.map Char.toUpper)
  | some .lower => .ofList (octets.toList.map Char.toLower)
  | _ => octets

def textFor (held : Variable) (octets : String) : Work String := do
  if held.integer then return .ofList (signedDecimal (<- sumOf octets.toList))
  else return recasedFor held octets

def addedText (held : Variable) (before octets : String) : Work String := do
  if held.integer then
    let sum := (<- sumOf before.toList) + (<- sumOf octets.toList)
    return .ofList (signedDecimal sum)
  else return recasedFor held (before ++ octets)

def assignAt (name : String) (index : Option String) (append : Bool) (octets : String) :
    Work Unit := do
  let held <- variableOf name
  if held.fixed then fixedFault name
  match index with
  | none =>
    let before := (held.value.bind Value.first?).getD ""
    let octets <- if append then addedText held before octets else textFor held octets
    storeValue name (withFirst held.value octets)
  | some index => match held.value with
    | some (.table entries) =>
      let before := (entries.lookup index).getD ""
      let octets <- if append then addedText held before octets else textFor held octets
      storeValue name (.table (Value.insertEntry index octets entries))
    | old =>
      let place := Sum.elementIndex old (<- sumOf index.toList)
      let before := (Sum.textAt? old (some place)).getD ""
      let octets <- if append then addedText held before octets else textFor held octets
      storeValue name (Sum.withElement old place octets)

def withElements (elements : List (Nat × String)) (next : Nat) (texts : List String) :
    List (Nat × String) :=
  texts.zipIdx.foldl
    (fun elements (octets, offset) => Value.insertElement (next + offset) octets elements) elements

def nextIndex (elements : List (Nat × String)) : Nat := elements.getLast?.elim 0 (·.1 + 1)

def rowOf (services : Services) : List (Nat × String) -> Nat -> List Assignment ->
    Work (List (Nat × String))
  | elements, _, [] => return elements
  | elements, next, .element word :: rest => do
    let texts <- Word.allFields services [word]
    rowOf services (withElements elements next texts) (next + texts.length) rest
  | elements, _, .value _ index _ word :: rest => do
    let place <- sumOf (<- expandIndex services index).toList
    let octets <- Word.assignedText services word
    let place := place.toNat
    rowOf services (Value.insertElement place octets elements) (place + 1) rest
  | elements, next, .row _ _ _ _ :: rest => rowOf services elements next rest

/-- The entries that elements with keys make behind those that are there. -/
def entriesOf (services : Services) : List (String × String) -> List Assignment ->
    Work (List (String × String))
  | entries, [] => return entries
  | entries, .value _ index _ word :: rest => do
    let key <- expandIndex services index
    entriesOf services (Value.insertEntry key (<- Word.assignedText services word) entries) rest
  | entries, .element key :: .element word :: rest => do
    let key <- Word.assignedText services key
    entriesOf services (Value.insertEntry key (<- Word.assignedText services word) entries) rest
  | entries, _ :: rest => entriesOf services entries rest

def assign (assignment : Assignment) : Work (String × String) := do
  match assignment with
  | .value name index append word =>
    let name := .ofList name
    let key? <-
      match index with
      | .at _ => pure (some (<- expandIndex services index))
      | _ => pure none
    let octets <- Word.assignedText services word
    assignAt name key? append octets
    let shown := (key?.map (fun key => s!"{name}[{key}]")).getD name
    return (shown ++ (if append then "+=" else "="), octets)
  | .row name append _ elements =>
    let name := .ofList name
    let held <- variableOf name
    if held.fixed then fixedFault name
    match held.value with
    | some (.table entries) =>
      let new <- entriesOf services (if append then entries else []) elements
      storeValue name (.table new)
    | old =>
      let before := if append then (old.map Value.elements).getD [] else []
      storeValue name (.row (<- rowOf services before (nextIndex before) elements))
    return (name ++ "=", "")
  | .element _ => return ("", "")

def Assignment.name : Assignment -> String
  | .value name _ _ _ => .ofList name
  | .row name _ _ _ => .ofList name
  | .element _ => ""

def Variables.restore (before : Variables) (names : List String) (bindings : Variables) :
    Variables :=
  names.foldl
    (fun bindings name => match before.find? name with
      | some held => bindings.set name held
      | none => bindings.erase name)
    bindings

def shownWord (kind : ShellKind) (octets : String) : String := match kind with
  | .plain => octets
  | .extended =>
    if octets.isEmpty || hasShellSigns octets then quotePlainly octets
    else if octets.toList.any isHidden then quoteWithEscapes octets
    else octets

def showCommand (streams : List (Nat × Stream)) (line : String) : Act Unit := do
  let now := (<- get).streams
  modify ({ · with streams })
  let sign := ((<- textOf? "PS4").getD "+ ")
  discard <| putText standardError (sign ++ line ++ "\n")
  modify ({ · with streams := now })

end BaseLanguage.Shell
