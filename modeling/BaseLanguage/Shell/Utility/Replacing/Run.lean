import BaseLanguage.Shell.Utility.Filing
import BaseLanguage.Shell.Utility.Output
import BaseLanguage.Shell.Utility.Replacing.Engine
import BaseLanguage.Text.Regex.Reader

namespace BaseLanguage

open Text
namespace Shell
namespace Replacing

/-!
# What is built in

Names are given meanings, texts are compared, cut and searched, sums are computed, files are read and
commands run.  What is written may be kept for later.
-/

/-! ## Arguments -/

def lacks (name : String) (given : List Given) (least : Nat) (most : Option Nat) : Work Bool := do
  if given.length < least then
    warn s!"too few arguments to builtin \x60{name}'"
    return true
  else
    match most with
    | some most =>
      if most < given.length then warn s!"excess arguments to builtin \x60{name}' ignored"
    | none => pure ()
    return false

variable (given : List Given)

def argument (index : Nat) : Chars := (given[index]?.map Definition.asText).getD []

def numberArgument? (name : String) (text : Chars) : Work (Option Int) := do
  if text.isEmpty then
    complainHere s!"empty string treated as 0 in builtin \x60{name}'"
    return some 0
  else
    let (negative, unsigned) := signOf (text.dropWhile isSpace)
    let digits := unsigned.takeWhile isDigit
    let size : Int := valueOf digits
    if digits.isEmpty || digits.length < unsigned.length then
      complainHere s!"non-numeric argument to builtin \x60{name}'"
      return none
    else
      if text.head?.any isSpace then
        complainHere s!"leading whitespace ignored in builtin \x60{name}'"
      else if 2147483647 < size then
        complainHere s!"numeric overflow detected in builtin \x60{name}'"
      return some (wrapWord (if negative then -size else size))

def decimalText (value : Int) : Chars :=
  if value < 0 then '-' :: decimal value.natAbs else decimal value.toNat

def inBase (base : Nat) (least : Nat) (value : Int) : Chars :=
  let size := value.natAbs
  let digits :=
    if base = 1 then List.replicate size '1'
    else
      let rec go : Nat -> Nat -> Chars -> Chars
        | 0, _, done => done
        | limit + 1, rest, done =>
          let digit := rest % base
          let c := Char.ofNat (if digit < 10 then 48 + digit else 87 + digit)
          if rest < base then c :: done else go limit (rest / base) (c :: done)
      go 64 size []
  (if value < 0 then ['-'] else []) ++ List.replicate (least - digits.length) '0' ++ digits

/-! ## Meanings -/

def define (name : String) (isAbove : Bool) (given : List Given) : Work Unit := do
  if <- lacks name given 1 (some 2) then return
  match given with
  | .builtIn _ :: _ => warn s!"{name}: invalid macro name ignored"
  | .text defined :: rest =>
    let meaning := rest.headD (.text [])
    modify fun state =>
      let key := .ofList defined
      let before := (state.names[key]?).getD []
      let before := if isAbove then before else before.drop 1
      { state with names := state.names.insert key (meaning :: before) }
  | [] => pure ()

def undefine (name : String) (all : Bool) : Work Unit :=
  modify fun state =>
    let rest := if all then [] else ((state.names[name]?).getD []).drop 1
    { state with
      names := if rest.isEmpty then state.names.erase name else state.names.insert name rest }

def tellMeanings (names : List String) : Work Unit := do
  names.forM fun name => do
    match <- meaning? name with
    | none => complainHere s!"undefined macro \x60{name}'"
    | some (.text text) => complainText s!"{name}:\t{String.ofList text}\n"
    | some (.builtIn inner) => complainText s!"{name}:\t<{inner}>\n"

/-! ## Texts -/

def withRanges : Nat -> Option Char -> Chars -> Chars
  | 0, _, _ => []
  | _, _, [] => []
  | limit + 1, some first, '-' :: rest => match rest with
    | [] => ['-']
    | last :: rest =>
      let between :=
        if first <= last then
          (List.range (last.toNat - first.toNat)).map
            (fun step => Char.ofNat (first.toNat + 1 + step))
        else
          (List.range (first.toNat - last.toNat)).map
            (fun step => Char.ofNat (first.toNat - 1 - step))
      between ++ withRanges limit (some last) rest
  | limit + 1, _, c :: rest => c :: withRanges limit (some c) rest

def transliterate (text source target : Chars) : Chars :=
  let source := withRanges (source.length + 1) none source
  let target := withRanges (target.length + 1) none target
  text.filterMap fun c => match source.findIdx? (· = c) with
    | none => some c
    | some index => target[index]?

def indexOf? (part : Chars) : Nat -> Chars -> Option Nat
  | place, [] => if part.isEmpty then some place else none
  | place, c :: rest =>
    if part.isPrefixOf (c :: rest) then some place else indexOf? part (place + 1) rest

def expressionOf (text : Chars) : Except RegexFault (Regex × Nat) :=
  let written := extendedText (text.length + 1) text
  let rec pointed : Nat -> Chars -> Chars
    | 0, _ => []
    | _, [] => []
    | limit + 1, '\\' :: c :: rest => '\\' :: c :: pointed limit rest
    | limit + 1, '.' :: rest => ['[', '^', '\n', ']'] ++ pointed limit rest
    | limit + 1, '[' :: rest =>
      let front := rest.takeWhile (· = '^')
      let behind := rest.drop front.length
      let inside := behind.take 1 ++ (behind.drop 1).takeWhile (· != ']')
      '[' :: front ++ inside ++ pointed limit (rest.drop (front.length + inside.length))
    | limit + 1, c :: rest => c :: pointed limit rest
  Regex.parse { extended := true, lenient := true } (pointed (written.length + 1) written)

def fillIn (subject : Subject) (found : Option Found) (groups : Nat) : Chars -> Work Chars
  | [] => return []
  | ['\\'] => do
    warn "trailing \\ ignored in replacement"
    return []
  | '\\' :: c :: rest => do
    let group (number : Nat) : Chars := (found.bind (·.group? subject number)).getD []
    let text <-
      if c = '&' then pure (group 0)
      else if c = '0' then do
        warn "\\0 will disappear, use \\& instead in replacements"
        pure (group 0)
      else if isDigit c then do
        let number := c.toNat - 48
        if groups < number then warn s!"sub-expression {numberText number} not present"
        pure (group number)
      else pure [c]
    return text ++ (<- fillIn subject found groups rest)
  | c :: rest => do return c :: (<- fillIn subject found groups rest)

def replaceAll (expression : Regex) (groups : Nat) (subject : Subject)
    (replacement : Chars) : Nat -> Nat -> Work Chars
  | 0, _ => return []
  | limit + 1, place => do
    let size := subject.text.size
    if size < place then return []
    let some found := expression.search? subject place | return subject.between place size
    let front := subject.between place found.start
    let middle <- fillIn subject (some found) groups replacement
    if found.start = found.ending then
      let next := subject.between found.ending (found.ending + 1)
      return front ++ middle ++ next ++
        (<- replaceAll expression groups subject replacement limit (found.ending + 1))
    else
      return front ++ middle ++
        (<- replaceAll expression groups subject replacement limit found.ending)

def search (name : String) (everywhere : Bool) (given : List Given) : Work Chars := do
  if <- lacks name given 2 (some 3) then
    return if given.length ≠ 1 then [] else if everywhere then argument given 0 else ['0']
  let text := argument given 0
  let written := argument given 1
  let replacement := argument given 2
  if everywhere && written.isEmpty && replacement.isEmpty then return text
  match expressionOf written with
  | .error fault =>
    let shown := String.ofList written
    complainHere s!"bad regular expression: \x60{shown}': {fault.message}"
    return []
  | .ok (expression, groups) =>
    let subject : Subject := { text := text.toArray, lines := true }
    if everywhere then replaceAll expression groups subject replacement (text.length + 2) 0
    else match expression.search? subject 0 with
      | none => return if given.length = 2 then ['-', '1'] else []
      | some found =>
        if given.length = 2 then return decimal found.start
        else fillIn subject (some found) groups replacement

def formNumber (text : Chars) : Work Int := do
  if text.isEmpty then
    complainHere "empty string treated as 0"
    return 0
  else
    let (negative, unsigned) := signOf (text.dropWhile isSpace)
    let digits := unsigned.takeWhile isDigit
    if digits.isEmpty || digits.length < unsigned.length then
      let shown := String.ofList text
      complainHere s!"non-numeric argument {shown}"
    let size : Int := valueOf digits
    return if negative then -size else size

def formed : Nat -> Chars -> List Given -> Work Chars
  | 0, _, _ => return []
  | _, [], _ => return []
  | limit + 1, '%' :: '%' :: rest, given => do return '%' :: (<- formed limit rest given)
  | limit + 1, '%' :: rest, given => do
    let flags := rest.takeWhile isFlag
    let rest := rest.drop flags.length
    let sized (rest : Chars) (given : List Given) :
        Work (Option Int × Chars × List Given) := do
      match rest with
      | '*' :: rest => return (some (<- formNumber (argument given 0)), rest, given.drop 1)
      | rest =>
        let digits := rest.takeWhile isDigit
        let size : Option Int := if digits.isEmpty then none else some (valueOf digits : Nat)
        return (size, rest.drop digits.length, given)
    let (width, rest, given) <- sized rest given
    let flags := if (width.getD 0) < 0 then '-' :: flags else flags
    let width := (width.getD 0).natAbs
    let (precision, rest, given) <-
      match rest with
      | '.' :: rest => do
        let (size, rest, given) <- sized rest given
        pure (some (size.getD 0), rest, given)
      | rest => pure (none, rest, given)
    let precision : Option Nat := match precision with
      | some size => if size < 0 then none else some size.toNat
      | none => none
    let lengths := rest.takeWhile (fun c => c = 'h' || c = 'l')
    let rest := rest.drop lengths.length
    match rest with
    | [] => return []
    | letter :: rest =>
      let value := argument given 0
      let text <-
        if letter = 's' then pure (fillTo flags width (value.take (precision.getD value.length)))
        else if letter = 'c' then do
          pure (fillTo flags width [Char.ofNat ((<- formNumber value) % 256).toNat])
        else if ['d', 'i', 'o', 'u', 'x', 'X'].contains letter then do
          let number <- formNumber value
          let number := if letter = 'd' || letter = 'i' then wrapWord number
            else number % 4294967296
          pure (integerAt flags width precision letter number)
        else if ['e', 'E', 'f', 'F', 'g', 'G', 'a', 'A'].contains letter then
          pure (realAt .plainShell flags width precision letter
            (realOf .plainShell (.ofList value)).1)
        else do
          warn s!"unrecognized specifier in \x60%{String.singleton letter}'"
          pure []
      return text ++ (<- formed limit rest (given.drop 1))
  | limit + 1, c :: rest, given => do return c :: (<- formed limit rest given)

/-! ## Files and commands -/

def findFile (name : String) : Work (Except FileFault (String × ByteArray)) := do
  match <- act (readNamed name) with
  | .ok bytes => return .ok (name, bytes)
  | .error fault =>
    if name.startsWith "/" then return .error fault
    let found <- (<- get).folders.findSomeM? fun folder => do
      let path := nameWithin folder name
      match <- act (readNamed path) with
      | .ok bytes => return some (path, bytes)
      | .error _ => return none
    match found with
    | some found => return .ok found
    | none => return .error fault

def putFile (name : String) (bytes : ByteArray) : Work Unit :=
  modify fun state => { state with
    portions :=
      { text := octetsOf bytes, place := ⟨name, 1⟩, isFile := true
        isFreshBehind := state.isFresh } :: state.portions
    isFresh := false, isMoved := true, outputLine := -1 }

def «include» (name : String) (mayLack : Bool) (given : List Given) : Work Unit := do
  if <- lacks name given 1 (some 1) then return
  let file := .ofList (argument given 0)
  match <- findFile file with
  | .ok (path, bytes) => putFile path bytes
  | .error fault =>
    if !mayLack then
      complainHere s!"cannot open \x60{file}': {wording fault}"
      modify ({ · with status := 1 })

def commandStatusOf (status : Nat) : Nat := if 256 <= status then (status - 256) * 256 else status

def command (name : String) (isTaken : Bool) (given : List Given) : Work Chars := do
  let text := argument given 0
  if (<- lacks name given 1 (some 1)) || text.isEmpty then
    modify ({ · with commandStatus := 0 })
    return []
  flush
  let services := (<- get).services
  let work := services.start "/bin/sh" "sh" ["-c", .ofList text]
  if isTaken then
    let (said, status) <- act (collect work)
    modify ({ · with commandStatus := commandStatusOf status })
    return octetsOf said
  else
    let status <- act (asideFully work)
    modify ({ · with commandStatus := commandStatusOf status })
    return []

def bringBack (number : Nat) : Work Unit := do
  let state <- get
  if number ≠ 0 && state.target ≠ (number : Int) then
    match state.kept.lookup number with
    | none => pure ()
    | some pieces =>
      modify fun state => { state with kept := state.kept.filter (·.1 ≠ number) }
      writeOut pieces.reverse.flatten

def bringBackAll : Work Unit := do (<- get).kept.forM (bringBack ·.1)

def undivert (given : List Given) : Work Unit := do
  if given.isEmpty then bringBackAll
  else
    given.forM fun argument => do
      let text := argument.asText
      if text.all isDigit then bringBack (valueOf text)
      else
        let file := .ofList text
        match <- findFile file with
        | .ok (_, bytes) => writeOut (octetsOf bytes)
        | .error fault => complainHere s!"cannot undivert \x60{file}': {wording fault}"

def dropLine : Nat -> Work Unit
  | 0 => return
  | limit + 1 => do
    match <- nextItem with
    | .char '\n' => return
    | .ended => warn "end of file treated as newline"
    | _ => dropLine limit

def makeFile (name : String) (isQuoted : Bool) (given : List Given) : Work Chars := do
  if <- lacks name given 1 (some 1) then return []
  let template := argument given 0
  let xs := template.reverse.takeWhile (· = 'X')
  let front := template.take (template.length - xs.length)
  let count := max 6 xs.length
  let session <- act get
  let candidates := (List.range (session.files.numbers.size + 1)).map fun index =>
    .ofList (front ++ fillingLetters count index)
  let path := (candidates.find? (fun path => !session.files.exists? (pathOf path))).getD ""
  match <- act (filing (FileTree.write (pathOf path) .empty)) with
  | .ok () =>
    discard <| act (filing (FileTree.setPermissions (pathOf path) 0o600))
    let marks := (<- get).marks
    return if isQuoted then marks.openQuote ++ path.toList ++ marks.closeQuote else path.toList
  | .error fault =>
    let shown := String.ofList template
    complainHere s!"cannot create tempfile \x60{shown}': {wording fault}"
    return []

/-! ## All of it -/

def builtInNames : List String :=
  wordsIn "changecom changequote decr define defn divert divnum dnl dumpdef errprint eval ifdef
  ifelse include incr index len m4exit m4wrap maketemp mkstemp popdef pushdef shift sinclude substr
  syscmd sysval traceoff traceon translit undefine undivert"

def furtherNames : List String :=
  wordsIn "__file__ __line__ __program__ builtin debugmode debugfile esyscmd format indir patsubst
  regexp"

def chosen : Nat -> List Chars -> Chars
  | 0, _ => []
  | limit + 1, first :: second :: third :: rest =>
    if first = second then third
    else match rest with
      | [] => []
      | [otherwise] => otherwise
      | [otherwise, _] => otherwise
      | rest => chosen limit rest
  | _, _ => []

def sumText (name : String) (given : List Given) : Work Chars := do
  if <- lacks name given 1 (some 3) then return []
  let base? <- if (argument given 1).isEmpty then pure (some (10 : Int))
    else numberArgument? name (argument given 1)
  let some base := base? | return []
  if base < 1 || 36 < base then
    complainHere s!"radix {String.ofList (decimalText base)} in builtin \x60{name}' out of range"
    return []
  let least? <- if given.length < 3 then pure (some (1 : Int))
    else numberArgument? name (argument given 2)
  let some least := least? | return []
  if least < 0 then
    complainHere s!"negative width to builtin \x60{name}'"
    return []
  let text := argument given 0
  if text.isEmpty then
    complainHere s!"empty string treated as 0 in builtin \x60{name}'"
    return inBase base.toNat least.toNat 0
  match evaluateSum text with
  | .ok value => return inBase base.toNat least.toNat value
  | .error failure =>
    let shown := String.ofList text
    complainHere s!"{failure.message}: {shown}"
    if failure = .badOperator then modify ({ · with status := 1 })
    return []

def leave (name : String) (given : List Given) : Work Unit := do
  discard <| lacks name given 0 (some 1)
  let status <-
    match given with
    | [] => pure (some (0 : Int))
    | argument :: _ => numberArgument? name argument.asText
  let status <-
    match status with
    | none => pure (1 : Nat)
    | some code =>
      if code < 0 || 255 < code then do
        complainHere s!"exit status out of range: \x60{String.ofList (decimalText code)}'"
        pure 1
      else pure code.toNat
  flush
  let before := (<- get).status
  throw (if status = 0 then before else status)

def meanings (name : String) (given : List Given) : Work Definition := do
  if <- lacks name given 1 none then return .text []
  let marks := (<- get).marks
  match given with
  | [only] => match <- meaning? (.ofList only.asText) with
    | some (.text text) => return .text (marks.openQuote ++ text ++ marks.closeQuote)
    | some (.builtIn inner) => return .builtIn inner
    | none => return .text []
  | given =>
    let texts <- given.mapM fun argument => do
      match <- meaning? (.ofList argument.asText) with
      | some (.text text) => return marks.openQuote ++ text ++ marks.closeQuote
      | some (.builtIn inner) =>
        warn s!"cannot concatenate builtin \x60{inner}'"
        return []
      | none => return []
    return .text texts.flatten

def changeQuotes : Work Unit := do
  let usual : Marks := {}
  let opening := match given with
    | [] => usual.openQuote
    | first :: _ => first.asText
  let closing := argument given 1
  let closing := if closing.isEmpty && (given.length < 2 || !opening.isEmpty) then usual.closeQuote
    else closing
  modify fun state => { state with
    marks := { state.marks with openQuote := opening, closeQuote := closing } }

def changeRemarks : Work Unit := do
  let usual : Marks := {}
  let opening := argument given 0
  let closing := argument given 1
  let closing := if given.isEmpty then []
    else if closing.isEmpty && (given.length < 2 || !opening.isEmpty) then usual.closeRemark
    else closing
  modify fun state => { state with
    marks := { state.marks with openRemark := opening, closeRemark := closing } }

def addEnding : Work Unit :=
  modify fun state => { state with
    endings := { text := joinedArguments state.marks false [' '] given, place := state.place } ::
      state.endings }

def part (name : String) (given : List Given) : Work Chars := do
  let text := argument given 0
  if <- lacks name given 2 (some 3) then return if given.length = 1 then text else []
  let some start <- numberArgument? name (argument given 1) | return []
  let count? <- if given.length < 3 then pure (some (text.length : Int))
    else numberArgument? name (argument given 2)
  let some count := count? | return []
  if start < 0 || count <= 0 || (text.length : Int) <= start then return []
  else return (text.drop start.toNat).take count.toNat

def performWithin : Nat -> String -> String -> List Given -> Work Definition
  | 0, _, _, _ => return .text []
  | limit + 1, inner, name, given => do
    let texts := given.map Definition.asText
    let marks := (<- get).marks
    let quoted (text : Chars) : Chars := marks.openQuote ++ text ++ marks.closeQuote
    let number (value : Int) : Definition := .text (decimalText value)
    let nothing : Definition := .text []
    match inner with
    | "define" =>
      define name false given
      return nothing
    | "pushdef" =>
      define name true given
      return nothing
    | "undefine" =>
      if !(<- lacks name given 1 none) then texts.forM fun text => undefine (.ofList text) true
      return nothing
    | "popdef" =>
      if !(<- lacks name given 1 none) then texts.forM fun text => undefine (.ofList text) false
      return nothing
    | "defn" => meanings name given
    | "ifdef" =>
      if <- lacks name given 2 (some 3) then return nothing
      let isDefined := (<- meaning? (.ofList (argument given 0))).isSome
      return .text (argument given (if isDefined then 1 else 2))
    | "ifelse" =>
      if given.length = 1 then return nothing
      if <- lacks name given 3 none then return nothing
      if given.length % 3 = 2 then warn s!"excess arguments to builtin \x60{name}' ignored"
      return .text (chosen texts.length texts)
    | "dumpdef" =>
      flush
      let known := ((<- get).names.toList.map (·.1)).mergeSort (fun first second => first <= second)
      let names := if texts.isEmpty then known else texts.map .ofList
      tellMeanings names
      return nothing
    | "builtin" =>
      if <- lacks name given 1 none then return nothing
      match given with
      | .text text :: rest =>
        let target := .ofList text
        if (builtInNames ++ furtherNames).contains target then
          let rest := if takesBuiltIn target then rest else rest.map (.text ·.asText)
          performWithin limit target target rest
        else
          complainHere s!"undefined builtin \x60{target}'"
          return nothing
      | _ =>
        warn s!"{name}: invalid macro name ignored"
        return nothing
    | "indir" =>
      if <- lacks name given 1 none then return nothing
      match given with
      | .text text :: rest =>
        let target := .ofList text
        match <- meaning? target with
        | none =>
          complainHere s!"undefined macro \x60{target}'"
          return nothing
        | some (.text text) =>
          return .text (withArguments marks target rest (<- get).isTraditional
            (text.length + 1) text)
        | some (.builtIn inner) =>
          let rest := if takesBuiltIn inner then rest else rest.map (.text ·.asText)
          performWithin limit inner target rest
      | _ =>
        warn s!"{name}: invalid macro name ignored"
        return nothing
    | "shift" =>
      if <- lacks name given 1 none then return nothing
      return .text (joinedArguments marks true [','] (given.drop 1))
    | "len" =>
      if <- lacks name given 1 (some 1) then return nothing
      return number (argument given 0).length
    | "index" =>
      if <- lacks name given 2 (some 2) then return if given.length = 1 then number 0 else nothing
      match indexOf? (argument given 1) 0 (argument given 0) with
      | some place => return number place
      | none => return number (-1)
    | "substr" => return .text (<- part name given)
    | "translit" =>
      if <- lacks name given 2 (some 3) then
        return if given.length = 1 then .text (argument given 0) else nothing
      return .text (transliterate (argument given 0) (argument given 1) (argument given 2))
    | "regexp" => return .text (<- search name false given)
    | "patsubst" => return .text (<- search name true given)
    | "format" =>
      if <- lacks name given 1 none then return nothing
      let form := argument given 0
      return .text (<- formed (form.length + 1) form (given.drop 1))
    | "incr" =>
      if <- lacks name given 1 (some 1) then return nothing
      match <- numberArgument? name (argument given 0) with
      | some value => return number (wrapWord (value + 1))
      | none => return nothing
    | "decr" =>
      if <- lacks name given 1 (some 1) then return nothing
      match <- numberArgument? name (argument given 0) with
      | some value => return number (wrapWord (value - 1))
      | none => return nothing
    | "eval" => return .text (<- sumText name given)
    | "include" =>
      «include» name false given
      return nothing
    | "sinclude" =>
      «include» name true given
      return nothing
    | "divert" =>
      discard <| lacks name given 0 (some 1)
      let target? <-
        match texts with
        | [] => pure (some (0 : Int))
        | text :: _ => numberArgument? name text
      match target? with
      | some target => modify ({ · with target })
      | none => pure ()
      return nothing
    | "undivert" =>
      undivert given
      return nothing
    | "divnum" =>
      discard <| lacks name given 0 (some 0)
      return number (<- get).target
    | "dnl" =>
      discard <| lacks name given 0 (some 0)
      dropLine mostCharacters
      return nothing
    | "changequote" =>
      discard <| lacks name given 0 (some 2)
      changeQuotes given
      return nothing
    | "changecom" =>
      discard <| lacks name given 0 (some 2)
      changeRemarks given
      return nothing
    | "errprint" =>
      if !(<- lacks name given 1 none) then
        complainText (.ofList (joinedArguments marks false [' '] given))
      return nothing
    | "m4exit" =>
      leave name given
      return nothing
    | "m4wrap" =>
      if !(<- lacks name given 1 none) then addEnding given
      return nothing
    | "syscmd" => return .text (<- command name false given)
    | "esyscmd" => return .text (<- command name true given)
    | "sysval" =>
      let status := (<- get).commandStatus
      return number status
    | "maketemp" =>
      warn "recommend using mkstemp instead"
      return .text (<- makeFile name false given)
    | "mkstemp" => return .text (<- makeFile name true given)
    | "__file__" =>
      discard <| lacks name given 0 (some 0)
      return .text (quoted (<- get).place.file.toList)
    | "__line__" =>
      discard <| lacks name given 0 (some 0)
      return number (<- get).place.line
    | "__program__" =>
      let program := (<- get).program
      return .text (quoted program.toList)
    | "traceon" =>
      modify fun state => if texts.isEmpty then { state with tracesAll := true }
        else { state with traced := texts.map .ofList ++ state.traced }
      return nothing
    | "traceoff" =>
      modify fun state => if texts.isEmpty then { state with tracesAll := false, traced := [] }
        else { state with traced := state.traced.filter (!texts.contains ·.toList) }
      return nothing
    | _ => return nothing

def perform : String -> String -> List Given -> Work Definition := performWithin 1000

def readEndings : Nat -> Work Unit
  | 0 => return
  | limit + 1 => do
    let endings := (<- get).endings
    if endings.isEmpty then return
    modify ({ · with portions := endings, endings := [], isMoved := true })
    takeWords perform mostWords
    readEndings limit

/-! ## Calls -/

inductive Request where
  | define (text : String)
  | undefine (name : String)
  | trace (name : String)
  | file (name : String)

structure Manner where
  requests : List Request := []
  isQuiet : Bool := false
  strictness : Nat := 0
  hasFronts : Bool := false
  isTraditional : Bool := false
  tellsLines : Bool := false
  folders : List String := []
  tellsVersion : Bool := false
  tellsHelp : Bool := false

def optionWords : List (String × Char) :=
  [("define", 'D'), ("undefine", 'U'), ("include", 'I'), ("synclines", 's'),
    ("prefix-builtins", 'P'), ("quiet", 'Q'), ("silent", 'Q'), ("fatal-warnings", 'E'),
    ("traditional", 'G'), ("gnu", 'g'), ("trace", 't'), ("interactive", 'i'), ("debug", 'd'),
    ("hashsize", 'H'), ("nesting-limit", 'L'), ("arglength", 'l'), ("debugfile", 'o'),
    ("version", 'v'), ("help", 'h')]

def lettersWithValue : Chars :=
  ['D', 'U', 'I', 't', 'H', 'L', 'l', 'o', 'F', 'R', 'B', 'S', 'T', 'W', 'N']

def Manner.add (manner : Manner) (letter : Char) (value : String) : Manner := match letter with
  | 'D' => { manner with requests := .define value :: manner.requests }
  | 'U' => { manner with requests := .undefine value :: manner.requests }
  | 't' => { manner with requests := .trace value :: manner.requests }
  | 'I' => { manner with folders := manner.folders ++ [value] }
  | 's' => { manner with tellsLines := true }
  | 'P' => { manner with hasFronts := true }
  | 'Q' => { manner with isQuiet := true }
  | 'E' => { manner with strictness := manner.strictness + 1 }
  | 'G' => { manner with isTraditional := true }
  | 'v' => { manner with tellsVersion := true }
  | 'h' => { manner with tellsHelp := true }
  | _ => manner

def Manner.letters (next : Option String) : Manner -> Chars -> Except String (Manner × Bool)
  | manner, [] => .ok (manner, false)
  | manner, letter :: rest =>
    if lettersWithValue.contains letter then
      if !rest.isEmpty then .ok (manner.add letter (.ofList rest), false)
      else match next with
        | some value => .ok (manner.add letter value, true)
        | none => .error s!"option requires an argument -- '{String.singleton letter}'"
    else if letter = 'd' then .ok (manner, false)
    else if ['s', 'P', 'Q', 'E', 'G', 'g', 'i', 'e'].contains letter then
      letters next (manner.add letter "") rest
    else .error s!"invalid option -- '{String.singleton letter}'"

def Manner.read : Nat -> Manner -> List String -> Except String Manner
  | 0, manner, _ => .ok manner
  | _, manner, [] => .ok manner
  | limit + 1, manner, argument :: rest => match argument.toList with
    | ['-', '-'] => .ok { manner with requests := (rest.map .file).reverse ++ manner.requests }
    | '-' :: '-' :: word => do
      let name := word.takeWhile (· != '=')
      let value := word.drop (name.length + 1)
      let shown := .ofList name
      let exact := optionWords.filter (·.1 = shown)
      let fitting := if exact.isEmpty then optionWords.filter (·.1.startsWith shown) else exact
      match fitting with
      | [] => throw s!"unrecognized option '--{shown}'"
      | (_, letter) :: _ =>
        if lettersWithValue.contains letter && name.length = word.length then
          match rest with
          | value :: rest => Manner.read limit (manner.add letter value) rest
          | [] => throw s!"option '--{shown}' requires an argument"
        else Manner.read limit (manner.add letter (.ofList value)) rest
    | '-' :: first :: letters => do
      let (manner, isTaken) <- manner.letters rest.head? (first :: letters)
      Manner.read limit manner (if isTaken then rest.drop 1 else rest)
    | _ => Manner.read limit { manner with requests := .file argument :: manner.requests } rest

def readFile (name : String) : Work Unit := do
  let found <-
    if name = "-" then do
      let bytes := (<- act (takeAll standardInput)).getD .empty
      pure (Except.ok ("stdin", bytes))
    else findFile name
  match found with
  | .error fault =>
    let program := (<- get).program
    complainText s!"{program}: cannot open \x60{name}': {wording fault}\n"
    modify ({ · with status := 1 })
  | .ok (path, bytes) =>
    putFile path bytes
    takeWords perform mostWords
    modify ({ · with place := {} })

def Request.perform : Request -> Work Unit
  | .define text => do
    let name := text.toList.takeWhile (· != '=')
    Replacing.define "define" false [.text name, .text (text.toList.drop (name.length + 1))]
  | .undefine name => Replacing.undefine name true
  | .trace name => modify fun state => { state with traced := name :: state.traced }
  | .file name => readFile name

def runRequests (requests : List Request) : Work Nat := do
  let isFile (request : Request) : Bool := match request with
    | .file _ => true
    | _ => false
  let requests := if requests.any isFile then requests else requests ++ [.file "-"]
  requests.forM Request.perform
  readEndings 1000
  modify ({ · with target := 0 })
  bringBackAll
  flush
  return (<- get).status

end Replacing

def definitions : Program := fun services program arguments => do
  match Replacing.Manner.read (arguments.length + 1) {} arguments with
  | .error message =>
    discard <| putText standardError
      s!"{program}: {message}\nTry \x60{program} --help' for more information.\n"
    return failure
  | .ok manner =>
    if manner.tellsVersion then answerLines program ["m4 (GNU M4) 1.4.19"]
    else if manner.tellsHelp then answerLines program [s!"Usage: {program} [OPTION]... [FILE]..."]
    else
      let front := if manner.hasFronts then "m4_" else ""
      let builtIns := Replacing.builtInNames ++
        (if manner.isTraditional then [] else Replacing.furtherNames)
      let names : Std.HashMap String (List Replacing.Definition) := builtIns.foldl
        (fun (names : Std.HashMap String (List Replacing.Definition)) name =>
          names.insert (front ++ name) [.builtIn name]) {}
      let constants := if manner.isTraditional then ["unix"] else ["__unix__", "__gnu__"]
      let names := constants.foldl
        (fun (names : Std.HashMap String (List Replacing.Definition)) name =>
          names.insert name [.text []]) names
      let usual := (((<- get).environment.lookup "M4PATH").map (fun value =>
        value.splitOn ":")).getD []
      let state : Replacing.State := {
        services, program, names, isQuiet := manner.isQuiet, strictness := manner.strictness
        isTraditional := manner.isTraditional, tellsLines := manner.tellsLines
        folders := manner.folders ++ usual }
      match <- ((Replacing.runRequests manner.requests.reverse).run state).run with
      | .ok (status, _) => return status
      | .error status => return status

end Shell
end BaseLanguage
