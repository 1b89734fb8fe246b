import BaseLanguage.Shell.Utility.Rebuilding.Expanding

namespace BaseLanguage.Shell.Rebuilding

/-!
# Reading rules

A file of rules is read line by line, and each line has its effect at once.  Lines that begin with a
tab belong to the rule in front of them; parts of a file may be left out by conditions.
-/

/-! ## Lines -/

def endingBackslashes (line : Chars) : Nat := (line.reverse.takeWhile (· = '\\')).length

def logicalLines (text : String) : List (Nat × String) :=
  let lines := linesOf '\n' text.toList
  let (done, current, _) := lines.foldl
    (fun (state : List (Nat × String) × Option (Nat × Chars) × Nat) line =>
      let (done, current, number) := state
      let line := if line.getLast? = some '\r' then line.dropLast else line
      let (start, whole) := match current with
        | some (start, front) => (start, front ++ '\n' :: line)
        | none => (number, line)
      if endingBackslashes line % 2 = 1 then (done, some (start, whole), number + 1)
      else ((start, .ofList whole) :: done, none, number + 1))
    ([], none, 1)
  match current with
  | some (start, whole) => ((start, .ofList whole) :: done).reverse
  | none => done.reverse

def collapsed (text : String) : String := go (text.length + 1) text.toList []
where
  go : Nat -> Chars -> Chars -> String
    | 0, _, done => .ofList done.reverse
    | _, [], done => .ofList done.reverse
    | limit + 1, '\\' :: '\n' :: rest, done =>
      let slashes := done.takeWhile (· = '\\')
      if slashes.length % 2 = 1 then go limit ('\n' :: rest) ('\\' :: done)
      else
        go limit (rest.dropWhile (fun c => c = ' ' || c = '\t'))
          (' ' :: done.dropWhile (fun c => c = ' ' || c = '\t'))
    | limit + 1, c :: rest, done => go limit rest (c :: done)

def overReference (text : Chars) : Chars × Chars := match text with
  | '$' :: c :: rest =>
    if c = '(' || c = '\x7b' then
      match closedBy c (if c = '(' then ')' else '\x7d') 0 [] rest with
      | some (_, behind) =>
        let count := rest.length - behind.length
        ('$' :: c :: rest.take count, behind)
      | none => (text, [])
    else (['$', c], rest)
  | text => (text.take 1, text.drop 1)

/-- Splits a text at the first of some characters that stands outside of references; a backslash in
front takes its meaning. -/
def splitAt? (stops : Chars) (text : Chars) : Option (Chars × Char × Chars) :=
  go (text.length + 1) text []
where
  go : Nat -> Chars -> Chars -> Option (Chars × Char × Chars)
    | 0, _, _ => none
    | _, [], _ => none
    | limit + 1, '$' :: rest, done =>
      let (front, behind) := overReference ('$' :: rest)
      go limit behind (front.reverse ++ done)
    | limit + 1, c :: rest, done =>
      if stops.contains c then
        let slashes := (done.takeWhile (· = '\\')).length
        let done := done.drop (slashes - slashes / 2)
        if slashes % 2 = 1 then go limit rest (c :: done) else some (done.reverse, c, rest)
      else go limit rest (c :: done)

def unquoted (stop : Char) (text : Chars) : Chars := go (text.length + 1) text []
where
  go : Nat -> Chars -> Chars -> Chars
    | 0, _, done => done.reverse
    | _, [], done => done.reverse
    | limit + 1, c :: rest, done =>
      if c = stop then
        let slashes := (done.takeWhile (· = '\\')).length
        go limit rest (c :: done.drop (slashes - slashes / 2))
      else go limit rest (c :: done)

def withoutRemark (line : String) : String := match splitAt? ['#'] line.toList with
  | some (front, _, _) => .ofList front
  | none => .ofList (unquoted '#' line.toList)

/-! ## Assignments -/

def assignment? (text : String) : Option (String × Assigning × String) :=
  let text := text.toList.dropWhile isBlank
  go (text.length + 1) text [] false
where
  made (name : Chars) (how : Assigning) (value : Chars) :
      Option (String × Assigning × String) :=
    some (trimmed (.ofList name.reverse), how, .ofList (value.dropWhile isBlank))
  go : Nat -> Chars -> Chars -> Bool -> Option (String × Assigning × String)
    | 0, _, _, _ => none
    | _, [], _, _ => none
    | limit + 1, '$' :: rest, done, isBehind =>
      let (front, behind) := overReference ('$' :: rest)
      if isBehind then none else go limit behind (front.reverse ++ done) isBehind
    | _, '=' :: rest, done, _ => made done .later rest
    | _, ':' :: '=' :: rest, done, _ => made done .now rest
    | _, ':' :: ':' :: '=' :: rest, done, _ => made done .now rest
    | _, '+' :: '=' :: rest, done, _ => made done .adding rest
    | _, '?' :: '=' :: rest, done, _ => made done .ifUnset rest
    | _, '!' :: '=' :: rest, done, _ => made done .byShell rest
    | limit + 1, c :: rest, done, isBehind =>
      if c = '#' || c = ':' then none
      else if isBlank c then go limit (rest.dropWhile isBlank) done true
      else if isBehind then none
      else go limit rest (c :: done) isBehind

structure Modifiers where
  exports : Bool := false
  overrides : Bool := false
  isPrivate : Bool := false

inductive Assignment where
  | one (modifiers : Modifiers) (name : String) (how : Assigning) (value : String)
  | many (modifiers : Modifiers) (rest : String)
  | removal (modifiers : Modifiers) (name : String)

def firstWord (line : String) : String × String :=
  let text := line.toList.dropWhile isBlank
  let word := text.takeWhile (!isBlank ·)
  (.ofList word, .ofList ((text.drop word.length).dropWhile isBlank))

def readAssignment? (forTarget : Bool) : Nat -> Modifiers -> String -> Option Assignment
  | 0, _, _ => none
  | limit + 1, modifiers, line => match assignment? line with
    | some (name, how, value) => some (.one modifiers name how value)
    | none =>
      let (word, rest) := firstWord line
      let next (modifiers : Modifiers) : Option Assignment :=
        if rest.isEmpty then none else readAssignment? forTarget limit modifiers rest
      match word with
      | "export" => next { modifiers with exports := true }
      | "override" => next { modifiers with overrides := true }
      | "private" => next { modifiers with isPrivate := true }
      | "define" => if forTarget then none else some (.many modifiers rest)
      | "undefine" => if forTarget then none else some (.removal modifiers rest)
      | _ => none

section

variable (engine : Engine)

def shellValue (command : String) : Work String := do
  let (shell, flags) <- shellOfRules engine
  let services := (<- get).services
  outputOfCommand (startLine services (<- ownName) shell flags) command

def newVariable? (before : Option Variable) (how : Assigning) (value : String) (origin : Origin) :
    Work (Option Variable) := do
  let place := (<- get).place
  match how with
  | .later => return some { value, origin, place }
  | .now => return some { value := <- engine.expand value, isSimple := true, origin }
  | .byShell => return some { value := <- shellValue engine (<- engine.expand value), origin }
  | .ifUnset => return if before.isSome then none else some { value, origin, place }
  | .adding => match before with
    | none => return some { value, origin, place }
    | some facts =>
      let added <- if facts.isSimple then engine.expand value else pure value
      let joined := if facts.value.isEmpty then added
        else if added.isEmpty then facts.value else facts.value ++ " " ++ added
      let origin := if facts.origin.strength < origin.strength then origin else facts.origin
      return some { facts with value := joined, origin }

def assignGlobal (modifiers : Modifiers) (written : String) (how : Assigning) (value : String) :
    Work Unit := do
  let name := trimmed (<- engine.expand written)
  if name.isEmpty then fail "empty variable name"
  let origin : Origin := if modifiers.overrides then .override else .file
  let before := (<- get).globals[name]?
  let isStronger := before.any (origin.strength < ·.origin.strength)
  if isStronger && how ≠ .now && how ≠ .byShell then pure ()
  else match <- newVariable? engine before how value origin with
    | some facts => defineGlobal name facts
    | none => pure ()
  if name = ".RECIPEPREFIX" then
    let mark := (((<- get).globals[name]?).bind (·.value.toList.head?)).getD '\t'
    modify ({ · with recipeMark := mark })
  if modifiers.exports then
    modify fun state => match state.globals[name]? with
      | some facts =>
        { state with globals := state.globals.insert name { facts with exported := some true } }
      | none => state

/-! ## Rules -/

def usualEndings : List String :=
  Text.wordsIn ".out .a .ln .o .c .cc .C .cpp .p .f .F .m .r .y .l .ym .yl .s .S .mod .sym .def .h
  .info .dvi .tex .texinfo .texi .txinfo .w .ch .web .sh .elc .el"

def knownEndings : Work (List String) := do
  match (<- get).entries[".SUFFIXES"]? with
  | some entry => return entry.prerequisites.map (·.name)
  | none => return if (<- get).manner.hasNoRules then [] else usualEndings

def patternOfEndings? (endings : List String) (name : String) : Option (String × String) :=
  match endings.find? (· = name) with
  | some ending => some ("%", "%" ++ ending)
  | none =>
    endings.findSome? fun source =>
      if name.startsWith source then
        let target := .ofList (name.toList.drop source.length)
        if endings.contains target then some ("%" ++ target, "%" ++ source) else none
      else none

def prerequisitesOf (text : String) : Work (List Prerequisite) := do
  let words := wordsOf text
  let front := words.takeWhile (· ≠ "|")
  let behind := (words.drop (front.length + 1)).filter (· ≠ "|")
  let usual <- namesIn (" ".intercalate front)
  let before <- namesIn (" ".intercalate behind)
  return usual.map (fun name => ({ name := name } : Prerequisite)) ++
    before.map (fun name => ({ name := name, isOrderOnly := true } : Prerequisite))

def changeEntry (name : String) (change : Entry -> Entry) : Work Unit :=
  modify fun state => match state.entries[name]? with
    | some entry => { state with entries := state.entries.insert name (change entry) }
    | none =>
      { state with
        entries := state.entries.insert name (change {})
        order := name :: state.order }

structure Rule where
  targets : List String
  prerequisites : String
  pattern : Option String := none
  isDouble : Bool := false
  isGrouped : Bool := false
  place : Place
  lines : List String := []
  recipePlace : Option Place := none
  hasRecipe : Bool := false

def Rule.recipe? (rule : Rule) : Option Recipe :=
  if rule.hasRecipe then
    let place := rule.recipePlace.getD rule.place
    some { text := "\n".intercalate rule.lines.reverse, place := some place }
  else none

def canBeFirst (endings : List String) (name : String) : Bool :=
  !(name.startsWith "." && !name.toList.contains '/') && (patternOfEndings? endings name).isNone

def addRule (rule : Rule) : Work Unit := do
  let recipe := rule.recipe?
  let isPattern (name : String) : Bool := (patternParts? name).isSome
  let patterns := if rule.pattern.isNone then rule.targets.filter isPattern else []
  let names := if rule.pattern.isNone then rule.targets.filter (!isPattern ·) else rule.targets
  if !patterns.isEmpty then
    if !names.isEmpty then
      complainAt (some rule.place) "*** mixed implicit and normal rules: deprecated syntax"
    let prerequisites <- prerequisitesOf rule.prerequisites
    let made : PatternRule :=
      { targets := patterns, prerequisites, recipe, isTerminal := rule.isDouble }
    modify fun state =>
      let isSame (other : PatternRule) : Bool :=
        other.targets = made.targets && other.prerequisites = made.prerequisites
      let patterns := state.patterns.filter (!isSame ·)
      { state with patterns := if recipe.isSome then patterns ++ [made] else patterns }
  if !names.isEmpty then
    names.forM fun name => do
      let (text, stem) <-
        match rule.pattern with
        | none => pure (rule.prerequisites, none)
        | some pattern => match stemOf? pattern name with
          | none =>
            complainAt (some rule.place) s!"target '{name}' doesn't match the target pattern"
            pure ("", none)
          | some stem =>
            let words := (wordsOf rule.prerequisites).map (withStem · stem)
            pure (" ".intercalate words, some stem)
      let prerequisites <- prerequisitesOf text
      let before := ((<- get).entries[name]?).getD {}
      if rule.isDouble then
        if before.isTarget && before.doubles.isEmpty then
          failAt (some rule.place) s!"target file '{name}' has both : and :: entries"
        changeEntry name fun entry => { entry with
          isTarget := true, doubles := entry.doubles ++ [(prerequisites, recipe)] }
      else
        if !before.doubles.isEmpty then
          failAt (some rule.place) s!"target file '{name}' has both : and :: entries"
        match before.recipe, recipe with
        | some old, some new =>
          complainAt new.place s!"warning: overriding recipe for target '{name}'"
          complainAt old.place s!"warning: ignoring old recipe for target '{name}'"
        | _, _ => pure ()
        let isCleared := name = ".SUFFIXES" && prerequisites.isEmpty
        changeEntry name fun entry => { entry with
          isTarget := true
          prerequisites :=
            if isCleared then []
            else if recipe.isSome then prerequisites ++ entry.prerequisites
            else entry.prerequisites ++ prerequisites
          recipe := recipe.orElse fun _ => entry.recipe
          stem := stem.orElse fun _ => entry.stem
          group := if rule.isGrouped then rule.targets.filter (· ≠ name) else entry.group }
      if name = ".SUFFIXES" && before.prerequisites.isEmpty && !before.isTarget &&
          !prerequisites.isEmpty then
        changeEntry name fun entry => { entry with
          prerequisites := usualEndings.map (fun ending => ({ name := ending } : Prerequisite)) ++
            entry.prerequisites }
    let endings <- knownEndings
    match names.find? (canBeFirst endings) with
    | some first =>
      let set := ((<- get).globals[".DEFAULT_GOAL"]?).any (!·.value.isEmpty)
      if !set then defineGlobal ".DEFAULT_GOAL" { value := first, isSimple := true }
    | none => pure ()

/-! ## Conditions -/

structure Condition where
  reads : Bool
  mayRead : Bool
  hasElse : Bool := false
  place : Option Place

def comparedTexts? (text : String) : Option (String × String) := match text.toList with
  | '(' :: rest => match comma rest 0 [] with
    | none => none
    | some (first, rest) => match closedBy '(' ')' 0 [] (rest.dropWhile isBlank) with
      | some (second, _) => some (trimmed (.ofList first), .ofList second)
      | none => none
  | quote :: rest =>
    if quote = '"' || quote = '\'' then
      let first := rest.takeWhile (· != quote)
      match (rest.drop (first.length + 1)).dropWhile isBlank with
      | other :: rest =>
        if other = '"' || other = '\'' then
          let second := rest.takeWhile (· != other)
          if second.length < rest.length then some (.ofList first, .ofList second) else none
        else none
      | [] => none
    else none
  | [] => none
where
  comma : Chars -> Nat -> Chars -> Option (Chars × Chars)
    | [], _, _ => none
    | ',' :: rest, 0, done => some (done.reverse, rest)
    | '(' :: rest, depth, done => comma rest (depth + 1) ('(' :: done)
    | ')' :: rest, depth, done => comma rest (depth - 1) (')' :: done)
    | c :: rest, depth, done => comma rest depth (c :: done)

def conditionHolds? (word rest : String) : Work (Option Bool) := do
  match word with
  | "ifdef" => isDefined true
  | "ifndef" => isDefined false
  | _ => match comparedTexts? rest with
    | none => return none
    | some (first, second) =>
      let isSame := (<- engine.expand first) = (<- engine.expand second)
      return some (if word = "ifeq" then isSame else !isSame)
where
  isDefined (wanted : Bool) : Work (Option Bool) := do
    match wordsOf (<- engine.expand rest) with
    | [name] =>
      let has := (<- lookUp? name).any (!·.value.isEmpty)
      return some (has = wanted)
    | [] => return some (!wanted)
    | _ => return none

def conditionLine? (conditions : List Condition) (word rest : String) :
    Work (Option (List Condition)) := do
  let place := (<- get).place
  let reads := conditions.all (·.reads)
  let isQuestion (word : String) : Bool := ["ifeq", "ifneq", "ifdef", "ifndef"].contains word
  let ask (word rest : String) : Work Bool := do
    match <- conditionHolds? engine word rest with
    | some holds => return holds
    | none => fail "invalid syntax in conditional"
  match word, conditions with
  | "endif", [] => fail "extraneous 'endif'"
  | "endif", _ :: outer =>
    if !rest.isEmpty then complainAt place "extraneous text after 'endif' directive"
    return some outer
  | "else", [] => fail "extraneous 'else'"
  | "else", condition :: outer =>
    if condition.hasElse then fail "only one 'else' per conditional"
    let outerReads := outer.all (·.reads)
    let (inner, behind) := firstWord rest
    if isQuestion inner then
      if condition.mayRead && outerReads then
        let holds <- ask inner behind
        return some ({ condition with reads := holds, mayRead := !holds } :: outer)
      else return some ({ condition with reads := false } :: outer)
    else
      if !rest.isEmpty then complainAt place "extraneous text after 'else' directive"
      return some ({ condition with
        reads := condition.mayRead, mayRead := false, hasElse := true } :: outer)
  | word, conditions =>
    if isQuestion word then
      if !reads then return some ({ reads := false, mayRead := false, place } :: conditions)
      else
        let holds <- ask word rest
        return some ({ reads := holds, mayRead := !holds, place } :: conditions)
    else return none

/-! ## Files -/

structure Reading where
  rule : Option Rule := none
  dropsLines : Bool := false
  conditions : List Condition := []

def endRule (reading : Reading) : Work Reading := do
  match reading.rule with
  | some rule => addRule rule
  | none => pure ()
  return { reading with rule := none }

def linesOfMany (mark : Char) : Nat -> Nat -> List (Nat × String) -> List String ->
    Option (List String × List (Nat × String))
  | 0, _, _, _ => none
  | _, _, [], _ => none
  | limit + 1, depth, (_, line) :: rest, done =>
    let line := collapsed line
    let (word, _) := firstWord line
    let isInside := line.toList.head? = some mark
    if !isInside && word = "endef" then
      match depth with
      | 0 => some (done.reverse, rest)
      | depth + 1 => linesOfMany mark limit depth rest (line :: done)
    else if !isInside && word = "define" then linesOfMany mark limit (depth + 1) rest (line :: done)
    else linesOfMany mark limit depth rest (line :: done)

def exportNames (exports : Bool) (text : String) : Work Unit := do
  if text.isEmpty then modify ({ · with exportsAll := exports })
  else
    (wordsOf (<- engine.expand text)).forM fun name =>
      modify fun state =>
        let facts := (state.globals[name]?).getD { value := "" }
        { state with globals := state.globals.insert name { facts with exported := some exports } }

def searchIn (text : String) : Work Unit := do
  let folders (text : String) : List String := (text.splitOn ":").flatMap wordsOf
  match wordsOf (<- engine.expand text) with
  | [] => modify ({ · with searchFolders := [] })
  | [pattern] =>
    modify fun state => { state with searchFolders := state.searchFolders.filter (·.1 ≠ pattern) }
  | pattern :: rest =>
    modify fun state => { state with
      searchFolders := state.searchFolders ++ [(pattern, folders (" ".intercalate rest))] }

def assignFor (targets : List String) (modifiers : Modifiers) (written : String)
    (how : Assigning) (value : String) : Work Unit := do
  let name := trimmed (<- engine.expand written)
  let origin : Origin := if modifiers.overrides then .override else .file
  let (how, value) <-
    match how with
    | .now => pure (.now, <- engine.expand value)
    | .byShell => pure (.later, <- shellValue engine (<- engine.expand value))
    | how => pure (how, value)
  let setting : Setting :=
    { name, how, value, origin, exported := if modifiers.exports then some true else none
      isPrivate := modifiers.isPrivate }
  targets.forM fun target => do
    if (patternParts? target).isSome then
      modify fun state => { state with
        patternSettings := state.patternSettings ++ [(target, setting)] }
    else changeEntry target fun entry => { entry with settings := entry.settings ++ [setting] }

def ruleLine (line : String) : Work (Reading -> Reading) := do
  let place := ((<- get).place).getD ⟨"", 0⟩
  let (line, command) : String × Option String := match splitAt? [';', '#'] line.toList with
    | some (front, ';', rest) => (.ofList front, some (.ofList rest))
    | some (front, _, _) => (.ofList front, none)
    | none => (line, none)
  let line := collapsed line
  let missing : Work (Reading -> Reading) := do
    if (<- get).recipeMark = '\t' && line.startsWith "        " then
      fail "missing separator (did you mean TAB instead of 8 spaces?)"
    else fail "missing separator"
  let (front, rest, isExpanded) <-
    match splitAt? [':'] line.toList with
    | some (front, _, rest) => pure (some (<- engine.expand (.ofList front)), .ofList rest, false)
    | none =>
      let whole <- engine.expand line
      match splitAt? [':'] whole.toList with
      | some (front, _, rest) => pure (some (.ofList front), .ofList rest, true)
      | none => pure (none, whole, true)
  match front with
  | none =>
    if command.isSome && (trimmed rest).isEmpty then fail "missing rule before recipe"
    if (trimmed rest).isEmpty then return id
    missing
  | some front =>
    let isGrouped := front.endsWith "&" || (front.endsWith "& ")
    let front := if isGrouped then .ofList (trimmed front).toList.dropLast else front
    let targets <- namesIn front
    if targets.isEmpty then return ({ · with rule := none, dropsLines := true })
    let isDouble := rest.startsWith ":"
    let rest := if isDouble then .ofList (rest.toList.drop 1) else rest
    let whole := match command with
      | some command => rest ++ ";" ++ command
      | none => rest
    match readAssignment? true (whole.length + 1) {} whole with
    | some (.one modifiers name how value) =>
      assignFor engine targets modifiers name how value
      return ({ · with rule := none, dropsLines := true })
    | _ =>
      let rest <- if isExpanded then pure rest else engine.expand rest
      let (rest, command) : String × Option String := match command, splitAt? [';'] rest.toList with
        | none, some (front, _, behind) => (.ofList front, some (.ofList behind))
        | _, _ => (rest, command)
      let (pattern, prerequisites) <-
        match splitAt? [':'] rest.toList with
        | some (front, _, behind) => do
          match wordsOf (.ofList front) with
          | [pattern] =>
            if (patternParts? pattern).isNone then fail "target pattern contains no '%'"
            pure (some pattern, .ofList behind)
          | [] => fail "missing target pattern"
          | _ => fail "multiple target patterns"
        | none => pure (none, rest)
      let rule : Rule :=
        { targets, prerequisites, pattern, isDouble, isGrouped, place
          lines := command.toList, hasRecipe := command.isSome
          recipePlace := command.map fun _ => place }
      return ({ · with rule := some rule, dropsLines := false })

def findRules (name : String) : Work (Option (String × String)) := do
  let folders := (<- get).manner.searched ++ ["/usr/local/include", "/usr/include"]
  let names := name :: (if name.startsWith "/" then [] else folders.map (nameWithin · name))
  names.findSomeM? fun name => do
    match <- act (readNamed name) with
    | .ok bytes => return some (name, .ofList (Text.octetsOf bytes))
    | .error _ => return none

def noteFile (name : String) : Work Unit := do
  let before := (((<- get).globals["MAKEFILE_LIST"]?).map (·.value)).getD ""
  modify fun state => { state with
    readFiles := state.readFiles ++ [name]
    globals := state.globals.insert "MAKEFILE_LIST"
      { value := before ++ " " ++ name, isSimple := true, origin := .file } }

def readLines (file : String) (ending : Nat) : Nat -> List (Nat × String) -> Reading -> Work Unit
  | 0, _, _ => return
  | _, [], reading => do
    discard <| endRule reading
    match reading.conditions with
    | [] => return
    | _ => failAt (some ⟨file, ending⟩) "missing 'endif'"
  | limit + 1, (number, line) :: rest, reading => do
    let go := readLines file ending limit
    modify ({ · with place := some ⟨file, number⟩ })
    let mark := (<- get).recipeMark
    let reads := reading.conditions.all (·.reads)
    let isInside := line.toList.head? = some mark
    if isInside && reading.dropsLines && reading.rule.isNone then go rest reading
    else if isInside && reading.rule.isSome then
      match reading.rule with
      | some rule =>
        if !reads then go rest reading
        else
          let line := withoutMarks mark (line.toList.drop 1)
          let place : Place := ⟨file, number⟩
          let rule := { rule with
            lines := .ofList line :: rule.lines, hasRecipe := true
            recipePlace := rule.recipePlace.orElse fun _ => some place }
          go rest { reading with rule := some rule }
      | none => go rest reading
    else
      let whole := collapsed line
      let plain := withoutRemark whole
      let (word, behind) := firstWord plain
      if word.isEmpty then go rest reading
      else match readAssignment? false (plain.length + 1) {} plain with
        | some (.many modifiers name) =>
          let written := assignment? name
          match linesOfMany mark (rest.length + 1) 0 rest [] with
          | none => fail "missing 'endef', unterminated 'define'"
          | some (lines, rest) =>
            if !reads then go rest reading
            else
              let reading <- endRule reading
              modify ({ · with place := some ⟨file, number⟩ })
              let (name, how) := match written with
                | some (name, how, _) => (name, how)
                | none => (trimmed name, .later)
              assignGlobal engine modifiers name how ("\n".intercalate lines)
              go rest reading
        | some assignment =>
          if !reads then go rest reading
          else
            let reading <- endRule reading
            modify ({ · with place := some ⟨file, number⟩ })
            match assignment with
            | .one modifiers name how value => assignGlobal engine modifiers name how value
            | .removal _ name =>
              let name := trimmed (<- engine.expand name)
              modify fun state => { state with globals := state.globals.erase name }
            | .many _ _ => pure ()
            go rest reading
        | none => match <- conditionLine? engine reading.conditions word behind with
          | some conditions => go rest { reading with conditions }
          | none =>
            if !reads then go rest reading
            else if word = "export" || word = "unexport" then
              let reading <- endRule reading
              exportNames engine (word = "export") behind
              go rest reading
            else if word = "vpath" then
              let reading <- endRule reading
              searchIn engine behind
              go rest reading
            else if ["include", "-include", "sinclude"].contains word then
              let reading <- endRule reading
              modify ({ · with place := some ⟨file, number⟩ })
              includeAll (<- namesIn (<- engine.expand behind)) (word ≠ "include")
              go rest reading
            else if isInside then fail "recipe commences before first target"
            else
              let reading <- endRule reading
              modify ({ · with place := some ⟨file, number⟩ })
              go rest ((<- ruleLine engine line) reading)
where
  withoutMarks (mark : Char) : Chars -> Chars
    | [] => []
    | '\n' :: c :: rest =>
      if c = mark then '\n' :: withoutMarks mark rest else '\n' :: c :: withoutMarks mark rest
    | c :: rest => c :: withoutMarks mark rest
  includeAll (names : List String) (mayLack : Bool) : Work Unit :=
    names.forM fun name => do
      match <- findRules name with
      | some (path, text) => engine.readFile path text
      | none =>
        modify fun state => { state with
          missingFiles := state.missingFiles ++ [(name, state.place, mayLack)] }

def readRules (file text : String) (firstLine : Nat) : Work Unit := do
  let before := (<- get).place
  let lines := (logicalLines text).map fun (number, line) => (number + firstLine - 1, line)
  let ending := firstLine + (text.toList.filter (· = '\n')).length
  readLines engine file ending (lines.length + 1) lines {}
  modify ({ · with place := before })

end

def engineWithin : Nat -> Engine
  | 0 =>
    { expand := fun _ => return ""
      read := fun _ => return
      readFile := fun _ _ => return }
  | depth + 1 =>
    let inner := engineWithin depth
    { expand := fun text => expandText inner (2 * text.length + 2) text.toList []
      read := fun text => do
        let place := ((<- get).place).getD ⟨"", 1⟩
        readRules inner place.file text place.line
      readFile := fun path text => do
        noteFile path
        readRules inner path text 1 }

end BaseLanguage.Shell.Rebuilding
