import BaseLanguage.Shell.Utility.Rebuilding.Reader

namespace BaseLanguage
namespace Shell
namespace Rebuilding

/-!
# Making targets

A target is made if it is missing or older than what it needs, after all of that has been made.  What
no rule tells how to make may follow a pattern, perhaps through files that are needed in between only.
-/

/-! ## What is known from the start -/

def usualVariables : List (String × String) :=
  [("AR", "ar"), ("ARFLAGS", "rv"), ("AS", "as"), ("CC", "cc"), ("CXX", "g++"), ("CPP", "$(CC) -E"),
    ("LD", "ld"), ("RM", "rm -f"), ("LEX", "lex"), ("YACC", "yacc"), ("FC", "f77"),
    ("OUTPUT_OPTION", "-o $@"),
    ("COMPILE.c", "$(CC) $(CFLAGS) $(CPPFLAGS) $(TARGET_ARCH) -c"),
    ("COMPILE.cc", "$(CXX) $(CXXFLAGS) $(CPPFLAGS) $(TARGET_ARCH) -c"),
    ("COMPILE.C", "$(COMPILE.cc)"), ("COMPILE.cpp", "$(COMPILE.cc)"),
    ("COMPILE.s", "$(AS) $(ASFLAGS) $(TARGET_MACH)"),
    ("COMPILE.S", "$(CC) $(ASFLAGS) $(CPPFLAGS) $(TARGET_MACH) -c"),
    ("LINK.o", "$(CC) $(LDFLAGS) $(TARGET_ARCH)"),
    ("LINK.c", "$(CC) $(CFLAGS) $(CPPFLAGS) $(LDFLAGS) $(TARGET_ARCH)"),
    ("LINK.cc", "$(CXX) $(CXXFLAGS) $(CPPFLAGS) $(LDFLAGS) $(TARGET_ARCH)"),
    ("LINK.C", "$(LINK.cc)"), ("LINK.cpp", "$(LINK.cc)"),
    ("LEX.l", "$(LEX) $(LFLAGS) -t"), ("YACC.y", "$(YACC) $(YFLAGS)")]

def usualPatterns : List (String × String × String) :=
  [("%", "%.o", "$(LINK.o) $^ $(LOADLIBES) $(LDLIBS) -o $@"),
    ("%", "%.c", "$(LINK.c) $^ $(LOADLIBES) $(LDLIBS) -o $@"),
    ("%", "%.cc", "$(LINK.cc) $^ $(LOADLIBES) $(LDLIBS) -o $@"),
    ("%", "%.C", "$(LINK.C) $^ $(LOADLIBES) $(LDLIBS) -o $@"),
    ("%", "%.cpp", "$(LINK.cpp) $^ $(LOADLIBES) $(LDLIBS) -o $@"),
    ("%", "%.sh", "cat $< >$@ \n chmod a+x $@"),
    ("%.o", "%.c", "$(COMPILE.c) $(OUTPUT_OPTION) $<"),
    ("%.o", "%.cc", "$(COMPILE.cc) $(OUTPUT_OPTION) $<"),
    ("%.o", "%.C", "$(COMPILE.C) $(OUTPUT_OPTION) $<"),
    ("%.o", "%.cpp", "$(COMPILE.cpp) $(OUTPUT_OPTION) $<"),
    ("%.o", "%.s", "$(COMPILE.s) -o $@ $<"),
    ("%.o", "%.S", "$(COMPILE.S) -o $@ $<"),
    ("%.c", "%.l", "@$(RM) $@ \n $(LEX.l) $< > $@"),
    ("%.c", "%.y", "$(YACC.y) $< \n mv -f y.tab.c $@"),
    ("%.out", "%", "@rm -f $@ \n cp $< $@")]

def deepest : Nat := 1000

def wholeEngine : Engine := engineWithin deepest

/-! ## Files -/

def isPhony (name : String) : Work Bool := do
  match (<- get).entries[".PHONY"]? with
  | some entry => return entry.prerequisites.any (·.name = name)
  | none => return false

def asksFor (special name : String) : Work Bool := do
  let some entry := (<- get).entries[special]? | return false
  return entry.isTarget && (entry.prerequisites.isEmpty || entry.prerequisites.any (·.name = name))

def placeOf? (name : String) : Work (Option String) := do
  let tree := (<- act get).files
  if tree.exists? (pathOf name) then return some name
  else if name.startsWith "/" then return none
  else
    let state <- get
    let usual := ((state.globals["VPATH"]?).map (·.value)).getD ""
    let usual <- wholeEngine.expand usual
    let folders := (state.searchFolders.filter (fits ·.1 name)).flatMap
      (·.2) ++ (usual.splitOn ":").flatMap wordsOf
    return (folders.map (nameWithin · name)).find? fun path => tree.exists? (pathOf path)

def progressOf (name : String) : Work Progress := do return ((<- get).progress[name]?).getD {}

def changeProgress (name : String) (change : Progress -> Progress) : Work Unit :=
  modify fun state => { state with
    progress := state.progress.insert name (change ((state.progress[name]?).getD {})) }

def presentAge (name : String) : Work Age := do
  if <- isPhony name then return .missing
  else if (<- get).manner.oldFiles.contains name then return .old
  else if (<- get).manner.newFiles.contains name then return .newest
  else match <- placeOf? name with
    | none => return .missing
    | some path => match (<- act get).files.modified (pathOf path) with
      | .ok time => return .at time
      | .error _ => return .missing

def ageOf (name : String) : Work Age := do
  match (<- progressOf name).age with
  | some age => return age
  | none =>
    let age <- presentAge name
    changeProgress name ({ · with age := some age })
    return age

/-! ## Patterns -/

structure Way where
  prerequisites : List Prerequisite
  recipe : Option Recipe
  stem : String
  others : List String

def stemWithFolder? (pattern name : String) : Option (String × String) :=
  if pattern.toList.contains '/' then (stemOf? pattern name).map fun stem => (stem, "")
  else
    let file := filePart name
    let folder := .ofList (name.toList.take (name.length - file.length))
    match stemOf? pattern file with
    | some stem => if stem.isEmpty then none else some (stem, folder)
    | none => none

def wayOf? (rule : PatternRule) (name : String) : Option (Nat × Way) :=
  rule.targets.findSome? fun target =>
    (stemWithFolder? target name).map fun (stem, folder) =>
      let filled (text : String) : String :=
        if (patternParts? text).isSome then folder ++ withStem text stem else text
      (stem.length,
        { prerequisites := rule.prerequisites.map fun prerequisite =>
          { prerequisite with name := filled prerequisite.name }
          recipe := rule.recipe, stem := folder ++ stem
          others := (rule.targets.filter (· ≠ target)).map filled })

def isTold (name : String) : Work Bool := do
  let state <- get
  match state.entries[name]? with
  | some entry => if entry.isTarget then return true
  | none => pure ()
  return state.order.any fun target => match state.entries[target]? with
    | some entry =>
      entry.prerequisites.any (·.name = name) ||
        entry.doubles.any fun double => double.1.any (·.name = name)
    | none => false

mutual

def findWay? : Nat -> List Nat -> String -> Work (Option Way)
  | 0, _, _ => return none
  | depth + 1, used, name => do
    let rules := (<- get).patterns.zipIdx
    let isOpen (rule : PatternRule) : Bool := rule.targets.contains "%"
    let ways := rules.filterMap fun (rule, index) =>
      if used.contains index || rule.recipe.isNone then none
      else (wayOf? rule name).map fun (size, way) => (size, index, rule.isTerminal, isOpen rule, way)
    let hasClosed := ways.any (!·.2.2.2.1)
    let ways := ways.filter fun way => !(hasClosed && way.2.2.2.1 && !way.2.2.1)
    let ways := ways.mergeSort fun first second => first.1 <= second.1
    let plain := ways.map fun way => (way.2.1, way.2.2.1, way.2.2.2.2)
    match <- firstWay depth false used plain with
    | some way => return some way
    | none => firstWay depth true used plain

def firstWay : Nat -> Bool -> List Nat -> List (Nat × Bool × Way) -> Work (Option Way)
  | 0, _, _, _ => return none
  | _, _, _, [] => return none
  | depth + 1, mayMake, used, (index, isTerminal, way) :: rest => do
    let found <- way.prerequisites.allM fun prerequisite => do
      let name := prerequisite.name
      if (<- placeOf? name).isSome then return true
      else if isTerminal then return false
      else if <- isTold name then return true
      else if mayMake then
        match <- findWay? depth (index :: used) name with
        | none => return false
        | some inner =>
          changeProgress name ({ · with
            isIntermediate := true
            entry := some
              { prerequisites := inner.prerequisites, recipe := inner.recipe
                stem := some inner.stem, group := inner.others } })
          return true
      else return false
    if found then return some way else firstWay depth mayMake used rest

end

/-! ## Variables of targets -/

def settingsFor (name : String) (withPrivate : Bool) : Work Scope := do
  let state <- get
  let general := (state.patternSettings.filter (fits ·.1 name)).map (·.2)
  let own := ((state.entries[name]?).map (·.settings)).getD []
  (general ++ own).foldlM
    (fun (scope : Scope) setting => do
      if setting.isPrivate && !withPrivate then return scope
      let before <-
        match scope[setting.name]? with
        | some facts => pure (some facts)
        | none => lookUp? setting.name
      let isStronger := before.any (·.origin = .call && setting.origin ≠ .override)
      if isStronger then return scope
      let facts <- match setting.how with
        | .now => pure (some
            ({ value := setting.value, isSimple := true, origin := setting.origin } : Variable))
        | how => newVariable? wholeEngine before how setting.value setting.origin
      match facts with
      | some facts => return scope.insert setting.name { facts with exported := setting.exported }
      | none => return scope)
    {}

def automaticVariables (name stem : String) (prerequisites : List (Prerequisite × Bool)) :
    Work Scope := do
  let place (prerequisite : Prerequisite) : Work String := do
    return (<- placeOf? prerequisite.name).getD prerequisite.name
  let usual := prerequisites.filter (!·.1.isOrderOnly)
  let names <- usual.mapM (place ·.1)
  let newer <- (usual.filter (·.2)).mapM (place ·.1)
  let isUsual (name : String) : Bool := usual.any (·.1.name = name)
  let before <- (prerequisites.filter fun entry =>
    entry.1.isOrderOnly && !isUsual entry.1.name).mapM (place ·.1)
  let lists : List (String × List String) :=
    [("@", [name]), ("<", names.take 1), ("^", names.eraseDups), ("+", names),
      ("?", newer.eraseDups), ("|", before.eraseDups), ("*", [stem])]
  let folder (name : String) : String :=
    let front := withoutSlashes (folderPart name)
    if front.isEmpty then "/" else front
  let made (name : String) (values : List String) : String × Variable :=
    (name, { value := " ".intercalate values, isSimple := true, origin := .automatic })
  return Std.HashMap.ofList (lists.flatMap fun (name, values) =>
    [made name values, made (name ++ "D") (values.map folder),
      made (name ++ "F") (values.map filePart)])

def isPlainName (name : String) : Bool := match name.toList with
  | [] => false
  | first :: rest => (first.isAlpha || first = '_') && rest.all fun c => c.isAlphanum || c = '_'

variable (manner : Manner)

def optionLetters : String :=
  .join <|
    ([(manner.isAlways, "B"), (manner.hasStrongEnvironment, "e"), (manner.ignoresErrors, "i"),
      (manner.goesOn, "k"), (manner.isDry, "n"), (manner.isQuestion, "q"), (manner.hasNoRules, "r"),
      (manner.hasNoVariables, "R"), (manner.isSilent, "s"), (manner.isTouching, "t"),
      (manner.tellsFolder = some true, "w")].filter (·.1)).map (·.2)

def optionText : String :=
  let folders := .join (manner.searched.map (" -I" ++ ·))
  let jobs := match manner.jobs with
    | some count => " -j" ++ count
    | none => ""
  let words := (if manner.tellsFolder = some false then " --no-print-directory" else "") ++
    (if manner.warnsUndefined then " --warn-undefined-variables" else "") ++
    (if manner.tracesRules then " --trace" else "")
  optionLetters manner ++ folders ++ jobs ++ words

def wholeOptionText : String :=
  let settings := manner.settings.map fun setting =>
    .ofList (setting.toList.flatMap fun c =>
      if c = ' ' || c = '\t' || c = '\\' then ['\\', c] else if c = '$' then ['$', '$'] else [c])
  optionText manner ++ (if settings.isEmpty then "" else " -- " ++ " ".intercalate settings)

def environmentNow : Work (List (String × String)) := do
  let state <- get
  let scopes := state.scopes.reverse
  let all : Scope := scopes.foldl
    (fun (all : Scope) (scope : Scope) =>
      scope.fold (fun (all : Scope) name facts =>
        let exported := facts.exported.orElse fun _ => (all[name]?).bind (·.exported)
        all.insert name { facts with exported }) all)
    state.globals
  let entries <- all.toList.filterMapM fun (name, facts) => do
    if !isPlainName name then return none
    let tells := match facts.exported with
      | some tells => tells
      | none =>
        facts.origin ≠ .usual && facts.origin ≠ .automatic &&
          (state.exportsAll || facts.origin = .call || facts.origin = .environment ||
            facts.origin = .strongEnvironment)
    if !tells then return none
    else if facts.origin = .environment then return some (name, facts.value)
    else return some (name, <- valueOf wholeEngine name facts)
  let hidden := all.toList.filterMap fun (name, facts) =>
    if facts.exported = some false then some name else none
  let base := state.environment.filter (!hidden.contains ·.1)
  let merged := entries.foldl (fun environment entry => withEntry entry.1 entry.2 environment) base
  let manner := state.manner
  let own := [("MAKEFLAGS", wholeOptionText manner), ("MAKELEVEL", numberText (state.level + 1))] ++
    (if optionText manner = "" then [("MFLAGS", "")] else
      [("MFLAGS", (if (optionLetters manner).isEmpty then
        .ofList ((optionText manner).toList.drop 1) else "-" ++ optionText manner))]) ++
    (if manner.settings.isEmpty then [] else
      [("MAKEOVERRIDES", "$\x7b-*-command-variables-*-\x7d")])
  return own.foldl (fun environment entry => withEntry entry.1 entry.2 environment) merged

/-! ## Recipes -/

def recipeLines (text : String) : List String := (logicalLines text).map (·.2)

def signalText : Nat -> String
  | 1 => "Hangup"
  | 2 => "Interrupt"
  | 3 => "Quit"
  | 4 => "Illegal instruction"
  | 6 => "Aborted"
  | 8 => "Floating point exception"
  | 9 => "Killed"
  | 10 => "User defined signal 1"
  | 11 => "Segmentation fault"
  | 12 => "User defined signal 2"
  | 13 => "Broken pipe"
  | 14 => "Alarm clock"
  | 15 => "Terminated"
  | number => s!"Unknown signal {numberText number}"

/-- What the signs in front of a line say: it is not told, its errors do not count, and it runs in any
case. -/
def lineSigns : Chars -> Bool × Bool × Bool × Chars
  | [] => (false, false, false, [])
  | c :: rest =>
    let (isQuiet, isLenient, isForced, text) := lineSigns rest
    if c = '@' then (true, isLenient, isForced, text)
    else if c = '-' then (isQuiet, true, isForced, text)
    else if c = '+' then (isQuiet, isLenient, true, text)
    else if c = ' ' || c = '\t' then (isQuiet, isLenient, isForced, text)
    else (false, false, false, c :: rest)

def runsAgain (line : String) : Bool :=
  (line.splitOn "$(MAKE)").length ≠ 1 || (line.splitOn "$\x7bMAKE\x7d").length ≠ 1

def runRecipe (name : String) (recipe : Recipe) : Work Bool := do
  let place := (<- get).place
  modify ({ · with place := recipe.place })
  let isOne <- asksFor ".ONESHELL" name
  let raw := if isOne then [recipe.text] else recipeLines recipe.text
  let lines <- raw.mapM fun line => do return (line, <- wholeEngine.expand line)
  modify ({ · with place })
  let manner := (<- get).manner
  let isSilent := manner.isSilent || (<- asksFor ".SILENT" name)
  let isLenient := manner.ignoresErrors || (<- asksFor ".IGNORE" name)
  let numbered := if isOne then [(lines.headD ("", ""), 0)] else lines.zipIdx
  runAll manner isSilent isLenient isOne numbered
where
  runAll (manner : Manner) (isSilent isLenient isOne : Bool) :
      List ((String × String) × Nat) -> Work Bool
    | [] => return false
    | ((raw, line), index) :: rest => do
      -- A text with several lines may come from one reference.
      let parts := if isOne then [line] else recipeLines line
      let failed <- parts.anyM fun part =>
        runLine manner isSilent isLenient (runsAgain raw) raw part index
      if failed then return true else runAll manner isSilent isLenient isOne rest
  runLine (manner : Manner) (isSilent isLenient isAgain : Bool) (raw line : String)
      (index : Nat) : Work Bool := do
    let (quiet, lenient, forced, text) := lineSigns line.toList
    let (quietFirst, lenientFirst, forcedFirst, _) := lineSigns raw.toList
    let quiet := quiet || quietFirst
    let lenient := lenient || lenientFirst || isLenient
    let forced := forced || forcedFirst || isAgain
    let text := .ofList text
    if text.isEmpty then return false
    if manner.isQuestion && !forced then throw 1
    if manner.isDry || manner.tracesRules || !(quiet || isSilent) then sayLine text
    modify fun state => { state with started := state.started + 1 }
    if manner.isDry && !forced then return false
    let (shell, flags) <- shellOfRules wholeEngine
    let environment <- environmentNow
    let services := (<- get).services
    let program <- ownName
    let status <- act do
      asideFully do
        modify ({ · with environment })
        startLine services program shell flags text
    if status = 0 then return false
    let place := match recipe.place with
      | some place => s!"{place.file}:{numberText (place.line + index)}"
      | none => "<builtin>"
    let what := if 256 <= status then signalText (status - 256) else s!"Error {numberText status}"
    if lenient then
      if !manner.isSilent then complainAt none s!"[{place}: {name}] {what} (ignored)"
      return false
    else
      complainAt none s!"*** [{place}: {name}] {what}"
      return true

/-- Removes the target of a recipe that has failed, if that is asked for and the recipe changed
it. -/
def dropFailed (name : String) (before : Age) : Work Unit := do
  let hasEntry := ((<- get).entries[".DELETE_ON_ERROR"]?).isSome
  if hasEntry && !(<- isPhony name) then
    let after <- presentAge name
    if after ≠ .missing && after ≠ before then
      complainAt none s!"*** Deleting file '{name}'"
      discard <| act (filing (FileTree.remove (pathOf name)))

/-! ## Targets -/

def noRule (name : String) (parent : Option String) : Work Unit := do
  let needed := match parent with
    | some parent => s!", needed by '{parent}'"
    | none => ""
  if (<- get).manner.goesOn then complainAt none s!"*** No rule to make target '{name}'{needed}."
  else failAt none s!"No rule to make target '{name}'{needed}"

def plainStem (endings : List String) (name : String) : String :=
  match endings.find? (fun ending => name.endsWith ending && name ≠ ending) with
  | some ending => .ofList (name.toList.take (name.length - ending.length))
  | none => ""

def wholeEntry (name : String) : Work Entry := do
  let progress <- progressOf name
  match progress.entry with
  | some entry => return entry
  | none =>
    let entry := ((<- get).entries[name]?).getD {}
    let entry <-
      if entry.recipe.isSome || !entry.doubles.isEmpty || (<- isPhony name) then pure entry
      else match <- findWay? 12 [] name with
        | some way =>
          pure { entry with
            prerequisites := way.prerequisites ++ entry.prerequisites
            recipe := way.recipe, stem := some way.stem, group := way.others }
        | none =>
          let otherwise := (<- get).entries[".DEFAULT"]?
          match otherwise with
          | some default =>
            if entry.isTarget || (<- placeOf? name).isSome then pure entry
            else pure { entry with recipe := default.recipe }
          | none => pure entry
    changeProgress name ({ · with entry := some entry })
    return entry

def touchFile (name : String) : Work Unit := do
  if !(<- get).manner.isSilent then sayLine s!"touch {name}"
  modify fun state => { state with started := state.started + 1 }
  let time := (<- act get).files.clock
  if (<- act get).files.exists? (pathOf name) then
    discard <| act (filing (FileTree.setModified (pathOf name) time))
  else discard <| act (filing (FileTree.write (pathOf name) .empty))

mutual

def update : Nat -> Option String -> String -> Work Bool
  | 0, _, _ => return true
  | fuel + 1, parent, name => do
    let progress <- progressOf name
    match progress.stage with
    | .done isFailed => return isFailed
    | .running => return false
    | .waiting =>
      let age <- ageOf name
      changeProgress name ({ · with stage := .running, ageBefore := some age })
      let entry <- wholeEntry name
      let scopes := (<- get).scopes
      let scope <- settingsFor name false
      modify ({ · with scopes := scope :: scopes })
      let failed <-
        if entry.doubles.isEmpty then updateBy fuel parent name entry false
        else
          entry.doubles.foldlM
            (fun failed (prerequisites, recipe) => do
              if failed && !(<- get).manner.goesOn then return true
              let result <- updateBy fuel parent name { entry with prerequisites, recipe } true
              return failed || result)
            false
      modify ({ · with scopes })
      changeProgress name ({ · with stage := .done failed })
      return failed

def updateBy : Nat -> Option String -> String -> Entry -> Bool -> Work Bool
  | 0, _, _, _, _ => return true
  | fuel + 1, parent, name, entry, isDouble => do
    let manner := (<- get).manner
    let age <- presentAgeOnce name
    let isMissing := age = .missing
    let (failed, found) <- updateAll fuel name age entry.prerequisites []
    let needs := isMissing || found.any (·.2.2)
    let failed <- if needs && !failed then updateBetween fuel name found else pure failed
    if failed then
      if parent.isNone && manner.goesOn && !manner.isDry && !manner.isQuestion then
        complainAt none s!"Target '{name}' not remade because of errors."
      return true
    let anyChanged := found.any fun dependency => !dependency.1.isOrderOnly && dependency.2.1
    let needs :=
      if isDouble && entry.prerequisites.isEmpty then true
      else if !isMissing && entry.isTarget && !anyChanged && entry.recipe.isNone &&
          !manner.isAlways then false
      else if !needs && entry.recipe.isSome && manner.isAlways then true
      else needs
    if !needs then return false
    match entry.recipe with
    | none =>
      if (<- isPhony name) then return false
      else if entry.isTarget then
        if isMissing then changeProgress name ({ · with age := some .newest })
        else changeProgress name ({ · with age := some .newest })
        return false
      else
        noRule name parent
        return true
    | some recipe =>
      let phony <- isPhony name
      if manner.isTouching && !phony then
        touchFile name
        changeProgress name ({ · with age := none })
        return false
      let stem := entry.stem.getD (plainStem (<- knownEndings) name)
      let told := found.map fun (prerequisite, isChanged, isNeeded) =>
        (prerequisite, isChanged || isNeeded || isMissing)
      let automatic <- automaticVariables name stem told
      let scopes := (<- get).scopes
      modify ({ · with scopes := scopes.drop 1 })
      let own <- settingsFor name true
      modify ({ · with scopes })
      let target <- if isMissing then pure name else do pure ((<- placeOf? name).getD name)
      let automatic := automatic.insert "@"
        { value := target, isSimple := true, origin := .automatic }
      if manner.tracesRules then
        let newer := ((automatic["?"]?).map (·.value)).getD ""
        let place := match recipe.place with
          | some place => s!"{place.file}:{numberText place.line}"
          | none => "<builtin>"
        sayLine (if newer.isEmpty then s!"{place}: target '{name}' does not exist"
          else s!"{place}: update target '{name}' due to: {newer}")
      let failed <- withScope own (withScope automatic (runRecipe name recipe))
      if failed then dropFailed name age
      let made : Option Age := if phony then some .missing
        else if manner.isDry then some .newest else none
      changeProgress name ({ · with age := made })
      entry.group.forM fun other =>
        changeProgress other ({ · with age := none, stage := .done failed })
      if (<- progressOf name).isIntermediate && isMissing && !failed then
        modify fun state => { state with intermediates := name :: state.intermediates }
      return failed

def presentAgeOnce (name : String) : Work Age := ageOf name

/-- Makes what a target needs.  The results tell whether that has failed, and of each prerequisite
whether it has changed, and whether the target has to be made because of it. -/
def updateAll : Nat -> String -> Age -> List Prerequisite -> List (Prerequisite × Bool × Bool) ->
    Work (Bool × List (Prerequisite × Bool × Bool))
  | 0, _, _, _, done => return (true, done.reverse)
  | _, _, _, [], done => return (false, done.reverse)
  | fuel + 1, name, age, prerequisite :: rest, done => do
    let progress <- progressOf prerequisite.name
    if progress.stage = .running then
      complainAt none s!"Circular {name} <- {prerequisite.name} dependency dropped."
      updateAll fuel name age rest done
    else
      let before <- ageOf prerequisite.name
      if progress.isIntermediate && before = .missing && progress.stage = .waiting then
        -- What is needed in between only is made later, if its own prerequisites ask for it.
        let (failed, inner) <- updateAll fuel prerequisite.name age
          ((progress.entry.map (·.prerequisites)).getD []) []
        let isNeeded := inner.any (·.2.2)
        if failed && !(<- get).manner.goesOn then return (true, done.reverse)
        let (others, found) <- updateAll fuel name age rest ((prerequisite, false, isNeeded) :: done)
        return (failed || others, found)
      else
        let failed <- update fuel (some name) prerequisite.name
        if failed && !(<- get).manner.goesOn then return (true, done.reverse)
        let after <- ageOf prerequisite.name
        let hasRecipe := ((<- progressOf prerequisite.name).entry.bind fun entry =>
          entry.recipe).isSome
        let isChanged := ((<- isPhony prerequisite.name) && hasRecipe) || after ≠ before
        let isNeeded := !prerequisite.isOrderOnly && (after = .missing || after.isAfter age)
        let (others, found) <- updateAll fuel name age rest
          ((prerequisite, isChanged, isNeeded) :: done)
        return (failed || others, found)

def updateBetween : Nat -> String -> List (Prerequisite × Bool × Bool) -> Work Bool
  | 0, _, _ => return true
  | _, _, [] => return false
  | fuel + 1, name, (prerequisite, _, _) :: rest => do
    let failed <- update fuel (some name) prerequisite.name
    if failed && !(<- get).manner.goesOn then return true
    return failed || (<- updateBetween fuel name rest)

end

def mostTargets : Nat := 1000000

def updateGoals : List String -> Work Bool
  | [] => return false
  | name :: rest => do
    let manner := (<- get).manner
    let before := (<- get).started
    let failed <- update mostTargets none name
    let hasStarted := before < (<- get).started
    if failed && !manner.goesOn then return true
    if !failed && !hasStarted && !manner.isSilent && !manner.isQuestion then
      let entry <- wholeEntry name
      let isPlain := (<- isPhony name) || (entry.recipe.isNone && entry.doubles.all (·.2.isNone))
      sayMessage (if isPlain then s!"Nothing to be done for '{name}'."
        else s!"'{name}' is up to date.")
    return failed || (<- updateGoals rest)

def dropIntermediates : Work Unit := do
  let state <- get
  let kept := [".PRECIOUS", ".SECONDARY"].flatMap fun special =>
    ((state.entries[special]?).map fun entry => entry.prerequisites.map fun prerequisite =>
      prerequisite.name).getD []
  let keepsAll := (state.entries[".SECONDARY"]?).any (·.prerequisites.isEmpty)
  let names := state.intermediates.reverse.filter fun name =>
    !keepsAll && !kept.contains name && (state.entries[name]?).isNone
  let there <- names.filterM fun name => do
    return (<- act get).files.exists? (pathOf name) || state.manner.isDry
  if !there.isEmpty then
    if !state.manner.isSilent then sayLine ("rm " ++ " ".intercalate there)
    if !state.manner.isDry then
      there.forM fun name => do discard <| act (filing (FileTree.remove (pathOf name)))

/-! ## The whole work -/

def addEndingRules : Work Unit := do
  let endings <- knownEndings
  let state <- get
  let made := state.order.reverse.filterMap fun name =>
    match state.entries[name]?, patternOfEndings? endings name with
    | some entry, some (target, source) =>
      if entry.isTarget && entry.recipe.isSome && entry.prerequisites.isEmpty then
        some ({ targets := [target], prerequisites := [{ name := source }]
                recipe := entry.recipe } : PatternRule)
      else none
    | _, _ => none
  let usual := if state.manner.hasNoRules || endings.isEmpty then [] else
    usualPatterns.map fun (target, source, text) =>
      ({ targets := [target], prerequisites := [{ name := source }]
         recipe := some { text, place := none } } : PatternRule)
  let isNew (other : PatternRule) : Bool :=
    !(state.patterns ++ made).any fun rule =>
      rule.targets = other.targets && rule.prerequisites = other.prerequisites
  let fromFiles := made.filter fun rule =>
    !state.patterns.any fun other =>
      rule.targets = other.targets && rule.prerequisites = other.prerequisites
  modify fun state => { state with patterns := state.patterns ++ fromFiles ++ usual.filter isNew }

def setVariables (operands : Bool) : Work Unit := do
  let state <- get
  let manner := state.manner
  if !manner.hasNoVariables then
    usualVariables.forM fun (name, value) => defineGlobal name { value, origin := .usual }
  let usual (name value : String) : Work Unit :=
    defineGlobal name { value, isSimple := true, origin := .usual }
  usual "MAKE_VERSION" "4.3"
  usual "MAKE_HOST" "x86_64-pc-linux-gnu"
  usual "MAKE_COMMAND" state.program
  defineGlobal "MAKE" { value := "$(MAKE_COMMAND)", origin := .usual }
  usual ".SHELLFLAGS" "-c"
  usual ".LIBPATTERNS" "lib%.so lib%.a"
  usual "SUFFIXES" (if manner.hasNoRules then "" else " ".intercalate usualEndings)
  usual ".INCLUDE_DIRS" (" ".intercalate (manner.searched ++
    ["/usr/local/include", "/usr/include", "/usr/include"]))
  usual ".FEATURES" ("target-specific order-only second-expansion else-if shortest-stem undefine " ++
    "oneshell nocomment grouped-target extra-prereqs archives jobserver output-sync " ++
    "check-symlink load")
  let current := pathTo (<- act get).files.current
  let origin : Origin := if manner.hasStrongEnvironment then .strongEnvironment else .environment
  state.environment.forM fun (name, value) =>
    if name = "SHELL" || name = "MAKEFLAGS" then pure ()
    else defineGlobal name { value, isSimple := false, origin, exported := some true }
  defineGlobal "SHELL" { value := "/bin/sh", isSimple := true, origin := .usual }
  defineGlobal "CURDIR" { value := current, isSimple := true, origin := .file }
  defineGlobal "MAKELEVEL"
    { value := numberText state.level, isSimple := true, origin := .environment }
  modify fun state => { state with
    globals := state.globals.insert "MAKEFLAGS"
      { value := wholeOptionText manner, isSimple := true, origin := .file } }
  let front := if (optionLetters manner).isEmpty then "" else "-"
  defineGlobal "MFLAGS"
    { value := trimmed (front ++ optionText manner), isSimple := true, origin := .file }
  if operands then
    defineGlobal "MAKECMDGOALS"
      { value := " ".intercalate manner.goals, isSimple := true, origin := .automatic }
  manner.settings.forM fun setting => do
    let some (name, how, value) := assignment? setting | pure ()
    let some facts <- newVariable? wholeEngine (<- lookUp? name) how value .call | pure ()
    modify fun state => { state with
      globals := state.globals.insert name { facts with origin := .call } }

def readAll : Work Unit := do
  let manner := (<- get).manner
  manner.evaluated.forM fun text => do readRules wholeEngine "--eval" text 1
  modify ({ · with place := none })
  if manner.files.isEmpty then
    let tree := (<- act get).files
    match ["GNUmakefile", "makefile", "Makefile"].find? (fun name => tree.exists? (pathOf name)) with
    | some name => match <- act (readNamed name) with
      | .ok bytes => wholeEngine.readFile name (.ofList (Text.octetsOf bytes))
      | .error _ => pure ()
    | none => pure ()
  else
    manner.files.forM fun name => do
      if name = "-" then
        let bytes := (<- act (takeAll standardInput)).getD .empty
        wholeEngine.readFile "-" (.ofList (Text.octetsOf bytes))
      else match <- findRules name with
        | some (path, text) => wholeEngine.readFile path text
        | none =>
          modify fun state => { state with
            missingFiles := state.missingFiles ++ [(name, none, false)] }
  modify ({ · with place := none })

def updateFiles : Work Bool := do
  let state <- get
  let names := state.readFiles.filter (· ≠ "-")
  let known <- names.filterM fun name => do
    let entry := ((<- get).entries[name]?).getD {}
    return (entry.recipe.isSome || !entry.prerequisites.isEmpty) && !(<- isPhony name)
  let changed <- known.filterM fun name => do
    let before <- presentAge name
    if (<- update mostTargets none name) then throw misuse
    return (<- presentAge name) ≠ before
  let missing <- state.missingFiles.filterM fun (name, place, mayLack) => do
    if (<- wholeEntry name).recipe.isSome then
      if (<- update mostTargets none name) && !mayLack then
        complainAt place s!"{name}: No such file or directory"
        throw misuse
      return (<- presentAge name) ≠ .missing
    else
      if !mayLack then
        complainAt place s!"{name}: No such file or directory"
        failAt none s!"No rule to make target '{name}'"
      return false
  return !changed.isEmpty || !missing.isEmpty

def work : Nat -> State -> Work Nat
  | 0, _ => return misuse
  | limit + 1, first => do
    set first
    setVariables (!first.manner.goals.isEmpty)
    readAll
    addEndingRules
    modify ({ · with scopes := [], busy := [] })
    if <- updateFiles then work limit { first with restarts := first.restarts + 1 }
    else
      let state <- get
      let set <- wholeEngine.expand "$(.DEFAULT_GOAL)"
      let goals := if first.manner.goals.isEmpty then (wordsOf set) else first.manner.goals
      if goals.isEmpty then
        if state.readFiles.isEmpty && first.manner.evaluated.isEmpty then
          failAt none "No targets specified and no makefile found"
        else failAt none "No targets"
      let goals := goals.map fun name => .ofList (withoutSteps name.length name.toList)
      let failed <- updateGoals goals
      dropIntermediates
      return if failed then misuse else success

/-! ## Calls -/

def optionNames : List (String × Char) :=
  [("always-make", 'B'), ("directory", 'C'), ("environment-overrides", 'e'), ("eval", 'E'),
    ("file", 'f'), ("makefile", 'f'), ("help", 'h'), ("ignore-errors", 'i'), ("include-dir", 'I'),
    ("jobs", 'j'), ("keep-going", 'k'), ("load-average", 'l'), ("max-load", 'l'),
    ("check-symlink-times", 'L'), ("just-print", 'n'), ("dry-run", 'n'), ("recon", 'n'),
    ("old-file", 'o'), ("assume-old", 'o'), ("output-sync", 'O'), ("print-data-base", 'p'),
    ("question", 'q'), ("no-builtin-rules", 'r'), ("no-builtin-variables", 'R'), ("silent", 's'),
    ("quiet", 's'), ("no-silent", 'σ'), ("no-keep-going", 'S'), ("stop", 'S'), ("touch", 't'),
    ("trace", 'τ'), ("version", 'v'), ("print-directory", 'w'), ("no-print-directory", 'ω'),
    ("what-if", 'W'), ("new-file", 'W'), ("assume-new", 'W'), ("warn-undefined-variables", 'υ'),
    ("debug", 'd')]

def lettersWithValue : Chars := ['C', 'E', 'f', 'I', 'o', 'W']

def plainLetters : Chars :=
  ['b', 'm', 'B', 'd', 'e', 'h', 'i', 'k', 'L', 'n', 'p', 'q', 'r', 'R', 's', 'S', 't', 'v', 'w',
    'σ', 'τ', 'υ', 'ω']

def Manner.add (letter : Char) (value : Option String) : Manner :=
  let text := value.getD ""
  match letter with
  | 'B' => { manner with isAlways := true }
  | 'C' => { manner with folders := manner.folders ++ [text] }
  | 'e' => { manner with hasStrongEnvironment := true }
  | 'E' => { manner with evaluated := manner.evaluated ++ [text] }
  | 'f' => { manner with files := manner.files ++ [text] }
  | 'h' => { manner with tellsHelp := true }
  | 'i' => { manner with ignoresErrors := true }
  | 'I' => { manner with searched := manner.searched ++ [text] }
  | 'j' => { manner with jobs := some text }
  | 'k' => { manner with goesOn := true }
  | 'S' => { manner with goesOn := false }
  | 'n' => { manner with isDry := true }
  | 'o' => { manner with oldFiles := manner.oldFiles ++ [text] }
  | 'p' => { manner with tellsData := true }
  | 'q' => { manner with isQuestion := true }
  | 'r' => { manner with hasNoRules := true }
  | 'R' => { manner with hasNoVariables := true, hasNoRules := true }
  | 's' => { manner with isSilent := true }
  | 'σ' => { manner with isSilent := false }
  | 't' => { manner with isTouching := true }
  | 'v' => { manner with tellsVersion := true }
  | 'w' => { manner with tellsFolder := some true }
  | 'ω' => { manner with tellsFolder := some false }
  | 'W' => { manner with newFiles := manner.newFiles ++ [text] }
  | 'υ' => { manner with warnsUndefined := true }
  | 'τ' => { manner with tracesRules := true }
  | _ => manner

def isNumber (text : String) : Bool := (digitsValue? text).isSome

def Manner.letters (next : Option String) : Manner -> Chars -> Except String (Manner × Bool)
  | manner, [] => .ok (manner, false)
  | manner, letter :: rest =>
    let text := .ofList rest
    if lettersWithValue.contains letter then
      if !rest.isEmpty then .ok (manner.add letter (some text), false)
      else match next with
        | some value => .ok (manner.add letter (some value), true)
        | none => .error s!"option requires an argument -- '{String.singleton letter}'"
    else if letter = 'j' || letter = 'l' then
      let digits := rest.takeWhile fun c => Text.isDigit c || (letter = 'l' && c = '.')
      if !digits.isEmpty then
        letters next (manner.add letter (some (.ofList digits))) (rest.drop digits.length)
      else if rest.isEmpty && next.any isNumber then .ok (manner.add letter next, true)
      else letters next (manner.add letter (some "")) rest
    else if letter = 'O' then .ok (manner, false)
    else if plainLetters.contains letter then letters next (manner.add letter none) rest
    else .error s!"invalid option -- '{String.singleton letter}'"
termination_by _ letters => letters.length
decreasing_by all_goals (simp only [List.length_cons, List.length_drop]; omega)

def Manner.read : Nat -> Manner -> List String -> Except String Manner
  | 0, manner, _ => .ok manner
  | _, manner, [] => .ok manner
  | limit + 1, manner, argument :: rest =>
    let operand (manner : Manner) (argument : String) : Manner :=
      if (assignment? argument).isSome && argument.toList.contains '=' then
        { manner with settings := manner.settings ++ [argument] }
      else { manner with goals := manner.goals ++ [argument] }
    match argument.toList with
    | ['-', '-'] => .ok (rest.foldl operand manner)
    | '-' :: '-' :: word => do
      let name := .ofList (word.takeWhile (· != '='))
      let value := if name.length < word.length then
          some (.ofList (word.drop (name.length + 1))) else none
      let exact := optionNames.filter (·.1 = name)
      let fitting := if exact.isEmpty then optionNames.filter (·.1.startsWith name) else exact
      match fitting with
      | [] => throw s!"unrecognized option '--{name}'"
      | (_, letter) :: _ =>
        if lettersWithValue.contains letter && value.isNone then
          match rest with
          | value :: rest => Manner.read limit (manner.add letter (some value)) rest
          | [] => throw s!"option '--{name}' requires an argument"
        else if letter = 'j' && value.isNone then
          match rest with
          | value :: others =>
            if isNumber value then Manner.read limit (manner.add 'j' (some value)) others
            else Manner.read limit (manner.add 'j' (some "")) rest
          | [] => Manner.read limit (manner.add 'j' (some "")) rest
        else Manner.read limit (manner.add letter value) rest
    | '-' :: first :: letters => do
      let (manner, isTaken) <- manner.letters rest.head? (first :: letters)
      Manner.read limit manner (if isTaken then rest.drop 1 else rest)
    | _ => Manner.read limit (operand manner argument) rest

def toldArguments (text : String) : List String := match text.toList with
  | [] => []
  | first :: _ =>
    let words := go (text.length + 1) text.toList []
    match words with
    | word :: rest =>
      if first = ' ' || word.startsWith "-" || word.toList.contains '=' then word :: rest
      else ("-" ++ word) :: rest
    | [] => []
where
  go : Nat -> Chars -> Chars -> List String
    | 0, _, _ => []
    | _, [], current => if current.isEmpty then [] else [.ofList current.reverse]
    | limit + 1, '\\' :: c :: rest, current => go limit rest (c :: current)
    | limit + 1, c :: rest, current =>
      if isBlank c then
        if current.isEmpty then go limit rest [] else .ofList current.reverse :: go limit rest []
      else go limit rest (c :: current)

def usageLines : List String :=
  ["Usage: make [options] [target] ...", "Options:",
    "  -b, -m                      Ignored for compatibility.",
    "  -B, --always-make           Unconditionally make all targets.",
    "  -C DIRECTORY, --directory=DIRECTORY",
    "                              Change to DIRECTORY before doing anything.",
    "  -d                          Print lots of debugging information.",
    "  --debug[=FLAGS]             Print various types of debugging information.",
    "  -e, --environment-overrides",
    "                              Environment variables override makefiles.",
    "  -E STRING, --eval=STRING    Evaluate STRING as a makefile statement.",
    "  -f FILE, --file=FILE, --makefile=FILE",
    "                              Read FILE as a makefile.",
    "  -h, --help                  Print this message and exit.",
    "  -i, --ignore-errors         Ignore errors from recipes.",
    "  -I DIRECTORY, --include-dir=DIRECTORY",
    "                              Search DIRECTORY for included makefiles.",
    "  -j [N], --jobs[=N]          Allow N jobs at once; infinite jobs with no arg.",
    "  -k, --keep-going            Keep going when some targets can't be made.",
    "  -l [N], --load-average[=N], --max-load[=N]",
    "                              Don't start multiple jobs unless load is below N.",
    "  -L, --check-symlink-times   Use the latest mtime between symlinks and target.",
    "  -n, --just-print, --dry-run, --recon",
    "                              Don't actually run any recipe; just print them.",
    "  -o FILE, --old-file=FILE, --assume-old=FILE",
    "                              Consider FILE to be very old and don't remake it.",
    "  -O[TYPE], --output-sync[=TYPE]",
    "                              Synchronize output of parallel jobs by TYPE.",
    "  -p, --print-data-base       Print make's internal database.",
    "  -q, --question              Run no recipe; exit status says if up to date.",
    "  -r, --no-builtin-rules      Disable the built-in implicit rules.",
    "  -R, --no-builtin-variables  Disable the built-in variable settings.",
    "  -s, --silent, --quiet       Don't echo recipes.",
    "  --no-silent                 Echo recipes (disable --silent mode).",
    "  -S, --no-keep-going, --stop",
    "                              Turns off -k.",
    "  -t, --touch                 Touch targets instead of remaking them.",
    "  --trace                     Print tracing information.",
    "  -v, --version               Print the version number of make and exit.",
    "  -w, --print-directory       Print the current directory.",
    "  --no-print-directory        Turn off -w, even if it was turned on implicitly.",
    "  -W FILE, --what-if=FILE, --new-file=FILE, --assume-new=FILE",
    "                              Consider FILE to be infinitely new.",
    "  --warn-undefined-variables  Warn when an undefined variable is referenced.", "",
    "This program built for x86_64-pc-linux-gnu", "Report bugs to <bug-make@gnu.org>"]

def goTo : List String -> Act (Option String)
  | [] => return none
  | folder :: rest => do
    let files := (<- get).files
    match files.find (pathOf folder), files.locate (pathOf folder) with
    | .ok _, .ok place =>
      if files.hasFolder (pathOf folder) then
        modify fun session => { session with files := { session.files with current := place } }
        goTo rest
      else return some s!"{folder}: Not a directory"
    | .error fault, _ => return some s!"{folder}: {wording fault}"
    | _, .error fault => return some s!"{folder}: {wording fault}"

end Rebuilding

def rebuild : Program := fun services program arguments => do
  let environment := (<- get).environment
  let told := Rebuilding.toldArguments ((environment.lookup "MAKEFLAGS").getD "")
  let level := ((environment.lookup "MAKELEVEL").bind digitsValue?).getD 0
  let name := if level = 0 then program else s!"{program}[{numberText level}]"
  let inherited := (Rebuilding.Manner.read (told.length + 1) {} told).toOption.getD {}
  let inherited := { inherited with goals := [] }
  match Rebuilding.Manner.read (arguments.length + 1) inherited arguments with
  | .error message =>
    discard <| putText standardError
      (s!"{name}: {message}\n" ++ .join (Rebuilding.usageLines.map (· ++ "\n")))
    return misuse
  | .ok manner =>
    if manner.tellsHelp then answerLines program Rebuilding.usageLines
    else if manner.tellsVersion then
      answerLines program ["GNU Make 4.3", "Built for x86_64-pc-linux-gnu"]
    else match <- Rebuilding.goTo manner.folders with
      | some fault =>
        discard <| putText standardError s!"{name}: *** {fault}.  Stop.\n"
        return misuse
      | none =>
        let tells := match manner.tellsFolder with
          | some tells => tells
          | none => !manner.isSilent && (!manner.folders.isEmpty || 0 < level)
        let manner := { manner with tellsFolder := if tells then some true else manner.tellsFolder }
        let current := pathTo (<- get).files.current
        if tells then discard <| putText standardOutput s!"{name}: Entering directory '{current}'\n"
        let state : Rebuilding.State := { services, program, manner, level, environment }
        let status <-
          match <- ((Rebuilding.work 10 state).run state).run with
          | .ok (status, _) => pure status
          | .error status => pure status
        if tells then discard <| putText standardOutput s!"{name}: Leaving directory '{current}'\n"
        return status

end Shell
end BaseLanguage
