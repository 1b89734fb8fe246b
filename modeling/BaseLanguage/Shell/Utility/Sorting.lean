import Std.Data.HashMap
import BaseLanguage.Shell.Utility.Options
import BaseLanguage.Text.Binary

namespace BaseLanguage.Shell

open Text

/-!
# Order

`sort` says the lines of files in an order, `comm` compares the lines of two files that are in
order.  Lines are compared by keys, which are parts of them, one key after the other; lines that no
key tells apart are compared as they are.
-/

/-! ## Comparisons -/

def compareTexts : Chars -> Chars -> Ordering
  | [], [] => .eq
  | [], _ :: _ => .lt
  | _ :: _, [] => .gt
  | c :: rest, d :: others => if c = d then compareTexts rest others else compare c d

structure ComparedNumber where
  negative : Bool
  whole : Nat
  places : Chars

namespace ComparedNumber

def read (text : Chars) : ComparedNumber :=
  let text := text.dropWhile (fun c => c = ' ' || c = '\t' || c = '\n')
  let (negative, digits) : Bool × Chars := match text with
    | '-' :: rest => (true, rest)
    | text => (false, text)
  let whole := digits.takeWhile isDigit
  let places := match digits.drop whole.length with
    | '.' :: rest => rest.takeWhile isDigit
    | _ => []
  let places := dropTrailing (· == '0') places
  let value := valueOf whole
  ⟨negative && (value ≠ 0 || !places.isEmpty), value, places⟩

def compareSizes (left right : ComparedNumber) : Ordering :=
  (compare left.whole right.whole).then (compareTexts left.places right.places)

def compared (left right : ComparedNumber) : Ordering := match left.negative, right.negative with
  | false, false => compareSizes left right
  | true, true => compareSizes right left
  | true, false => .lt
  | false, true => .gt

end ComparedNumber

def magnitudeOf (text : Chars) : Nat :=
  let text := text.dropWhile (fun c => c = ' ' || c = '\t' || c = '-')
  let behind := text.dropWhile (fun c => isDigit c || c = '.')
  match behind with
  | c :: _ =>
    let place := ['K', 'M', 'G', 'T', 'P', 'E', 'Z', 'Y'].idxOf c.toUpper
    if place < 8 then place + 1 else 0
  | [] => 0

def compareMagnitudes (left right : Chars) : Ordering :=
  let first := ComparedNumber.read left
  let second := ComparedNumber.read right
  if first.negative || second.negative then first.compared second
  else (compare (magnitudeOf left) (magnitudeOf right)).then (first.compared second)

def realInFront (text : Chars) : Option (Bool × Fraction) :=
  let text := text.dropWhile isSpace
  let (negative, digits) : Bool × Chars := match text with
    | '-' :: rest => (true, rest)
    | '+' :: rest => (false, rest)
    | text => (false, text)
  let whole := digits.takeWhile isDigit
  let (places, behind) : Chars × Chars := match digits.drop whole.length with
    | '.' :: rest =>
      let places := rest.takeWhile isDigit
      (places, rest.drop places.length)
    | rest => ([], rest)
  if whole.isEmpty && places.isEmpty then none
  else
    let exponent : Int := match behind with
      | e :: rest =>
        if e = 'e' || e = 'E' then
          match rest with
          | '-' :: digits => -((valueOf (digits.takeWhile isDigit) : Nat) : Int)
          | '+' :: digits => valueOf (digits.takeWhile isDigit)
          | digits => valueOf (digits.takeWhile isDigit)
        else 0
      | [] => 0
    let bounded := max (-400) (min 400 exponent)
    some (negative, (Fraction.ofNat (valueOf (whole ++ places))).scale 10 (bounded - places.length))

def compareReals (left right : Chars) : Ordering :=
  match realInFront left, realInFront right with
  | none, none => .eq
  | none, some _ => .lt
  | some _, none => .gt
  | some (minus, first), some (other, second) =>
    let isZero := first.numerator = 0 && second.numerator = 0
    let sizes : Ordering :=
      if first.less second then .lt else if second.less first then .gt else .eq
    if isZero then .eq
    else match minus, other with
      | false, false => sizes
      | true, true => sizes.swap
      | true, false => .lt
      | false, true => .gt

def monthOf (text : Chars) : Nat :=
  let name := ((text.dropWhile isSpace).take 3).map Char.toUpper
  let months := wordsIn "JAN FEB MAR APR MAY JUN JUL AUG SEP OCT NOV DEC"
  let place := months.idxOf (.ofList name)
  if place < 12 then place + 1 else 0

def versionWeight : Chars -> Int
  | [] => -1
  | c :: _ =>
    if isDigit c then 0
    else if c.isAlpha then c.toNat
    else if c = '~' then -2
    else c.toNat + 256

/-- The order of names of versions: what is no digit is compared by weight, digits as numbers. -/
def compareVersions : Nat -> Chars -> Chars -> Ordering
  | 0, _, _ => .eq
  | _, [], [] => .eq
  | limit + 1, left, right =>
    let isMark (text : Chars) : Bool := text.head?.any (!isDigit ·)
    if isMark left || isMark right then
      match compare (versionWeight left) (versionWeight right) with
      | .eq => compareVersions limit (left.drop 1) (right.drop 1)
      | order => order
    else
      let first := left.takeWhile isDigit
      let second := right.takeWhile isDigit
      match compare (valueOf first) (valueOf second) with
      | .eq => compareVersions limit (left.drop first.length) (right.drop second.length)
      | order => order

inductive EndingState where
  | none
  | dot
  | inside
  | broken
  deriving DecidableEq

def EndingState.next (state : EndingState) (c : Char) : EndingState := match state with
  | .none => if c = '.' then .dot else .broken
  | .dot => if c.isAlpha || c = '~' then .inside else .broken
  | .inside =>
    if c = '.' then .dot
    else if isAlphanumeric c || c = '~' then .inside
    else .broken
  | .broken => .broken

def isEndings (text : Chars) : Bool :=
  let state := text.foldl EndingState.next .none
  state = .none || state = .inside

def withoutEndings : Chars -> Chars
  | [] => []
  | c :: rest => if isEndings rest then [c] else c :: withoutEndings rest

def compareVersionNames (left right : Chars) : Ordering :=
  let isHidden (text : Chars) : Bool := text.head? == some '.'
  let rank (text : Chars) : Nat :=
    if text.isEmpty then 0
    else if text = ['.'] then 1
    else if text = ['.', '.'] then 2
    else if isHidden text then 3
    else 4
  let limit := left.length + right.length + 1
  ((compare (rank left) (rank right)).then
    (compareVersions limit (withoutEndings left) (withoutEndings right))).then
    (compareVersions limit left right)

/-! ## Keys -/

structure KeyOrder where
  way : Option Char := none
  folds : Bool := false
  words : Bool := false
  visible : Bool := false
  reverse : Bool := false
  skipsBlanks : Bool := false
  skipsEndBlanks : Bool := false

namespace KeyOrder

def isPlain (order : KeyOrder) : Bool :=
  order.way.isNone && !order.folds && !order.words && !order.visible && !order.reverse &&
    !order.skipsBlanks && !order.skipsEndBlanks

def withLetter? (atEnd : Bool) (order : KeyOrder) : Char -> Option KeyOrder
  | 'b' => some (if atEnd then { order with skipsEndBlanks := true }
      else { order with skipsBlanks := true })
  | 'd' => some { order with words := true }
  | 'f' => some { order with folds := true }
  | 'i' => some { order with visible := true }
  | 'r' => some { order with reverse := true }
  | letter =>
    if ['g', 'h', 'M', 'n', 'R', 'V'].contains letter then some { order with way := some letter }
    else none

def counted (order : KeyOrder) (text : Chars) : Chars :=
  let text := if order.words then text.filter (fun c => c = ' ' || c = '\t' || isAlphanumeric c)
    else text
  let text := if order.visible then text.filter (fun c => ' ' <= c && c <= '~') else text
  if order.folds then text.map Char.toUpper else text

def compare (order : KeyOrder) (left right : Chars) : Ordering :=
  let result := match order.way with
    | some 'n' => (ComparedNumber.read left).compared (ComparedNumber.read right)
    | some 'g' => compareReals left right
    | some 'h' => compareMagnitudes left right
    | some 'M' => Ord.compare (monthOf left) (monthOf right)
    | some 'V' => compareVersionNames left right
    | _ => compareTexts (order.counted left) (order.counted right)
  if order.reverse then result.swap else result

end KeyOrder

/-- A part of a line by which it is compared: from a character of a field up to one of another
field, or up to the end of that field, or of the line. -/
structure SortKey where
  field : Nat := 0
  char : Nat := 0
  last : Option (Nat × Nat) := none
  order : KeyOrder := {}

namespace SortKey

def behindFields (separator : Option Char) : Nat -> Chars -> Chars
  | 0, text => text
  | count + 1, text => match separator with
    | some c => behindFields separator count ((text.dropWhile (· != c)).drop 1)
    | none =>
      let blank (c : Char) : Bool := c = ' ' || c = '\t' || c = '\n'
      behindFields separator count ((text.dropWhile blank).dropWhile (!blank ·))

def behindKey (separator : Option Char) (skips : Bool) (field char : Nat) (text : Chars) : Chars :=
  let blank (c : Char) : Bool := c = ' ' || c = '\t' || c = '\n'
  if char = 0 then
    match separator with
    | some c => (behindFields separator field text).dropWhile (· != c)
    | none => behindFields separator (field + 1) text
  else
    let start := behindFields separator field text
    (if skips then start.dropWhile blank else start).drop char

def part (separator : Option Char) (key : SortKey) (line : Chars) : Chars :=
  let blank (c : Char) : Bool := c = ' ' || c = '\t' || c = '\n'
  let start := behindFields separator key.field line
  let start := (if key.order.skipsBlanks then start.dropWhile blank else start).drop key.char
  match key.last with
  | none => start
  | some (field, char) =>
    let behind := behindKey separator key.order.skipsEndBlanks field char line
    start.take (start.length - behind.length)

def count? (text : Chars) : Option (Nat × Chars) :=
  let digits := text.takeWhile isDigit
  if digits.isEmpty then none else some (valueOf digits, text.drop digits.length)

def readLetters (atEnd : Bool) : KeyOrder -> Chars -> KeyOrder × Chars
  | order, [] => (order, [])
  | order, c :: rest => match order.withLetter? atEnd c with
    | some order => readLetters atEnd order rest
    | none => (order, c :: rest)

def readCount (fault zero : String) (whole : String) (mayBeZero : Bool) (text : Chars) :
    Except String (Nat × Chars) :=
  match count? text with
  | none => .error s!"{fault}: invalid count at start of {quoted (String.ofList text)}"
  | some (0, rest) =>
    if mayBeZero then .ok (0, rest)
    else .error s!"{zero}: invalid field specification {quoted whole}"
  | some found => .ok found

def read (text : String) : Except String SortKey := do
  let (field, rest) <-
    readCount "invalid number at field start" "field number is zero" text false text.toList
  let (char, rest) <-
    match rest with
    | '.' :: rest => readCount "invalid number after '.'" "character offset is zero" text false rest
    | rest => pure (1, rest)
  let (order, rest) := readLetters false {} rest
  let (last, order, rest) <-
    match rest with
    | ',' :: rest => do
      let (field, rest) <-
        readCount "invalid number after ','" "field number is zero" text false rest
      let (char, rest) <-
        match rest with
        | '.' :: rest => readCount "invalid number after '.'" "" text true rest
        | rest => pure (0, rest)
      let (order, rest) := readLetters true order rest
      pure (some (field - 1, char), order, rest)
    | rest => pure (none, order, rest)
  if !rest.isEmpty then
    throw s!"stray character in field spec: invalid field specification {quoted text}"
  return { field := field - 1, char := char - 1, last, order }

end SortKey

/-! ## Sorting -/

structure SortRequest where
  separator : Option Char
  keys : List SortKey
  reverse : Bool
  stable : Bool
  unique : Bool

namespace SortRequest

def compareKeys (request : SortRequest) (left right : Chars) : Ordering :=
  request.keys.foldl
    (fun order key => match order with
      | .eq => key.order.compare (key.part request.separator left)
          (key.part request.separator right)
      | order => order)
    .eq

def compare (request : SortRequest) (left right : Chars) : Ordering :=
  match request.compareKeys left right with
  | .eq =>
    if request.stable || request.unique then .eq
    else
      let order := compareTexts left right
      if request.reverse then order.swap else order
  | order => order

def dropEqual (request : SortRequest) : List Chars -> List Chars
  | [] => []
  | first :: rest => match dropEqual request rest with
    | second :: others =>
      if request.compare first second = .eq then first :: others else first :: second :: others
    | [] => [first]

def sorted (request : SortRequest) (lines : List Chars) : List Chars :=
  let sorted := lines.mergeSort (fun left right => request.compare left right != .gt)
  if request.unique then request.dropEqual sorted else sorted

def disorder? (request : SortRequest) : Nat -> List Chars -> Option (Nat × Chars)
  | number, first :: second :: rest =>
    let order := request.compare first second
    if order = .gt || (request.unique && order = .eq) then some (number + 1, second)
    else disorder? request (number + 1) (second :: rest)
  | _, _ => none

end SortRequest

def sortOptions : OptionTable where
  letters := "bdfgiMhnRrVcCk:mo:S:st:T:uzW:P:"
  words := [("ignore-leading-blanks", 'b'), ("dictionary-order", 'd'), ("ignore-case", 'f'),
    ("general-numeric-sort", 'g'), ("ignore-nonprinting", 'i'), ("month-sort", 'M'),
    ("human-numeric-sort", 'h'), ("numeric-sort", 'n'), ("random-sort", 'R'), ("reverse", 'r'),
    ("version-sort", 'V'), ("check", 'c'), ("key", 'k'), ("merge", 'm'), ("output", 'o'),
    ("stable", 's'), ("buffer-size", 'S'), ("field-separator", 't'),
    ("temporary-directory", 'T'), ("unique", 'u'), ("zero-terminated", 'z'), ("sort", 'W'),
    ("parallel", 'P')]
  status := 2

def separatorOf (text : Option String) : Except String (Option Char) :=
  match text.map String.toList with
  | none => .ok none
  | some [] => .error "empty tab"
  | some [c] => .ok (some c)
  | some ['\\', '0'] => .ok (some (Char.ofNat 0))
  | some text => .error s!"multi-character tab {quoted (String.ofList text)}"

def waysToSort : List (String × Char) :=
  [("general-numeric", 'g'), ("human-numeric", 'h'), ("month", 'M'), ("numeric", 'n'),
    ("random", 'R'), ("version", 'V')]

def orderLetter (option : Char × String) : Except String Char :=
  if option.1 = 'W' then
    match waysToSort.lookup option.2 with
    | some letter => .ok letter
    | none =>
      let ways := String.join (waysToSort.map fun way => s!"\n  - '{way.1}'")
      let hint := helpHint "sort"
      let shown := plainlyQuoted option.2
      .error s!"invalid argument {shown} for '--sort'\nValid arguments are:{ways}\n{hint}"
  else .ok option.1

def sortRequest (call : ProgramCall) : Except String SortRequest := do
  let letters := (<- call.options.mapM orderLetter).filter "bdfgiMhnRrV".toList.contains
  let order := letters.foldl
    (fun (order : KeyOrder) letter => (order.withLetter? false letter).getD order) {}
  let order := if order.skipsBlanks then { order with skipsEndBlanks := true } else order
  let ways := (letters.filter ['g', 'h', 'M', 'n', 'R', 'V'].contains).eraseDups
  if 1 < ways.length then
    let shown := String.ofList (ways.mergeSort (fun c d => c <= d))
    throw s!"options '-{shown}' are incompatible"
  let keys <- (call.allArguments 'k').mapM SortKey.read
  let separator <- separatorOf (call.argument? 't')
  let keys := keys.map fun key => if key.order.isPlain then { key with order } else key
  let keys := if keys.isEmpty && !{ order with reverse := false }.isPlain then [{ order }] else keys
  return {
    separator
    keys
    reverse := call.has 'r'
    stable := call.has 's'
    unique := call.has 'u' }

def sort : Utility :=
  withOptions sortOptions fun program call => do
    match sortRequest call, call.operands with
    | .error message, _ => complainWith misuse program message
    | .ok request, operands =>
      if let _ :: extra :: _ := operands then
        if let some letter := call.lastOf ['c', 'C'] then
          let option := String.singleton letter
          return <- complainWith misuse program
            s!"extra operand {plainlyQuoted extra} not allowed with -{option}"
      let ending := if call.has 'z' then Char.ofNat 0 else '\n'
      let names := operandsOrInput call.operands
      let contents <- names.mapM fun name => do return (name, <- readOperand name)
      let fault := contents.find? (!·.2.isOk)
      match fault with
      | some (name, .error fault) =>
        let lead := if fault = wording .isFolder then "read failed" else "cannot read"
        complainWith misuse program s!"{lead}: {name}: {fault}"
      | _ =>
        let lines := contents.flatMap fun (_, content) => match content with
          | .ok bytes => linesOf ending (octetsOf bytes)
          | .error _ => []
        if call.has 'c' || call.has 'C' then
          match request.disorder? 1 lines with
          | none => return success
          | some (number, line) =>
            if call.has 'C' then return failure
            else
              let name := names.headD "-"
              complain program s!"{name}:{numberText number}: disorder: {String.ofList line}"
        else
          let request :=
            if request.keys.isEmpty && request.unique then { request with keys := [{}] }
            else request
          let said := (request.sorted lines).flatMap (· ++ [ending])
          match call.argument? 'o' with
          | none => answerText program said
          | some name => match <- writeNamed .writing name (bytesOf said) with
            | .ok () => return success
            | .error fault => complainWith misuse program s!"open failed: {name}: {wording fault}"

/-! ## Comparing -/

structure Comparing where
  found : List (Nat × Chars) := []
  unpaired : Bool := false
  disordered : List Nat := []

def Comparing.check (state : Comparing) (file : Nat) (line : Chars) : List Chars -> Comparing
  | next :: _ =>
    if state.unpaired && compareTexts line next = .gt && !state.disordered.contains file then
      { state with disordered := file :: state.disordered }
    else state
  | [] => state

def compareLines : Nat -> Comparing -> List Chars -> List Chars -> Comparing
  | 0, state, _, _ => state
  | _, state, [], [] => state
  | limit + 1, state, line :: rest, [] =>
    let state := { state with found := (1, line) :: state.found, unpaired := true }
    compareLines limit (state.check 1 line rest) rest []
  | limit + 1, state, [], line :: rest =>
    let state := { state with found := (2, line) :: state.found, unpaired := true }
    compareLines limit (state.check 2 line rest) [] rest
  | limit + 1, state, first :: rest, second :: others => match compareTexts first second with
    | .eq =>
      let state := { state with found := (3, first) :: state.found }
      compareLines limit ((state.check 1 first rest).check 2 second others) rest others
    | .lt =>
      let state := { state with found := (1, first) :: state.found, unpaired := true }
      compareLines limit (state.check 1 first rest) rest (second :: others)
    | .gt =>
      let state := { state with found := (2, second) :: state.found, unpaired := true }
      compareLines limit (state.check 2 second others) (first :: rest) others

def comm : Utility :=
  withOptions
    { letters := "123zO:CNT", words := [("output-delimiter", 'O'), ("zero-terminated", 'z'),
      ("check-order", 'C'), ("nocheck-order", 'N'), ("total", 'T')] }
    fun program call => do
      match call.operands with
      | [] => complainOfMissing program []
      | [only] => complainOfMissing program [only]
      | [first, second] => match <- readOperand first, <- readOperand second with
        | .error fault, _ => complain program s!"{first}: {fault}"
        | _, .error fault => complain program s!"{second}: {fault}"
        | .ok first, .ok second =>
          let ending := if call.has 'z' then Char.ofNat 0 else '\n'
          let left := linesOf ending (octetsOf first)
          let right := linesOf ending (octetsOf second)
          let result := compareLines (left.length + right.length + 1) {} left right
          let gap := ((call.argument? 'O').getD "\t").toList
          let isShown (column : Nat) : Bool :=
            !call.has (if column = 1 then '1' else if column = 2 then '2' else '3')
          let indent (column : Nat) : Chars :=
            ((List.range column).drop 1).flatMap fun other => if isShown other then gap else []
          let said := result.found.reverse.flatMap fun (column, line) =>
            if isShown column then indent column ++ line ++ [ending] else []
          let count (column : Nat) : String :=
            numberText (result.found.filter (·.1 = column)).length
          let totals := List.intercalate gap
            [(count 1).toList, (count 2).toList, (count 3).toList, "total".toList]
          let said := if call.has 'T' then said ++ totals ++ [ending] else said
          let status <- answerText program said
          if result.disordered.isEmpty || call.has 'N' then return status
          else
            result.disordered.reverse.forM fun file =>
              discard <| complain program s!"file {numberText file} is not in sorted order"
            complain program "input is not in sorted order"
      | _ :: _ :: extra :: _ => complainOfExtra program extra

/-!
## Orders that keep what must come first

`tsort` reads pairs of items, of which the first comes before the second, and says all items in an
order that keeps this.  Where items come before one another in a circle, it says the circle and
forgets one of its pairs.
-/

structure PrecedenceItem where
  name : String
  before : Nat := 0
  behind : List Nat := []
  isSaid : Bool := false
  next : Option Nat := none

structure Precedence where
  items : Array PrecedenceItem
  said : List String := []
  complaints : List String := []
  circle : Option Nat := none

namespace Precedence

def pairsOf : List String -> List (String × String)
  | first :: second :: rest => (first, second) :: pairsOf rest
  | _ => []

def ofPairs (pairs : List (String × String)) : Precedence :=
  let names := ((pairs.flatMap (fun pair => [pair.1, pair.2])).mergeSort (fun x y => x <= y)).eraseDups
  let numbers : Std.HashMap String Nat := Std.HashMap.ofList names.zipIdx
  let number (name : String) : Nat := numbers.getD name 0
  let items : Array PrecedenceItem := (names.map fun name => { name }).toArray
  { items := pairs.foldl
      (fun items (first, second) =>
        if first = second then items
        else
          (items.modify (number second) fun item => { item with before := item.before + 1 }).modify
            (number first) fun item => { item with behind := number second :: item.behind })
      items }

def change (order : Precedence) (number : Nat) (change : PrecedenceItem -> PrecedenceItem) :
    Precedence :=
  { order with items := order.items.modify number change }

def item (order : Precedence) (number : Nat) : PrecedenceItem :=
  order.items.getD number { name := "" }

/-- Says items before which nothing comes, and those that this sets free, one after the other. -/
def say : Nat -> List Nat -> List Nat -> Precedence -> Precedence
  | 0, _, _, order => order
  | _, [], [], order => order
  | limit + 1, [], later, order => say limit later.reverse [] order
  | limit + 1, number :: queue, later, order =>
    let order := { order with said := (order.item number).name :: order.said }
    let (order, later) := (order.item number).behind.foldl
      (fun ((order, later) : Precedence × List Nat) other =>
        let order := order.change other fun item => { item with before := item.before - 1 }
        if (order.item other).before = 0 then
          (order.change other fun item => { item with isSaid := true }, other :: later)
        else (order, later))
      (order, later)
    say limit queue later order

def sayFree (order : Precedence) : Precedence :=
  let free := (List.range order.items.size).filter fun number =>
    (order.item number).before = 0 && !(order.item number).isSaid
  let order := free.foldl
    (fun order number => order.change number ({ · with isSaid := true })) order
  order.say (2 * order.items.size + 2) free []

def breakCircle (stop target : Nat) : Nat -> Precedence -> Precedence
  | 0, order => order
  | limit + 1, order => match order.circle with
    | none => order
    | some number =>
      let next := (order.item number).next
      let order := { order with complaints := (order.item number).name :: order.complaints }
      if number = stop then
        let order := order.change target fun item => { item with before := item.before - 1 }
        let order := order.change stop fun item => { item with behind := item.behind.erase target }
        { order with
          circle := none, items := order.items.map fun item => { item with next := none } }
      else
        breakCircle stop target limit
          { order.change number ({ · with next := none }) with circle := next }

def lookAt (order : Precedence) (number : Nat) : Precedence × Bool :=
  let item := order.item number
  if item.before = 0 then (order, false)
  else match order.circle with
    | none => ({ order with circle := some number }, false)
    | some reached =>
      if !item.behind.contains reached then (order, false)
      else if item.next.isSome then (order.breakCircle number reached (order.items.size + 1), true)
      else
        ({ order.change number ({ · with next := some reached }) with
          circle := some number }, false)

def lookAtAll : List Nat -> Precedence -> Precedence
  | [], order => order
  | number :: rest, order => match order.lookAt number with
    | (order, true) => order
    | (order, false) => lookAtAll rest order

def breakOne : Nat -> Precedence -> Precedence
  | 0, order => order
  | limit + 1, order =>
    let order := order.lookAtAll (List.range order.items.size)
    if order.circle.isNone then order else breakOne limit order

def finish (complaint : String) : Nat -> Precedence -> Precedence
  | 0, order => order
  | limit + 1, order =>
    let order := order.sayFree
    if order.said.length = order.items.size then order
    else
      let order := { order with complaints := complaint :: order.complaints }
      finish complaint limit (order.breakOne (order.items.size + 2))

end Precedence

def tsort : Utility :=
  withOptions { letters := "" } fun program call => do
    match call.operands with
    | _ :: extra :: _ => complainOfExtra program extra
    | operands =>
      let name := operands.headD "-"
      match <- readOrComplain program name with
      | none => return failure
      | some text =>
        let isGap (c : Char) : Bool := c = ' ' || c = '\t' || c = '\n'
        let words := (pieces ' ' (text.map fun c => if isGap c then ' ' else c)).filter (!·.isEmpty)
        if words.length % 2 = 1 then
          complain program s!"{quotedIfNeeded name}: input contains an odd number of tokens"
        else
          let order := Precedence.ofPairs (Precedence.pairsOf (words.map .ofList))
          let circle := s!"{quotedIfNeeded name}: input contains a loop:"
          let order := order.finish circle (words.length + 1)
          order.complaints.reverse.forM fun complaint => discard (complain program complaint)
          let status <- answerLines program order.said.reverse
          return if order.complaints.isEmpty then status else failure

end BaseLanguage.Shell
