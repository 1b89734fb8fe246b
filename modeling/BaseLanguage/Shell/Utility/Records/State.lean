import BaseLanguage.Shell.Utility.Records.Syntax
import BaseLanguage.Shell.Utility.Running

namespace BaseLanguage.Shell.Records

open Text

/-!
# Patterns of programs on records

Patterns are extended regular expressions in which letters behind a backslash stand for characters,
also inside of brackets, and braces are characters.
-/

def patternSigns : Chars :=
  ['^', '.', '$', '|', '(', ')', '[', ']', '*', '+', '?', '\\', '\x7b', '\x7d']

def asItself (c : Char) : Chars := if patternSigns.contains c then ['\\', c] else [c]

def asMember (c : Char) : Chars :=
  if [']', '\\', '-', '^', '['].contains c then ['[', '.', c, '.', ']'] else [c]

def escapedChar (text : Chars) : Char × Chars := match text with
  | [] => ('\\', [])
  | c :: rest => match escapeAt text with
    | ([value], behind) => (value, behind)
    | _ => (c, rest)

def setText : Nat -> Chars -> Chars -> Chars × Chars
  | 0, text, done => (done.reverse, text)
  | _, [], done => (done.reverse, [])
  | limit + 1, '\\' :: rest, done =>
    let (c, behind) := escapedChar rest
    setText limit behind ((asMember c).reverse ++ done)
  | limit + 1, '[' :: sign :: rest, done =>
    if sign = ':' then
      let inside := rest.takeWhile (· != ':')
      match rest.drop inside.length with
      | ':' :: ']' :: behind =>
        setText limit behind ([']', ':'] ++ inside.reverse ++ [':', '['] ++ done)
      | _ => setText limit (sign :: rest) ((asMember '[').reverse ++ done)
    else setText limit (sign :: rest) ((asMember '[').reverse ++ done)
  | limit + 1, c :: rest, done =>
    if c = ']' then ((']' :: done).reverse, rest) else setText limit rest (c :: done)

def patternText : Nat -> Chars -> Chars -> Chars
  | 0, _, done => done.reverse
  | _, [], done => done.reverse
  | limit + 1, '\\' :: rest, done => match rest with
    | [] => patternText limit [] ('\\' :: '\\' :: done)
    | c :: _ =>
      let (value, behind) := escapedChar rest
      let octets := if patternSigns.contains c || c = '/' then asItself c else asItself value
      patternText limit behind (octets.reverse ++ done)
  | limit + 1, '[' :: rest, done =>
    let opposite := if rest.head? == some '^' then ['^'] else []
    let behind := rest.drop opposite.length
    let first := if behind.head? == some ']' then [']'] else []
    let (inside, behind) := setText limit (behind.drop first.length) []
    patternText limit behind (inside.reverse ++ first ++ opposite ++ '[' :: done)
  | limit + 1, c :: rest, done =>
    if c = '\x7b' || c = '\x7d' then patternText limit rest (c :: '\\' :: done)
    else patternText limit rest (c :: done)

/-- Whether something that is to be repeated, or that is to match instead of something else, is
missing.  The pattern begins anew behind some signs. -/
def lacksOperand : Nat -> Bool -> Chars -> Bool
  | 0, _, _ => false
  | _, begins, [] => begins
  | limit + 1, _, '\\' :: _ :: rest => lacksOperand limit false rest
  | limit + 1, _, '[' :: rest =>
    let (_, behind) := setText limit (rest.drop 1) []
    lacksOperand limit false behind
  | limit + 1, begins, c :: rest =>
    if c = '|' then begins || lacksOperand limit true rest
    else if c = '*' || c = '+' || c = '?' then begins || lacksOperand limit false rest
    else if c = '(' then
      if rest.head? == some ')' then lacksOperand limit false (rest.drop 1)
      else lacksOperand limit (!rest.isEmpty) rest
    else lacksOperand limit false rest

def patternFault (octets kind : String) : String :=
  s!"regular expression compile failed ({kind})\n{octets}"

def Matcher.ofOctets (octets : String) : Except String Matcher :=
  let text := octets.toList
  if !text.isEmpty && lacksOperand (text.length + 1) true text then
    .error (patternFault octets "missing operand")
  else match Regex.parse ⟨true, true, false⟩ (patternText (text.length + 1) text []) with
    | .ok (regex, _) => .ok { octets, regex }
    | .error .unclosedGroup => .error (patternFault octets "missing ')'")
    | .error .nothingToRepeat => .error (patternFault octets "missing operand")
    | .error _ => .error (patternFault octets "bad class -- [], [^] or [")

def Matcher.find? (matcher : Matcher) (octets : String) : Option Found :=
  matcher.regex.search? { text := octets.toList.toArray } 0

def Matcher.accepts (matcher : Matcher) (octets : String) : Bool := (matcher.find? octets).isSome

/-! ## Parts of a text -/

inductive Separator where
  | blanks
  | nothing
  | char (c : Char)
  | pattern (matcher : Matcher)

def partsBetween (regex : Regex) (subject : Subject) : Nat -> Nat -> Nat -> List Chars -> List Chars
  | 0, first, _, done => (subject.between first subject.text.size :: done).reverse
  | limit + 1, first, start, done => match regex.search? subject start with
    | none => (subject.between first subject.text.size :: done).reverse
    | some found =>
      if found.ending = found.start then
        if found.start < subject.text.size then
          partsBetween regex subject limit first (found.start + 1) done
        else (subject.between first subject.text.size :: done).reverse
      else
        partsBetween regex subject limit found.ending found.ending
          (subject.between first found.start :: done)

def partsAtBlanks (isBlank : Char -> Bool) (text : Chars) : List Chars :=
  let (current, done) := text.foldl
    (fun ((current, done) : Chars × List Chars) c =>
      if isBlank c then
        if current.isEmpty then ([], done) else ([], current.reverse :: done)
      else (c :: current, done))
    ([], [])
  (if current.isEmpty then done else current.reverse :: done).reverse

def Separator.parts (separator : Separator) (octets : String) : List String :=
  let text := octets.toList
  if text.isEmpty then []
  else
    let found : List Chars := match separator with
      | .blanks => partsAtBlanks (fun c => c = ' ' || c = '\t' || c = '\n') text
      | .nothing => text.map ([·])
      | .char c => pieces c text
      | .pattern matcher =>
        partsBetween matcher.regex { text := text.toArray } (text.length + 1) 0 0 []
    found.map .ofList

/-! ## Replacing -/

def replacementOf (found : Chars) : Nat -> Chars -> Chars -> Chars
  | 0, _, done => done.reverse
  | _, [], done => done.reverse
  | limit + 1, '\\' :: '&' :: rest, done => replacementOf found limit rest ('&' :: done)
  | limit + 1, '\\' :: '\\' :: '&' :: rest, done =>
    replacementOf found limit rest (found.reverse ++ '\\' :: done)
  | limit + 1, '\\' :: '\\' :: rest, done =>
    if isRun rest then replacementOf found limit rest ('\\' :: done)
    else replacementOf found limit rest ('\\' :: '\\' :: done)
  | limit + 1, c :: rest, done =>
    if c = '&' then replacementOf found limit rest (found.reverse ++ done)
    else replacementOf found limit rest (c :: done)
where
  isRun (text : Chars) : Bool := (text.dropWhile (· == '\\')).head? == some '&'

/-- Replaces matches from a place on, and counts them.  An empty match right behind another one does
not count. -/
def replaceAllFrom (regex : Regex) (subject : Subject) (once : Bool) (new : Chars) :
    Nat -> Nat -> Option Nat -> Nat -> List Chars -> Chars × Nat
  | 0, start, _, count, done => finish start count done
  | limit + 1, start, before, count, done =>
    if subject.text.size < start || (once && 0 < count) then finish start count done
    else match regex.search? subject start with
      | none => finish start count done
      | some found =>
        let front := subject.between start found.start
        let next := subject.between found.ending (found.ending + 1)
        let shown := replacementOf (subject.between found.start found.ending)
          (new.length + 1) new []
        if found.ending = found.start then
          if before == some found.start then
            replaceAllFrom regex subject once new limit (found.ending + 1) none count
              (next :: front :: done)
          else if once then finish found.ending (count + 1) (shown :: front :: done)
          else
            replaceAllFrom regex subject once new limit (found.ending + 1) none (count + 1)
              (next :: shown :: front :: done)
        else
          replaceAllFrom regex subject once new limit found.ending (some found.ending)
            (count + 1) (shown :: front :: done)
where
  finish (start count : Nat) (done : List Chars) : Chars × Nat :=
    ((subject.between start subject.text.size :: done).reverse.flatten, count)

def Matcher.replace (matcher : Matcher) (once : Bool) (new octets : String) : String × Nat :=
  let text := octets.toList
  let (said, count) := replaceAllFrom matcher.regex { text := text.toArray } once new.toList
    (text.length + 2) 0 none 0 []
  (.ofList said, count)

/-!
## Numbers without order

A row of numbers seems to have no order: each is the sum of one that lies three places back and of
one that lies thirty-one places back, without its last bit.  The first ones are made from a number
that is given, so that the same number leads to the same row.
-/

structure Chance where
  terms : Array UInt32
  place : Nat := 0
  deriving Inhabited

namespace Chance

def span : Nat := 31

def nextFirst (value : Nat) : Nat := 16807 * value % 2147483647

def next (chance : Chance) : UInt32 × Chance :=
  let before := chance.terms.getD ((chance.place + span - 3) % span) 0
  let value := chance.terms.getD chance.place 0 + before
  (value >>> 1, ⟨chance.terms.set! chance.place value, (chance.place + 1) % span⟩)

def skip : Nat -> Chance -> Chance
  | 0, chance => chance
  | count + 1, chance => skip count chance.next.2

def ofSeed (seed : UInt32) : Chance :=
  let first := if seed = 0 then 1 else seed.toNat
  let step (state : Array UInt32 × Nat) : Array UInt32 × Nat :=
    (state.1.push state.2.toUInt32, nextFirst state.2)
  let terms := (Nat.repeat step span (#[], first)).1
  skip 310 ⟨terms, 0⟩

def draw (chance : Chance) : Float × Chance :=
  let (value, chance) := chance.next
  (value.toFloat / 2147483647, chance)

end Chance

/-!
## The state of a program on records

A program has variables, the present record with its fields, the streams that it reads and those
that it writes.  Fields are found once they are asked for, and a record whose fields were changed is
put together again once it is.
-/

inductive Slot where
  | vacant
  | promised (number : Nat)
  | cell (cell : Cell)
  | table (number : Nat)

structure Inlet where
  stream : Nat
  rest : Chars := []
  ended : Bool := false
  process : Option Nat := none

structure Sink where
  outlet : Outlet
  name : String
  stream : Nat
  held : List String := []
  process : Option Nat := none

inductive Interrupt where
  | leave
  | again
  | nextRecord
  | nextFile
  | giveBack (cell : Cell)
  | exit
  | fault (message : String)

structure State where
  globals : Std.HashMap String Slot := ∅
  frame : Array Slot := #[]
  tables : Array Table := #[]
  record : Cell := .unset
  fields : Option (Array Cell) := none
  isStale : Bool := false
  main : Option Inlet := none
  mainEnded : Bool := false
  operand : Nat := 1
  hasRead : Bool := false
  inlets : List ((Bool × String) × Inlet) := []
  sinks : List Sink := []
  said : List String := []
  size : Nat := 0
  status : Nat := 0
  begun : List Nat := []
  chance : Chance := default
  seed : Cell := .number 0
  matchers : List (String × Matcher) := []

abbrev Machine := ExceptT Interrupt (StateT State Act)

def runFault (message : String) : Machine α := do throw (.fault message)

/-! ## Variables -/

def globalSlot (name : String) : Machine Slot := do return (<- get).globals.getD name .vacant

def setGlobal (name : String) (slot : Slot) : Machine Unit :=
  modify (fun state => { state with globals := state.globals.insert name slot })

def global (name : String) : Machine Cell := do
  match <- globalSlot name with
  | .cell cell => return cell
  | _ => return .unset

def usualFormNow : Machine String := do return (<- global "CONVFMT").textBy usualForm

def textOf (cell : Cell) : Machine String := do
  match cell with
  | .number value => match whole? value with
    | some whole => return .ofList (signedDecimal whole)
    | none => return numberTextBy (<- usualFormNow) value
  | cell => return cell.textBy usualForm

def globalText (name : String) : Machine String := do textOf (<- global name)

def matcherNow (octets : String) : Machine Matcher := do
  match (<- get).matchers.lookup octets with
  | some matcher => return matcher
  | none => match Matcher.ofOctets octets with
    | .ok matcher =>
      modify fun state => { state with matchers := ((octets, matcher) :: state.matchers).take 50 }
      return matcher
    | .error message => runFault message

def separatorNow (octets : String) : Machine Separator := do
  match octets.toList with
  | [] => return .nothing
  | [' '] => return .blanks
  | [c] => return .char c
  | _ => return .pattern (<- matcherNow octets)

/-! ## The record and its fields -/

def recordCell : Machine Cell := do
  let state <- get
  if state.isStale then
    let between <- globalText "OFS"
    let record := .read (between.intercalate (<- (state.fields.getD #[]).toList.mapM textOf))
    modify ({ · with record, isStale := false })
    return record
  else return state.record

def fieldCells : Machine (Array Cell) := do
  match (<- get).fields with
  | some fields => return fields
  | none =>
    let octets <- textOf (<- get).record
    let fields := (((<- separatorNow (<- globalText "FS")).parts octets).map .read).toArray
    modify ({ · with fields := some fields })
    return fields

def setRecord (cell : Cell) : Machine Unit :=
  modify ({ · with record := cell, fields := none, isStale := false })

def setFieldCount (count : Nat) : Machine Unit := do
  let fields <- fieldCells
  let fields :=
    if count < fields.size then fields.extract 0 count
    else fields ++ Array.replicate (count - fields.size) (.text "")
  modify ({ · with fields := some fields, isStale := true })

def fieldCell (number : Int) : Machine Cell := do
  if number < 0 then runFault s!"negative field index ${String.ofList (Text.signedDecimal number)}"
  else if number = 0 then recordCell
  else return (<- fieldCells).getD (number.toNat - 1) (.read "")

def setField (number : Int) (cell : Cell) : Machine Unit := do
  if number < 0 then runFault s!"negative field index ${String.ofList (Text.signedDecimal number)}"
  else if number = 0 then setRecord cell
  else
    let place := number.toNat - 1
    let fields <- fieldCells
    let fields :=
      if place < fields.size then fields
      else fields ++ Array.replicate (place + 1 - fields.size) (.text "")
    modify ({ · with fields := some (fields.set! place cell), isStale := true })

def readGlobal (name : String) : Machine Cell := do
  if name = "NF" then return .number (Float.ofNat (<- fieldCells).size) else global name

/-- Gives a variable of the program a cell.  The fields of the present record are found, and put
together, before their separators change. -/
def writeGlobal (name : String) (cell : Cell) : Machine Unit := do
  if name = "NF" then
    let count := wholeOf cell.value
    if count < 0 then runFault s!"negative value for NF" else setFieldCount count.toNat
  else
    if name = "FS" then discard fieldCells
    if name = "OFS" then discard recordCell
    setGlobal name (.cell cell)

def slotOf (holder : Holder) : Machine Slot := do
  match holder with
  | .everywhere name => globalSlot name
  | .inside index => return (<- get).frame.getD index .vacant

def setSlot (holder : Holder) (slot : Slot) : Machine Unit := do
  match holder with
  | .everywhere name => setGlobal name slot
  | .inside index => modify (fun state => { state with frame := state.frame.set! index slot })

def newTable : Machine Nat := do
  modifyGet fun state => (state.tables.size, { state with tables := state.tables.push {} })

def tableNumber (holder : Holder) : Machine Nat := do
  match <- slotOf holder with
  | .table number => return number
  | .promised number =>
    setSlot holder (.table number)
    return number
  | .vacant =>
    let number <- newTable
    setSlot holder (.table number)
    return number
  | .cell _ => runFault "type error: a scalar is used as an array"

def tableAt (number : Nat) : Machine Table := do return (<- get).tables.getD number {}

def changeTable (number : Nat) (change : Table -> Table) : Machine Unit :=
  modify (fun state => { state with tables := state.tables.modify number change })

def keyOf (cell : Cell) : Machine Key := do
  match cell with
  | .number value => match whole? value with
    | some whole =>
      if -2147483648 < whole && whole < 2147483647 then return .whole whole
      else return .text (.ofList (signedDecimal whole))
    | none => return .text (<- textOf cell)
  | cell => return .text (<- textOf cell)

def readElement (number : Nat) (key : Key) : Machine Cell := do
  changeTable number (·.touch key)
  return (<- tableAt number).get key

def writeElement (number : Nat) (key : Key) (cell : Cell) : Machine Unit :=
  changeTable number (fun table => (table.touch key).put key cell)

end BaseLanguage.Shell.Records
