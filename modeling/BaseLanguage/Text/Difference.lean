namespace BaseLanguage
namespace Text

/-!
# Differences

Two rows of lines are compared by the shortest way from one to the other that leaves out lines of
the first and puts in lines of the second.  A way is searched from both ends at the same time, on
diagonals of lines that are the same, until both searches meet; what lies before and behind the
meeting is compared in the same way.

Lines that the other row does not have are left aside first.  At the end, runs of changed lines are
moved as far back as possible where another line of the run would do as well.
-/

/-- Two rows of lines, given by numbers that are the same for lines that are the same. -/
structure Comparison where
  left : Array Nat
  right : Array Nat

/-- A change from one row to the other: where lines are left out and put in, and how many. -/
structure Change where
  left : Nat
  right : Nat
  removed : Nat
  added : Nat
  deriving Repr, DecidableEq

namespace Comparison

/-- The lines that a way leaves out and puts in. -/
structure Way where
  removed : List Nat := []
  added : List Nat := []

/-- Whether a line of the left row is one of the right row. -/
def isSame (rows : Comparison) (x y : Int) : Bool :=
  match rows.left[x.toNat]?, rows.right[y.toNat]? with
  | some left, some right => left == right
  | _, _ => false

/-- A part of the comparison: from one line on and up to another, in each row. -/
structure Box where
  x : Int
  xEnd : Int
  y : Int
  yEnd : Int

/-- How far lines are the same from two lines on. -/
def forward (rows : Comparison) (box : Box) (diagonal : Int) : Nat -> Int -> Int
  | 0, x => x
  | limit + 1, x =>
    if x < box.xEnd && x - diagonal < box.yEnd && rows.isSame x (x - diagonal) then
      rows.forward box diagonal limit (x + 1)
    else x

def backward (rows : Comparison) (box : Box) (diagonal : Int) : Nat -> Int -> Int
  | 0, x => x
  | limit + 1, x =>
    if box.x < x && box.y < x - diagonal && rows.isSame (x - 1) (x - diagonal - 1) then
      rows.backward box diagonal limit (x - 1)
    else x

/-- How far the searches have come on each diagonal. -/
structure Search where
  box : Box
  /-- The number of the first diagonal that has a place. -/
  first : Int
  fromStart : Array Int
  fromEnd : Array Int
  startLow : Int
  startHigh : Int
  endLow : Int
  endHigh : Int

namespace Search

/-- A number that is greater than any place. -/
def beyond : Int := 1000000000

variable (search : Search)

def reached (diagonal : Int) : Int := search.fromStart.getD (diagonal - search.first).toNat (-1)

def reachedBack (diagonal : Int) : Int := search.fromEnd.getD (diagonal - search.first).toNat beyond

def reach (diagonal x : Int) : Search :=
  { search with fromStart := search.fromStart.set! (diagonal - search.first).toNat x }

def reachBack (diagonal x : Int) : Search :=
  { search with fromEnd := search.fromEnd.set! (diagonal - search.first).toNat x }

def begin (box : Box) : Search :=
  let first := box.x - box.yEnd - 1
  let size := (box.xEnd - box.y - first + 2).toNat
  let start := box.x - box.y
  let ending := box.xEnd - box.yEnd
  let search : Search :=
    { box, first, fromStart := Array.replicate size (-1), fromEnd := Array.replicate size beyond,
      startLow := start, startHigh := start, endLow := ending, endHigh := ending }
  (search.reach start box.x).reachBack ending box.xEnd

def isOdd : Bool := (search.box.x - search.box.y - (search.box.xEnd - search.box.yEnd)) % 2 != 0

/-- One step from the start on every other of so many diagonals; a meeting ends it. -/
def stepForward (rows : Comparison) (size : Nat) : Nat -> Int -> Search -> Except (Int × Int) Search
  | 0, _, search => .ok search
  | limit + 1, diagonal, search =>
    if diagonal < search.startLow then .ok search
    else
      let low := search.reached (diagonal - 1)
      let high := search.reached (diagonal + 1)
      let start := if low < high then high else low + 1
      let x := rows.forward search.box diagonal size start
      let search := search.reach diagonal x
      if search.isOdd && search.endLow ≤ diagonal && diagonal ≤ search.endHigh &&
          search.reachedBack diagonal ≤ x then .error (x, x - diagonal)
      else stepForward rows size limit (diagonal - 2) search

/-- One step from the end on every other of so many diagonals; a meeting ends it. -/
def stepBackward (rows : Comparison) (size : Nat) :
    Nat -> Int -> Search -> Except (Int × Int) Search
  | 0, _, search => .ok search
  | limit + 1, diagonal, search =>
    if diagonal < search.endLow then .ok search
    else
      let low := search.reachedBack (diagonal - 1)
      let high := search.reachedBack (diagonal + 1)
      let start := if low < high then low else high - 1
      let x := rows.backward search.box diagonal size start
      let search := search.reachBack diagonal x
      if !search.isOdd && search.startLow ≤ diagonal && diagonal ≤ search.startHigh &&
          x ≤ search.reached diagonal then .error (x, x - diagonal)
      else stepBackward rows size limit (diagonal - 2) search

def widen : Search :=
  let least := search.box.x - search.box.yEnd
  let greatest := search.box.xEnd - search.box.y
  let search :=
    if least < search.startLow then
      { search.reach (search.startLow - 2) (-1) with startLow := search.startLow - 1 }
    else { search with startLow := search.startLow + 1 }
  if search.startHigh < greatest then
    { search.reach (search.startHigh + 2) (-1) with startHigh := search.startHigh + 1 }
  else { search with startHigh := search.startHigh - 1 }

def widenBack : Search :=
  let least := search.box.x - search.box.yEnd
  let greatest := search.box.xEnd - search.box.y
  let search :=
    if least < search.endLow then
      { search.reachBack (search.endLow - 2) beyond with endLow := search.endLow - 1 }
    else { search with endLow := search.endLow + 1 }
  if search.endHigh < greatest then
    { search.reachBack (search.endHigh + 2) beyond with endHigh := search.endHigh + 1 }
  else { search with endHigh := search.endHigh - 1 }

/-- Where the searches meet, within so many steps. -/
def meeting? (rows : Comparison) (size : Nat) : Nat -> Search -> Option (Int × Int)
  | 0, _ => none
  | limit + 1, search =>
    let search := search.widen
    match stepForward rows size size search.startHigh search with
    | .error place => some place
    | .ok search =>
      let search := search.widenBack
      match stepBackward rows size size search.endHigh search with
      | .error place => some place
      | .ok search => meeting? rows size limit search

end Search

def numbersFrom (first last : Int) : List Nat :=
  (List.range (last - first).toNat).map (first.toNat + ·)

/-- The shortest way through a box, in front of a way behind it. -/
def compareBox (rows : Comparison) (size : Nat) : Nat -> Box -> Way -> Way
  | 0, _, way => way
  | limit + 1, box, way =>
    let x := rows.forward box (box.x - box.y) size box.x
    let box := { box with x, y := box.y + (x - box.x) }
    let xEnd := rows.backward box (box.xEnd - box.yEnd) size box.xEnd
    let box := { box with xEnd, yEnd := box.yEnd - (box.xEnd - xEnd) }
    if box.x = box.xEnd then { way with added := numbersFrom box.y box.yEnd ++ way.added }
    else if box.y = box.yEnd then { way with removed := numbersFrom box.x box.xEnd ++ way.removed }
    else match Search.meeting? rows size size (Search.begin box) with
      | none => way
      | some (xMiddle, yMiddle) =>
        rows.compareBox size limit { box with xEnd := xMiddle, yEnd := yMiddle }
          (rows.compareBox size limit { box with x := xMiddle, y := yMiddle } way)

def way (rows : Comparison) : Way :=
  let size := rows.left.size + rows.right.size + 2
  rows.compareBox size size ⟨0, rows.left.size, 0, rows.right.size⟩ {}

/-! ## Lines that are left aside -/

/-- How a line takes part in the comparison. -/
inductive Standing where
  | kept
  /-- The other row does not have the line. -/
  | aside
  /-- The other row has the line very often. -/
  | doubtful
  deriving Repr, DecidableEq

/-- The number of times from which on a line is there very often in so many lines. -/
def oftenFor (lines : Nat) : Nat :=
  let rec go : Nat -> Nat -> Nat -> Nat
    | 0, _, many => many
    | limit + 1, rest, many => if rest = 0 then many else go limit (rest / 4) (2 * many)
  go 64 (lines / 64 / 4) 5

def countsOf (bound : Nat) (row : Array Nat) : Array Nat :=
  row.foldl (fun counts number => counts.modify number (· + 1)) (Array.replicate bound 0)

/-- How the lines of a row take part, each seen for itself. -/
def firstStandings (row counts : Array Nat) : Array Standing :=
  let many := oftenFor row.size
  row.map fun number => match counts.getD number 0 with
    | 0 => .aside
    | count => if many < count then .doubtful else .kept

/-- The lines of a run with those doubtful ones kept that stand in front of three lines in a row that
are left aside, or of the first such line behind the eighth. -/
def keepFront : Nat -> Nat -> List Standing -> List Standing
  | _, _, [] => []
  | index, row, standing :: rest =>
    if 8 ≤ index && standing = .aside then standing :: rest
    else match standing with
      | .doubtful => .kept :: keepFront (index + 1) 0 rest
      | .kept => .kept :: keepFront (index + 1) 0 rest
      | .aside => if row = 2 then .aside :: rest else .aside :: keepFront (index + 1) (row + 1) rest

/-- The least number of doubtful lines in a row that are kept in a run of so many lines. -/
def leastRow (length : Nat) : Nat :=
  let rec go : Nat -> Nat -> Nat -> Nat
    | 0, _, least => least
    | limit + 1, rest, least => if rest = 0 then least else go limit (rest / 4) (2 * least)
  go 64 (length / 4 / 4) 1 + 1

/-- The lines of a run with those doubtful ones kept of which so many stand in a row. -/
def keepRows (least : Nat) : Nat -> List Standing -> List Standing
  | 0, lines => lines
  | _, [] => []
  | limit + 1, standing :: rest =>
    if standing = .doubtful then
      let row := (standing :: rest).takeWhile (· == .doubtful)
      let shown := if least ≤ row.length then row.map (fun _ => Standing.kept) else row
      shown ++ keepRows least limit ((standing :: rest).drop row.length)
    else standing :: keepRows least limit rest

/-- The standings of a run of lines that begins and ends with one that is left aside. -/
def settleRun (run : List Standing) : List Standing :=
  let doubtful := run.count .doubtful
  let keepAll (standing : Standing) : Standing := if standing = .doubtful then .kept else standing
  if run.length < 4 * doubtful then run.map keepAll
  else
    let kept := keepRows (leastRow run.length) (run.length + 1) run
    (keepFront 0 0 (keepFront 0 0 kept).reverse).reverse

/-- The standings of a row; doubtful lines count only inside a run of lines that are left aside. -/
def settle : Nat -> List Standing -> List Standing
  | 0, lines => lines
  | _, [] => []
  | limit + 1, .aside :: rest =>
    let run := (Standing.aside :: rest).takeWhile (· != .kept)
    let behind := (Standing.aside :: rest).drop run.length
    let ending := run.reverse.takeWhile (· == .doubtful)
    let inside := run.take (run.length - ending.length)
    settleRun inside ++ ending.map (fun _ => .kept) ++ settle limit behind
  | limit + 1, _ :: rest => .kept :: settle limit rest

/-- The numbers of the lines of a row that take part, and of those that do not. -/
def partition (bound : Nat) (row other : Array Nat) : List Nat × List Nat :=
  let standings := settle (row.size + 1) (firstStandings row (countsOf bound other)).toList
  (standings.zipIdx.partition (·.1 == .kept)).map (·.map Prod.snd) (·.map Prod.snd)

/-! ## Runs of changed lines -/

/-- Which lines of two rows are changed, and where a run of changed lines of the first begins and
ends, with the place in the second that belongs to its end. -/
structure Shifting where
  changed : Array Bool
  other : Array Bool
  start : Int := 0
  ending : Int := 0
  place : Int := 0
  /-- The last end of the run at which the second row has changed lines too. -/
  matching : Int := 0

namespace Shifting

def isChanged (state : Shifting) (line : Int) : Bool :=
  0 ≤ line && state.changed.getD line.toNat false

def isOtherChanged (state : Shifting) (line : Int) : Bool :=
  0 ≤ line && state.other.getD line.toNat false

/-- The first place from one on whose line of the second row is not changed. -/
def otherFrom (state : Shifting) : Nat -> Int -> Int
  | 0, place => place
  | limit + 1, place =>
    if state.isOtherChanged place then state.otherFrom limit (place + 1) else place

/-- The last place up to one whose line of the second row is not changed. -/
def otherUpTo (state : Shifting) : Nat -> Int -> Int
  | 0, place => place
  | limit + 1, place =>
    if state.isOtherChanged place then state.otherUpTo limit (place - 1) else place

def endFrom (state : Shifting) : Nat -> Int -> Int
  | 0, line => line
  | limit + 1, line => if state.isChanged line then state.endFrom limit (line + 1) else line

def startOf (state : Shifting) : Nat -> Int -> Int
  | 0, line => line
  | limit + 1, line => if state.isChanged (line - 1) then state.startOf limit (line - 1) else line

def mark (state : Shifting) (line : Int) (changed : Bool) : Shifting :=
  { state with changed := state.changed.set! line.toNat changed }

/-- Moves the run back as long as the line in front of it is the same as its last one. -/
def moveBack (row : Array Nat) (size : Nat) : Nat -> Shifting -> Shifting
  | 0, state => state
  | limit + 1, state =>
    if 0 < state.start && row[(state.start - 1).toNat]? == row[(state.ending - 1).toNat]? then
      let state := (state.mark (state.start - 1) true).mark (state.ending - 1) false
      let state := { state with start := state.start - 1, ending := state.ending - 1 }
      moveBack row size limit
        { state with
          start := state.startOf size state.start
          place := state.otherUpTo size (state.place - 1) }
    else state

/-- Moves the run on as long as the line behind it is the same as its first one. -/
def moveOn (row : Array Nat) (size : Nat) : Nat -> Shifting -> Shifting
  | 0, state => state
  | limit + 1, state =>
    if state.ending < row.size && row[state.start.toNat]? == row[state.ending.toNat]? then
      let state := (state.mark state.start false).mark state.ending true
      let state := { state with start := state.start + 1, ending := state.ending + 1 }
      let ending := state.endFrom size state.ending
      let next : Int := state.place + 1
      let place : Int := state.otherFrom size next
      let matching : Int := if place = next then state.matching else ending
      moveOn row size limit { state with ending, place, matching }
    else state

/-- Moves the run back and on until it does not grow any more. -/
def merge (row : Array Nat) (size : Nat) : Nat -> Shifting -> Shifting
  | 0, state => state
  | limit + 1, state =>
    let length := state.ending - state.start
    let state := moveBack row size size state
    let matching := if state.isOtherChanged (state.place - 1) then state.ending else row.size
    let state := moveOn row size size { state with matching }
    if state.ending - state.start = length then state else merge row size limit state

/-- Moves the run back to where the second row has changed lines too. -/
def moveToMatch (size : Nat) : Nat -> Shifting -> Shifting
  | 0, state => state
  | limit + 1, state =>
    if state.matching < state.ending then
      let state := (state.mark (state.start - 1) true).mark (state.ending - 1) false
      let state := { state with start := state.start - 1, ending := state.ending - 1 }
      moveToMatch size limit { state with place := state.otherUpTo size (state.place - 1) }
    else state

/-- Goes on to the next line that is changed. -/
def toNextRun (row : Array Nat) (size : Nat) : Nat -> Shifting -> Shifting
  | 0, state => state
  | limit + 1, state =>
    if state.ending < row.size && !state.isChanged state.ending then
      toNextRun row size limit
        { state with
          ending := state.ending + 1
          place := state.otherFrom size state.place + 1 }
    else state

def shiftAll (row : Array Nat) (size : Nat) : Nat -> Shifting -> Shifting
  | 0, state => state
  | limit + 1, state =>
    let state := toNextRun row size size state
    if (row.size : Int) ≤ state.ending then state
    else
      let start := state.ending
      let state :=
        { state with
          start
          ending := state.endFrom size (start + 1)
          place := state.otherFrom size state.place }
      shiftAll row size limit (moveToMatch size size (merge row size size state))

end Shifting

/-- The changed lines of a row with its runs moved, beside those of another row. -/
def shifted (row : Array Nat) (changed other : Array Bool) : Array Bool :=
  let size := changed.size + other.size + 2
  (Shifting.shiftAll row size size { changed, other }).changed

/-! ## Changes -/

def runLength (row : Array Bool) : Nat -> Nat -> Nat
  | 0, _ => 0
  | limit + 1, line => if row.getD line false then runLength row limit (line + 1) + 1 else 0

/-- The changes between two rows whose changed lines are known, from two lines on. -/
def changesFrom (left right : Array Bool) : Nat -> Nat -> Nat -> List Change
  | 0, _, _ => []
  | limit + 1, x, y =>
    let removed := runLength left left.size x
    let added := runLength right right.size y
    if removed + added = 0 then
      if x < left.size || y < right.size then changesFrom left right limit (x + 1) (y + 1) else []
    else ⟨x, y, removed, added⟩ :: changesFrom left right limit (x + removed) (y + added)

def flags (size : Nat) (lines : List Nat) : Array Bool :=
  lines.foldl (fun flags line => flags.set! line true) (Array.replicate size false)

/-- The changes from the left row to the right one.  If asked for, no line is left aside. -/
def changes (rows : Comparison) (minimal : Bool) : List Change :=
  let bound := (rows.left ++ rows.right).foldl max 0 + 1
  let all (row : Array Nat) : List Nat × List Nat := (List.range row.size, [])
  let (keptLeft, asideLeft) :=
    if minimal then all rows.left else partition bound rows.left rows.right
  let (keptRight, asideRight) :=
    if minimal then all rows.right else partition bound rows.right rows.left
  let chosen (row : Array Nat) (lines : List Nat) : Array Nat := (lines.map (row.getD · 0)).toArray
  let way := (Comparison.mk (chosen rows.left keptLeft) (chosen rows.right keptRight)).way
  let actual (kept : List Nat) (lines : List Nat) : List Nat :=
    let kept := kept.toArray
    lines.map (kept.getD · 0)
  let left := flags rows.left.size (asideLeft ++ actual keptLeft way.removed)
  let right := flags rows.right.size (asideRight ++ actual keptRight way.added)
  let left := shifted rows.left left right
  let right := shifted rows.right right left
  changesFrom left right (left.size + right.size + 2) 0 0

end Comparison
end Text
end BaseLanguage
