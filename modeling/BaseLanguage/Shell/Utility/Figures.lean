import BaseLanguage.Shell.Utility.Columns
import BaseLanguage.Shell.Utility.Output

namespace BaseLanguage.Shell

open Text

/-!
# Figures with units

`numfmt` says numbers with letters for thousands, or for powers of two, and reads such numbers.
-/

inductive FigureScale where
  | none
  | decimal
  | binary
  | binaryMarked
  | either
  deriving DecidableEq

inductive FigureRounding where
  | up
  | down
  | fromZero
  | towardsZero
  | nearest
  deriving DecidableEq

structure Figure where
  negative : Bool
  size : Fraction

namespace Figure

def powerLetters : Chars := "KMGTPEZY".toList

def times (figure : Figure) (factor : Nat) : Figure :=
  { figure with size := .ratio (figure.size.numerator * factor) figure.size.denominator }

def dividedBy (figure : Figure) (divisor : Nat) : Figure :=
  { figure with size := .ratio figure.size.numerator (figure.size.denominator * divisor) }

def rounded (rounding : FigureRounding) (figure : Figure) : Nat :=
  let low := figure.size.numerator / figure.size.denominator
  let isWhole := figure.size.numerator % figure.size.denominator = 0
  let high := if isWhole then low else low + 1
  match rounding with
  | .up => if figure.negative then low else high
  | .down => if figure.negative then high else low
  | .fromZero => high
  | .towardsZero => low
  | .nearest =>
    (2 * figure.size.numerator + figure.size.denominator) / (2 * figure.size.denominator)

def atPlaces (rounding : FigureRounding) (places : Nat) (figure : Figure) : Figure :=
  let units := (figure.times (Nat.pow 10 places)).rounded rounding
  { figure with size := .ratio units (Nat.pow 10 places) }

def digits (places : Nat) (figure : Figure) : Chars :=
  let isZero := figure.size.numerator = 0
  (if figure.negative && !isZero then ['-'] else []) ++ figure.size.fixed places false

def scaled (base : Nat) : Nat -> Figure -> Figure × Nat
  | 0, figure => (figure, 0)
  | limit + 1, figure =>
    if (Fraction.ofNat base).numerator * figure.size.denominator <= figure.size.numerator then
      let (found, power) := scaled base limit (figure.dividedBy base)
      (found, power + 1)
    else (figure, 0)

def isLess (figure : Figure) (limit : Nat) : Bool :=
  figure.size.numerator < limit * figure.size.denominator

def written (scale : FigureScale) (rounding : FigureRounding) (precision : Option Nat)
    (places : Nat) (figure : Figure) : Chars :=
  if scale = .none then
    let places := precision.getD places
    (figure.atPlaces rounding places).digits places
  else
    let base := if scale = .decimal then 1000 else 1024
    let (value, power) := figure.scaled base 16
    let adjust := match precision with
      | some precision => min (3 * power) precision
      | none => if value.isLess 10 then 1 else 0
    let value := value.atPlaces rounding adjust
    let (value, power) :=
      if value.isLess base then (value, power) else (value.dividedBy base, power + 1)
    let shown := match precision with
      | some precision => precision
      | none => if value.size.numerator ≠ 0 && value.isLess 10 && 0 < power then 1 else 0
    let letter : Chars := if power = 0 then [] else [powerLetters.getD (power - 1) '?']
    let mark : Chars := if scale = .binaryMarked && 0 < power then ['i'] else []
    value.digits shown ++ letter ++ mark

def read (scale : FigureScale) (text : String) : Except String (Figure × Nat) := do
  let (negative, rest) : Bool × Chars := match text.toList with
    | '-' :: rest => (true, rest)
    | rest => (false, rest)
  let whole := rest.takeWhile isDigit
  if whole.isEmpty && (rest.drop whole.length).head? != some '.' then
    throw s!"invalid number: {quoted text}"
  let behind := rest.drop whole.length
  let (part, behind) : Chars × Chars := match behind with
    | '.' :: more =>
      let part := more.takeWhile isDigit
      (part, more.drop part.length)
    | behind => ([], behind)
  if (rest.drop whole.length).head? == some '.' && part.isEmpty then
    throw s!"invalid number: {quoted text}"
  let figure : Figure := ⟨negative, .ratio (valueOf (whole ++ part)) (Nat.pow 10 part.length)⟩
  match behind.dropWhile (fun c => c = ' ' || c = '\t') with
  | [] => return (figure, part.length)
  | letter :: rest => match powerLetters.findIdx? (· == letter) with
    | .none => throw s!"invalid suffix in input: {quoted text}"
    | some index =>
      if scale = .none then
        throw s!"rejecting suffix in input: {quoted text} (consider using --from)"
      let isMarked := rest.head? == some 'i'
      let (base, rest) : Nat × Chars := match scale with
        | .decimal => (1000, rest)
        | .binary => (1024, rest)
        | .binaryMarked => (1024, if isMarked then rest.drop 1 else rest)
        | _ => if isMarked then (1024, rest.drop 1) else (1000, rest)
      if scale = .binaryMarked && !isMarked then
        throw s!"missing 'i' suffix in input: {quoted text} (e.g Ki/Mi/Gi)"
      if !rest.isEmpty then
        let shown := quoted (.ofList rest)
        throw s!"invalid suffix in input {quoted text}: {shown}"
      return (figure.times (Nat.pow base (index + 1)), 0)

end Figure

structure FigureFormat where
  front : Chars := []
  behind : Chars := []
  zeros : Bool := false
  width : Int := 0
  precision : Option Nat := none

def figureFormat (text : String) : Except String FigureFormat := do
  let front := text.toList.takeWhile (· != '%')
  match text.toList.drop front.length with
  | [] => throw s!"format {quoted text} has no % directive"
  | _ :: rest =>
    let flags := rest.takeWhile ['0', '\'', '-', ' '].contains
    let behind := rest.drop flags.length
    let digits := behind.takeWhile isDigit
    let behind := behind.drop digits.length
    let (precision, behind) : Option Nat × Chars := match behind with
      | '.' :: more =>
        let places := more.takeWhile isDigit
        (some (valueOf places), more.drop places.length)
      | behind => (none, behind)
    match behind with
    | 'f' :: behind =>
      if behind.contains '%' then throw s!"format {quoted text} has too many % directives"
      let width : Int := valueOf digits
      return {
        front, behind, precision
        zeros := flags.contains '0' && !flags.contains '-'
        width := if flags.contains '-' then -width else width }
    | [] => throw s!"format {quoted text} ends in %"
    | _ => throw s!"invalid format {quoted text}, directive must be %[0]['][-][N][.][N]f"

structure FigureRequest where
  input : FigureScale := .none
  output : FigureScale := .none
  inputUnit : Nat := 1
  outputUnit : Nat := 1
  rounding : FigureRounding := .fromZero
  suffix : Chars := []
  padding : Option Int := none
  format : FigureFormat := {}
  fields : List Span := [⟨1, some 1⟩]
  separator : Option Char := none
  strictness : String := "abort"
  heads : Nat := 0

def numfmtOptions : OptionTable where
  letters := "d:zα:β:γ:δ:ε:ζ:ηθ:ι:κ:λ::μ:ν"
  words := [("from", 'α'), ("from-unit", 'β'), ("to", 'γ'), ("to-unit", 'δ'), ("round", 'ε'),
    ("padding", 'ζ'), ("suffix", 'μ'), ("grouping", 'η'), ("delimiter", 'd'), ("field", 'θ'),
    ("invalid", 'ι'), ("format", 'κ'), ("header", 'λ'), ("debug", 'ν'),
    ("zero-terminated", 'z')]

def scaleWords : List (String × FigureScale) :=
  [("none", .none), ("si", .decimal), ("iec", .binary), ("iec-i", .binaryMarked)]

def figureRequest (call : ProgramCall) : Except String FigureRequest :=
  call.options.foldlM
    (fun (request : FigureRequest) (letter, text) => do
      let hinted (outcome : Except String FigureRequest) : Except String FigureRequest :=
        match outcome with
        | .ok request => .ok request
        | .error fault =>
          let hint := helpHint "numfmt"
          .error s!"{fault}\n{hint}"
      let unit : Except String Nat :=
        let digits := text.toList.takeWhile isDigit
        match (if digits.length = text.length then some 1
          else unitFactor? (text.toList.drop digits.length)) with
        | some factor =>
          let value := (if digits.isEmpty then 1 else valueOf digits) * factor
          if value = 0 then .error s!"invalid unit size: {quoted text}" else .ok value
        | .none => .error s!"invalid unit size: {quoted text}"
      match letter with
      | 'α' => hinted do
          return { request with
            input := <- choiceOf "--from" text
              (scaleWords.take 1 ++ ("auto", .either) :: scaleWords.drop 1) }
      | 'β' => return { request with inputUnit := <- unit }
      | 'γ' => hinted do return { request with output := <- choiceOf "--to" text scaleWords }
      | 'δ' => return { request with outputUnit := <- unit }
      | 'ε' => hinted do
          return { request with
            rounding := <- choiceOf "--round" text [("up", .up), ("down", .down),
              ("from-zero", .fromZero), ("towards-zero", .towardsZero), ("nearest", .nearest)] }
      | 'ζ' =>
        let (negative, digits) := signOf text.toList
        match digitsValue? (.ofList digits) with
        | some (value + 1) =>
          let width : Int := value + 1
          return { request with padding := some (if negative then -width else width) }
        | _ => throw s!"invalid padding value {quoted text}"
      | 'μ' => return { request with suffix := text.toList }
      | 'd' => match text.toList with
        | [c] => return { request with separator := some c }
        | _ => throw "the delimiter must be a single character"
      | 'θ' =>
        if text = "-" then return { request with fields := [⟨1, .none⟩] }
        return { request with fields := <- readSpans "field" text }
      | 'ι' => hinted do
          return { request with
            strictness := <- choiceOf "--invalid" text
              (["abort", "fail", "warn", "ignore"].map fun word => (word, word)) }
      | 'κ' => return { request with format := <- figureFormat text }
      | 'λ' =>
        if text.isEmpty then return { request with heads := 1 }
        match digitsValue? text with
        | some (value + 1) => return { request with heads := value + 1 }
        | _ => throw s!"invalid header value {quoted text}"
      | _ => return request)
    {}

namespace FigureRequest

/-- A field as it is said, or what is wrong with it.  A field with blanks in front, or one that is
not the first, keeps its width. -/
def field (request : FigureRequest) (number : Nat) (text : Chars) : Except String Chars := do
  let size := request.suffix.length
  let bare :=
    if size ≠ 0 && size < text.length && text.drop (text.length - size) == request.suffix then
      text.take (text.length - size)
    else text
  let inner := bare.dropWhile (fun c => c = ' ' || c = '\t')
  let (figure, places) <- Figure.read request.input (.ofList inner)
  let figure := (figure.times request.inputUnit).dividedBy request.outputUnit
  let shownPlaces := request.format.precision.getD places
  if request.output = .none && 18 < (figure.digits 0).length + shownPlaces then
    let shown := String.ofList (realAt .program [] 0 none 'g' (.finite figure.negative figure.size))
    throw s!"value too large to be printed: '{shown}' (consider using --to)"
  let said := figure.written request.output request.rounding request.format.precision places
  let width : Int :=
    if request.format.width ≠ 0 then request.format.width
    else match request.padding with
      | some width => width
      | .none =>
        let keeps := request.separator.isNone && (inner.length < bare.length || 1 < number)
        if keeps then (text.length : Int) else 0
  let said := said ++ request.suffix
  let missing := width.natAbs - said.length
  let filled :=
    if request.format.zeros && 0 < width then
      let sign := said.takeWhile (· = '-')
      sign ++ List.replicate missing '0' ++ said.drop sign.length
    else if width < 0 then said ++ List.replicate missing ' '
    else List.replicate missing ' ' ++ said
  return request.format.front ++ filled ++ request.format.behind

def blankFields : Nat -> Chars -> List Chars
  | 0, _ => []
  | limit + 1, text =>
    let isGap (c : Char) : Bool := c = ' ' || c = '\t'
    let front := text.takeWhile isGap
    let word := (text.drop front.length).takeWhile (!isGap ·)
    let field := front ++ word
    match text.drop field.length with
    | [] => [field]
    | _ :: rest => field :: blankFields limit rest

def line (request : FigureRequest) (text : Chars) : Chars × List String :=
  let fields := match request.separator with
    | some separator => pieces separator text
    | .none => blankFields (text.length + 1) text
  let results := fields.zipIdx.map fun (field, index) =>
    if !request.fields.any (·.holds (index + 1)) then (field, [])
    else match request.field (index + 1) field with
      | .ok said => (said, [])
      | .error fault => (field, [fault])
  (List.intercalate [request.separator.getD ' '] (results.map Prod.fst), results.flatMap Prod.snd)

end FigureRequest

def numfmt : Utility :=
  withOptions numfmtOptions fun program call => do
    match figureRequest call with
    | .error fault => complain program fault
    | .ok request =>
      let ending := if call.has 'z' then Char.ofNat 0 else '\n'
      let sayLine (worst : Nat × Bool) (whole : Chars) : Act (Nat × Bool) := do
        if worst.2 then return worst
        let isEnded := whole.getLast? == some ending
        let text := if isEnded then whole.dropLast else whole
        let (said, faults) := request.line text
        if request.strictness = "abort" && !faults.isEmpty then
          discard <| complain program (faults.headD "")
          return (2, true)
        if request.strictness != "ignore" then
          faults.forM fun fault => discard (complain program fault)
        discard <| answerText program (if isEnded then said ++ [ending] else said)
        let failed := request.strictness = "fail" && !faults.isEmpty
        return (if failed then 2 else worst.1, false)
      match call.operands with
      | [] =>
        let octets := octetsOf ((<- takeAll standardInput).getD .empty)
        let lines := linesWithEnds ending octets
        let heads := lines.take request.heads
        discard <| answerText program heads.flatten
        return (<- (lines.drop request.heads).foldlM sayLine (success, false)).1
      | operands =>
        let lines := operands.map (·.toList ++ [ending])
        return (<- lines.foldlM sayLine (success, false)).1

end BaseLanguage.Shell
