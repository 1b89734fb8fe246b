import BaseLanguage.Digest.Rounds
import BaseLanguage.Shell.Utility.Dump
import BaseLanguage.Shell.Utility.Extraction.Files

namespace BaseLanguage.Shell.Extraction

open Text

/-!
# Values written out

A value with all that it refers to can be written as the expression that makes it.
-/

structure DumpStyle where
  indent : Nat := 2
  sorts : Bool := false
  isTerse : Bool := false

def quotedLiteral (text : String) : String :=
  let inside := text.toList.flatMap fun c => if c = '\'' || c = '\\' then ['\\', c] else [c]
  .ofList ('\'' :: inside ++ ['\''])

def numberLiteral (text : String) : String :=
  let digits := match text.toList with
    | '-' :: digits => digits
    | digits => digits
  if digits.all isDigit && digits.length <= 10 then text else s!"'{text}'"

def laidOut (style : DumpStyle) (opening closing : String) (column : Nat) (parts : List String) :
    String :=
  if parts.isEmpty then opening ++ closing
  else if style.indent = 0 then opening ++ ",".intercalate parts ++ closing
  else
    let pad (count : Nat) : String := .ofList (List.replicate count ' ')
    let lines := parts.map (pad (column + 2) ++ ·)
    s!"{opening}\n" ++ ",\n".intercalate lines ++ s!"\n{pad column}{closing}"

def dumped (style : DumpStyle) : Nat -> Nat -> Value -> Machine String
  | 0, _, _ => return "undef"
  | limit + 1, column, value => do
    match value with
    | .undefined => return "undef"
    | .whole _ => return numberLiteral (<- textOf value)
    | .real _ =>
      let text <- textOf value
      return s!"'{text}'"
    | .text octets => return quotedLiteral octets
    | .fault _ message => return quotedLiteral message
    | .reference kind address =>
      let package? := (<- get).packages[(kind, address)]?
      let isOwned := package?.isSome && kind ≠ .pattern
      let shift := if isOwned && style.indent = 2 then 7 else 0
      let inside <- dumpedThing style limit (column + shift) kind address
      match package? with
      | some package => return if isOwned then s!"bless( {inside}, '{package}' )" else inside
      | none => return inside
where
  dumpedThing (style : DumpStyle) : Nat -> Nat -> Kind -> Nat -> Machine String
    | 0, _, _, _ => return "undef"
    | limit + 1, column, kind, address => do
      let step (width : Nat) : Nat := if style.indent = 2 then column + 2 + width else column + 2
      match kind with
      | .row =>
        let values <- rowValues address
        return laidOut style "[" "]" column (<- values.mapM (dumped style limit (step 0)))
      | .table =>
        let pairs <- tablePairs address
        let pairs :=
          if style.sorts then pairs.mergeSort (fun left right => left.1 <= right.1) else pairs
        let parts <- pairs.mapM fun (key, value) => do
          let front := quotedLiteral key ++ " => "
          return front ++ (<- dumped style limit (step front.length) value)
        return laidOut style "\x7b" "\x7d" column parts
      | .cell => do
        let inside <- dumped style limit (column + 2) (<- cellAt address)
        return s!"\\{inside}"
      | .code => return "sub \x7b \"DUMMY\" \x7d"
      | .stream =>
        let name := (<- handleAt address).name
        return s!"\\*{name}"
      | .pattern =>
        let pattern := (<- get).patterns.getD address default
        return s!"qr/{pattern.text}/{pattern.flags}"

def deepestDump : Nat := 1000

def dumpedAll (values : List Value) : Machine String := do
  let indent := match <- sharedValue "Data::Dumper::Indent" with
    | .undefined => 2
    | value => value.int.toNat
  let sorts <- isTrue (<- sharedValue "Data::Dumper::Sortkeys")
  let isTerse <- isTrue (<- sharedValue "Data::Dumper::Terse")
  let style : DumpStyle := { indent, sorts, isTerse }
  let texts <- values.zipIdx.mapM fun (value, index) => do
    let front := if isTerse then "" else s!"$VAR{numberText (index + 1)} = "
    let column := if indent = 2 then front.length else 0
    let text <- dumped style deepestDump column value
    let ending := if isTerse then "\n" else ";\n"
    return front ++ text ++ ending
  return .join texts

/-!
## Functions of other packages

The packages that are there offer functions on lists, numbers, names of files, and values.
-/

/-! ## Names that lead to elements -/

def withNames (names : List (String × Nat)) (work : Machine α) : Machine α := do
  let before := (<- get).globals
  let old := names.map fun (key, _) => (key, before[key]?)
  modify fun state => { state with
    globals := names.foldl (fun globals (key, cell) => globals.insert key cell) state.globals }
  let putBack : Machine Unit :=
    modify fun state => { state with
      globals := old.foldl
        (fun globals (key, cell) => match cell with
          | some cell => globals.insert key cell
          | none => globals.erase key)
        state.globals }
  let result <- tryCatch work fun interrupt => do
    putBack
    throw interrupt
  putBack
  return result

def withUsual (cell : Nat) (work : Machine α) : Machine α := withNames [("$main::_", cell)] work

def pairNames (package : String) (left right : Nat) : List (String × Nat) :=
  [(s!"${package}::a", left), (s!"${package}::b", right)]

section

variable (engine : Engine)

def callPlain (code : Nat) (wish : Wish) : Machine (List Value) := engine.call code #[] wish

def holdsOf (code cell : Nat) : Machine Bool :=
  withUsual cell do isTrue ((<- callPlain engine code .one).getLastD .undefined)

def firstOf (code : Nat) : List Nat -> Machine (Option Nat)
  | [] => return none
  | cell :: rest => do if <- holdsOf engine code cell then return some cell else firstOf code rest

def reduced (code : Nat) (package : String) : Nat -> List Nat -> Machine Nat
  | first, [] => return first
  | first, second :: rest => do
    let value <- withNames (pairNames package first second) do
      return (<- callPlain engine code .one).getLastD .undefined
    reduced code package (<- newCell value) rest

def distinctValues (values : List Value) : Machine (List Value) := do
  let (kept, _) := (values.zip (<- values.mapM textOf)).foldl
    (fun ((kept, seen) : List Value × Std.HashSet String) (value, text) =>
      if seen.contains text then (kept, seen) else (value :: kept, seen.insert text))
    ([], ∅)
  return kept.reverse

def sumOf (values : List Value) : Value :=
  let sum := values.foldl
    (fun sum value => (compute? "+" sum value.number).getD (.whole 0)) (.whole 0)
  sum.asValue

def extreme (isBefore : Value -> Value -> Bool) : List Value -> Value
  | [] => .undefined
  | first :: rest => rest.foldl (fun best value => if isBefore value best then value else best) first

def isLess (left right : Value) : Bool := numberOrder? left.number right.number == some .lt

def pairsOf : List Value -> List (List Value)
  | first :: second :: rest => [first, second] :: pairsOf rest
  | [first] => [[first, .undefined]]
  | [] => []

def looksLikeNumber : Value -> Bool
  | .whole _ => true
  | .real _ => true
  | .fault _ _ => true
  | .text octets =>
    let text := octets.toList.dropWhile isSpace
    let (_, unsigned) := signOf text
    let starts := (unsigned.head?).any (fun c => isDigit c || c = '.') ||
      ["inf", "nan"].contains (.ofList ((unsigned.take 3).map Char.toLower))
    starts && (numberAtFront octets).2 && unsigned ≠ ['.']
  | _ => false

def pathParts (path : String) : String × String := match (path.splitOn "/").reverse with
  | last :: rest => ("/".intercalate rest.reverse, last)
  | [] => ("", path)

def withoutEndSlashes (path : String) : String :=
  let text := dropTrailing (· == '/') path.toList
  if text.isEmpty && !path.isEmpty then "/" else .ofList text

def folderPart (path : String) : String :=
  let path := withoutEndSlashes path
  if path = "/" then "/"
  else
    let (front, _) := pathParts path
    if !path.contains '/' then "."
    else if front.isEmpty then "/"
    else withoutEndSlashes front

def deepCopy : Nat -> Value -> Machine Value
  | 0, value => return value
  | limit + 1, value => do
    match value with
    | .reference .row address => rowOfValues (<- (<- rowValues address).mapM (deepCopy limit))
    | .reference .table address =>
      let entries <- (<- tablePairs address).mapM fun (key, value) => do
        return (key, <- newCell (<- deepCopy limit value))
      return .reference .table (<- newTable (.ofList entries))
    | .reference .cell address =>
      return .reference .cell (<- newCell (<- deepCopy limit (<- cellAt address)))
    | value => return value

def hexOfBytes (bytes : List UInt8) : Value :=
  .text (.ofList (bytes.flatMap fun byte => withZeros 2 (Nat.toDigits 16 byte.toNat)))

def inLines (ending : String) (width : Nat) : Nat -> Chars -> String
  | 0, _ => ""
  | _, [] => ""
  | limit + 1, text =>
    .ofList (text.take width) ++ ending ++ inLines ending width limit (text.drop width)

def toldArgument (value : Value) : Machine String := do
  let text <- textBy engine value
  if !value.isDefined then return "undef"
  else if !text.isEmpty && text.all (fun c => isDigit c || c = '-' || c = '.') then return text
  else match value with
    | .reference _ _ => return text
    | _ => return "\"" ++ text ++ "\""

/-- A complaint with the place of the call that led to it, or with all calls that have not ended. -/
def tracedText (isLong : Bool) (values : List Value) : Machine String := do
  let message := String.join (<- values.mapM (textBy engine))
  let state <- get
  let caller := state.frames.find? (·.package ≠ state.package)
  match isLong, caller with
  | false, some frame => return s!"{message} at {state.file} line {numberText frame.line}.\n"
  | _, _ =>
    let calls <- state.frames.mapM fun frame => do
      let values <- frame.cells.toList.mapM cellAt
      let arguments := ", ".intercalate (<- values.mapM (toldArgument engine))
      return s!"\t{frame.name}({arguments}) called at {state.file} line {numberText frame.line}\n"
    return s!"{message} at {state.file} line {numberText state.line}.\n" ++ .join calls

def givenFunction (name : String) (wish : Wish) (values : List Value) : Machine (List Value) := do
  let first := values.headD .undefined
  let second := (values.drop 1).headD .undefined
  let text : Machine String := textBy engine first
  let count (values : List Value) : List Value :=
    if wish = .one then [.whole values.length] else values
  let number (use : Float -> Float) : Machine (List Value) :=
    return [(Number.real (use first.float)).settled.asValue]
  let bytes (value : Value) : Machine ByteArray := do return bytesOf (<- textBy engine value).toList
  match name with
  | "List::Util::sum" => return [if values.isEmpty then .undefined else sumOf values]
  | "List::Util::sum0" => return [sumOf values]
  | "List::Util::product" =>
    let product := values.foldl
      (fun product value => (compute? "*" product value.number).getD (.whole 0)) (.whole 1)
    return [product.asValue]
  | "List::Util::min" => return [extreme isLess values]
  | "List::Util::max" => return [extreme (fun left right => isLess right left) values]
  | "List::Util::minstr" => do
    let texts := (<- values.mapM textOf).mergeSort (fun left right => left <= right)
    return [((texts.head?).map .text).getD .undefined]
  | "List::Util::maxstr" => do
    let texts := (<- values.mapM textOf).mergeSort (fun left right => left <= right)
    return [((texts.getLast?).map .text).getD .undefined]
  | "List::Util::uniq" => return count (<- distinctValues values)
  | "List::Util::uniqnum" => return count (<- distinctValues values)
  | "List::Util::uniqstr" => return count (<- distinctValues values)
  | "List::Util::uniqint" => return count (<- distinctValues (values.map (.whole ·.int)))
  | "List::Util::shuffle" => return values
  | "List::Util::pairs" => (pairsOf values).mapM rowOfValues
  | "List::Util::pairkeys" => return (pairsOf values).map (·.headD .undefined)
  | "List::Util::pairvalues" => return (pairsOf values).map (·.getLastD .undefined)
  | "List::Util::head" =>
    let rest := values.drop 1
    let size := first.int
    return rest.take (if size < 0 then rest.length - size.natAbs else size.toNat)
  | "List::Util::tail" =>
    let rest := values.drop 1
    let size := first.int
    return rest.drop (if size < 0 then size.natAbs else rest.length - size.toNat)
  | "Scalar::Util::blessed" => match first with
    | .reference kind address => match (<- get).packages[(kind, address)]? with
      | some package => return [.text package]
      | none => return [if kind = .pattern then .text "Regexp" else .undefined]
    | _ => return [.undefined]
  | "Scalar::Util::reftype" => match first with
    | .reference kind _ => return [.text (if kind = .pattern then "REGEXP" else kind.name)]
    | _ => return [.undefined]
  | "Scalar::Util::refaddr" => match first with
    | .reference _ address => return [.whole (94000000000000 + 24 * address)]
    | _ => return [.undefined]
  | "Scalar::Util::looks_like_number" => return [truthValue (looksLikeNumber first)]
  | "Scalar::Util::dualvar" => return [.fault first.int (<- textBy engine second)]
  | "Scalar::Util::readonly" => return [.whole 0]
  | "Scalar::Util::openhandle" => return [first]
  | "Scalar::Util::weaken" => return []
  | "POSIX::floor" => number Float.floor
  | "POSIX::ceil" => number Float.ceil
  | "POSIX::round" => number Float.round
  | "POSIX::trunc" => return [withoutPlaces first]
  | "POSIX::tan" => return [.real first.float.tan]
  | "POSIX::log10" => return [.real first.float.log10]
  | "POSIX::abs" => return [sizeValue first]
  | "POSIX::pow" => return [((compute? "**" first.number second.number).getD (.whole 0)).asValue]
  | "POSIX::fmod" =>
    return [(Number.real (first.float - second.float *
      (let quotient := first.float / second.float
        if quotient < 0 then quotient.ceil else quotient.floor))).settled.asValue]
  | "POSIX::fmin" => return [if isLess second first then second else first]
  | "POSIX::fmax" => return [if isLess first second then second else first]
  | "POSIX::INT_MAX" => return [.whole 2147483647]
  | "POSIX::INT_MIN" => return [.whole (-2147483648)]
  | "POSIX::UINT_MAX" => return [.whole 4294967295]
  | "POSIX::LONG_MAX" => return [.whole (wordBound / 2 - 1)]
  | "POSIX::LONG_MIN" => return [.whole longLeast]
  | "POSIX::DBL_MAX" => return [.real 1.7976931348623157e308]
  | "POSIX::DBL_MIN" => return [.real 2.2250738585072014e-308]
  | "POSIX::FLT_MAX" => return [.real 3.4028234663852886e38]
  | "POSIX::EXIT_SUCCESS" => return [.whole 0]
  | "POSIX::EXIT_FAILURE" => return [.whole 1]
  | "POSIX::ENOENT" => return [.whole 2]
  | "POSIX::EACCES" => return [.whole 13]
  | "POSIX::EEXIST" => return [.whole 17]
  | "POSIX::WNOHANG" => return [.whole 1]
  | "POSIX::isatty" => return [truthValue false]
  | "POSIX::getpid" => return [.whole (4216 + (<- sessionNow).process)]
  | "POSIX::toupper" => return [.text ((<- text).map capital)]
  | "POSIX::tolower" => return [.text ((<- text).map small)]
  | "POSIX::strtol" =>
    let base := if second.isDefined then second.int.toNat else 10
    return [digitsToBase base (<- text).toList]
  | "POSIX::strtod" => return [first.number.asValue]
  | "POSIX::strftime" =>
    let parts := (values.drop 1).map Value.int
    return [.text (dateText (<- text) ⟨momentOfParts parts, 0⟩)]
  | "POSIX::mktime" => return [.whole (momentOfParts (values.map Value.int))]
  | "POSIX::_exit" => throw (.exit (first.int % 256).toNat)
  | "Time::Local::timelocal" => do return [.whole (momentOfParts (timeParts (<- yearNow) values))]
  | "Time::Local::timegm" => do return [.whole (momentOfParts (timeParts (<- yearNow) values))]
  | "Time::HiRes::time" => return [.real (Float.ofInt (<- momentNow).total / 1000000000)]
  | "Time::HiRes::sleep" => pauseFor first.float
  | "Time::HiRes::usleep" => pauseFor (first.float / 1000000)
  | "Data::Dumper::Dumper" => return [.text (<- dumpedAll values)]
  | "Storable::dclone" => return [<- deepCopy mostPackages first]
  | "Cwd::getcwd" => return [.text (<- presentFolder)]
  | "Cwd::cwd" => return [.text (<- presentFolder)]
  | "Cwd::abs_path" => if values.isEmpty then absolute "." else absolute (<- text)
  | "Cwd::realpath" => if values.isEmpty then absolute "." else absolute (<- text)
  | "File::Basename::basename" =>
    let path := withoutEndSlashes (<- text)
    let last := if path = "/" then "/" else (pathParts path).2
    return [.text (withoutSuffix last (<- (values.drop 1).mapM (textBy engine)))]
  | "File::Basename::dirname" => return [.text (folderPart (<- text))]
  | "File::Basename::fileparse" =>
    let (front, last) := pathParts (<- text)
    let folder := if (<- text).contains '/' then front ++ "/" else "./"
    let found <- (values.drop 1).findSomeM? fun suffix => do
      let pattern <- compiled (s!"({← textBy engine suffix})\\z") "s"
      let searched := searchedOf last
      return (pattern.pattern.search? searched 0).map fun found =>
        (.ofList (searched.between 0 found.start),
          .ofList (searched.between found.start found.ending))
    let (stem, suffix) := found.getD (last, "")
    return [.text stem, .text folder, .text suffix]
  | "File::Path::mkpath" => made values
  | "File::Path::make_path" => made values
  | "File::Path::rmtree" => removed values
  | "File::Path::remove_tree" => removed values
  | "File::Copy::copy" => copied values
  | "File::Copy::cp" => copied values
  | "File::Copy::move" => return [truthValue (<- renameFile (<- text) (<- textBy engine second))]
  | "File::Copy::mv" => return [truthValue (<- renameFile (<- text) (<- textBy engine second))]
  | "MIME::Base64::encode_base64" =>
    let ending <- if 1 < values.length then textBy engine second else pure "\n"
    let code := (Alphabet.sixtyFour ['+', '/']).encode (<- bytes first)
    return [.text (inLines ending 76 (code.length + 1) code)]
  | "MIME::Base64::decode_base64" =>
    let alphabet := Alphabet.sixtyFour ['+', '/']
    let text := (<- text).toList.filter fun c => isAlphanumeric c || c = '+' || c = '/'
    let missing := (4 - text.length % 4) % 4
    let (decoded, _) := alphabet.decode (text.length + 5) (text ++ List.replicate missing '=')
    return [.text (.ofList (decoded.map octet))]
  | "Digest::MD5::md5_hex" => return [hexOfBytes (Digest.md5 (<- joinedBytes values))]
  | "Digest::MD5::md5" => return [.text (.ofList ((Digest.md5 (<- joinedBytes values)).map octet))]
  | "Digest::SHA::sha1_hex" => return [hexOfBytes (Digest.sha1 (<- joinedBytes values))]
  | "Digest::SHA::sha224_hex" => return [hexOfBytes (Digest.sha224 (<- joinedBytes values))]
  | "Digest::SHA::sha256_hex" => return [hexOfBytes (Digest.sha256 (<- joinedBytes values))]
  | "Digest::SHA::sha384_hex" => return [hexOfBytes (Digest.sha384 (<- joinedBytes values))]
  | "Digest::SHA::sha512_hex" => return [hexOfBytes (Digest.sha512 (<- joinedBytes values))]
  | "Encode::encode_utf8" => return [.text (spelled (<- text))]
  | "Encode::decode_utf8" => return [.text (unspelled (<- text))]
  | "Encode::encode" => return [.text (spelled (<- textBy engine second))]
  | "Encode::decode" => return [.text (unspelled (<- textBy engine second))]
  | "Fcntl::SEEK_SET" => return [.whole 0]
  | "Fcntl::SEEK_CUR" => return [.whole 1]
  | "Fcntl::SEEK_END" => return [.whole 2]
  | "Carp::croak" => do throw (.fault (.text (<- tracedText engine false values)))
  | "Carp::confess" => do throw (.fault (.text (<- tracedText engine true values)))
  | "Carp::carp" => do
    complainTo (<- tracedText engine false values)
    return []
  | "Carp::cluck" => do
    complainTo (<- tracedText engine true values)
    return []
  | "Text::ParseWords::shellwords" => do
    let words <- values.mapM fun value => do return (quotedWords (<- textBy engine value).toList).1
    return words.flatten.map .text
  | _ => return []
where
  yearNow : Machine Int := do return (<- momentNow).date.year - 1900
  timeParts (present : Int) (values : List Value) : List Int :=
    (values.zipIdx.map fun (value, index) =>
      let value := value.int
      if index = 5 then (if 999 < value then value - 1900 else nearYear present value) else value)
  nearYear (present year : Int) : Int :=
    if year < 0 || 99 < year then year
    else
      let here := present / 100 * 100 + year
      if present + 50 < here then here - 100
      else if here <= present - 50 then here + 100
      else here
  pauseFor (seconds : Float) : Machine (List Value) := do
    flushAll
    let nanos := (Records.wholeOf (seconds * 1000000000)).toNat
    let time := (<- sessionNow).time
    await (.moment (time + nanos))
    return [.real seconds]
  absolute (name : String) : Machine (List Value) := do
    match (<- sessionNow).files.locate (pathOf name) with
    | .ok place => return [.text (pathTo place)]
    | .error _ => return [.undefined]
  withoutSuffix (name : String) (suffixes : List String) : String :=
    match suffixes.find? (fun suffix => name.endsWith suffix && name ≠ suffix) with
    | some suffix => .ofList (name.toList.take (name.length - suffix.length))
    | none => name
  made (values : List Value) : Machine (List Value) := do
    let results <- (<- values.mapM (textBy engine)).mapM fun name => do
      if (<- sessionNow).hasFolder name then return false else makeFolders name
    return [.whole (results.filter id).length]
  removed (values : List Value) : Machine (List Value) := do
    let names <- values.mapM (textBy engine)
    let results <- names.mapM fun name => tryFiling (FileTree.remove (pathOf name))
    return [.whole (results.filter id).length]
  copied (values : List Value) : Machine (List Value) := do
    match <- values.mapM (textBy engine) with
    | source :: target :: _ =>
      let target := if (<- sessionNow).hasFolder target then
        withoutEndSlashes target ++ "/" ++ (pathParts source).2 else target
      match <- readNamed source with
      | .error fault =>
        setFailure (faultNumber fault)
        return [.whole 0]
      | .ok bytes => match <- writeNamed .writing target bytes with
        | .error fault =>
          setFailure (faultNumber fault)
          return [.whole 0]
        | .ok () => return [.whole 1]
    | _ => return [.whole 0]
  joinedBytes (values : List Value) : Machine ByteArray := do
    return bytesOf (String.join (<- values.mapM (textBy engine))).toList
  unspelled (text : String) : String := .ofList (ofBytesLossy (bytesOf text.toList))

def givenBlockFunction (name : String) (wish : Wish) (code : Nat) (cells : List Nat) :
    Machine (List Value) := do
  let package := (<- get).package
  match name with
  | "first" => match <- firstOf engine code cells with
    | some cell => return [<- cellAt cell]
    | none => return [.undefined]
  | "any" => return [truthValue (<- firstOf engine code cells).isSome]
  | "none" => return [truthValue (<- firstOf engine code cells).isNone]
  | "all" => return [truthValue (<- cells.allM (holdsOf engine code))]
  | "notall" => return [truthValue !(<- cells.allM (holdsOf engine code))]
  | "reduce" => match cells with
    | [] => return [.undefined]
    | first :: rest => return [<- cellAt (<- reduced engine code package first rest)]
  | "pairmap" =>
    let found <- (pairsOf (<- cells.mapM cellAt)).mapM fun pair => do
      let left <- newCell (pair.headD .undefined)
      let right <- newCell (pair.getLastD .undefined)
      withNames (pairNames package left right) (callPlain engine code .all)
    return if wish = .one then [.whole found.flatten.length] else found.flatten
  | _ => return []

end

end BaseLanguage.Shell.Extraction
