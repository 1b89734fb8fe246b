import BaseLanguage.Ledger
import BaseLanguage.Shell.Utility.Records.Cell

namespace BaseLanguage.Shell.Extraction

open Text

/-!
# Values and packages

A value is a number, a text or a reference to something else; each stands for the others where that
is asked for.  Whole numbers are exact as long as they fit sixty-four bits.
-/

inductive Kind where
  | cell
  | row
  | table
  | code
  | stream
  | pattern
  deriving DecidableEq, Hashable

inductive Value where
  | undefined
  | whole (value : Int)
  | real (value : Float)
  | text (octets : String)
  | fault (number : Int) (message : String)
  | reference (kind : Kind) (address : Nat)

inductive Number where
  | whole (value : Int)
  | real (value : Float)

/-! ## Numbers -/

def fits (value : Int) : Bool := longLeast <= value && value < wordBound

def Number.ofInt (value : Int) : Number :=
  if fits value then .whole value else .real (Float.ofInt value)

def pointBound : Float := 9007199254740992

def Number.settled : Number -> Number
  | .whole value => .whole value
  | .real value =>
    if value.floor == value && value.abs < pointBound then .whole (Records.wholeOf value)
    else .real value

def Number.float : Number -> Float
  | .whole value => Float.ofInt value
  | .real value => value

def Number.truncated : Number -> Int
  | .whole value => value
  | .real value =>
    if value.isNaN then 0
    else match BinaryForm.long.read value.toBits.toNat with
      | .finite negative size =>
        let amount : Int := size.numerator / size.denominator
        if negative then -amount else amount
      | .infinite negative => if negative then longLeast else wordBound - 1
      | .undefined => 0

def usualDigits : Nat := 15

def realText (value : Float) : String :=
  if value.isNaN then "NaN"
  else if value.isInf then (if value < 0 then "-Inf" else "Inf")
  else
    let said := Records.floatAt [] 0 (some usualDigits) 'g' value
    .ofList said

def Number.text : Number -> String
  | .whole value => .ofList (signedDecimal value)
  | .real value => if value == 0 then "0" else realText value

def Number.asValue : Number -> Value
  | .whole value => .whole value
  | .real value => .real value

def numberAtFront (octets : String) : Number × Bool :=
  let text := octets.toList.dropWhile isSpace
  let (negative, unsigned) := signOf text
  let digits := unsigned.takeWhile isDigit
  let behind := unsigned.drop digits.length
  let isPlain := match behind with
    | [] => true
    | c :: _ => c ≠ '.' && c ≠ 'e' && c ≠ 'E'
  let ends (rest : Chars) : Bool := rest.all isSpace
  if !digits.isEmpty && isPlain then
    let size : Int := valueOf digits
    (.ofInt (if negative then -size else size), ends behind)
  else
    let lower := (unsigned.take 3).map Char.toLower
    if digits.isEmpty && (lower == ['i', 'n', 'f'] || lower == ['n', 'a', 'n']) then
      match Records.numberAt? text with
      | some (value, rest) => (.real value, ends rest)
      | none => (.whole 0, false)
    else match Records.decimalAt? unsigned with
      | some (value, rest) => (.real (if negative then -value else value), ends rest)
      | none => (.whole 0, false)

namespace Value

def number : Value -> Number
  | .undefined => .whole 0
  | .whole value => .whole value
  | .real value => .real value
  | .text octets => (numberAtFront octets).1
  | .fault number _ => .whole number
  | .reference _ address => .whole (94000000000000 + 24 * address)

def int (value : Value) : Int := value.number.truncated

def float (value : Value) : Float := value.number.float

def isDefined : Value -> Bool
  | .undefined => false
  | _ => true

end Value

def Kind.name : Kind -> String
  | .cell => "SCALAR"
  | .row => "ARRAY"
  | .table => "HASH"
  | .code => "CODE"
  | .stream => "GLOB"
  | .pattern => "Regexp"

def hexText (value : Nat) : String := .ofList (Nat.toDigits 16 value)

def truthValue (holds : Bool) : Value := if holds then .whole 1 else .text ""

/-! ## Computing -/

def wholePower (base : Int) (power : Nat) : Number :=
  let size := base.natAbs
  let bits := size.log2 + 1
  if size.isPowerOfTwo || 64 < bits * power then .real ((Float.ofInt base).pow (Float.ofNat power))
  else
    let value := Nat.pow size power
    .whole (if base < 0 && power % 2 = 1 then -(value : Int) else value)

/-- What is computed from two numbers; none where there is a division by zero.  Sums, differences and
products of whole numbers are whole; quotients have a point unless they need not. -/
def compute? (operation : String) (left right : Number) : Option Number :=
  match operation, left.settled, right.settled with
  | "+", .whole left, .whole right => some (.ofInt (left + right))
  | "-", .whole left, .whole right => some (.ofInt (left - right))
  | "*", .whole left, .whole right => some (.ofInt (left * right))
  | "/", .whole left, .whole right =>
    if right = 0 then none
    else if Nat.pow 2 53 < left.natAbs && left % right = 0 then some (.ofInt (left / right))
    else some (.real (Float.ofInt left / Float.ofInt right))
  | "+", left, right => some (.real (left.float + right.float))
  | "-", left, right => some (.real (left.float - right.float))
  | "*", left, right => some (.real (left.float * right.float))
  | "/", left, right => if right.float == 0 then none else some (.real (left.float / right.float))
  | "%", left, right =>
    let divisor := right.truncated
    if divisor = 0 then none else some (.whole (Int.fmod left.truncated divisor))
  | "**", .whole left, .whole right =>
    if 0 <= right then some (wholePower left right.toNat)
    else some (.real ((Float.ofInt left).pow (Float.ofInt right)))
  | "**", left, right => some (.real (left.float.pow right.float))
  | "&", left, right => some (bits (fun left right => left &&& right) left right)
  | "|", left, right => some (bits (fun left right => left ||| right) left right)
  | "^", left, right => some (bits (fun left right => left ^^^ right) left right)
  | "<<", left, right =>
    some (.whole ((left.truncated * Nat.pow 2 right.truncated.toNat) % wordBound))
  | ">>", left, right =>
    some (.whole ((left.truncated % wordBound) / Nat.pow 2 right.truncated.toNat))
  | _, _, _ => some (.whole 0)
where
  bits (apply : Nat -> Nat -> Nat) (left right : Number) : Number :=
    let word (number : Number) : Nat := (number.truncated % (wordBound : Int)).toNat
    .whole (apply (word left) (word right))

def numberOrder? (left right : Number) : Option Ordering := match left.settled, right.settled with
  | .whole left, .whole right => some (compare left right)
  | left, right =>
    let left := left.float
    let right := right.float
    if left < right then some .lt
    else if left == right then some .eq
    else if right < left then some .gt
    else none

def textOrder (left right : String) : Ordering :=
  if left < right then .lt else if left = right then .eq else .gt

def nextText? (octets : String) : Option String :=
  let text := octets.toList
  let letters := text.takeWhile Char.isAlpha
  let digits := text.drop letters.length
  if text.isEmpty || letters.isEmpty || !digits.all isDigit then none
  else
    let (done, carry) := text.reverse.foldl
      (fun ((done, carry) : Chars × Bool) c =>
        if !carry then (c :: done, false)
        else if c = 'z' then ('a' :: done, true)
        else if c = 'Z' then ('A' :: done, true)
        else if c = '9' then ('0' :: done, true)
        else (Char.ofNat (c.toNat + 1) :: done, false))
      ([], true)
    let first : Chars := match text.head? with
      | some c => if c.isLower then ['a'] else if c.isUpper then ['A'] else ['1']
      | none => []
    some (.ofList (if carry then first ++ done else done))

/-!
## Packages that are there

Some packages are there without being part of a program.  They offer functions, some of which a
program gets by name without asking.
-/

structure Offer where
  usual : List String := []
  others : List String := []

def offers : List (String × Offer) :=
  [("List::Util",
      { others := wordsIn "sum sum0 product min max minstr maxstr first any all none notall reduce
        shuffle uniq uniqnum uniqstr uniqint pairs pairkeys pairvalues pairmap head tail zip
        mesh" }),
    ("Scalar::Util",
      { others := wordsIn "blessed reftype looks_like_number refaddr weaken dualvar readonly
        openhandle" }),
    ("POSIX",
      { usual := wordsIn "floor ceil fmod pow strftime mktime INT_MAX INT_MIN UINT_MAX LONG_MAX
        LONG_MIN DBL_MAX DBL_MIN FLT_MAX EXIT_SUCCESS EXIT_FAILURE isatty strtol strtod toupper
        tolower getpid abs round trunc _exit dup2 ENOENT EACCES EEXIST WNOHANG isdigit isalpha tan
        fmin fmax log10 uname tmpnam setlocale LC_ALL" }),
    ("Data::Dumper", { usual := ["Dumper"] }),
    ("File::Basename", { usual := ["basename", "dirname", "fileparse"] }),
    ("File::Spec", {}),
    ("File::Temp", { usual := ["tempfile", "tempdir"] }),
    ("File::Path", { usual := ["mkpath", "rmtree"], others := ["make_path", "remove_tree"] }),
    ("File::Copy", { usual := ["copy", "move", "cp", "mv"] }),
    ("File::Find", { usual := ["find"] }),
    ("Cwd", { usual := ["getcwd", "cwd"], others := ["abs_path", "realpath"] }),
    ("Time::HiRes", { others := ["time", "sleep", "usleep"] }),
    ("Time::Local", { usual := ["timelocal", "timegm"] }),
    ("MIME::Base64", { usual := ["encode_base64", "decode_base64"] }),
    ("Digest::MD5", { others := ["md5", "md5_hex", "md5_base64"] }),
    ("Digest::SHA", { others := ["sha1_hex", "sha224_hex", "sha256_hex", "sha384_hex",
        "sha512_hex"] }),
    ("Encode", { usual := ["encode", "decode", "encode_utf8", "decode_utf8"] }),
    ("Text::ParseWords", { usual := ["shellwords", "quotewords"] }),
    ("Text::Wrap", { usual := ["wrap"] }),
    ("Carp", { usual := ["croak", "carp", "confess"], others := ["cluck"] }),
    ("Storable", { others := ["dclone"] }),
    ("JSON::PP", { usual := ["encode_json", "decode_json"] }),
    ("Term::ANSIColor", { usual := ["color", "colored"] }),
    ("IO::Handle", {}),
    ("IO::File", {}),
    ("Exporter", {}),
    ("FindBin", {}),
    ("Env", {}),
    ("English", {}),
    ("Errno", {}),
    ("Fcntl", { usual := ["O_RDONLY", "O_WRONLY", "O_CREAT"], others := ["LOCK_EX", "LOCK_SH",
        "LOCK_UN", "SEEK_SET", "SEEK_CUR", "SEEK_END"] })]

def searchingPackages : List String :=
  wordsIn "List::Util Scalar::Util Cwd MIME::Base64 Digest::MD5 Encode Storable Text::Wrap
  File::Find Digest::SHA Fcntl"

def pragmas : List String :=
  wordsIn "strict warnings utf8 feature lib vars integer bytes open locale diagnostics autodie
  constant parent base overload sort experimental bigint bignum subs mro fields version re less if
  encoding English encoding::warnings threads builtin sigtrap filetest charnames autouse"

def packageFolders : List String :=
  wordsIn "/etc/perl /usr/local/lib/x86_64-linux-gnu/perl/5.36.0 /usr/local/share/perl/5.36.0
  /usr/lib/x86_64-linux-gnu/perl5/5.36 /usr/share/perl5 /usr/lib/x86_64-linux-gnu/perl-base
  /usr/lib/x86_64-linux-gnu/perl/5.36 /usr/share/perl/5.36 /usr/local/lib/site_perl"

def missingPackage (name : String) : String :=
  let file := "/".intercalate (name.splitOn "::") ++ ".pm"
  let folders := " ".intercalate packageFolders
  s!"Can't locate {file} in @INC (you may need to install the {name} module) " ++
    s!"(@INC contains: {folders})"

def blockFunctions : List String := ["first", "any", "all", "none", "notall", "reduce", "pairmap"]

def singleFunctions : List String :=
  wordsIn "defined ref scalar lc lcfirst uc ucfirst fc length chr ord int abs sqrt sin cos exp log
  hex oct rand srand quotemeta chomp chop chdir rmdir readline close exit shift pop caller undef pos
  each keys values delete exists umask sleep localtime gmtime alarm readlink stat lstat fileno eof
  tell getc closedir readdir rewinddir lock study chroot evalbytes untie tied"

def bareFunctions : List String := wordsIn "time times wait wantarray getppid fork getlogin break"

def listFunctions : List String :=
  wordsIn "push unshift splice join split sprintf reverse die warn unlink open system exec kill pack
  unpack chmod chown utime mkdir rename link symlink index rindex substr atan2 binmode seek read
  sysread syswrite sysopen opendir bless select vec waitpid pipe flock truncate crypt sysseek
  formline glob lcfirst getpwnam getpwuid getgrgid getgrnam tie socket ioctl fcntl getpriority
  setpriority getpgrp setpgrp gethostbyname"

def ownWords : List String :=
  wordsIn "my our local state sub do eval print printf say sort map grep return next last redo goto
  require use no package if unless while until for foreach else elsif not and or xor x eq ne lt gt
  le ge cmp q qq qw qr qx m s tr y BEGIN END __PACKAGE__ __FILE__ __LINE__ __SUB__ __END__ __DATA__
  continue"

def askedFunctions : List String := ["fc", "evalbytes", "break", "lock"]

def isKnownFunction (name : String) : Bool :=
  singleFunctions.contains name || bareFunctions.contains name || listFunctions.contains name ||
    ownWords.contains name

/-!
## Programs that take texts apart

A program is a list of statements.  Names are resolved while it is read: a name that a block has for
itself is a number, all others are shared by their names.
-/

inductive Holder where
  | own (number : Nat)
  | shared (name : String)

def Kind.sign : Kind -> Char
  | .cell => '$'
  | .row => '@'
  | .table => '%'
  | .code => '&'
  | .stream => '*'
  | .pattern => '$'

abbrev Naming := List (String × Holder)

inductive Jump where
  | leave
  | again
  | anew

inductive Gathering where
  | map
  | select
  | sort
  deriving DecidableEq

inductive Saying where
  | plain
  | line
  | form
  deriving DecidableEq

mutual

inductive Expression where
  | constant (value : Value)
  | joined (parts : List Expression)
  | listed (inside : Expression)
  | named (kind : Kind) (holder : Holder)
  | followed (kind : Kind) (reference : Expression)
  | item (row index : Expression)
  | entry (table key : Expression)
  | items (row indices : Expression)
  | entries (table keys : Expression)
  | pairs (isRow : Bool) (place keys : Expression)
  | portion (inside indices : Expression)
  | lastPlace (row : Expression)
  | declared (stays isList : Bool) (names : List (Kind × Nat))
  | localized (place : Expression)
  | list (parts : List Expression)
  | assign (place value : Expression)
  | change (operation : String) (place value : Expression)
  | step (amount : Int) (isBefore : Bool) (place : Expression)
  | minus (part : Expression)
  | opposite (part : Expression)
  | complement (part : Expression)
  | reference (part : Expression)
  | compute (operation : String) (left right : Expression)
  | compare (operation : String) (left right : Expression)
  | both (left right : Expression)
  | either (left right : Expression)
  | unlessDefined (left right : Expression)
  | exclusive (left right : Expression)
  | choose (test first second : Expression)
  | range (number : Nat) (isLong : Bool) (left right : Expression)
  | repeated (isList : Bool) (left right : Expression)
  | matching (isOpposite : Bool) (subject work : Expression)
  | search (pattern : Expression) (flags : String)
  | replace (pattern new : Expression) (flags : String)
  | translate (old new : Chars) (flags : String)
  | patternOf (pattern : Expression) (flags : String)
  | function (name : String) (arguments : List Expression)
  | call (code : Expression) (arguments : Option (List Expression))
  | method (object : Expression) (name : Expression) (isMaybe : Bool) (arguments : List Expression)
  | procedure (body : List Statement)
  | newRow (parts : List Expression)
  | newTable (parts : List Expression)
  | readLine (stream : Expression)
  | filesLike (pattern : Expression)
  | perform (body : List Statement)
  | trial (body : List Statement)
  | trialOf (names : Naming) (package : String) (code : Expression)
  | fileTest (letter : Char) (file : Expression)
  | gather (gathering : Gathering) (judge : Option Expression) (inside : Expression)
  | tell (saying : Saying) (stream : Option Expression) (parts : List Expression)
  | jump (jump : Jump) (label : Option String)
  | giveBack (value : Option Expression)

inductive Statement where
  | evaluate (line : Nat) (value : Expression)
  | block (label : Option String) (body onward : List Statement)
  | choose (line : Nat) (cases : List (Expression × List Statement)) (otherwise : List Statement)
  | whileHolds (line : Nat) (label : Option String) (isOpposite : Bool) (test : Expression)
      (body onward : List Statement)
  | repeatWhile (line : Nat) (isOpposite : Bool) (body : Expression) (test : Expression)
  | count (line : Nat) (label : Option String) (first test next : Option Expression)
      (body : List Statement)
  | forEach (line : Nat) (label : Option String) (holder : Holder) (inside : Expression)
      (body onward : List Statement)
  | package (line : Nat) (name : String)

end

structure Script where
  body : List Statement
  procedures : List (String × List Statement) := []
  early : List (List Statement) := []
  endings : List (List Statement) := []
  names : Nat := 0
  ranges : Nat := 0
  failure : Nat := 0
  data : Option Chars := none

def Expression.ofText (octets : String) : Expression := .constant (.text octets)

def usualPlace : Expression := .named .cell (.shared "main::_")

def Expression.isListPlace : Expression -> Bool
  | .named .row _ => true
  | .named .table _ => true
  | .followed .row _ => true
  | .followed .table _ => true
  | .items _ _ => true
  | .entries _ _ => true
  | .list _ => true
  | .declared _ isList names => isList || names.any (·.1 != .cell)
  | .localized place => place.isListPlace
  | _ => false

end BaseLanguage.Shell.Extraction
