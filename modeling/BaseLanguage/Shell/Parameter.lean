import BaseLanguage.Shell.Glyph
import BaseLanguage.Shell.Quotation
import BaseLanguage.Shell.Sum

namespace BaseLanguage.Shell

/-!
# Parameters

A parameter is a variable, an argument of the script, or one of the signs that stand for something
of the shell's own.  It may have no value, one, or several, each for itself or joined.
-/

inductive Holding where
  | nothing
  | one (octets : String)
  | several (joined : Bool) (values : List String)
  deriving DecidableEq

def optionLetters : List (String × Char) :=
  [("errexit", 'e'), ("noglob", 'f'), ("ignoreeof", 'I'), ("interactive", 'i'), ("monitor", 'm'),
    ("noexec", 'n'), ("stdin", 's'), ("xtrace", 'x'), ("verbose", 'v'), ("vi", 'V'),
    ("emacs", 'E'), ("noclobber", 'C'), ("allexport", 'a'), ("notify", 'b'), ("nounset", 'u')]

variable (settings : Settings)

def Settings.letterText : String :=
  let on (name : String) : Bool := settings.options.contains name
  match settings.kind with
  | .plain => .ofList ((optionLetters.filter (on ·.1)).map Prod.snd)
  | .extended =>
    let letters : List (String × Char) :=
      [("allexport", 'a'), ("errexit", 'e'), ("noglob", 'f'), ("hashall", 'h'),
        ("noexec", 'n'), ("nounset", 'u'), ("verbose", 'v'), ("xtrace", 'x'),
        ("braceexpand", 'B'), ("noclobber", 'C'), ("command", 'c')]
    .ofList ((letters.filter (on ·.1)).map Prod.snd)

def Settings.sign : Char -> Holding
  | '?' => .one (numberText settings.status)
  | '#' => .one (numberText settings.arguments.length)
  | '@' => .several false settings.arguments
  | '*' => .several true settings.arguments
  | '-' => .one settings.letterText
  | '$' => .one (numberText (numberOfProcess settings.process))
  | '!' =>
    (settings.background.map fun process =>
      .one (numberText (numberOfProcess process))).getD .nothing
  | _ => .nothing

def holdingAt (value : Option Value) (index : Index) (octets : String) (place : Option Int) :
    Holding :=
  let ofOption (found : Option String) : Holding := (found.map .one).getD .nothing
  match index with
  | .only => ofOption (value.bind Value.first?)
  | .each => .several false ((value.map Value.all).getD [])
  | .joined => .several true ((value.map Value.all).getD [])
  | .at _ => match value with
    | some (.table entries) => ofOption (entries.lookup octets)
    | value => ofOption (Sum.textAt? value (some (place.getD 0)))

def Settings.argument (number : Nat) : Holding :=
  match (settings.name :: settings.arguments)[number]? with
  | some octets => .one octets
  | none => .nothing

def Settings.separators : Chars :=
  match settings.bindings.find? "IFS" with
  | some held => ((held.value.bind Value.first?).map String.toList).getD [' ', '\t', '\n']
  | none => [' ', '\t', '\n']

def Settings.joint (joined : Bool) : Option Char :=
  match settings.kind, joined with
  | .extended, false => some ' '
  | _, _ => settings.separators.head?

namespace Holding

variable (holding : Holding)

def text (joint : Option Char) : String := match holding with
  | .nothing => ""
  | .one octets => octets
  | .several _ values => (String.ofList joint.toList).intercalate values

def isMissing (empty : Bool) : Bool := match holding with
  | .nothing => true
  | .one octets => empty && octets.isEmpty
  | .several _ values => values.isEmpty || (empty && values == [""])

def map (change : String -> String) : Holding -> Holding
  | .nothing => .nothing
  | .one octets => .one (change octets)
  | .several joined values => .several joined (values.map change)

def glyphs (quoted : Bool) (joint : Option Char) : List Glyph :=
  match holding with
  | .nothing => if quoted then [.keep] else []
  | .one octets => Glyph.ofValue quoted octets
  | .several joined values => Glyph.ofValues quoted joined joint values

/-- How long what a parameter stands for is: the length of a value, or the number of values. -/
def length : Holding -> Nat
  | .nothing => 0
  | .one octets => octets.length
  | .several _ values => values.length

def textLength : Nat := match holding with
  | .several _ values => (" ".intercalate values).length
  | holding => holding.length

end Holding

def toggleCase (c : Char) : Char := if c.isUpper then c.toLower else c.toUpper

namespace Recasing

def apply (recasing : Recasing) (c : Char) : Char := match recasing with
  | .upper => c.toUpper
  | .lower => c.toLower
  | .toggle => toggleCase c

end Recasing

/-- A text with the case changed of those of its characters, or of the first, that a pattern
matches; no pattern matches all. -/
def recase (recasing : Recasing) (all : Bool) (pattern : Pattern) (text : Chars) : Chars :=
  let change (c : Char) : Char :=
    if pattern.isEmpty || pattern.holds [c] then recasing.apply c else c
  if all then text.map change
  else match text with
    | [] => []
    | c :: rest => change c :: rest

/-- What takes the place of a match: characters, or the match itself where it is called for. -/
def replacementFor (replacement : List PatternChar) (found : Chars) : Chars :=
  replacement.flatMap fun (c, exact) => if c = '&' && !exact then found else [c]

/-- A text with the matches of a pattern replaced.  A match is as long as possible. -/
def substituteIn (all : Bool) (pattern : Pattern) (replacement : List PatternChar) :
    Nat -> Chars -> Chars
  | 0, text => text
  | _, [] => []
  | limit + 1, c :: rest => match (pattern.lengths (c :: rest)).getLast? with
    | some (count + 1) =>
      let found := (c :: rest).take (count + 1)
      let behind := rest.drop count
      replacementFor replacement found ++
        (if all then substituteIn all pattern replacement limit behind else behind)
    | _ => c :: substituteIn all pattern replacement limit rest

def substitute (occurrence : Occurrence) (pattern : Pattern) (replacement : List PatternChar)
    (text : Chars) : Chars :=
  match occurrence with
  | .first => substituteIn false pattern replacement (text.length + 1) text
  | .all => substituteIn true pattern replacement (text.length + 1) text
  | .front => match (pattern.lengths text).getLast? with
    | some count => replacementFor replacement (text.take count) ++ text.drop count
    | none => text
  | .back => match (pattern.mirrored.lengths text.reverse).getLast? with
    | some count =>
      let kept := text.length - count
      text.take kept ++ replacementFor replacement (text.drop kept)
    | none => text

/-- A part of some items: from an offset on, which may be counted from the end, and as many as a
count says, or up to a place counted from the end.  No part is before its start. -/
def slice? (items : List α) (offset : Int) (count : Option Int) : Option (List α) :=
  let size : Int := items.length
  let start := if offset < 0 then size + offset else offset
  if start < 0 || size < start then some []
  else match count with
    | none => some (items.drop start.toNat)
    | some count =>
      if count < 0 then
        if size + count < start then none
        else some ((items.drop start.toNat).take (size + count - start).toNat)
      else some ((items.drop start.toNat).take count.toNat)

def writtenKey (key : String) : String :=
  if hasShellSigns key || key.toList.any isHidden then quoteInDouble key else key

def writtenValue : Value -> String
  | .text octets => quoteInDouble octets
  | .row elements =>
    let written := elements.map fun (index, octets) =>
      s!"[{numberText index}]={quoteInDouble octets}"
    "(" ++ " ".intercalate written ++ ")"
  | .table entries =>
    let written := entries.map fun (key, octets) => s!"[{writtenKey key}]={quoteInDouble octets} "
    s!"({String.join written})"

def Variable.letters (held : Variable) : String :=
  let kind := match held.value with
    | some (.row _) => "a"
    | some (.table _) => "A"
    | _ => ""
  let recased := match held.recasing with
    | some .upper => "u"
    | some .lower => "l"
    | some .toggle => "c"
    | none => ""
  kind ++ (if held.integer then "i" else "") ++ (if held.reference then "n" else "") ++
    (if held.fixed then "r" else "") ++ (if held.exported then "x" else "") ++ recased

def Variable.declaration (held : Variable) (name : String) : String :=
  let letters := if held.letters.isEmpty then "-" else held.letters
  let value := (held.value.map ("=" ++ writtenValue ·)).getD ""
  s!"declare -{letters} {name}{value}"

def Variable.assignment (held : Variable) (name : String) (octets : Option String) : String :=
  let value := (octets.map ("=" ++ quoteForReuse ·)).getD ""
  if held.letters.isEmpty then s!"{name}{value}" else s!"declare -{held.letters} {name}{value}"

def singleQuoted (octets : String) : String := .ofList (go (octets.length + 1) octets.toList)
where
  go : Nat -> Chars -> Chars
    | 0, _ => []
    | _, [] => ['\'', '\'']
    | limit + 1, text =>
      let plain := text.takeWhile (· != '\'')
      let behind := text.drop plain.length
      let quotes := behind.takeWhile (· == '\'')
      let rest := behind.drop quotes.length
      let front := if plain.isEmpty then [] else '\'' :: plain ++ ['\'']
      let middle := if quotes.isEmpty then [] else '"' :: quotes ++ ['"']
      front ++ middle ++ (if rest.isEmpty then [] else go limit rest)

def requoted (kind : ShellKind) (octets : String) : String :=
  if kind = .plain then singleQuoted octets else quotePlainly octets

end BaseLanguage.Shell
