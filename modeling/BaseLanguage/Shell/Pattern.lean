import BaseLanguage.Text.CharClass

namespace BaseLanguage.Shell

/-!
# Patterns

A pattern matches texts.  In it a question mark stands for any character, an asterisk for any
characters, and brackets for a character of a set.  Characters of a pattern that were quoted stand
for themselves.

Matching goes through a text once.  It keeps the parts of the pattern that may still match what
follows; these are ends of the pattern, so there are never more than it has items.

A pattern may also hold groups: choices of patterns in parentheses, behind a sign that says how
often one of them is to match.  Such a pattern is matched item by item: each item leads from the
places in the text that have been reached to further ones.
-/

inductive GroupSign where
  | optional
  | anyNumber
  | oneOrMore
  | once
  | opposite

def groupSign? : Char -> Option GroupSign
  | '?' => some .optional
  | '*' => some .anyNumber
  | '+' => some .oneOrMore
  | '@' => some .once
  | '!' => some .opposite
  | _ => none

inductive PatternItem where
  | exactly (c : Char)
  | anyOne
  | anyText
  | oneOf (set : Text.CharSet)
  | group (sign : GroupSign) (choices : List (List PatternItem))

abbrev Pattern := List PatternItem

abbrev PatternChar := Char × Bool

namespace PatternItem

def accepts (item : PatternItem) (c : Char) : Bool := match item with
  | .exactly expected => c == expected
  | .anyOne => true
  | .anyText => true
  | .oneOf set => set.holds c
  | .group _ _ => false

def isGroup : PatternItem -> Bool
  | .group _ _ => true
  | _ => false

def depth : PatternItem -> Nat
  | .group _ choices =>
    1 + choices.attach.foldl
      (fun deepest choice =>
        choice.1.attach.foldl (fun deepest item => max deepest item.1.depth) deepest)
      0
  | _ => 0
decreasing_by
  have inside := List.sizeOf_lt_of_mem item.2
  have within := List.sizeOf_lt_of_mem choice.2
  simp only [group.sizeOf_spec]
  omega

def lowered : PatternItem -> PatternItem
  | .exactly c => .exactly c.toLower
  | item => item

def mirrored : Nat -> PatternItem -> PatternItem
  | depth + 1, .group sign choices =>
    .group sign (choices.map fun choice => (choice.map (mirrored depth)).reverse)
  | _, item => item

end PatternItem

namespace Pattern

def className? : List PatternChar -> Option (String × List PatternChar)
  | ('[', false) :: (':', _) :: rest =>
    let name := (rest.takeWhile (·.1 != ':')).map Prod.fst
    match rest.drop name.length with
    | (':', _) :: (']', _) :: others => some (.ofList name, others)
    | _ => none
  | _ => none

/-- The items of a set up to the bracket that closes it; one that stands first does not. -/
def setItems : Nat -> Bool -> List PatternChar -> Option (List Text.SetItem × List PatternChar)
  | 0, _, _ => none
  | _, _, [] => none
  | limit + 1, first, (c, exact) :: rest =>
    if c = ']' && !exact && !first then some ([], rest)
    else match className? ((c, exact) :: rest) with
      | some (name, others) => do
        let (items, others) <- setItems limit false others
        return (.named name :: items, others)
      | none =>
        let (c, rest) := match c, exact, rest with
          | '\\', false, (d, _) :: more => (d, more)
          | c, _, rest => (c, rest)
        match rest with
        | ('-', false) :: (last, lastExact) :: more =>
          if last = ']' && !lastExact then do
            let (items, others) <- setItems limit false rest
            return (.range c c :: items, others)
          else do
            let (last, more) := match last, lastExact, more with
              | '\\', false, (d, _) :: others => (d, others)
              | last, _, more => (last, more)
            let (items, others) <- setItems limit false more
            return (.range c last :: items, others)
        | rest => do
          let (items, others) <- setItems limit false rest
          return (.range c c :: items, others)

def set? (carets : Bool) (text : List PatternChar) : Option (Text.CharSet × List PatternChar) :=
  let (opposite, inside) := match text with
    | ('!', false) :: rest => (true, rest)
    | ('^', false) :: rest => if carets then (true, rest) else (false, text)
    | _ => (false, text)
  (setItems (text.length + 1) true inside).map fun (items, rest) => (⟨opposite, items⟩, rest)

/-- The choices of a group, and what follows the parenthesis that closes it.  The choice so far is in
reverse; the level is the number of open parentheses inside. -/
def choices? (level : Nat) (current : List PatternChar) :
    List PatternChar -> Option (List (List PatternChar) × List PatternChar)
  | [] => none
  | (c, exact) :: rest =>
    let goOn (level : Nat) := choices? level ((c, exact) :: current) rest
    if exact then goOn level
    else match c, level with
      | ')', 0 => some ([current.reverse], rest)
      | ')', level + 1 => goOn level
      | '(', level => goOn (level + 1)
      | '|', 0 =>
        (choices? 0 [] rest).map fun (choices, behind) => (current.reverse :: choices, behind)
      | _, level => goOn level

structure Style where
  carets : Bool := true
  groups : Bool := false

def groupAt? (style : Style) (text : List PatternChar) :
    Option (GroupSign × List (List PatternChar) × List PatternChar) :=
  match text with
  | (c, false) :: ('(', false) :: rest =>
    if style.groups then do
      let sign <- groupSign? c
      let (choices, behind) <- choices? 0 [] rest
      some (sign, choices, behind)
    else none
  | _ => none

def ofChars (style : Style) : Nat -> List PatternChar -> Pattern
  | 0, _ => []
  | _, [] => []
  | limit + 1, (c, exact) :: rest => match groupAt? style ((c, exact) :: rest) with
    | some (sign, choices, behind) =>
      .group sign (choices.map (ofChars style limit)) :: ofChars style limit behind
    | none =>
      if exact then .exactly c :: ofChars style limit rest
      else match c with
        | '?' => .anyOne :: ofChars style limit rest
        | '*' => .anyText :: ofChars style limit rest
        | '\\' => match rest with
          | (d, _) :: rest => .exactly d :: ofChars style limit rest
          | [] => [.exactly '\\']
        | '[' => match set? style.carets rest with
          | some (set, others) => .oneOf set :: ofChars style limit others
          | none => .exactly '[' :: ofChars style limit rest
        | c => .exactly c :: ofChars style limit rest

def parse (style : Style) (text : List PatternChar) : Pattern :=
  ofChars style (text.length + 1) text

def ofText (text : String) : Pattern := parse {} (text.toList.map fun c => (c, false))

variable (pattern : Pattern)

def hasGroups : Bool := pattern.any PatternItem.isGroup

def mirrored (pattern : Pattern) : Pattern :=
  (pattern.map fun item => item.mirrored item.depth).reverse

def isOpen : Bool :=
  pattern.any fun
    | .exactly _ => false
    | _ => true

def starts : Pattern -> List Pattern
  | .anyText :: rest => (.anyText :: rest) :: starts rest
  | pattern => [pattern]

def distinct (ends : List Pattern) : List Pattern :=
  ends.foldr
    (fun pattern others =>
      if others.any (·.length == pattern.length) then others else pattern :: others)
    []

def advance (c : Char) (ends : List Pattern) : List Pattern :=
  distinct <| ends.flatMap fun
    | [] => []
    | .anyText :: rest => [.anyText :: rest]
    | item :: rest => if item.accepts c then starts rest else []

def closed (ends : List Pattern) : List Pattern := distinct (ends.flatMap starts)

def isDone (ends : List Pattern) : Bool := ends.any List.isEmpty

def matchFrom (ends : List Pattern) : Chars -> Bool
  | [] => isDone ends
  | c :: rest => !ends.isEmpty && matchFrom (closed (advance c ends)) rest

def lengthsFrom (count : Nat) (ends : List Pattern) : Chars -> List Nat
  | [] => if isDone ends then [count] else []
  | c :: rest =>
    let others :=
      if ends.isEmpty then [] else lengthsFrom (count + 1) (closed (advance c ends)) rest
    if isDone ends then count :: others else others

/-! ## Groups -/

def distinctRests (rests : List Chars) : List Chars :=
  let sorted := rests.mergeSort (fun left right => right.length <= left.length)
  sorted.foldr
    (fun rest others => match others with
      | next :: _ => if next.length = rest.length then others else rest :: others
      | [] => [rest])
    []

def allRests : Chars -> List Chars
  | [] => [[]]
  | c :: rest => (c :: rest) :: allRests rest

def reached (step : Chars -> List Chars) : Nat -> List Chars -> List Chars
  | 0, rests => rests
  | limit + 1, rests =>
    let next := distinctRests (rests ++ rests.flatMap step)
    if next.length = rests.length then rests else reached step limit next

def restsBehind : Nat -> PatternItem -> Chars -> List Chars
  | depth + 1, .group sign choices, text =>
    let once (text : Chars) : List Chars :=
      distinctRests <| choices.flatMap fun choice =>
        choice.foldl
          (fun rests item => distinctRests (rests.flatMap (restsBehind depth item))) [text]
    match sign with
    | .once => once text
    | .optional => distinctRests (text :: once text)
    | .anyNumber => reached once (text.length + 1) [text]
    | .oneOrMore => reached once (text.length + 1) (once text)
    | .opposite =>
      let lengths := (once text).map List.length
      (allRests text).filter (!lengths.contains ·.length)
  | _, .anyText, text => allRests text
  | _, item, text => match text with
    | c :: rest => if item.accepts c then [rest] else []
    | [] => []

def restsOf (text : Chars) : List Chars :=
  pattern.foldl
    (fun rests item => distinctRests (rests.flatMap (restsBehind item.depth item))) [text]

/-! ## Matching -/

def holds (text : Chars) : Bool :=
  if pattern.hasGroups then (restsOf pattern text).any List.isEmpty
  else matchFrom (starts pattern) text

def lengths (text : Chars) : List Nat :=
  if pattern.hasGroups then (restsOf pattern text).map (text.length - ·.length)
  else lengthsFrom 0 (starts pattern) text

def trimFront (longest : Bool) (text : Chars) : Chars :=
  let found := lengths pattern text
  match if longest then found.getLast? else found.head? with
  | some count => text.drop count
  | none => text

/-- A text without the end that a pattern matches.  Seen from its back, a text is matched by the
pattern with its items in reverse. -/
def trimBack (longest : Bool) (text : Chars) : Chars :=
  (trimFront pattern.mirrored longest text.reverse).reverse

end Pattern
end BaseLanguage.Shell
