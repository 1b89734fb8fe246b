namespace BaseLanguage
namespace Text

/-!
# Cutting text at a separator

`pieces` cuts at every occurrence of a separator, `splitLast?` at the last one, and `lines` cuts
into the lines of a text.  Joining the pieces with the separator gives the text back.
-/

/-- The pieces between the occurrences of `separator`; there is always at least one. -/
def pieces (separator : Char) : List Char -> List (List Char)
  | [] => [[]]
  | c :: rest =>
    if c = separator then [] :: pieces separator rest
    else match pieces separator rest with
      | [] => [[c]]
      | piece :: more => (c :: piece) :: more

/-- The pieces in one text, with `separator` between neighbours. -/
def join (separator : Char) : List (List Char) -> List Char
  | [] => []
  | [piece] => piece
  | piece :: next :: more => piece ++ separator :: join separator (next :: more)

theorem pieces_ne_nil (separator : Char) (text : List Char) : pieces separator text ≠ [] := by
  cases text with
  | nil => simp [pieces]
  | cons c rest =>
    simp only [pieces]
    split
    · simp
    · split <;> simp

theorem join_pieces (separator : Char) (text : List Char) :
    join separator (pieces separator text) = text := by
  induction text with
  | nil => rfl
  | cons c rest ih =>
    simp only [pieces]
    split
    · next same =>
      subst same
      cases cut : pieces c rest with
      | nil => exact absurd cut (pieces_ne_nil c rest)
      | cons piece more =>
        rw [cut] at ih
        simp [join, ih]
    · cases cut : pieces separator rest with
      | nil => exact absurd cut (pieces_ne_nil separator rest)
      | cons piece more =>
        rw [cut] at ih
        cases more with
        | nil =>
          simp only [join] at ih ⊢
          rw [ih]
        | cons next more =>
          simp only [join, List.cons_append] at ih ⊢
          rw [ih]

/-- What stands before and after the last `separator`, if there is one. -/
def splitLast? (separator : Char) (text : List Char) : Option (List Char × List Char) :=
  match text.reverse.dropWhile (· != separator) with
  | [] => none
  | _ :: before => some (before.reverse, (text.reverse.takeWhile (· != separator)).reverse)

/-- `text` with every `old` replaced by `new`. -/
def replace (old new : Char) (text : List Char) : List Char :=
  text.map (fun c => if c = old then new else c)

/-- The words of a text, between blanks and ends of lines. -/
def wordsIn (text : String) : List String :=
  ((pieces ' ' (replace '\n' ' ' text.toList)).filter (!·.isEmpty)).map String.ofList

/-- A line without the carriage return that stood in front of its line feed. -/
def withoutReturn (line : List Char) : List Char :=
  match line.reverse with
  | '\r' :: before => before.reverse
  | _ => line

/-- The lines of a text.  A line ends at a line feed, with or without a carriage return before
it; what follows the last line feed is a line of its own, kept as it is, if it is not empty. -/
def lines (text : List Char) : List (List Char) :=
  match (pieces '\n' text).reverse with
  | [] => []
  | last :: before =>
    let ended := before.reverse.map withoutReturn
    if last.isEmpty then ended else ended ++ [last]

end Text
end BaseLanguage
