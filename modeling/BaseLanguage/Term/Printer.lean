import BaseLanguage.Term.Basic
import BaseLanguage.Text.Numeral

namespace BaseLanguage
namespace Term

/-!
# The text of a term

An application is written as its constructor and its children in parentheses.  The parentheses
are left out when there are no children, except for the empty tuple, which has no name to show.
A list stands in brackets with its explicit tail behind a bar, a string in quotes.
-/

/-- A character inside quotes.  Quote, backslash, line feed, tab and carriage return are
escaped, all others stand for themselves. -/
def escape (c : Char) : List Char :=
  if c = '"' then ['\\', '"']
  else if c = '\\' then ['\\', '\\']
  else if c = '\n' then ['\\', 'n']
  else if c = '\t' then ['\\', 't']
  else if c = '\r' then ['\\', 'r']
  else [c]

def quote (value : List Char) : List Char :=
  '"' :: (value.flatMap escape ++ ['"'])

mutual

def render : Term -> List Char
  | appl name [] => if name = "" then ['(', ')'] else name.toList
  | appl name (child :: more) =>
    name.toList ++ '(' :: (child.render ++ (renderMore more ++ [')']))
  | list [] none => ['[', ']']
  | list [] (some tail) => '[' :: '|' :: (tail.render ++ [']'])
  | list (elem :: more) none => '[' :: (elem.render ++ (renderMore more ++ [']']))
  | list (elem :: more) (some tail) =>
    '[' :: (elem.render ++ (renderMore more ++ '|' :: (tail.render ++ [']'])))
  | str value => quote value.toList
  | int value => Text.signedDecimal value

/-- The text of the terms that follow a first one, each behind a comma. -/
def renderMore : List Term -> List Char
  | [] => []
  | term :: more => ',' :: (term.render ++ renderMore more)

end

def print (term : Term) : String :=
  String.ofList term.render

end Term
end BaseLanguage
