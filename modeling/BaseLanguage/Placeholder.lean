namespace BaseLanguage
namespace Placeholder

/-!
# Placeholders

An argument may name values by placeholders: names in braces.  `expand` puts the values in their
place in one pass from left to right, and does not look into the values again.  Braces that do not
enclose a known name stand for themselves.
-/

/-- Names with the values that they stand for.  Of two bindings of one name the later counts. -/
abbrev Bindings := List (String × String)

def value? (bindings : Bindings) (name : List Char) : Option (List Char) :=
  (bindings.reverse.lookup (String.ofList name)).map String.toList

/-- The text up to the next closing brace, and what follows the brace. -/
def closed? : List Char -> Option (List Char × List Char)
  | [] => none
  | '}' :: rest => some ([], rest)
  | c :: rest => (closed? rest).map (fun (name, after) => (c :: name, after))

theorem closed?_length {text name after : List Char} (closed : closed? text = some (name, after)) :
    after.length < text.length := by
  induction text generalizing name after with
  | nil => simp [closed?] at closed
  | cons c rest ih =>
    unfold closed? at closed
    split at closed
    · simp at *
    · rename_i same
      simp only [List.cons.injEq] at same
      simp only [Option.some.injEq, Prod.mk.injEq] at closed
      obtain ⟨_, rfl⟩ := same
      simp [closed.2]
    · rename_i same
      simp only [List.cons.injEq] at same
      obtain ⟨_, rfl⟩ := same
      obtain ⟨found, foundAt, pair⟩ := Option.map_eq_some_iff.mp closed
      simp only [Prod.mk.injEq] at pair
      have shorter := ih foundAt
      rw [← pair.2]
      simp only [List.length_cons]
      omega

/-- The value that a placeholder at the front of a text stands for, without its opening brace, and
what follows the placeholder. -/
def placeholder? (bindings : Bindings) (text : List Char) : Option (List Char × List Char) :=
  match closed? text with
  | none => none
  | some (name, after) => (value? bindings name).map (fun value => (value, after))

theorem placeholder?_length {bindings : Bindings} {text value after : List Char}
    (found : placeholder? bindings text = some (value, after)) : after.length < text.length := by
  unfold placeholder? at found
  split at found
  · simp at found
  · rename_i name rest closed
    obtain ⟨_, _, pair⟩ := Option.map_eq_some_iff.mp found
    simp only [Prod.mk.injEq] at pair
    rw [← pair.2]
    exact closed?_length closed

/-- Puts the values in the place of their placeholders. -/
def expandChars (bindings : Bindings) (text : List Char) : List Char :=
  match text with
  | [] => []
  | c :: rest =>
    if c = '{' then
      match found : placeholder? bindings rest with
      | some (value, after) =>
        have := placeholder?_length found
        value ++ expandChars bindings after
      | none => c :: expandChars bindings rest
    else c :: expandChars bindings rest
termination_by text.length
decreasing_by
  · simp only [List.length_cons]
    omega
  · simp
  · simp

/-- Puts the values in the place of their placeholders. -/
def expand (bindings : Bindings) (text : String) : String :=
  String.ofList (expandChars bindings text.toList)

end Placeholder
end BaseLanguage
