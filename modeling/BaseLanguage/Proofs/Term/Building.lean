import BaseLanguage.Proofs.Term.RoundTrip

namespace BaseLanguage
namespace Term

/-!
# Terms that can be built

The type of terms allows lists that no operation makes: an explicit tail without an element in
front of it, or one that is a list again.  What comes from the operations on terms and from the
reader is proper at every depth.  Its explicit tails follow at least one element and are no lists,
because putting an element in front splices a list and taking the first one away hands out the tail
once no element is left in front of it.

On proper terms, taking a list apart undoes putting an element in front.  On others it does not: the
rest of `[a|t]` is `t`, whether this tail was given as `t` or as a list of no elements before `t`.
-/

/-- The terms that come from the operations on terms: making one from parts, reading a text, and
handing out a part. -/
inductive IsBuilt : Term -> Prop where
  | appl (constructor : String) {children : List Term}
      (built : forall child, child ∈ children -> IsBuilt child) :
      IsBuilt (.appl constructor children)
  | known {elems : List Term} (built : forall elem, elem ∈ elems -> IsBuilt elem) :
      IsBuilt (.known elems)
  | cons {head tail : Term} (isHead : IsBuilt head) (isTail : IsBuilt tail) :
      IsBuilt (.cons head tail)
  | str (value : String) : IsBuilt (.str value)
  | int (value : Int) : IsBuilt (.int value)
  | read {text : String} {term : Term} (read : parse text = .ok term) : IsBuilt term
  | child {term part : Term} {index : Nat} (built : IsBuilt term)
      (found : term.child index = .ok part) : IsBuilt part
  | elem {term part : Term} {spine : Spine} (built : IsBuilt term) (isList : term.spine = .ok spine)
      (among : part ∈ spine.elems) : IsBuilt part
  | tail {term part : Term} {spine : Spine} (built : IsBuilt term) (isList : term.spine = .ok spine)
      (found : spine.tail = some part) : IsBuilt part
  | rest {term part : Term} {spine : Spine} (built : IsBuilt term) (isList : term.spine = .ok spine)
      (found : spine.rest = .ok part) : IsBuilt part

/-- At every depth, an explicit tail follows at least one element and is no list. -/
inductive IsProper : Term -> Prop where
  | appl {constructor : String} {children : List Term}
      (proper : forall child, child ∈ children -> IsProper child) :
      IsProper (.appl constructor children)
  | known {elems : List Term} (proper : forall elem, elem ∈ elems -> IsProper elem) :
      IsProper (.list elems none)
  | opened {elems : List Term} {tail : Term} (inhabited : elems ≠ []) (noList : tail.kind ≠ .list)
      (proper : forall elem, elem ∈ elems -> IsProper elem) (properTail : IsProper tail) :
      IsProper (.list elems (some tail))
  | str {value : String} : IsProper (.str value)
  | int {value : Int} : IsProper (.int value)

theorem spine_eq_ok_iff {term : Term} {spine : Spine} :
    term.spine = .ok spine <-> term = .list spine.elems spine.tail := by
  rcases spine with ⟨elems, tail⟩
  cases term <;> simp [Term.spine]

theorem rest_of_known (first : Term) (more : List Term) :
    Spine.rest ⟨first :: more, none⟩ = .ok (.known more) := by
  cases more <;> rfl

mutual

/-- What the reader can answer with is proper. -/
theorem isProper_of_isReadable : forall term : Term, term.IsReadable -> term.IsProper
  | .str _, _ => .str
  | .int _, _ => .int
  | .appl _ children, readable => by
      rw [IsReadable] at readable
      exact .appl (areProper_of_areReadable children readable.2)
  | .list elems none, readable => by
      rw [IsReadable] at readable
      exact .known (areProper_of_areReadable elems readable)
  | .list elems (some tail), readable => by
      rw [IsReadable] at readable
      rcases readable with ⟨inhabited, noList, areReadable, readableTail⟩
      exact .opened inhabited noList (areProper_of_areReadable elems areReadable)
        (isProper_of_isReadable tail readableTail)

theorem areProper_of_areReadable : forall terms : List Term, AreReadable terms ->
    forall term, term ∈ terms -> term.IsProper
  | [], _ => List.forall_mem_nil _
  | first :: more, readable => by
      rw [AreReadable] at readable
      exact List.forall_mem_cons.mpr ⟨isProper_of_isReadable first readable.1,
        areProper_of_areReadable more readable.2⟩

end

namespace IsProper

variable {head tail term part : Term} {spine : Spine}

theorem elem (proper : term.IsProper) (isList : term.spine = .ok spine)
    (among : part ∈ spine.elems) : part.IsProper := by
  rw [spine_eq_ok_iff] at isList
  subst isList
  cases hasTail : spine.tail with
  | none =>
    rw [hasTail] at proper
    cases proper with
    | known proper => exact proper part among
  | some tail =>
    rw [hasTail] at proper
    cases proper with
    | opened _ _ proper _ => exact proper part among

theorem cons (properHead : head.IsProper) (properTail : tail.IsProper) :
    (Term.cons head tail).IsProper := by
  have alone : forall elem, elem ∈ [head] -> elem.IsProper := by simpa using properHead
  cases properTail with
  | known proper => exact .known (List.forall_mem_cons.mpr ⟨properHead, proper⟩)
  | opened _ noList proper properTail =>
    exact .opened (by simp) noList (List.forall_mem_cons.mpr ⟨properHead, proper⟩) properTail
  | appl proper => exact .opened (by simp) nofun alone (.appl proper)
  | str => exact .opened (by simp) nofun alone .str
  | int => exact .opened (by simp) nofun alone .int

theorem rest (proper : term.IsProper) (isList : term.spine = .ok spine)
    (found : spine.rest = .ok part) : part.IsProper := by
  have properElems : forall elem, elem ∈ spine.elems -> elem.IsProper :=
    fun _ among => proper.elem isList among
  rw [spine_eq_ok_iff] at isList
  subst isList
  rcases spine with ⟨elems, tail⟩
  match elems, tail with
  | [], _ => cases found
  | first :: more, none =>
    rw [rest_of_known] at found
    cases found
    exact .known fun elem among => properElems elem (List.mem_cons_of_mem _ among)
  | [_], some tail =>
    cases found
    cases proper with
    | opened _ _ _ properTail => exact properTail
  | _ :: second :: more, some tail =>
    cases found
    cases proper with
    | opened _ noList _ properTail =>
      exact .opened (by simp) noList
        (fun elem among => properElems elem (List.mem_cons_of_mem _ among)) properTail

/-- Taking apart a list with an element in front of a proper term gives the two back. -/
theorem exists_spine_cons (proper : tail.IsProper) (head : Term) :
    exists spine, (Term.cons head tail).spine = .ok spine ∧
      spine.head = .ok head ∧ spine.rest = .ok tail := by
  cases proper with
  | known => exact ⟨_, rfl, rfl, rest_of_known head _⟩
  | @opened elems explicit inhabited =>
    cases elems with
    | nil => exact absurd rfl inhabited
    | cons first more => exact ⟨_, rfl, rfl, rfl⟩
  | appl | str | int => exact ⟨_, rfl, rfl, rfl⟩

end IsProper

/-- Whatever is built is proper. -/
theorem isProper_of_isBuilt {term : Term} (built : term.IsBuilt) : term.IsProper := by
  induction built with
  | appl constructor _ proper => exact .appl proper
  | known _ proper => exact .known proper
  | cons _ _ properHead properTail => exact properHead.cons properTail
  | str value => exact .str
  | int value => exact .int
  | read read => exact isProper_of_isReadable _ (isReadable_of_parse read)
  | child _ found proper =>
    rcases child_eq_ok_iff.mp found with ⟨constructor, children, rfl, atIndex⟩
    cases proper with
    | appl proper => exact proper _ (List.mem_of_getElem? atIndex)
  | elem _ isList among proper => exact proper.elem isList among
  | tail _ isList found proper =>
    rw [spine_eq_ok_iff, found] at isList
    subst isList
    cases proper with
    | opened _ _ _ properTail => exact properTail
  | rest _ isList found proper => exact proper.rest isList found

/-! ## The algebra of lists -/

/-- An element is put in front of a list, or in front of an explicit tail. -/
theorem spine_cons (head tail : Term) :
    (Term.cons head tail).spine =
      .ok (match tail with
        | .list elems rest => ⟨head :: elems, rest⟩
        | other => ⟨[head], some other⟩) := by
  cases tail <;> rfl

/-- All elements of a list are known with one more in front exactly if they were known before. -/
theorem isKnown_cons_iff {head tail : Term} {spine : Spine}
    (isList : (Term.cons head tail).spine = .ok spine) :
    spine.isKnown = true <->
      exists before, tail.spine = .ok before ∧ before.isKnown = true := by
  rw [spine_cons] at isList
  cases isList
  cases tail <;> simp [Spine.isKnown, Term.spine]

namespace IsProper

variable {term head rest : Term} {spine : Spine} {error : ShapeError}

/-- A list is empty if it has no elements. -/
theorem isEmpty_iff (proper : term.IsProper) (isList : term.spine = .ok spine) :
    spine.isEmpty = true <-> spine.elems = [] := by
  rw [spine_eq_ok_iff] at isList
  subst isList
  rcases spine with ⟨elems, tail⟩
  cases proper with
  | known => simp [Spine.isEmpty]
  | opened inhabited => simp [Spine.isEmpty, inhabited]

/-- Putting the first element back in front of what is behind it gives the list again. -/
theorem cons_head_rest (proper : term.IsProper) (isList : term.spine = .ok spine)
    (isHead : spine.head = .ok head) (isRest : spine.rest = .ok rest) :
    Term.cons head rest = term := by
  rw [spine_eq_ok_iff] at isList
  subst isList
  rcases spine with ⟨elems, tail⟩
  match elems, tail with
  | [], _ => cases isHead
  | first :: more, none =>
    rw [rest_of_known] at isRest
    cases isHead
    cases isRest
    rfl
  | [first], some tail =>
    cases isHead
    cases isRest
    cases proper with
    | opened _ noList =>
      -- a tail that is a list would be spliced
      cases rest with
      | list => exact absurd rfl noList
      | appl | str | int => rfl
  | first :: second :: more, some tail =>
    cases isHead
    cases isRest
    rfl

theorem exists_head_rest (inhabited : spine.elems ≠ []) :
    exists head rest, spine.head = .ok head ∧ spine.rest = .ok rest := by
  rcases spine with ⟨elems, tail⟩
  match elems, tail with
  | [], _ => exact absurd rfl inhabited
  | first :: more, none => exact ⟨first, _, rfl, rest_of_known first more⟩
  | [first], some tail => exact ⟨first, tail, rfl, rfl⟩
  | first :: second :: more, some tail => exact ⟨first, _, rfl, rfl⟩

theorem head_eq_error_iff (proper : term.IsProper) (isList : term.spine = .ok spine) :
    spine.head = .error error <-> spine.isEmpty = true ∧ error = .emptyList .head := by
  rw [proper.isEmpty_iff isList]
  rcases spine with ⟨elems, tail⟩
  cases elems <;> simp [Spine.head, eq_comm]

theorem rest_eq_error_iff (proper : term.IsProper) (isList : term.spine = .ok spine) :
    spine.rest = .error error <-> spine.isEmpty = true ∧ error = .emptyList .tail := by
  rw [proper.isEmpty_iff isList]
  constructor
  · intro failed
    by_cases inhabited : spine.elems = []
    · rcases spine with ⟨elems, tail⟩
      cases inhabited
      cases failed
      exact ⟨rfl, rfl⟩
    · rcases exists_head_rest inhabited with ⟨_, rest, _, found⟩
      cases failed.symm.trans found
  · rintro ⟨empty, rfl⟩
    rcases spine with ⟨elems, tail⟩
    cases empty
    rfl

end IsProper

/-- Built terms are proper, and their lists are taken apart and put together without loss.  With an
element in front, a term is a list of which this element is the head and the term itself the rest,
and of which all elements are known exactly if the term is a list of which they are.  A list with
elements is its head in front of its rest; the list without elements has neither. -/
theorem lists_of_isBuilt {term : Term} (built : term.IsBuilt) :
    term.IsProper ∧
    (forall head, exists spine, (Term.cons head term).spine = .ok spine ∧
      spine.head = .ok head ∧ spine.rest = .ok term ∧
      (spine.isKnown = true <->
        exists before, term.spine = .ok before ∧ before.isKnown = true)) ∧
    forall spine, term.spine = .ok spine ->
      (spine.elems ≠ [] -> exists head rest, spine.head = .ok head ∧ spine.rest = .ok rest ∧
        Term.cons head rest = term) ∧
      (forall error, spine.head = .error error <->
        spine.isEmpty = true ∧ error = .emptyList .head) ∧
      forall error, spine.rest = .error error <->
        spine.isEmpty = true ∧ error = .emptyList .tail := by
  have proper := isProper_of_isBuilt built
  refine ⟨proper, fun head => ?_, fun spine isList => ⟨fun inhabited => ?_, ?_, ?_⟩⟩
  · rcases proper.exists_spine_cons head with ⟨spine, isList, isHead, isRest⟩
    exact ⟨spine, isList, isHead, isRest, isKnown_cons_iff isList⟩
  · rcases IsProper.exists_head_rest inhabited with ⟨head, rest, isHead, isRest⟩
    exact ⟨head, rest, isHead, isRest, proper.cons_head_rest isList isHead isRest⟩
  · exact fun error => proper.head_eq_error_iff isList
  · exact fun error => proper.rest_eq_error_iff isList

/-- The rest of a list with one element before an explicit tail is no list. -/
theorem lists_of_isBuilt_opened :
    IsBuilt (.cons (.int 1) (.str "rest")) ∧
      exists head rest, Spine.head ⟨[.int 1], some (.str "rest")⟩ = .ok head ∧
        Spine.rest ⟨[.int 1], some (.str "rest")⟩ = .ok rest ∧
        Term.cons head rest = .cons (.int 1) (.str "rest") :=
  have built : IsBuilt (.cons (.int 1) (.str "rest")) := .cons (.int 1) (.str "rest")
  ⟨built, ((lists_of_isBuilt built).2.2 ⟨[.int 1], some (.str "rest")⟩ rfl).1 (by simp)⟩

end Term
end BaseLanguage
