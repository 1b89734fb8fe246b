namespace BaseLanguage

/-!
# Terms

A term is a labelled tree: an application of a constructor to children, a list, a string or an
integer.  A list has known elements and may end in an explicit tail, a term that stands for the
elements that follow.  An application of the empty constructor is a tuple.

`cons` is the one way to put an element in front: it splices a tail that is a list and keeps any
other tail as it is.  The explicit tails that `cons` makes follow at least one element and are
never lists themselves.
-/

inductive Term where
  | appl (constructor : String) (children : List Term)
  | list (elems : List Term) (tail : Option Term)
  | str (value : String)
  | int (value : Int)
  deriving Inhabited

namespace Term

mutual

/-- Decides whether two terms are the same tree. -/
def decideEq : (left right : Term) -> Decidable (left = right)
  | .appl c cs, .appl d ds =>
    match decEq c d, decideEqAll cs ds with
    | isTrue sameName, isTrue same => isTrue (by rw [sameName, same])
    | isFalse different, _ => isFalse (fun equal => different (by injection equal))
    | _, isFalse different => isFalse (fun equal => different (by injection equal))
  | .list es none, .list fs none =>
    match decideEqAll es fs with
    | isTrue same => isTrue (by rw [same])
    | isFalse different => isFalse (fun equal => different (by injection equal))
  | .list es (some s), .list fs (some t) =>
    match decideEqAll es fs, decideEq s t with
    | isTrue same, isTrue sameTail => isTrue (by rw [same, sameTail])
    | isFalse different, _ => isFalse (fun equal => different (by injection equal))
    | _, isFalse different =>
      isFalse (fun equal => different (by injection equal with _ tails; injection tails))
  | .str v, .str w =>
    match decEq v w with
    | isTrue same => isTrue (by rw [same])
    | isFalse different => isFalse (fun equal => different (by injection equal))
  | .int m, .int n =>
    match decEq m n with
    | isTrue same => isTrue (by rw [same])
    | isFalse different => isFalse (fun equal => different (by injection equal))
  | .list _ none, .list _ (some _) | .list _ (some _), .list _ none
  | .appl _ _, .list _ _ | .appl _ _, .str _ | .appl _ _, .int _
  | .list _ _, .appl _ _ | .list _ _, .str _ | .list _ _, .int _
  | .str _, .appl _ _ | .str _, .list _ _ | .str _, .int _
  | .int _, .appl _ _ | .int _, .list _ _ | .int _, .str _ =>
    isFalse (fun equal => by simp at equal)

def decideEqAll : (left right : List Term) -> Decidable (left = right)
  | [], [] => isTrue rfl
  | s :: ss, t :: ts =>
    match decideEq s t, decideEqAll ss ts with
    | isTrue same, isTrue sameRest => isTrue (by rw [same, sameRest])
    | isFalse different, _ => isFalse (fun equal => different (by injection equal))
    | _, isFalse different => isFalse (fun equal => different (by injection equal))
  | [], _ :: _ | _ :: _, [] => isFalse (fun equal => by simp at equal)

end

instance : DecidableEq Term := decideEq

inductive Kind where
  | application
  | list
  | string
  | integer
  deriving Repr, DecidableEq

namespace Kind

def name : Kind -> String
  | application => "application"
  | list => "list"
  | string => "string"
  | integer => "integer"

end Kind

def kind : Term -> Kind
  | appl _ _ => .application
  | list _ _ => .list
  | str _ => .string
  | int _ => .integer

def constructor? : Term -> Option String
  | appl name _ => some name
  | _ => none

def isApplicationOf (name : String) : Term -> Bool
  | appl constructor _ => constructor == name
  | _ => false

/-- An application of the empty constructor. -/
def tuple (children : List Term) : Term :=
  appl "" children

def known (elems : List Term) : Term :=
  list elems none

/-- A list with `head` in front.  A tail that is a list is spliced in, so that the result is known
whenever the tail is; any other tail becomes the explicit tail. -/
def cons (head : Term) : Term -> Term
  | list elems tail => list (head :: elems) tail
  | other => list [head] (some other)

theorem isApplicationOf_iff (term : Term) (name : String) :
    term.isApplicationOf name = true <-> exists children, term = appl name children := by
  cases term <;> simp [isApplicationOf]

theorem cons_known (head : Term) (elems : List Term) :
    cons head (known elems) = known (head :: elems) := rfl

end Term
end BaseLanguage
