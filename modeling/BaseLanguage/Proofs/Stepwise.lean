import BaseLanguage.Term.Shape

namespace BaseLanguage

/-!
# Steps that succeed

An accessor of terms succeeds on exactly the terms of one shape.  The first statements below give
that shape, so that a proof about code which asks for several parts in a row can take the term apart
once and need not follow the accessors any further.

Decoding, work on files and work with tools all go in steps that may fail and that keep what they
changed when they do.  `ending` is how such a step ends from a state.  The last statements say
how two steps in a row end: the second one runs exactly if the first one gives a value, and starts
from the state that the first one left.
-/

/-! ## What accessors accept -/

/-- Two steps that may fail succeed together exactly if each does. -/
theorem bind_eq_ok_iff {first : Except ε α} {next : α -> Except ε β} {result : β} :
    (first >>= next) = .ok result <->
      exists middle, first = .ok middle ∧ next middle = .ok result := by
  cases first with
  | error failure => simp [bind, Except.bind]
  | ok middle => simp [bind, Except.bind]

theorem ok_bind (value : α) (next : α -> Except ε β) :
    ((.ok value : Except ε α) >>= next) = next value := rfl

/-- Two steps fail exactly if the first fails, or if it succeeds and the second fails. -/
theorem bind_eq_error_iff {first : Except ε α} {next : α -> Except ε β} {failure : ε} :
    (first >>= next) = .error failure <->
      first = .error failure ∨
        exists middle, first = .ok middle ∧ next middle = .error failure := by
  cases first with
  | error other => simp [bind, Except.bind]
  | ok middle => simp [bind, Except.bind]

theorem exists_ok_of_bind {first : Except ε α} {next : α -> Except ε β} {result : β}
    (both : (first >>= next) = .ok result) : exists middle, first = .ok middle :=
  (bind_eq_ok_iff.mp both).imp fun _ steps => steps.1

/-- If the second of two steps never fails, it is the first that does. -/
theorem error_of_bind {first : Except ε α} {next : α -> Except ε β} {failure : ε}
    (succeeds : forall middle, exists result, next middle = .ok result)
    (failed : (first >>= next) = .error failure) : first = .error failure := by
  rcases bind_eq_error_iff.mp failed with failed | ⟨middle, _, failed⟩
  · exact failed
  · rcases succeeds middle with ⟨result, succeeded⟩
    rw [succeeded] at failed
    cases failed

theorem mapError_eq_ok_iff {outcome : Except ε α} {wrap : ε -> δ} {result : α} :
    outcome.mapError wrap = .ok result <-> outcome = .ok result := by
  cases outcome with
  | error failure => exact ⟨nofun, nofun⟩
  | ok value =>
    change Except.ok value = .ok result <-> _
    rw [Except.ok.injEq, Except.ok.injEq]

/-- An outcome is an error exactly if it is no value. -/
theorem exists_error_iff {outcome : Except ε α} :
    (exists failure, outcome = .error failure) <-> ¬ exists result, outcome = .ok result := by
  cases outcome <;> simp

namespace Term

theorem application_eq_ok_iff {term : Term} {appl : Application} :
    term.application = .ok appl <-> term = .appl appl.constructor appl.children := by
  cases term with
  | appl constructor children =>
    rcases appl with ⟨otherConstructor, otherChildren⟩
    simp [application]
  | list elems tail => simp [application]
  | str value => simp [application]
  | int value => simp [application]

theorem Application.child_eq_ok_iff {appl : Application} {index : Nat} {part : Term} :
    appl.child index = .ok part <-> appl.children[index]? = some part := by
  unfold Application.child
  cases appl.children[index]? <;> simp

theorem child_eq_ok_iff {term : Term} {index : Nat} {part : Term} :
    term.child index = .ok part <->
      exists constructor children, term = .appl constructor children ∧
        children[index]? = some part := by
  unfold child
  rw [bind_eq_ok_iff]
  constructor
  · rintro ⟨appl, isAppl, found⟩
    exact ⟨appl.constructor, appl.children, application_eq_ok_iff.mp isAppl,
      Application.child_eq_ok_iff.mp found⟩
  · rintro ⟨constructor, children, rfl, found⟩
    exact ⟨⟨constructor, children⟩, rfl, Application.child_eq_ok_iff.mpr found⟩

theorem knownElems_eq_ok_iff {term : Term} {elems : List Term} :
    term.knownElems = .ok elems <-> term = known elems := by
  unfold knownElems
  rw [bind_eq_ok_iff]
  cases term with
  | list found tail =>
    cases tail <;> simp [spine, Spine.knownElems, known]
  | appl constructor children => simp [spine, known]
  | str value => simp [spine, known]
  | int value => simp [spine, known]

end Term

/-! ## Steps that keep what they changed -/

variable {ε σ α β : Type}

/-- How a step ends from a state: what it gives, or why it fails, and the state that it leaves. -/
def ending (step : ExceptT ε (StateM σ) α) (state : σ) : Except ε α × σ :=
  step.run.run state

theorem ending_pure (value : α) (state : σ) :
    ending (pure value : ExceptT ε (StateM σ) α) state = (.ok value, state) := rfl

theorem ending_throw (failure : ε) (state : σ) :
    ending (throw failure : ExceptT ε (StateM σ) α) state = (.error failure, state) := rfl

theorem ending_get (state : σ) :
    ending (get : ExceptT ε (StateM σ) σ) state = (.ok state, state) := rfl

theorem ending_modify (change : σ -> σ) (state : σ) :
    ending (modify change : ExceptT ε (StateM σ) PUnit) state = (.ok (), change state) := rfl

theorem ending_liftM (outcome : Except ε α) (state : σ) :
    ending (liftM outcome : ExceptT ε (StateM σ) α) state = (outcome, state) := rfl

theorem ending_bind (first : ExceptT ε (StateM σ) α) (next : α -> ExceptT ε (StateM σ) β)
    (state : σ) :
    ending (first >>= next) state =
      match ending first state with
      | (.ok value, middle) => ending (next value) middle
      | (.error failure, middle) => (.error failure, middle) := by
  change (match first.run.run state with
    | (outcome, middle) => (ExceptT.bindCont next outcome).run middle) = _
  unfold ending
  cases first.run.run state with
  | mk outcome middle => cases outcome <;> rfl

/-- What is so of the state that a first step leaves, and stays so when the second one goes on from
there, is so of the state that both leave, wherever they stop. -/
theorem after_bind {P : σ -> Prop} {first : ExceptT ε (StateM σ) α}
    {next : α -> ExceptT ε (StateM σ) β} {state : σ} (early : P (ending first state).2)
    (later : forall value middle, P middle -> P (ending (next value) middle).2) :
    P (ending (first >>= next) state).2 := by
  rw [ending_bind]
  rcases ended : ending first state with ⟨outcome, middle⟩
  rw [ended] at early
  cases outcome with
  | ok value => exact later value middle early
  | error failure => exact early

/-- What is done about a failure goes on from the state that the failed step left. -/
theorem ending_tryCatch (first : ExceptT ε (StateM σ) α)
    (handle : ε -> ExceptT ε (StateM σ) α) (state : σ) :
    ending (tryCatch first handle) state =
      match ending first state with
      | (.ok value, middle) => (.ok value, middle)
      | (.error failure, middle) => ending (handle failure) middle := by
  change (match first.run.run state with
    | (outcome, middle) =>
      (match outcome with
        | .ok value => (pure (.ok value) : StateM σ (Except ε α))
        | .error failure => (handle failure).run).run middle) = _
  unfold ending
  cases first.run.run state with
  | mk outcome middle => cases outcome <;> rfl

/-- Two steps in a row give a value exactly if the first gives one and the second, from there,
gives the value. -/
theorem ending_bind_eq_ok_iff {first : ExceptT ε (StateM σ) α}
    {next : α -> ExceptT ε (StateM σ) β} {state after : σ} {result : β} :
    ending (first >>= next) state = (.ok result, after) <->
      exists value middle, ending first state = (.ok value, middle) ∧
        ending (next value) middle = (.ok result, after) := by
  rw [ending_bind]
  rcases ending first state with ⟨outcome, middle⟩
  cases outcome with
  | ok value => simp [and_assoc]
  | error failure => simp

/-- Two steps in a row fail exactly if the first fails, or if it gives a value and the second,
from there, fails. -/
theorem ending_bind_eq_error_iff {first : ExceptT ε (StateM σ) α}
    {next : α -> ExceptT ε (StateM σ) β} {state after : σ} {failure : ε} :
    ending (first >>= next) state = (.error failure, after) <->
      ending first state = (.error failure, after) ∨
        exists value middle, ending first state = (.ok value, middle) ∧
          ending (next value) middle = (.error failure, after) := by
  rw [ending_bind]
  rcases ending first state with ⟨outcome, middle⟩
  cases outcome with
  | ok value => simp [and_assoc]
  | error failure => simp

end BaseLanguage
