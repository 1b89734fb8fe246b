import BaseLanguage.Registry
import Mathlib.Data.Finset.Card
import Mathlib.Data.Finset.Dedup
import Mathlib.Data.List.Induction

namespace BaseLanguage

/-!
# What a registry holds after its registrations

A registry keeps three tables, and a registration works on all of them.  `Consistent` says how
they fit together, and `Registers` says everything that one registration does to a consistent
registry.  From there on only two look-ups are of interest: a registered descriptor stands until
its name is registered again, and a claim of an extension stands until the extension is claimed
again or the name of its owner is registered again.  `Lasts` is what both have in common.

The second look-up need not find anything, even if a registered language declares the extension.
Registering a name again drops the claims of the descriptor that is replaced, and an extension
among them is not given back to another language that declares it.  The claim that was made last
says exactly when that happens.

All other look-ups give what the registrations say.  Numbers are given out in the order in which
names are registered first, and under its number and its name a language is the one registered last;
`Represents` collects this.
-/

namespace LanguageRegistry

variable {registry after : LanguageRegistry} {language : LanguageDescriptor} {number : Nat}

/-! ## The three tables -/

/-- The tables of a registry fit together: a name has the number under which a language of that
name stands, and the owner of an extension declares it. -/
structure Consistent (registry : LanguageRegistry) : Prop where
  numbered : forall name number, registry.numbers[name]? = some number <->
    exists language : LanguageDescriptor,
      registry.languages[number]? = some language ∧ language.name = name
  owned : forall extension number, registry.owners[extension]? = some number ->
    exists language : LanguageDescriptor,
      registry.languages[number]? = some language ∧ extension ∈ language.extensions

theorem Consistent.empty : Consistent {} := by
  constructor <;> simp

theorem lt_length_of_stands (stands : registry.languages[number]? = some language) :
    number < registry.languages.length :=
  (List.getElem?_eq_some_iff.mp stands).1

/-- A claim changes the owner of one extension. -/
theorem claim_registry (number : Nat) (language : LanguageDescriptor)
    (state : LanguageRegistry × List Warning) (extension : String) :
    (claim number language state extension).1 =
      { state.1 with owners := state.1.owners.insert extension number } := by
  rcases state with ⟨registry, warnings⟩
  unfold claim
  dsimp only
  cases registry.owners[extension]? with
  | none => rfl
  | some previous =>
    dsimp only
    by_cases same : previous = number
    · rw [if_pos same]
    · rw [if_neg same]

/-- Claims change the owners of the extensions that are claimed. -/
theorem foldl_claim_registry (number : Nat) (language : LanguageDescriptor)
    (extensions : List String) (state : LanguageRegistry × List Warning) :
    (extensions.foldl (claim number language) state).1.languages = state.1.languages ∧
    (extensions.foldl (claim number language) state).1.numbers = state.1.numbers ∧
    forall extension, (extensions.foldl (claim number language) state).1.owners[extension]? =
      if extension ∈ extensions then some number else state.1.owners[extension]? := by
  induction extensions generalizing state with
  | nil => simp
  | cons first more inductionHypothesis =>
    rcases inductionHypothesis (claim number language state first) with
      ⟨languages, numbers, owners⟩
    rw [claim_registry] at languages numbers owners
    refine ⟨languages, numbers, fun extension => ?_⟩
    rw [List.foldl_cons, owners extension, Std.ExtTreeMap.getElem?_insert]
    by_cases later : extension ∈ more
    · simp [later]
    · by_cases same : extension = first
      · simp [same]
      · have different : ¬ first = extension := fun equal => same equal.symm
        simp [later, same, different]

/-! ## One registration -/

/-- There is a number for a language: its name has one, or not all numbers are taken. -/
def HasNumberFor (registry : LanguageRegistry) (language : LanguageDescriptor) : Prop :=
  registry.number? language.name = none -> registry.languages.length < numberBound

/-- The registry after one more registration. -/
def registering (registry : LanguageRegistry) (language : LanguageDescriptor) :
    LanguageRegistry :=
  (registry.register language).2.1

/-- Everything that registering a language under a number does to a registry. -/
structure Registers (language : LanguageDescriptor) (registry : LanguageRegistry) (number : Nat)
    (after : LanguageRegistry) : Prop where
  number_eq : number = (registry.number? language.name).getD registry.languages.length
  languages : forall place, after.languages[place]? =
    if place = number then some language else registry.languages[place]?
  numbers : forall name, after.numbers[name]? =
    if name = language.name then some number else registry.numbers[name]?
  owners : forall extension, after.owners[extension]? =
    if extension ∈ language.extensions then some number
    else registry.owners[extension]?.filter (fun owner => owner != number)

/-- A descriptor takes the place of the one whose number it has. -/
theorem place_of_known (known : registry.number? language.name = some number) :
    registry.place language =
      (number,
        { registry with
          languages := registry.languages.set number language
          owners := registry.owners.filter (fun _ owner => owner != number) },
        [.languageReplaced language.name]) := by
  unfold place
  rw [known]

/-- A descriptor with a new name gets the next number, if there is one. -/
theorem place_of_new (new : registry.number? language.name = none)
    (numberable : registry.HasNumberFor language) :
    registry.place language =
      (registry.languages.length,
        { registry with
          languages := registry.languages ++ [language]
          numbers := registry.numbers.insert language.name registry.languages.length },
        []) := by
  unfold place
  rw [new, Nat.mod_eq_of_lt (numberable new)]

/-- A registration claims the extensions after the descriptor is in its place. -/
theorem Registers.of_place {placed : LanguageRegistry} {warnings : List Warning}
    (found : registry.place language = (number, placed, warnings))
    (number_eq : number = (registry.number? language.name).getD registry.languages.length)
    (languages : forall place, placed.languages[place]? =
      if place = number then some language else registry.languages[place]?)
    (numbers : forall name, placed.numbers[name]? =
      if name = language.name then some number else registry.numbers[name]?)
    (owners : forall extension : String, placed.owners[extension]? =
      registry.owners[extension]?.filter (fun owner => owner != number)) :
    Registers language registry (registry.register language).1 (registry.registering language) := by
  rcases foldl_claim_registry number language language.extensions (placed, warnings) with
    ⟨sameLanguages, sameNumbers, claimed⟩
  have sameNumber : (registry.register language).1 = number := by
    unfold register
    rw [found]
  have claims : registry.registering language =
      (language.extensions.foldl (claim number language) (placed, warnings)).1 := by
    unfold registering register
    rw [found]
  rw [sameNumber, claims]
  exact {
    number_eq := number_eq
    languages := fun place => by rw [sameLanguages, languages]
    numbers := fun name => by rw [sameNumbers, numbers]
    owners := fun extension => by rw [claimed, owners] }

/-- A consistent registry that has a number for a language registers it. -/
theorem Consistent.registers (consistent : registry.Consistent)
    (numberable : registry.HasNumberFor language) :
    Registers language registry (registry.register language).1
      (registry.registering language) := by
  cases known : registry.number? language.name with
  | some number =>
    rcases (consistent.numbered language.name number).mp known with ⟨old, stands, sameName⟩
    have inside := lt_length_of_stands stands
    refine .of_place (place_of_known known) (by rw [known]; rfl) ?_ ?_ ?_
    · intro place
      rw [List.getElem?_set]
      by_cases same : place = number
      · simp [same, inside]
      · simp [same, Ne.symm same]
    · intro name
      by_cases same : name = language.name
      · rw [if_pos same, same]
        exact known
      · rw [if_neg same]
    · intro extension
      exact Std.ExtTreeMap.getElem?_filter'
  | none =>
    refine .of_place (place_of_new known numberable) (by rw [known]; rfl) ?_ ?_ ?_
    · intro place
      dsimp only
      by_cases same : place = registry.languages.length
      · simp [same]
      · rw [if_neg same]
        rcases Nat.lt_or_gt_of_ne same with before | behind
        · rw [List.getElem?_append_left before]
        · rw [List.getElem?_eq_none (by simp; omega), List.getElem?_eq_none (by omega)]
    · intro name
      rw [Std.ExtTreeMap.getElem?_insert]
      by_cases same : name = language.name
      · simp [same]
      · simp [same, Ne.symm same]
    · -- Nothing is owned under a number that no language has yet.
      intro extension
      cases owned : registry.owners[extension]? with
      | none => rfl
      | some owner =>
        rcases consistent.owned extension owner owned with ⟨old, stands, _⟩
        have inside := lt_length_of_stands stands
        have other : owner ≠ registry.languages.length := by omega
        simp [Option.filter_some, other]

namespace Registers

variable (registers : Registers language registry number after)
include registers

/-- The language with the number of a new registration is no other than the one of its name. -/
theorem name_of_stands (consistent : registry.Consistent) {old : LanguageDescriptor}
    (stands : registry.languages[number]? = some old) : old.name = language.name := by
  cases known : registry.number? language.name with
  | none =>
    have inside := lt_length_of_stands stands
    have new := registers.number_eq
    rw [known] at new
    simp only [Option.getD_none] at new
    omega
  | some found =>
    have same := registers.number_eq
    rw [known] at same
    rcases (consistent.numbered language.name found).mp known with ⟨other, alsoStands, sameName⟩
    rw [same, Option.getD_some, alsoStands] at stands
    rw [← Option.some.inj stands, sameName]

/-- A language of the same name stands under the number of the registration. -/
theorem number_of_name (consistent : registry.Consistent) {old : LanguageDescriptor}
    {place : Nat} (stands : registry.languages[place]? = some old)
    (sameName : old.name = language.name) : place = number := by
  have known : registry.number? language.name = some place :=
    (consistent.numbered language.name place).mpr ⟨old, stands, sameName⟩
  rw [registers.number_eq, known]
  rfl

/-- A registration leaves a consistent registry. -/
theorem consistent (consistent : registry.Consistent) : after.Consistent where
  numbered := by
    intro name place
    rw [registers.numbers, registers.languages]
    by_cases sameName : name = language.name
    · rw [if_pos sameName]
      constructor
      · intro isNumber
        rw [if_pos (Option.some.inj isNumber).symm]
        exact ⟨language, rfl, sameName.symm⟩
      · rintro ⟨found, stands, isNamed⟩
        by_cases samePlace : place = number
        · rw [samePlace]
        · rw [if_neg samePlace] at stands
          exact absurd (registers.number_of_name consistent stands (isNamed.trans sameName))
            samePlace
    · rw [if_neg sameName, consistent.numbered]
      by_cases samePlace : place = number
      · rw [if_pos samePlace]
        constructor
        · rintro ⟨found, stands, isNamed⟩
          rw [samePlace] at stands
          exact absurd (isNamed.symm.trans (registers.name_of_stands consistent stands)) sameName
        · rintro ⟨found, stands, isNamed⟩
          rw [← Option.some.inj stands] at isNamed
          exact absurd isNamed.symm sameName
      · rw [if_neg samePlace]
  owned := by
    intro extension owner owns
    rw [registers.owners] at owns
    rw [registers.languages]
    by_cases declared : extension ∈ language.extensions
    · rw [if_pos declared] at owns
      rw [if_pos (Option.some.inj owns).symm]
      exact ⟨language, rfl, declared⟩
    · rw [if_neg declared, Option.filter_eq_some_iff] at owns
      rw [if_neg (by simpa using owns.2)]
      exact consistent.owned extension owner owns.1

/-- A new name makes one language more. -/
theorem length_languages (consistent : registry.Consistent) :
    after.languages.length =
      if registry.number? language.name = none then registry.languages.length + 1
      else registry.languages.length := by
  have behind : forall place, after.languages.length ≤ place <->
      place ≠ number ∧ registry.languages.length ≤ place := by
    intro place
    rw [← List.getElem?_eq_none_iff, ← List.getElem?_eq_none_iff, registers.languages]
    by_cases samePlace : place = number
    · simp [samePlace]
    · simp [samePlace]
  have isNumber := registers.number_eq
  cases known : registry.number? language.name with
  | none =>
    rw [known, Option.getD_none] at isNumber
    have atEnd := (behind (registry.languages.length + 1)).mpr (by omega)
    have notBefore := (behind registry.languages.length).not.mpr (by omega)
    rw [if_pos rfl]
    omega
  | some found =>
    rw [known, Option.getD_some] at isNumber
    rcases (consistent.numbered language.name found).mp known with ⟨old, stands, _⟩
    have inside := lt_length_of_stands stands
    have atEnd := (behind registry.languages.length).mpr (by omega)
    have notBefore := (behind (registry.languages.length - 1)).not.mpr (by omega)
    rw [if_neg (by simp)]
    omega

/-- The language just registered stands, and so do the others of another name. -/
theorem mem_languages_iff (consistent : registry.Consistent) (found : LanguageDescriptor) :
    found ∈ after.languages <->
      found = language ∨ (found ∈ registry.languages ∧ found.name ≠ language.name) := by
  simp only [List.mem_iff_getElem?]
  constructor
  · rintro ⟨place, stands⟩
    rw [registers.languages] at stands
    by_cases samePlace : place = number
    · rw [if_pos samePlace] at stands
      exact .inl (Option.some.inj stands).symm
    · rw [if_neg samePlace] at stands
      exact .inr ⟨⟨place, stands⟩, fun sameName =>
        samePlace (registers.number_of_name consistent stands sameName)⟩
  · rintro (rfl | ⟨⟨place, stands⟩, otherName⟩)
    · exact ⟨number, by rw [registers.languages, if_pos rfl]⟩
    · have otherPlace : place ≠ number := fun samePlace =>
        otherName (registers.name_of_stands consistent (samePlace ▸ stands))
      exact ⟨place, by rw [registers.languages, if_neg otherPlace, stands]⟩

/-- The extensions of the language just registered are its own.  The others keep their owner,
unless it had the same name: then they have none. -/
theorem forExtension?_eq (consistent : registry.Consistent) (extension : String) :
    after.forExtension? extension =
      if extension ∈ language.extensions then some language
      else (registry.forExtension? extension).filter (fun found => found.name != language.name) := by
  unfold forExtension? get?
  rw [registers.owners]
  by_cases declared : extension ∈ language.extensions
  · rw [if_pos declared, if_pos declared, Option.bind_some, registers.languages, if_pos rfl]
  · rw [if_neg declared, if_neg declared]
    cases owned : registry.owners[extension]? with
    | none => rfl
    | some owner =>
      rcases consistent.owned extension owner owned with ⟨found, stands, _⟩
      rw [Option.bind_some, stands]
      by_cases sameNumber : owner = number
      · have sameName := registers.name_of_stands consistent (sameNumber ▸ stands)
        simp [Option.filter_some, sameNumber, sameName]
      · have otherName : found.name ≠ language.name := fun sameName =>
          sameNumber (registers.number_of_name consistent stands sameName)
        simp [Option.filter_some, sameNumber, otherName, registers.languages, stands]

end Registers

/-! ## Histories -/

/-- The registry after registering descriptors in a row. -/
def registered (history : List LanguageDescriptor) : LanguageRegistry :=
  history.foldl registering {}

/-- How many different names are registered in a history. -/
def nameCount (history : List LanguageDescriptor) : Nat :=
  (history.map LanguageDescriptor.name).toFinset.card

/-- A descriptor is registered, and none of the later ones overrides it. -/
def Lasts (overrides : LanguageDescriptor -> LanguageDescriptor -> Prop)
    (history : List LanguageDescriptor) (language : LanguageDescriptor) : Prop :=
  exists before after, history = before ++ language :: after ∧
    forall later, later ∈ after -> ¬ overrides later language

theorem not_lasts_nil (overrides : LanguageDescriptor -> LanguageDescriptor -> Prop)
    (language : LanguageDescriptor) : ¬ Lasts overrides [] language := by
  rintro ⟨before, after, split, _⟩
  simp at split

/-- One more registration lasts, and those before it last unless they are overridden. -/
theorem lasts_append_iff {overrides : LanguageDescriptor -> LanguageDescriptor -> Prop}
    {history : List LanguageDescriptor} {language found : LanguageDescriptor} :
    Lasts overrides (history ++ [language]) found <->
      found = language ∨ (Lasts overrides history found ∧ ¬ overrides language found) := by
  constructor
  · rintro ⟨before, after, split, stands⟩
    rcases List.eq_nil_or_concat after with rfl | ⟨between, final, rfl⟩
    · exact .inl (List.append_inj_right' split rfl |> List.singleton_inj.mp).symm
    · rw [List.concat_eq_append, ← List.cons_append, ← List.append_assoc] at split
      have parts := List.append_inj' split rfl
      have isFinal := List.singleton_inj.mp parts.2
      subst isFinal
      exact .inr ⟨⟨before, between, parts.1, fun later among => stands later (by simp [among])⟩,
        stands language (by simp)⟩
  · rintro (rfl | ⟨⟨before, after, rfl, stands⟩, kept⟩)
    · exact ⟨history, [], rfl, by simp⟩
    · refine ⟨before, after ++ [language], by simp, fun later among => ?_⟩
      rcases List.mem_append.mp among with earlier | isLast
      · exact stands later earlier
      · rw [List.mem_singleton.mp isLast]
        exact kept

/-- Among the descriptors of a kind, the one registered last is not overridden by another. -/
theorem exists_lasts {isKind : LanguageDescriptor -> Prop} {history : List LanguageDescriptor}
    (occurs : exists language, language ∈ history ∧ isKind language) :
    exists language, isKind language ∧ Lasts (fun later _ => isKind later) history language := by
  induction history using List.reverseRecOn with
  | nil => simp at occurs
  | append_singleton history language inductionHypothesis =>
    by_cases ofKind : isKind language
    · exact ⟨language, ofKind, lasts_append_iff.mpr (.inl rfl)⟩
    · rcases occurs with ⟨found, among, foundKind⟩
      have other : found ≠ language := fun same => ofKind (same ▸ foundKind)
      have earlier : found ∈ history := by simpa [other] using among
      rcases inductionHypothesis ⟨found, earlier, foundKind⟩ with ⟨final, finalKind, lasts⟩
      exact ⟨final, finalKind, lasts_append_iff.mpr (.inr ⟨lasts, ofKind⟩)⟩

/-- A history splits in one way only at the last descriptor of a kind. -/
theorem split_at_last_unique {isKind : LanguageDescriptor -> Prop}
    {before after otherBefore otherAfter : List LanguageDescriptor}
    {last otherLast : LanguageDescriptor}
    (same : before ++ last :: after = otherBefore ++ otherLast :: otherAfter)
    (ofKind : isKind last) (otherOfKind : isKind otherLast)
    (noneLater : forall later, later ∈ after -> ¬ isKind later)
    (noneLaterOther : forall later, later ∈ otherAfter -> ¬ isKind later) :
    last = otherLast ∧ after = otherAfter := by
  rcases List.append_eq_append_iff.mp same with ⟨between, _, rest⟩ | ⟨between, _, rest⟩
  · cases between with
    | nil => exact List.cons.inj rest
    | cons first more =>
      rw [(List.cons.inj rest).2] at noneLater
      exact absurd otherOfKind (noneLater otherLast (by simp))
  · cases between with
    | nil => exact (List.cons.inj rest).imp Eq.symm Eq.symm
    | cons first more =>
      rw [(List.cons.inj rest).2] at noneLaterOther
      exact absurd ofKind (noneLaterOther last (by simp))

theorem Lasts.mem {overrides : LanguageDescriptor -> LanguageDescriptor -> Prop}
    {history : List LanguageDescriptor} {language : LanguageDescriptor}
    (lasts : Lasts overrides history language) : language ∈ history := by
  rcases lasts with ⟨before, after, rfl, _⟩
  simp

theorem registered_append (history : List LanguageDescriptor) (language : LanguageDescriptor) :
    registered (history ++ [language]) = (registered history).registering language := by
  unfold registered
  rw [List.foldl_append]
  rfl

/-- A new name counts, and a known one does not count again. -/
theorem nameCount_append (history : List LanguageDescriptor) (language : LanguageDescriptor) :
    nameCount (history ++ [language]) =
      if exists found, found ∈ history ∧ found.name = language.name then nameCount history
      else nameCount history + 1 := by
  unfold nameCount
  have names : ((history ++ [language]).map LanguageDescriptor.name).toFinset =
      insert language.name (history.map LanguageDescriptor.name).toFinset := by
    ext name
    simp [eq_comm]
  rw [names]
  by_cases known : exists found, found ∈ history ∧ found.name = language.name
  · rw [if_pos known, Finset.insert_eq_of_mem (by simpa using known)]
  · rw [if_neg known, Finset.card_insert_of_notMem (by simpa using known)]

/-- What holds of the registry after a history with names enough to number. -/
structure Holds (history : List LanguageDescriptor) : Prop where
  consistent : (registered history).Consistent
  length_languages : (registered history).languages.length = nameCount history
  number?_eq_none_iff : forall name, (registered history).number? name = none <->
    forall language, language ∈ history -> language.name ≠ name

/-- A history that does not run out of numbers has a number for each of its languages. -/
theorem Holds.hasNumberFor {history : List LanguageDescriptor} (holds : Holds history)
    {language : LanguageDescriptor} (few : nameCount (history ++ [language]) ≤ numberBound) :
    (registered history).HasNumberFor language := by
  intro new
  have unknown : ¬ exists found, found ∈ history ∧ found.name = language.name := by
    rintro ⟨found, among, sameName⟩
    exact (holds.number?_eq_none_iff language.name).mp new found among sameName
  rw [nameCount_append, if_neg unknown] at few
  rw [holds.length_languages]
  exact few

theorem nameCount_le_append (history : List LanguageDescriptor) (language : LanguageDescriptor) :
    nameCount history ≤ nameCount (history ++ [language]) := by
  rw [nameCount_append]
  split
  · exact Nat.le_refl _
  · exact Nat.le_succ _

/-- One more registration keeps what holds of a history. -/
theorem Holds.append {history : List LanguageDescriptor} (holds : Holds history)
    {language : LanguageDescriptor} (few : nameCount (history ++ [language]) ≤ numberBound) :
    Holds (history ++ [language]) := by
  have registers := holds.consistent.registers (holds.hasNumberFor few)
  constructor
  · rw [registered_append]
    exact registers.consistent holds.consistent
  · rw [registered_append, registers.length_languages holds.consistent, nameCount_append,
      holds.length_languages]
    by_cases new : (registered history).number? language.name = none
    · rw [if_pos new, if_neg (by simpa using (holds.number?_eq_none_iff language.name).mp new)]
    · rw [if_neg new, if_pos (by simpa using (holds.number?_eq_none_iff language.name).not.mp new)]
  · intro name
    have before := holds.number?_eq_none_iff name
    unfold number? at before ⊢
    rw [registered_append, registers.numbers]
    by_cases sameName : name = language.name
    · simp [sameName]
    · rw [if_neg sameName, before]
      simp only [List.forall_mem_append, List.forall_mem_singleton]
      exact (and_iff_left (Ne.symm sameName)).symm

/-- Everything holds of every history that does not run out of numbers. -/
theorem holds {history : List LanguageDescriptor} (few : nameCount history ≤ numberBound) :
    Holds history := by
  induction history using List.reverseRecOn with
  | nil => exact ⟨Consistent.empty, rfl, fun name => by simp [registered, number?]⟩
  | append_singleton history language inductionHypothesis =>
    have fewBefore := Nat.le_trans (nameCount_le_append history language) few
    exact (inductionHypothesis fewBefore).append few

section Lookups

variable {history : List LanguageDescriptor}

/-- A descriptor stands if it is registered and its name is not registered again. -/
theorem mem_languages_registered_iff (few : nameCount history ≤ numberBound)
    (found : LanguageDescriptor) :
    found ∈ (registered history).languages <->
      Lasts (fun later earlier => later.name = earlier.name) history found := by
  induction history using List.reverseRecOn with
  | nil => simp [registered, not_lasts_nil]
  | append_singleton history language inductionHypothesis =>
    have fewBefore := Nat.le_trans (nameCount_le_append history language) few
    have registers := (holds fewBefore).consistent.registers ((holds fewBefore).hasNumberFor few)
    rw [registered_append, registers.mem_languages_iff (holds fewBefore).consistent,
      inductionHypothesis fewBefore, lasts_append_iff, ne_comm]

/-- An extension is found to be a language's own if the language claims it, and if neither the
extension is claimed nor the name is registered again. -/
theorem forExtension?_registered_eq_some_iff (few : nameCount history ≤ numberBound)
    (extension : String) (found : LanguageDescriptor) :
    (registered history).forExtension? extension = some found <->
      extension ∈ found.extensions ∧
        Lasts (fun later earlier => extension ∈ later.extensions ∨ later.name = earlier.name)
          history found := by
  induction history using List.reverseRecOn with
  | nil => simp [registered, forExtension?, not_lasts_nil]
  | append_singleton history language inductionHypothesis =>
    have fewBefore := Nat.le_trans (nameCount_le_append history language) few
    have registers := (holds fewBefore).consistent.registers ((holds fewBefore).hasNumberFor few)
    rw [registered_append, registers.forExtension?_eq (holds fewBefore).consistent,
      lasts_append_iff]
    by_cases declared : extension ∈ language.extensions
    · rw [if_pos declared]
      constructor
      · intro same
        rw [← Option.some.inj same]
        exact ⟨declared, .inl rfl⟩
      · rintro ⟨_, rfl | ⟨_, kept⟩⟩
        · rfl
        · exact absurd (.inl declared) kept
    · have other : extension ∈ found.extensions -> found ≠ language :=
        fun declares same => declared (same ▸ declares)
      rw [if_neg declared, Option.filter_eq_some_iff, inductionHypothesis fewBefore]
      simp only [declared, false_or, bne_iff_ne, ne_comm]
      tauto

/-- The last claim of an extension decides.  If a registered language declares an extension, then
the extension was claimed, and the language that claimed it last is the only one that can be found
for it.  A registered language that declares the extension is found exactly if the name of that
language is not registered again after the claim; otherwise none is found at all. -/
theorem forExtension?_found_iff_claimant_stands (few : nameCount history ≤ numberBound)
    (extension : String)
    (declared : exists language, language ∈ (registered history).languages ∧
      extension ∈ language.extensions) :
    exists before claimant after, history = before ++ claimant :: after ∧
      extension ∈ claimant.extensions ∧
      (forall later, later ∈ after -> extension ∉ later.extensions) ∧
      (forall found, (registered history).forExtension? extension = some found ->
        found = claimant) ∧
      ((exists found, (registered history).forExtension? extension = some found ∧
          found ∈ (registered history).languages ∧ extension ∈ found.extensions) <->
        forall later, later ∈ after -> later.name ≠ claimant.name) := by
  rcases declared with ⟨language, stands, declares⟩
  have among := ((mem_languages_registered_iff few language).mp stands).mem
  have occurs : exists language, language ∈ history ∧ extension ∈ language.extensions :=
    ⟨language, among, declares⟩
  rcases exists_lasts occurs with ⟨claimant, claims, before, after, split, noneLater⟩
  -- Whatever is found was the last to claim the extension, and its name does not come again.
  have isClaimant : forall found, (registered history).forExtension? extension = some found ->
      found = claimant ∧ forall later, later ∈ after -> later.name ≠ claimant.name := by
    intro found isFound
    rcases (forExtension?_registered_eq_some_iff few extension found).mp isFound with
      ⟨foundClaims, foundBefore, foundAfter, foundSplit, kept⟩
    rcases split_at_last_unique (foundSplit.symm.trans split) foundClaims claims
      (fun later isLater again => kept later isLater (.inl again)) noneLater with
      ⟨rfl, rfl⟩
    exact ⟨rfl, fun later isLater sameName => kept later isLater (.inr sameName)⟩
  refine ⟨before, claimant, after, split, claims, noneLater,
    fun found isFound => (isClaimant found isFound).1, ?_⟩
  constructor
  · rintro ⟨found, isFound, _⟩
    exact (isClaimant found isFound).2
  · intro nameKept
    have isFound := (forExtension?_registered_eq_some_iff few extension claimant).mpr
      ⟨claims, before, after, split, fun later isLater overrides =>
        overrides.elim (noneLater later isLater) (nameKept later isLater)⟩
    have claimantStands := (mem_languages_registered_iff few claimant).mpr
      ⟨before, after, split, nameKept⟩
    exact ⟨claimant, isFound, claimantStands, claims⟩

end Lookups

/-! ## An extension that nobody owns -/

/-- A language of a name whose source files bear an extension, if one is given. -/
def sampleLanguage (name : String) (extension : Option String) : LanguageDescriptor where
  name := name
  facts := { baseFileExtension := extension }
  namespaceKind := .flat
  artifacts := .inDirectory ⟨"bin"⟩ name {}

/-- Two languages share an extension, and the second is registered again without it. -/
def sampleHistory : List LanguageDescriptor :=
  [sampleLanguage "first" (some "x"), sampleLanguage "second" (some "x"),
    sampleLanguage "second" none]

theorem nameCount_sampleHistory : nameCount sampleHistory ≤ numberBound := by
  decide

/-- The first language still stands and declares the extension. -/
theorem declared_sampleHistory :
    exists language, language ∈ (registered sampleHistory).languages ∧
      "x" ∈ language.extensions :=
  ⟨sampleLanguage "first" (some "x"),
    (mem_languages_registered_iff nameCount_sampleHistory _).mpr ⟨[], _, rfl, by decide⟩,
    by decide⟩

/-- The last claim of the extension is that of the second language, whose name comes again. -/
theorem forExtension?_found_iff_sampleHistory :
    nameCount sampleHistory ≤ numberBound ∧
    (exists language, language ∈ (registered sampleHistory).languages ∧
      "x" ∈ language.extensions) ∧
    exists before claimant after, sampleHistory = before ++ claimant :: after ∧
      "x" ∈ claimant.extensions ∧
      (forall later, later ∈ after -> "x" ∉ later.extensions) ∧
      (forall found, (registered sampleHistory).forExtension? "x" = some found ->
        found = claimant) ∧
      ((exists found, (registered sampleHistory).forExtension? "x" = some found ∧
          found ∈ (registered sampleHistory).languages ∧ "x" ∈ found.extensions) <->
        forall later, later ∈ after -> later.name ≠ claimant.name) :=
  ⟨nameCount_sampleHistory, declared_sampleHistory,
    forExtension?_found_iff_claimant_stands nameCount_sampleHistory "x" declared_sampleHistory⟩

/-- An extension that a registered language declares need not lead to any language. -/
theorem not_forall_declared_found :
    ¬ forall (history : List LanguageDescriptor) (extension : String),
      (exists language, language ∈ (registered history).languages ∧
        extension ∈ language.extensions) ->
      exists found, (registered history).forExtension? extension = some found ∧
        found ∈ (registered history).languages ∧ extension ∈ found.extensions := by
  intro always
  rcases always sampleHistory "x" declared_sampleHistory with ⟨found, isFound, _⟩
  have unowned : (registered sampleHistory).owners["x"]? = none := by
    decide +kernel
  unfold forExtension? at isFound
  rw [unowned] at isFound
  cases isFound

/-! ## What a registry tells of a history -/

/-- The names that are registered in a history, in the order of their first registrations. -/
def firstNames (history : List LanguageDescriptor) : List String :=
  (history.map LanguageDescriptor.name).eraseDups

/-- The descriptor that was registered last under a name. -/
def latest? (history : List LanguageDescriptor) (name : String) : Option LanguageDescriptor :=
  history.reverse.find? (fun language => language.name == name)

section
variable {history : List LanguageDescriptor} {language : LanguageDescriptor}

theorem mem_firstNames {name : String} :
    name ∈ firstNames history <-> exists found, found ∈ history ∧ found.name = name := by
  unfold firstNames
  rw [List.mem_eraseDups, List.mem_map]

theorem firstNames_append (history : List LanguageDescriptor) (language : LanguageDescriptor) :
    firstNames (history ++ [language]) =
      if language.name ∈ firstNames history then firstNames history
      else firstNames history ++ [language.name] := by
  unfold firstNames
  rw [List.map_append, List.eraseDups_append]
  by_cases known : language.name ∈ history.map LanguageDescriptor.name
  · have nothing : [language.name].removeAll (history.map LanguageDescriptor.name) = [] := by
      rw [List.removeAll, List.filter_singleton, List.elem_iff.mpr known]
      rfl
    rw [if_pos (List.mem_eraseDups.mpr known), List.map_singleton, nothing, List.eraseDups_nil,
      List.append_nil]
  · have itself : [language.name].removeAll (history.map LanguageDescriptor.name) =
        [language.name] := by
      rw [List.removeAll, List.filter_singleton,
        Bool.eq_false_iff.mpr (List.elem_iff.not.mpr known)]
      rfl
    rw [if_neg (List.mem_eraseDups.not.mpr known), List.map_singleton, itself]
    rfl

theorem nodup_firstNames (history : List LanguageDescriptor) : (firstNames history).Nodup := by
  induction history using List.reverseRecOn with
  | nil => exact List.nodup_nil
  | append_singleton history language inductionHypothesis =>
    rw [firstNames_append]
    split
    · exact inductionHypothesis
    · next new => exact inductionHypothesis.append (List.nodup_singleton _) (by simpa using new)

theorem length_firstNames (history : List LanguageDescriptor) :
    (firstNames history).length = nameCount history := by
  unfold nameCount
  rw [← List.toFinset_card_of_nodup (nodup_firstNames history)]
  congr 1
  ext name
  simp [firstNames]

/-- The place of the name that is registered last, be it a new name or not. -/
theorem getElem?_firstNames_append (history : List LanguageDescriptor)
    (language : LanguageDescriptor) (place : Nat) :
    (firstNames (history ++ [language]))[place]? =
      if place = (firstNames history).idxOf language.name then some language.name
      else (firstNames history)[place]? := by
  rw [firstNames_append]
  by_cases known : language.name ∈ firstNames history
  · rw [if_pos known]
    by_cases here : place = (firstNames history).idxOf language.name
    · rw [if_pos here, here, List.getElem?_idxOf known]
    · rw [if_neg here]
  · rw [if_neg known, List.idxOf_eq_length_iff.mpr known]
    by_cases here : place = (firstNames history).length
    · rw [if_pos here, here, List.getElem?_concat_length]
    · rw [if_neg here]
      rcases Nat.lt_or_gt_of_ne here with before | behind
      · rw [List.getElem?_append_left before]
      · rw [List.getElem?_eq_none (by simp; omega), List.getElem?_eq_none (by omega)]

theorem latest?_append (history : List LanguageDescriptor) (language : LanguageDescriptor)
    (name : String) :
    latest? (history ++ [language]) name =
      if language.name = name then some language else latest? history name := by
  unfold latest?
  rw [List.reverse_append, List.reverse_singleton, List.singleton_append, List.find?_cons]
  by_cases same : language.name = name
  · simp [same]
  · simp [beq_eq_false_iff_ne.mpr same, same]

theorem name_of_latest? {name : String} {found : LanguageDescriptor}
    (latest : latest? history name = some found) : found.name = name := by
  unfold latest? at latest
  simpa using List.find?_some latest

theorem exists_latest? {name : String} (known : name ∈ firstNames history) :
    exists found, latest? history name = some found := by
  rcases mem_firstNames.mp known with ⟨found, among, sameName⟩
  apply Option.isSome_iff_exists.mp
  unfold latest?
  rw [List.find?_isSome]
  exact ⟨found, List.mem_reverse.mpr among, beq_iff_eq.mpr sameName⟩

/-- A name is registered under the place of its first registration, if the languages stand in the
order of first registrations. -/
theorem Holds.getD_number? (holds : Holds history)
    (stands : forall place : Nat, (registered history).languages[place]? =
      (firstNames history)[place]?.bind (latest? history)) (name : String) :
    ((registered history).number? name).getD (registered history).languages.length =
      (firstNames history).idxOf name := by
  by_cases known : name ∈ firstNames history
  · rcases exists_latest? known with ⟨found, latest⟩
    have numbered : (registered history).number? name = some ((firstNames history).idxOf name) := by
      refine (holds.consistent.numbered name _).mpr ⟨found, ?_, name_of_latest? latest⟩
      rw [stands, List.getElem?_idxOf known, Option.bind_some, latest]
    rw [numbered, Option.getD_some]
  · have unnumbered : (registered history).number? name = none :=
      (holds.number?_eq_none_iff name).mpr fun language among sameName =>
        known (mem_firstNames.mpr ⟨language, among, sameName⟩)
    rw [unnumbered, Option.getD_none, holds.length_languages,
      List.idxOf_eq_length_iff.mpr known, length_firstNames]

/-- A language stands where its name was registered first, and is the one registered last. -/
theorem getElem?_languages_registered (few : nameCount history ≤ numberBound) (place : Nat) :
    (registered history).languages[place]? =
      (firstNames history)[place]?.bind (latest? history) := by
  induction history using List.reverseRecOn generalizing place with
  | nil => rfl
  | append_singleton history language inductionHypothesis =>
    have fewBefore := Nat.le_trans (nameCount_le_append history language) few
    have before := holds fewBefore
    have registers := before.consistent.registers (before.hasNumberFor few)
    have isPlace := registers.number_eq.trans
      (before.getD_number? (inductionHypothesis fewBefore) language.name)
    rw [registered_append, registers.languages, getElem?_firstNames_append, isPlace]
    by_cases here : place = (firstNames history).idxOf language.name
    · rw [if_pos here, if_pos here, Option.bind_some, latest?_append, if_pos rfl]
    · rw [if_neg here, if_neg here, inductionHypothesis fewBefore]
      refine Option.bind_congr fun name found => ?_
      have other : language.name ≠ name := by
        rintro rfl
        rcases List.getElem?_eq_some_iff.mp found with ⟨inside, isName⟩
        have placed := (nodup_firstNames history).idxOf_getElem place inside
        rw [isName] at placed
        exact here placed.symm
      rw [latest?_append, if_neg other]

/-- Whatever language stands in a registry is the one registered last under its name. -/
theorem latest?_of_stands (few : nameCount history ≤ numberBound) {place : Nat}
    (stands : (registered history).languages[place]? = some language) :
    latest? history language.name = some language := by
  rw [getElem?_languages_registered few, Option.bind_eq_some_iff] at stands
  rcases stands with ⟨name, _, latest⟩
  rw [name_of_latest? latest]
  exact latest

theorem latest?_eq_none {name : String}
    (unknown : forall found, found ∈ history -> found.name ≠ name) : latest? history name = none := by
  unfold latest?
  rw [List.find?_eq_none]
  intro found among
  simpa using unknown found (List.mem_reverse.mp among)

theorem nameCount_le (before after : List LanguageDescriptor) :
    nameCount before ≤ nameCount (before ++ after) := by
  unfold nameCount
  rw [List.map_append, List.toFinset_append]
  exact Finset.card_le_card Finset.subset_union_left

theorem notMem_firstNames {name : String}
    (unknown : forall found, found ∈ history -> found.name ≠ name) : name ∉ firstNames history := by
  intro known
  rcases mem_firstNames.mp known with ⟨found, among, sameName⟩
  exact unknown found among sameName

/-- A name that is new behind others has their number for its place. -/
theorem idxOf_firstNames_of_new {name : String}
    (new : forall earlier, earlier ∈ history -> earlier.name ≠ name) :
    (firstNames history).idxOf name = nameCount history := by
  rw [List.idxOf_eq_length_iff.mpr (notMem_firstNames new), length_firstNames]

/-- The place of a name stays the same whatever is registered later. -/
theorem idxOf_firstNames {start later : List LanguageDescriptor} {first : LanguageDescriptor}
    (new : forall earlier, earlier ∈ start -> earlier.name ≠ first.name) :
    (firstNames (start ++ first :: later)).idxOf first.name = nameCount start := by
  have notFirst : first.name ∉ (start.map LanguageDescriptor.name).eraseDups :=
    notMem_firstNames new
  have unknown : first.name ∉ start.map LanguageDescriptor.name :=
    fun known => notFirst (List.mem_eraseDups.mpr known)
  rw [← length_firstNames]
  unfold firstNames
  rw [List.map_append, List.eraseDups_append, List.idxOf_append, if_neg notFirst, List.map_cons,
    List.removeAll, List.filter_cons, Bool.eq_false_iff.mpr (List.elem_iff.not.mpr unknown)]
  simp [List.eraseDups_cons]

/-- The number that a registration gives is the place of the name among the first registrations. -/
theorem number_register (few : nameCount (history ++ [language]) ≤ numberBound) :
    ((registered history).register language).1 = (firstNames history).idxOf language.name := by
  have fewBefore := Nat.le_trans (nameCount_le_append history language) few
  have before := holds fewBefore
  have registers := before.consistent.registers (before.hasNumberFor few)
  exact registers.number_eq.trans
    (before.getD_number? (getElem?_languages_registered fewBefore) language.name)

end

/-- Every look-up of a registry tells of the registrations that it comes from. -/
structure Represents (history : List LanguageDescriptor) : Prop where
  /-- There are as many languages as names. -/
  length_languages : (registered history).languages.length = nameCount history
  /-- The languages stand in the order of the first registrations of their names, and each is the
  one registered last under its name. -/
  languages_eq : (registered history).languages.map some =
    (firstNames history).map (latest? history)
  /-- All registrations of a name give the number of names that were registered before it was
  registered first. -/
  number_eq : forall start first later before language after,
    history = start ++ first :: later ->
    (forall earlier, earlier ∈ start -> earlier.name ≠ first.name) ->
    history = before ++ language :: after -> language.name = first.name ->
      ((registered before).register language).1 = nameCount start
  /-- Under this number the language is found that was registered last under the name. -/
  get?_eq : forall start first later,
    history = start ++ first :: later ->
    (forall earlier, earlier ∈ start -> earlier.name ≠ first.name) ->
      (registered history).get? (nameCount start) = latest? history first.name
  /-- Under any other number nothing is found. -/
  get?_eq_none : forall number, nameCount history ≤ number ->
    (registered history).get? number = none
  /-- By its name, the language is found that was registered last under it, if any was. -/
  byName?_eq : forall name, (registered history).byName? name = latest? history name
  /-- What is found by an extension declares it, and is what was registered last under its name. -/
  forExtension?_eq_some : forall extension found,
    (registered history).forExtension? extension = some found ->
      extension ∈ found.extensions ∧ latest? history found.name = some found

/-- A registry represents any history that does not run out of numbers. -/
theorem represents {history : List LanguageDescriptor} (few : nameCount history ≤ numberBound) :
    Represents history where
  length_languages := (holds few).length_languages
  languages_eq := by
    apply List.ext_getElem?
    intro place
    rw [List.getElem?_map, List.getElem?_map, getElem?_languages_registered few]
    cases isFirst : (firstNames history)[place]? with
    | none => rfl
    | some name =>
      rcases exists_latest? (List.mem_of_getElem? isFirst) with ⟨found, latest⟩
      rw [Option.bind_some, Option.map_some, latest, Option.map_some]
  number_eq := by
    rintro start first later before language after rfl new same sameName
    have fewBefore : nameCount (before ++ [language]) ≤ numberBound := by
      refine Nat.le_trans (nameCount_le _ after) ?_
      rw [List.append_assoc, List.singleton_append, ← same]
      exact few
    rw [number_register fewBefore, sameName]
    rcases List.append_eq_append_iff.mp same with ⟨between, rfl, rest⟩ | ⟨between, rfl, rest⟩
    · cases between with
      | nil =>
        rw [List.append_nil]
        exact idxOf_firstNames_of_new new
      | cons head between =>
        rw [← (List.cons.inj rest).1]
        exact idxOf_firstNames new
    · -- the name is not registered before it is registered first
      cases between with
      | nil =>
        rw [List.append_nil] at new ⊢
        exact idxOf_firstNames_of_new new
      | cons head between =>
        rw [(List.cons.inj rest).1] at sameName
        exact absurd sameName (new head (by simp))
  get?_eq := by
    rintro start first later rfl new
    have known : first.name ∈ firstNames (start ++ first :: later) :=
      mem_firstNames.mpr ⟨first, by simp, rfl⟩
    unfold get?
    rw [getElem?_languages_registered few, ← idxOf_firstNames new, List.getElem?_idxOf known,
      Option.bind_some]
  get?_eq_none := by
    intro number behind
    rw [← (holds few).length_languages] at behind
    exact List.getElem?_eq_none behind
  byName?_eq := by
    intro name
    unfold byName?
    cases numbered : (registered history).number? name with
    | none =>
      rw [latest?_eq_none (((holds few).number?_eq_none_iff name).mp numbered), Option.bind_none]
    | some number =>
      rcases ((holds few).consistent.numbered name number).mp numbered with
        ⟨found, stands, isNamed⟩
      rw [Option.bind_some, get?, stands, ← isNamed, latest?_of_stands few stands]
  forExtension?_eq_some := by
    intro extension found isFound
    unfold forExtension? at isFound
    rcases Option.bind_eq_some_iff.mp isFound with ⟨owner, owns, stands⟩
    rcases (holds few).consistent.owned extension owner owns with ⟨language, alsoStands, declares⟩
    have same : language = found := Option.some.inj (alsoStands.symm.trans stands)
    exact ⟨same ▸ declares, latest?_of_stands few stands⟩

/-- The second language of the sample is registered twice, under one number. -/
theorem represents_sampleHistory :
    nameCount sampleHistory ≤ numberBound ∧ Represents sampleHistory :=
  ⟨nameCount_sampleHistory, represents nameCount_sampleHistory⟩

end LanguageRegistry
end BaseLanguage
