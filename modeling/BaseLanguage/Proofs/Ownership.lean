import BaseLanguage.Proofs.Registration

namespace BaseLanguage
namespace LanguageRegistry

/-!
# How extensions change hands

Registering a descriptor works in two steps.  First the descriptor is put in its place, and then it
claims its extensions one after the other.  `Places` says what the first step does to the owners of
extensions: the claims of the descriptor that stood in the place are dropped, and no other owner
changes.  Each claim gives one extension away and tells whom it is taken from, so what is told of all
claims together is a row of the extensions that belonged to others, each of them once.

All of this holds of any registry that comes from registrations, even of one that has run out of
numbers, where a new language gets a number that another language has already.  That the number of
the descriptor owns nothing but what the descriptor declares is the one statement for which there
must still be a number to give.
-/

variable {registry placed : LanguageRegistry} {language : LanguageDescriptor} {number : Nat}

/-! ## What is told of claims -/

/-- An extension is owned, but not under this number. -/
def IsForeign (registry : LanguageRegistry) (number : Nat) (extension : String) : Prop :=
  exists owner, registry.owners[extension]? = some owner ∧ owner ≠ number

/-- The name of the language that owns an extension. -/
def ownerName (registry : LanguageRegistry) (extension : String) : String :=
  ((registry.forExtension? extension).map LanguageDescriptor.name).getD ""

/-- What is told if a language takes an extension away from its owner. -/
def takenFrom (registry : LanguageRegistry) (language : LanguageDescriptor) (extension : String) :
    Warning :=
  .extensionClaimed extension language.name (registry.ownerName extension)

/-- The extensions of a row that are owned under other numbers: each once, in the order of the
row. -/
structure Contests (registry : LanguageRegistry) (number : Nat)
    (extensions contested : List String) : Prop where
  nodup : contested.Nodup
  sublist : contested.Sublist extensions
  mem_iff : forall extension, extension ∈ contested <->
    extension ∈ extensions ∧ registry.IsForeign number extension

/-- A claim of a foreign extension is told. -/
theorem claim_of_foreign {state : LanguageRegistry × List Warning} {extension : String}
    (foreign : state.1.IsForeign number extension) :
    (claim number language state extension).2 =
      state.2 ++ [takenFrom state.1 language extension] := by
  rcases foreign with ⟨owner, owned, different⟩
  rcases state with ⟨registry, warnings⟩
  unfold claim takenFrom ownerName forExtension?
  simp only [owned, if_neg different, Option.bind_some]

/-- Any other claim is not told. -/
theorem claim_of_not_foreign {state : LanguageRegistry × List Warning} {extension : String}
    (own : ¬ state.1.IsForeign number extension) :
    (claim number language state extension).2 = state.2 := by
  rcases state with ⟨registry, warnings⟩
  unfold claim
  dsimp only
  cases owned : registry.owners[extension]? with
  | none => rfl
  | some owner =>
    have same : owner = number := by
      by_contra different
      exact own ⟨owner, owned, different⟩
    dsimp only
    rw [if_pos same]

/-- A claim keeps what is owned under other numbers, but for the extension that is claimed. -/
theorem isForeign_claim {state : LanguageRegistry × List Warning} {claimed extension : String} :
    (claim number language state claimed).1.IsForeign number extension <->
      extension ≠ claimed ∧ state.1.IsForeign number extension := by
  unfold IsForeign
  rw [claim_registry]
  dsimp only
  rw [Std.ExtTreeMap.getElem?_insert]
  by_cases same : extension = claimed
  · simp [same, eq_comm]
  · simp [same, Ne.symm same]

theorem takenFrom_claim {state : LanguageRegistry × List Warning} {claimed extension : String}
    (other : extension ≠ claimed) :
    takenFrom (claim number language state claimed).1 language extension =
      takenFrom state.1 language extension := by
  unfold takenFrom ownerName forExtension? get?
  rw [claim_registry]
  dsimp only
  rw [Std.ExtTreeMap.getElem?_insert]
  simp [Ne.symm other]

/-- Of claims in a row, those are told that take an extension from another language. -/
theorem foldl_claim_warnings (number : Nat) (language : LanguageDescriptor)
    (extensions : List String) (state : LanguageRegistry × List Warning) :
    exists contested, Contests state.1 number extensions contested ∧
      (extensions.foldl (claim number language) state).2 =
        state.2 ++ contested.map (takenFrom state.1 language) := by
  induction extensions generalizing state with
  | nil => exact ⟨[], ⟨List.nodup_nil, List.Sublist.refl [], by simp⟩, by simp⟩
  | cons first more inductionHypothesis =>
    rcases inductionHypothesis (claim number language state first) with
      ⟨contested, contests, told⟩
    have members : forall extension, extension ∈ contested <->
        extension ∈ more ∧ extension ≠ first ∧ state.1.IsForeign number extension := by
      intro extension
      rw [contests.mem_iff, isForeign_claim]
    have sameTold : contested.map (takenFrom (claim number language state first).1 language) =
        contested.map (takenFrom state.1 language) :=
      List.map_congr_left fun extension among =>
        takenFrom_claim ((members extension).mp among).2.1
    rw [List.foldl_cons, told, sameTold]
    by_cases foreign : state.1.IsForeign number first
    · refine ⟨first :: contested, ⟨?_, contests.sublist.cons_cons first, ?_⟩, ?_⟩
      · refine List.nodup_cons.mpr ⟨fun again => ?_, contests.nodup⟩
        exact ((members first).mp again).2.1 rfl
      · intro extension
        rw [List.mem_cons, List.mem_cons, members]
        by_cases same : extension = first
        · simp [same, foreign]
        · simp [same]
      · rw [claim_of_foreign foreign, List.map_cons, List.append_assoc, List.singleton_append]
    · refine ⟨contested, ⟨contests.nodup, contests.sublist.cons first, ?_⟩, ?_⟩
      · intro extension
        rw [List.mem_cons, members]
        by_cases same : extension = first
        · simp [same, foreign]
        · simp [same]
      · rw [claim_of_not_foreign foreign]

/-! ## Putting a descriptor in its place -/

/-- Every number in a registry is the number of a language. -/
structure Numbered (registry : LanguageRegistry) : Prop where
  numbers : forall (name : String) (number : Nat), registry.numbers[name]? = some number ->
    number < registry.languages.length
  owners : forall (extension : String) (number : Nat), registry.owners[extension]? = some number ->
    number < registry.languages.length

/-- What putting a descriptor in its place does to a registry. -/
structure Places (language : LanguageDescriptor) (registry : LanguageRegistry) (number : Nat)
    (placed : LanguageRegistry) : Prop where
  length_le : registry.languages.length ≤ placed.languages.length
  number_lt : number < placed.languages.length
  stands : forall place, place < registry.languages.length -> place ≠ number ->
    placed.languages[place]? = registry.languages[place]?
  numbers : forall (name : String) (found : Nat), placed.numbers[name]? = some found ->
    found = number ∨ registry.numbers[name]? = some found
  owners_of_ne : forall (extension : String) (owner : Nat), owner ≠ number ->
    (placed.owners[extension]? = some owner <-> registry.owners[extension]? = some owner)
  owners_of_none : forall extension : String, registry.owners[extension]? = none ->
    placed.owners[extension]? = none
  owners_ne : registry.HasNumberFor language -> forall extension : String,
    placed.owners[extension]? ≠ some number

/-- The descriptor takes the place of another one, whose claims are dropped. -/
theorem Numbered.places_of_known (numbered : registry.Numbered)
    (known : registry.number? language.name = some number) :
    Places language registry number
      { registry with
        languages := registry.languages.set number language
        owners := registry.owners.filter (fun _ owner => owner != number) } where
  length_le := by simp
  number_lt := by
    rw [List.length_set]
    exact numbered.numbers language.name number known
  stands := fun place _ other => List.getElem?_set_ne (Ne.symm other)
  numbers := fun name found isNumber => .inr isNumber
  owners_of_ne := by
    intro extension owner other
    dsimp only
    rw [Std.ExtTreeMap.getElem?_filter', Option.filter_eq_some_iff]
    simp [other]
  owners_of_none := by
    intro extension unowned
    dsimp only
    rw [Std.ExtTreeMap.getElem?_filter', unowned]
    rfl
  owners_ne := by
    intro _ extension owned
    dsimp only at owned
    rw [Std.ExtTreeMap.getElem?_filter', Option.filter_eq_some_iff] at owned
    simp at owned

/-- A descriptor with a new name stands behind the others.  Its number is that of its place as long
as there are numbers. -/
theorem Numbered.places_of_new (numbered : registry.Numbered)
    (new : registry.number? language.name = none) :
    Places language registry (registry.languages.length % numberBound)
      { registry with
        languages := registry.languages ++ [language]
        numbers :=
          registry.numbers.insert language.name (registry.languages.length % numberBound) } where
  length_le := by simp
  number_lt := by
    have small := Nat.mod_le registry.languages.length numberBound
    rw [List.length_append, List.length_singleton]
    omega
  stands := fun place inside _ => List.getElem?_append_left inside
  numbers := by
    intro name found isNumber
    dsimp only at isNumber
    rw [Std.ExtTreeMap.getElem?_insert] at isNumber
    by_cases same : compare language.name name = .eq
    · rw [if_pos same] at isNumber
      exact .inl (Option.some.inj isNumber).symm
    · rw [if_neg same] at isNumber
      exact .inr isNumber
  owners_of_ne := fun extension owner _ => Iff.rfl
  owners_of_none := fun extension unowned => unowned
  owners_ne := by
    -- nothing is owned under a number that no language has yet
    intro numberable extension owned
    have inside := numbered.owners extension _ owned
    rw [Nat.mod_eq_of_lt (numberable new)] at inside
    exact Nat.lt_irrefl _ inside

/-- What is told when a descriptor is put in its place. -/
def toldOfPlace (registry : LanguageRegistry) (language : LanguageDescriptor) : List Warning :=
  if (registry.number? language.name).isSome then [.languageReplaced language.name] else []

theorem Numbered.exists_places (numbered : registry.Numbered) (language : LanguageDescriptor) :
    exists number placed, registry.place language = (number, placed, registry.toldOfPlace language) ∧
      Places language registry number placed := by
  cases known : registry.number? language.name with
  | some number =>
    refine ⟨number, _, ?_, numbered.places_of_known known⟩
    rw [place_of_known known, toldOfPlace, known]
    rfl
  | none =>
    refine ⟨_, _, ?_, numbered.places_of_new known⟩
    unfold place toldOfPlace
    rw [known]
    rfl

namespace Places

variable (places : Places language registry number placed)
include places

theorem isForeign_iff (extension : String) :
    placed.IsForeign number extension <-> registry.IsForeign number extension := by
  constructor
  · rintro ⟨owner, owned, other⟩
    exact ⟨owner, (places.owners_of_ne extension owner other).mp owned, other⟩
  · rintro ⟨owner, owned, other⟩
    exact ⟨owner, (places.owners_of_ne extension owner other).mpr owned, other⟩

/-- The owner of a foreign extension stands in the registry as before. -/
theorem forExtension?_of_isForeign (numbered : registry.Numbered) {extension : String}
    (foreign : registry.IsForeign number extension) :
    placed.forExtension? extension = registry.forExtension? extension ∧
      exists former, registry.forExtension? extension = some former := by
  rcases foreign with ⟨owner, owned, other⟩
  have inside := numbered.owners extension owner owned
  have stillOwned := (places.owners_of_ne extension owner other).mpr owned
  unfold forExtension? get?
  rw [owned, stillOwned, Option.bind_some, Option.bind_some, places.stands owner inside other]
  exact ⟨rfl, _, List.getElem?_eq_getElem inside⟩

end Places

/-! ## Registering -/

/-- Everything that happens to the owners of extensions when a descriptor is registered, and what
is told of it. -/
structure HandsOver (before : LanguageRegistry) (language : LanguageDescriptor) (number : Nat)
    (after : LanguageRegistry) (warnings : List Warning) : Prop where
  /-- What the descriptor declares is owned under its number. -/
  declared : forall extension : String, extension ∈ language.extensions ->
    after.owners[extension]? = some number
  /-- What else was owned under the number is not owned any more. -/
  released : before.HasNumberFor language ->
    forall extension : String, extension ∉ language.extensions ->
      before.owners[extension]? = some number -> after.owners[extension]? = none
  /-- What else was owned under another number stays with it. -/
  kept : forall (extension : String) (owner : Nat), extension ∉ language.extensions ->
    before.owners[extension]? = some owner -> owner ≠ number ->
      after.owners[extension]? = some owner
  /-- What else was not owned is not owned. -/
  unclaimed : forall extension : String, extension ∉ language.extensions ->
    before.owners[extension]? = none -> after.owners[extension]? = none
  /-- Exactly the declared extensions that were owned under another number are told, each once and
  in the order in which they are declared, with the language that is registered and the one that
  owned the extension. -/
  told : exists (contested : List String) (former : String -> LanguageDescriptor),
    Contests before number language.extensions contested ∧
    (forall extension, extension ∈ contested ->
      before.forExtension? extension = some (former extension)) ∧
    warnings = before.toldOfPlace language ++ contested.map fun extension =>
      .extensionClaimed extension language.name (former extension).name

theorem Numbered.handsOver (numbered : registry.Numbered) (language : LanguageDescriptor) :
    HandsOver registry language (registry.register language).1 (registry.registering language)
      (registry.register language).2.2 := by
  rcases numbered.exists_places language with ⟨number, placed, isPlaced, places⟩
  rcases foldl_claim_registry number language language.extensions
    (placed, registry.toldOfPlace language) with ⟨_, _, owners⟩
  rcases foldl_claim_warnings number language language.extensions
    (placed, registry.toldOfPlace language) with ⟨contested, contests, told⟩
  unfold registering register
  rw [isPlaced]
  dsimp only at owners told ⊢
  refine ⟨?_, ?_, ?_, ?_, ?_⟩
  · intro extension declares
    rw [owners, if_pos declares]
  · intro numberable extension undeclared owned
    rw [owners, if_neg undeclared, Option.eq_none_iff_forall_ne_some]
    intro owner stillOwned
    by_cases same : owner = number
    · exact places.owners_ne numberable extension (same ▸ stillOwned)
    · have alsoOwned := (places.owners_of_ne extension owner same).mp stillOwned
      exact same (Option.some.inj (alsoOwned.symm.trans owned))
  · intro extension owner undeclared owned other
    rw [owners, if_neg undeclared]
    exact (places.owners_of_ne extension owner other).mpr owned
  · intro extension undeclared unowned
    rw [owners, if_neg undeclared]
    exact places.owners_of_none extension unowned
  · have foreign : forall extension, extension ∈ contested -> registry.IsForeign number extension :=
      fun extension among => (places.isForeign_iff extension).mp ((contests.mem_iff _).mp among).2
    refine ⟨contested, fun extension => (registry.forExtension? extension).getD language,
      ⟨contests.nodup, contests.sublist, ?_⟩, ?_, ?_⟩
    · intro extension
      rw [contests.mem_iff, places.isForeign_iff]
    · intro extension among
      rcases places.forExtension?_of_isForeign numbered (foreign extension among) with
        ⟨_, former, isFormer⟩
      dsimp only
      rw [isFormer, Option.getD_some]
    · rw [told]
      refine congrArg (registry.toldOfPlace language ++ ·) (List.map_congr_left ?_)
      intro extension among
      rcases places.forExtension?_of_isForeign numbered (foreign extension among) with
        ⟨same, former, isFormer⟩
      unfold takenFrom ownerName
      dsimp only
      rw [same, isFormer]
      rfl

theorem Numbered.registering (numbered : registry.Numbered) (language : LanguageDescriptor) :
    (registry.registering language).Numbered := by
  rcases numbered.exists_places language with ⟨number, placed, isPlaced, places⟩
  rcases foldl_claim_registry number language language.extensions
    (placed, registry.toldOfPlace language) with ⟨languages, numbers, owners⟩
  unfold LanguageRegistry.registering register
  rw [isPlaced]
  dsimp only at languages numbers owners ⊢
  constructor
  · intro name found isNumber
    rw [numbers] at isNumber
    rw [languages]
    rcases places.numbers name found isNumber with rfl | before
    · exact places.number_lt
    · exact Nat.lt_of_lt_of_le (numbered.numbers name found before) places.length_le
  · intro extension owner owned
    rw [owners] at owned
    rw [languages]
    by_cases same : owner = number
    · exact same ▸ places.number_lt
    · split at owned
      · exact absurd (Option.some.inj owned).symm same
      · have before := (places.owners_of_ne extension owner same).mp owned
        exact Nat.lt_of_lt_of_le (numbered.owners extension owner before) places.length_le

theorem numbered_registered (history : List LanguageDescriptor) : (registered history).Numbered := by
  induction history using List.reverseRecOn with
  | nil => constructor <;> simp [registered]
  | append_singleton history language inductionHypothesis =>
    rw [registered_append]
    exact inductionHypothesis.registering language

/-- A language takes two extensions from another one, the extended one first, and then the language
from which they were taken is told of its replacement only. -/
example :
    let first := { sampleLanguage "first" none with
      facts := { baseFileExtension := some "x", extendedFileExtension := some "y" } }
    let second := { first with name := "second" }
    ((registered [first]).register second).2.2 =
        [.extensionClaimed "y" "second" "first", .extensionClaimed "x" "second" "first"] ∧
      ((registered [first, second]).register { first with facts := {} }).2.2 =
        [.languageReplaced "first"] := by
  decide +kernel

end LanguageRegistry
end BaseLanguage
