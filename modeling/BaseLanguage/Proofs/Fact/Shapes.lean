import BaseLanguage.Proofs.Fact.Interleaving

namespace BaseLanguage

/-!
# The shapes that are decoded

A fact is meant to be a constant in wrappers.  What is built is in a `Build`, every part of it in a
`NoAnnoList`, and inside this a string, an index or a pair in a node of its own kind.  `HasShape`
says this of a right-hand side in two ways.  Seen exactly, each node has the constructor that is
meant for its place, and no child behind those that are meant.  Seen loosely, it may have any
constructor and any further children.

Decoding is loose.  It goes down the first children and looks at what it finds at the leaves; on
the way, only the cells of a chain are told apart by their constructors.  So it accepts exactly the
modules whose facts have their shapes loosely seen, and what it accepts need not have them exactly.
-/

/-! ## Shapes -/

/-- An application to some children.  Seen exactly, its constructor is the given one and there are
no further children. -/
def IsNode (exact : Prop) (name : String) (children : List Term) (term : Term) : Prop :=
  exists constructor more, term = .appl constructor (children ++ more) ∧
    (exact -> constructor = name ∧ more = [])

/-- A leaf in a node of its kind, in the wrapper of every part of a constant. -/
def IsPart (exact : Prop) (kind : String) (leaf element : Term) : Prop :=
  exists node, IsNode exact "NoAnnoList" [node] element ∧ IsNode exact kind [leaf] node

def IsString (exact : Prop) (element : Term) : Prop :=
  exists text, IsPart exact "Str" (.str text) element

def IsIndex (exact : Prop) (element : Term) : Prop :=
  exists leaf text index, IsPart exact "Int" leaf element ∧ indexText leaf = .ok text ∧
    Text.word? (Text.trim text.toList) = some index

def IsArgument (exact : Prop) (element : Term) : Prop :=
  exists constructor index, IsPart exact "Tuple" (.known [constructor, index]) element ∧
    IsString exact constructor ∧ IsIndex exact index

/-- A chain of cells, each of which has the constructor of a cell however it is seen.  The elements
that are visited have a shape of their own. -/
inductive IsChain (exact : Prop) (IsElement : Term -> Prop) : Term -> Prop where
  | last {elements surplus : List Term} {chain : Term}
      (node : IsNode exact "NoAnnoList" [.appl "List" (.known elements :: surplus)] chain)
      (alone : exact -> surplus = []) (few : elements.length ≤ 1)
      (sound : forall element, element ∈ elements -> IsElement element) :
      IsChain exact IsElement chain
  | cell {element next chain : Term} {row surplus : List Term}
      (node : IsNode exact "NoAnnoList"
        [.appl "ListTail" (.known (element :: row) :: next :: surplus)] chain)
      (alone : exact -> surplus = []) (sound : IsElement element)
      (further : IsChain exact IsElement next) : IsChain exact IsElement chain

/-- What a right-hand side builds has the shape that is meant for a fact. -/
def HasShape (exact : Prop) (fact : Fact) (rhs : Term) : Prop :=
  exists built, IsNode exact "Build" [built] rhs ∧
    match fact with
    | .toplevelDeclaration | .extensibleFileExtension | .baseFileExtension => IsString exact built
    | .namespaceDeclaration => IsArgument exact built
    | .bodyDeclarations => IsChain exact (IsString exact) built
    | .importDeclarations => IsChain exact (IsArgument exact) built

/-- A declaration has the shape that is meant for its fact, if it is recognised for one. -/
def IsShaped (exact : Prop) (lead : String) (declaration : Term) : Prop :=
  forall fact rhs, recognise? lead declaration = some (fact, rhs) -> HasShape exact fact rhs

/-! ## Exact shapes -/

variable {exact : Prop} {lead name kind : String} {part leaf term element rhs : Term}
  {children : List Term} {IsElement : Term -> Prop} {fact : Fact}

theorem IsNode.loosely (node : IsNode True name children term) :
    IsNode exact name children term := by
  rcases node with ⟨constructor, more, same, exactly⟩
  exact ⟨constructor, more, same, fun _ => exactly trivial⟩

theorem IsPart.loosely (isPart : IsPart True kind leaf element) : IsPart exact kind leaf element :=
  isPart.imp fun _ nodes => ⟨nodes.1.loosely, nodes.2.loosely⟩

theorem IsString.loosely (isString : IsString True element) : IsString exact element :=
  isString.imp fun _ isPart => isPart.loosely

theorem IsArgument.loosely (argument : IsArgument True element) : IsArgument exact element := by
  rcases argument with ⟨constructor, index, pair, named, leaf, text, number, isPart, reads⟩
  exact ⟨constructor, index, pair.loosely, named.loosely, leaf, text, number, isPart.loosely, reads⟩

theorem IsChain.loosely {IsOther : Term -> Prop} (imp : forall element, IsElement element ->
    IsOther element) (chain : IsChain True IsElement term) : IsChain exact IsOther term := by
  induction chain with
  | last node alone few sound =>
    exact .last node.loosely (fun _ => alone trivial) few fun element among =>
      imp element (sound element among)
  | cell node alone sound _ inductionHypothesis =>
    exact .cell node.loosely (fun _ => alone trivial) (imp _ sound) inductionHypothesis

/-- What has its shape exactly has it loosely. -/
theorem HasShape.loosely (shape : HasShape True fact rhs) : HasShape exact fact rhs := by
  rcases shape with ⟨built, node, inner⟩
  refine ⟨built, node.loosely, ?_⟩
  cases fact with
  | toplevelDeclaration | extensibleFileExtension | baseFileExtension =>
    exact IsString.loosely inner
  | namespaceDeclaration => exact IsArgument.loosely inner
  | bodyDeclarations => exact IsChain.loosely (fun _ => IsString.loosely) inner
  | importDeclarations => exact IsChain.loosely (fun _ => IsArgument.loosely) inner

/-! ## What can be read -/

variable {α β : Type} {read : Term -> Except FactFault α}

/-- Loosely seen, a node is whatever has a first child. -/
theorem isNode_iff (name : String) :
    IsNode False name [part] term <-> inFact (term.child 0) = .ok part := by
  unfold inFact
  rw [mapError_eq_ok_iff, Term.child_eq_ok_iff]
  constructor
  · rintro ⟨constructor, more, rfl, _⟩
    exact ⟨constructor, part :: more, rfl, rfl⟩
  · rintro ⟨constructor, children, rfl, first⟩
    cases children with
    | nil => cases first
    | cons head more =>
      cases first
      exact ⟨constructor, more, rfl, nofun⟩

/-- What is read off the first child of the first child of a term is read off the leaf of a part. -/
theorem exists_part_iff (kind : String) :
    (exists value, (do
        let node ← inFact (element.child 0)
        let leaf ← inFact (node.child 0)
        read leaf) = .ok value) <->
      exists leaf, IsPart False kind leaf element ∧ exists value, read leaf = .ok value := by
  constructor
  · rintro ⟨value, done⟩
    rcases bind_eq_ok_iff.mp done with ⟨node, outer, rest⟩
    rcases bind_eq_ok_iff.mp rest with ⟨leaf, inner, said⟩
    exact ⟨leaf, ⟨node, (isNode_iff _).mpr outer, (isNode_iff _).mpr inner⟩, value, said⟩
  · rintro ⟨leaf, ⟨node, outer, inner⟩, value, said⟩
    exact ⟨value, bind_eq_ok_iff.mpr ⟨node, (isNode_iff _).mp outer,
      bind_eq_ok_iff.mpr ⟨leaf, (isNode_iff _).mp inner, said⟩⟩⟩

theorem exists_stringElement_iff :
    (exists text, stringElement element = .ok text) <-> IsString False element := by
  unfold stringElement
  rw [exists_part_iff "Str"]
  constructor
  · rintro ⟨leaf, isPart, value, said⟩
    cases leaf with
    | str text => exact ⟨text, isPart⟩
    | appl | list | int => cases said
  · rintro ⟨text, isPart⟩
    exact ⟨.str text, isPart, unquote text, rfl⟩

theorem exists_indexElement_iff :
    (exists index, indexElement element = .ok index) <-> IsIndex False element := by
  unfold indexElement
  rw [exists_part_iff "Int"]
  constructor
  · rintro ⟨leaf, isPart, value, said⟩
    rcases bind_eq_ok_iff.mp said with ⟨text, isText, isWord⟩
    split at isWord
    · next index found => exact ⟨leaf, text, index, isPart, isText, found⟩
    · cases isWord
  · rintro ⟨leaf, text, index, isPart, isText, found⟩
    refine ⟨leaf, isPart, index, bind_eq_ok_iff.mpr ⟨text, isText, ?_⟩⟩
    rw [found]
    rfl

theorem exists_argumentElement_iff :
    (exists argument, argumentElement element = .ok argument) <-> IsArgument False element := by
  unfold argumentElement
  rw [exists_part_iff "Tuple"]
  constructor
  · rintro ⟨leaf, isPart, value, said⟩
    rcases bind_eq_ok_iff.mp said with ⟨components, isList, pair⟩
    have isKnown := Term.knownElems_eq_ok_iff.mp (mapError_eq_ok_iff.mp isList)
    subst isKnown
    split at pair
    · next constructor index =>
      rcases bind_eq_ok_iff.mp pair with ⟨text, isString, rest⟩
      rcases bind_eq_ok_iff.mp rest with ⟨number, isIndex, _⟩
      exact ⟨constructor, index, isPart, exists_stringElement_iff.mp ⟨text, isString⟩,
        exists_indexElement_iff.mp ⟨number, isIndex⟩⟩
    · cases pair
  · rintro ⟨constructor, index, isPart, isString, isIndex⟩
    rcases exists_stringElement_iff.mpr isString with ⟨text, isText⟩
    rcases exists_indexElement_iff.mpr isIndex with ⟨number, isNumber⟩
    exact ⟨.known [constructor, index], isPart, ⟨text, number⟩, bind_eq_ok_iff.mpr
      ⟨_, rfl, bind_eq_ok_iff.mpr ⟨text, isText, bind_eq_ok_iff.mpr ⟨number, isNumber, rfl⟩⟩⟩⟩

/-- A row can be read if each of its items can. -/
theorem exists_mapM_iff (items : List Term) :
    (exists values, items.mapM read = .ok values) <->
      forall item, item ∈ items -> exists value, read item = .ok value := by
  induction items with
  | nil => exact iff_of_true ⟨[], rfl⟩ nofun
  | cons item more inductionHypothesis =>
    rw [List.forall_mem_cons, ← inductionHypothesis, List.mapM_cons]
    cases read item with
    | error fault => exact iff_of_false nofun nofun
    | ok value =>
      cases more.mapM read with
      | error fault => exact iff_of_false nofun nofun
      | ok values => exact iff_of_true ⟨value :: values, rfl⟩ ⟨⟨value, rfl⟩, ⟨values, rfl⟩⟩

/-- Loosely seen, a chain has cells that can be visited, and sound elements where it is. -/
theorem isChain_iff : IsChain False IsElement term <->
    exists rows elems, Cells term rows elems ∧ AreVisitable rows elems ∧
      forall element, element ∈ firstsOf rows elems -> IsElement element := by
  constructor
  · intro chain
    induction chain with
    | @last elements surplus chain node alone few sound =>
      rcases node with ⟨wrapper, more, rfl, _⟩
      exact ⟨[], elements, .last, ⟨nofun, few⟩, sound⟩
    | @cell element next chain row surplus node alone sound further inductionHypothesis =>
      rcases node with ⟨wrapper, more, rfl, _⟩
      rcases inductionHypothesis with ⟨rows, elems, cells, visitable, all⟩
      refine ⟨(element :: row) :: rows, elems, .inner cells, ⟨?_, visitable.length_le⟩, ?_⟩
      · exact List.forall_mem_cons.mpr ⟨List.cons_ne_nil element row, visitable.inhabited⟩
      · rw [firstsOf_cons]
        exact List.forall_mem_cons.mpr ⟨sound, all⟩
  · rintro ⟨rows, elems, cells, visitable, all⟩
    induction cells with
    | @last wrapper elems rest more =>
      exact .last ⟨wrapper, more, rfl, nofun⟩ nofun visitable.length_le all
    | @inner wrapper row rest more next rows elems further inductionHypothesis =>
      rcases List.forall_mem_cons.mp visitable.inhabited with ⟨inhabited, others⟩
      cases row with
      | nil => exact absurd rfl inhabited
      | cons first row =>
        rw [firstsOf_cons] at all
        rcases List.forall_mem_cons.mp all with ⟨sound, later⟩
        exact .cell ⟨wrapper, more, rfl, nofun⟩ nofun sound
          (inductionHypothesis ⟨others, visitable.length_le⟩ later)

/-- A chain can be read if it is one, loosely seen, of elements that can be read. -/
theorem exists_readChain_iff
    (readable : forall element, (exists value, read element = .ok value) <-> IsElement element) :
    (exists values, readChain read (Chain.ofTerm term) = .ok values) <->
      IsChain False IsElement term := by
  simp only [isChain_iff, readChain_eq_ok_iff]
  constructor
  · rintro ⟨values, faultless, readAll⟩
    rcases Chain.cells_of_ofTerm term faultless with ⟨rows, elems, cells, visitable⟩
    rw [Chain.ofTerm_of_cells cells visitable] at readAll
    exact ⟨rows, elems, cells, visitable, fun element among =>
      (readable element).mp ((exists_mapM_iff _).mp ⟨values, readAll⟩ element among)⟩
  · rintro ⟨rows, elems, cells, visitable, all⟩
    rw [Chain.ofTerm_of_cells cells visitable]
    rcases (exists_mapM_iff (firstsOf rows elems)).mpr fun element among =>
      (readable element).mpr (all element among) with ⟨values, readAll⟩
    exact ⟨values, rfl, readAll⟩

/-- What is built can be read, and used for a change, if it has a shape. -/
theorem exists_built_iff {use : α -> β}
    (readable : forall built, (exists value, read built = .ok value) <-> IsElement built) :
    (exists change, (do
        let value ← (do
          let built ← inFact (rhs.child 0)
          read built)
        return use value) = .ok change) <->
      exists built, IsNode False "Build" [built] rhs ∧ IsElement built := by
  constructor
  · rintro ⟨change, done⟩
    rcases bind_eq_ok_iff.mp done with ⟨value, said, _⟩
    rcases bind_eq_ok_iff.mp said with ⟨built, node, reads⟩
    exact ⟨built, (isNode_iff _).mpr node, (readable built).mp ⟨value, reads⟩⟩
  · rintro ⟨built, node, shaped⟩
    rcases (readable built).mpr shaped with ⟨value, reads⟩
    exact ⟨use value, bind_eq_ok_iff.mpr
      ⟨value, bind_eq_ok_iff.mpr ⟨built, (isNode_iff _).mp node, reads⟩, rfl⟩⟩

/-- A right-hand side can be read if it has the shape of its fact, loosely seen. -/
theorem exists_reading_iff :
    (exists change, Decoding.reading fact rhs = .ok change) <-> HasShape False fact rhs := by
  cases fact with
  | toplevelDeclaration | extensibleFileExtension | baseFileExtension =>
    exact exists_built_iff fun _ => exists_stringElement_iff
  | namespaceDeclaration => exact exists_built_iff fun _ => exists_argumentElement_iff
  | bodyDeclarations =>
    exact exists_built_iff fun _ => exists_readChain_iff fun _ => exists_stringElement_iff
  | importDeclarations =>
    exact exists_built_iff fun _ => exists_readChain_iff fun _ => exists_argumentElement_iff

/-! ## What is decoded -/

theorem isSound_iff {declaration : Term} :
    IsSound lead declaration <-> IsShaped False lead declaration := by
  constructor
  · intro sound fact rhs recognised
    rw [← exists_reading_iff]
    by_contra unread
    rcases exists_error_iff.mpr unread with ⟨fault, malformed⟩
    exact sound fact fault ⟨rhs, recognised, malformed⟩
  · rintro shaped fact fault ⟨rhs, recognised, malformed⟩
    exact exists_error_iff.mp ⟨fault, malformed⟩
      (exists_reading_iff.mpr (shaped fact rhs recognised))

/-- A module is decoded exactly if it has declarations and each that is recognised has the shape of
its fact, loosely seen.  The first one that has not is why decoding fails, and the failure tells its
fact.  What has its shape exactly is decoded, therefore. -/
theorem exists_decode_iff_isShaped (lead : String) (module : Term) :
    ((exists facts, (decode lead module).1 = .ok facts) <->
      exists declarations, declarationsOf module = .ok declarations ∧
        forall declaration, declaration ∈ declarations -> IsShaped False lead declaration) ∧
    (forall before declaration after,
      declarationsOf module = .ok (before ++ declaration :: after) ->
      (forall earlier, earlier ∈ before -> IsShaped False lead earlier) ->
      ¬ IsShaped False lead declaration ->
        exists fact rhs fault, recognise? lead declaration = some (fact, rhs) ∧
          (decode lead module).1 = .error (.fact fact fault)) ∧
    forall declaration, IsShaped True lead declaration -> IsShaped False lead declaration := by
  refine ⟨?_, ?_, fun _ shaped fact rhs recognised => (shaped fact rhs recognised).loosely⟩
  · cases found : declarationsOf module with
    | error shape =>
      rw [(decode_eq_module_error_iff lead module shape).mpr found]
      simp
    | ok declarations =>
      rw [exists_decode_iff_isSound found]
      simp only [isSound_iff, Except.ok.injEq, exists_eq_left']
  · intro before declaration after found sound misshapen
    unfold IsShaped at misshapen
    push Not at misshapen
    rcases misshapen with ⟨fact, rhs, recognised, shapeless⟩
    rw [← exists_reading_iff, ← exists_error_iff] at shapeless
    rcases shapeless with ⟨fault, malformed⟩
    refine ⟨fact, rhs, fault, recognised, decode_of_firstMalformed found ?_⟩
    exact ⟨before, declaration, after, rfl, ⟨rhs, recognised, malformed⟩, fun earlier among =>
      isSound_iff.mpr (sound earlier among)⟩

/-- A fact that is not built is decoded nevertheless. -/
theorem not_forall_decoded_isShaped :
    ¬ forall lead module declarations, declarationsOf module = .ok declarations ->
      (exists facts, (decode lead module).1 = .ok facts) ->
        forall declaration, declaration ∈ declarations -> IsShaped True lead declaration := by
  intro always
  have rhs : HasShape True .baseFileExtension (.appl "Built" [quotedPart "st"]) :=
    always "x" (.appl "Module" [.str "x", .known [.appl "Strategies" [.known
      [.appl "SDefNoArgs" [.str "x-base-file-ext", .appl "Built" [quotedPart "st"]]]]]])
      _ rfl ⟨{ baseFileExtension := some "st" }, by decide +kernel⟩ _ (.head _) _ _ rfl
  rcases rhs with ⟨_, ⟨constructor, more, same, exactly⟩, _⟩
  cases same
  exact absurd (exactly trivial).1 (by decide)

end BaseLanguage
