import BaseLanguage.Proofs.Fact.Encoding
import BaseLanguage.Proofs.Path
import BaseLanguage.Tool.Program
import Mathlib.Data.List.Forall2

namespace BaseLanguage

/-!
# What is reported of a bootstrap program

A bootstrap program says on its error output what is wrong with a definition, in whatever bytes it
likes, and its status says whether anything is.  A report has no status, only what is wrong.  So a
program that fails must be reported with at least one error even if it said nothing that can be
shown, and one that succeeds with none, whatever it said.

Lines and trimmed lines are described here by how a text is put together from them, apart from how
they are found.
-/

namespace Text

/-! ## Lines -/

/-- The lines of a text.  A line is ended by a line feed, or by a carriage return and a line feed.
What follows the last line feed is a line of its own, carriage returns and all, if there is
anything. -/
inductive HasLines : List Char -> List (List Char) -> Prop where
  | empty : HasLines [] []
  | unended {line : List Char} (notEmpty : line ≠ []) (noFeed : '\n' ∉ line) :
      HasLines line [line]
  | ended {line rest : List Char} {lines : List (List Char)} (noFeed : '\n' ∉ line)
      (noReturn : line.getLast? ≠ some '\r') (more : HasLines rest lines) :
      HasLines (line ++ '\n' :: rest) (line :: lines)
  | endedTwice {line rest : List Char} {lines : List (List Char)} (noFeed : '\n' ∉ line)
      (more : HasLines rest lines) :
      HasLines (line ++ '\r' :: '\n' :: rest) (line :: lines)

variable {text line core : List Char}

theorem lines_of_not_mem (noFeed : '\n' ∉ text) :
    lines text = if text.isEmpty then [] else [text] := by
  rw [lines, pieces_of_not_mem noFeed]
  rfl

theorem lines_append (noFeed : '\n' ∉ line) (rest : List Char) :
    lines (line ++ '\n' :: rest) = withoutReturn line :: lines rest := by
  unfold lines
  rw [pieces_append, pieces_of_not_mem noFeed]
  cases reversed : (pieces '\n' rest).reverse with
  | nil => exact absurd (List.reverse_eq_nil_iff.mp reversed) (pieces_ne_nil '\n' rest)
  | cons last before =>
    rw [List.reverse_append, reversed]
    simp only [List.cons_append, List.reverse_append, List.reverse_singleton, List.map_cons,
      List.nil_append]
    split <;> rfl

theorem withoutReturn_of_getLast? (noReturn : line.getLast? ≠ some '\r') :
    withoutReturn line = line := by
  unfold withoutReturn
  split
  · next before reversed =>
    rw [← List.head?_reverse, reversed] at noReturn
    exact absurd rfl noReturn
  · rfl

theorem withoutReturn_concat (line : List Char) : withoutReturn (line ++ ['\r']) = line := by
  rw [withoutReturn, List.reverse_append]
  exact List.reverse_reverse line

/-- A text is cut into its lines. -/
theorem hasLines_lines (text : List Char) : HasLines text (lines text) := by
  by_cases feed : '\n' ∈ text
  · rcases List.eq_append_cons_of_mem feed with ⟨line, rest, isText, noFeed⟩
    have shorter : rest.length < text.length := by
      rw [isText, List.length_append, List.length_cons]
      omega
    have more := hasLines_lines rest
    rw [isText, lines_append noFeed]
    by_cases isReturn : line.getLast? = some '\r'
    · rcases List.getLast?_eq_some_iff.mp isReturn with ⟨front, rfl⟩
      rw [withoutReturn_concat, List.append_assoc]
      exact .endedTwice (fun among => noFeed (List.mem_append_left _ among)) more
    · rw [withoutReturn_of_getLast? isReturn]
      exact .ended noFeed isReturn more
  · rw [lines_of_not_mem feed]
    cases text with
    | nil => exact .empty
    | cons c rest => exact .unended (List.cons_ne_nil c rest) feed
termination_by text.length

/-- A text has no other lines than those that it is cut into. -/
theorem HasLines.eq_lines {found : List (List Char)} (cut : HasLines text found) :
    found = lines text := by
  induction cut with
  | empty => rfl
  | unended notEmpty noFeed =>
    rw [lines_of_not_mem noFeed, if_neg (by simpa using notEmpty)]
  | ended noFeed noReturn _ inductionHypothesis =>
    rw [lines_append noFeed, withoutReturn_of_getLast? noReturn, inductionHypothesis]
  | @endedTwice line rest _ noFeed _ inductionHypothesis =>
    have noFeedInFront : '\n' ∉ line ++ ['\r'] := by
      simpa using noFeed
    have regrouped : line ++ '\r' :: '\n' :: rest = (line ++ ['\r']) ++ '\n' :: rest := by
      simp
    rw [regrouped, lines_append noFeedInFront, withoutReturn_concat, inductionHypothesis]

theorem HasLines.noFeed {found : List (List Char)} (cut : HasLines text found)
    (among : line ∈ found) : '\n' ∉ line := by
  induction cut with
  | empty => exact absurd among List.not_mem_nil
  | unended _ noFeed => exact List.mem_singleton.mp among ▸ noFeed
  | ended noFeed _ _ inductionHypothesis | endedTwice noFeed _ inductionHypothesis =>
    rcases List.mem_cons.mp among with rfl | later
    · exact noFeed
    · exact inductionHypothesis later

/-! ## Trimmed lines -/

/-- What is left of a text when the blanks at its ends are taken away. -/
structure IsTrimmed (core text : List Char) : Prop where
  around : exists front back, text = front ++ core ++ back ∧
    forall c, c ∈ front ∨ c ∈ back -> isBlank c = true
  first : forall c, core.head? = some c -> isBlank c = false
  last : forall c, core.getLast? = some c -> isBlank c = false

theorem IsTrimmed.self (trimmed : IsTrimmed core text) : IsTrimmed core core :=
  { trimmed with around := ⟨[], [], by simp, by simp⟩ }

theorem exists_dropTrailing_append (drop : α -> Bool) (items : List α) :
    exists back, items = dropTrailing drop items ++ back ∧
      forall item, item ∈ back -> drop item := by
  refine ⟨(items.reverse.takeWhile drop).reverse, ?_, fun item among => ?_⟩
  · rw [dropTrailing, ← List.reverse_append, List.takeWhile_append_dropWhile, List.reverse_reverse]
  · exact List.mem_takeWhile_imp (List.mem_reverse.mp among)

theorem dropTrailing_append {drop : α -> Bool} {back : List α}
    (dropped : forall item, item ∈ back -> drop item) (items : List α) :
    dropTrailing drop (items ++ back) = dropTrailing drop items := by
  have front : forall item, item ∈ back.reverse -> drop item := fun item among =>
    dropped item (List.mem_reverse.mp among)
  unfold dropTrailing
  rw [List.reverse_append, List.dropWhile_append_of_pos front]

theorem isTrimmed_trim (text : List Char) : IsTrimmed (trim text) text := by
  rcases exists_append_skipBlank text with ⟨front, isText, blankFront⟩
  rcases exists_dropTrailing_append isBlank (skipBlank text) with ⟨back, isRest, blankBack⟩
  constructor
  · refine ⟨front, back, ?_, fun c among => among.elim (blankFront c) (blankBack c)⟩
    rw [List.append_assoc, trim, ← isRest]
    exact isText
  · intro c isFirst
    have unskipped := List.head?_dropWhile_not isBlank text
    have atFront : (text.dropWhile isBlank).head? = some c := by
      rw [← skipBlank, isRest, List.head?_append, ← trim, isFirst, Option.some_or]
    simpa [atFront] using unskipped
  · intro c isLast
    have undropped := List.head?_dropWhile_not isBlank (skipBlank text).reverse
    rw [trim, dropTrailing, List.getLast?_reverse] at isLast
    simpa [isLast] using undropped

/-- Only what `trim` leaves is left of a text when the blanks at its ends are taken away. -/
theorem IsTrimmed.eq_trim (trimmed : IsTrimmed core text) : core = trim text := by
  rcases trimmed.around with ⟨front, back, rfl, areBlank⟩
  have blankFront : Term.Grammar.Blank front := fun c among => areBlank c (.inl among)
  have blankBack : Term.Grammar.Blank back := fun c among => areBlank c (.inr among)
  have undropped : dropTrailing isBlank core = core :=
    List.rdropWhile_eq_self_iff.mpr fun notEmpty => by
      simp [trimmed.last _ (List.getLast?_eq_some_getLast notEmpty)]
  rw [trim, List.append_assoc, Term.Grammar.skipBlank_append blankFront]
  cases core with
  | nil =>
    rw [List.nil_append, Term.Grammar.skipBlank_of_blank blankBack]
    rfl
  | cons c rest =>
    rw [List.cons_append, skipBlank_cons, trimmed.first c rfl, if_neg Bool.false_ne_true,
      ← List.cons_append, dropTrailing_append blankBack, undropped]

/-- Nothing is left of a text exactly if all of it is blank. -/
theorem IsTrimmed.isEmpty_eq (trimmed : IsTrimmed core text) :
    core.isEmpty = text.all isBlank := by
  rcases trimmed.around with ⟨front, back, rfl, areBlank⟩
  cases core with
  | nil =>
    refine Eq.symm (List.all_eq_true.mpr fun c among => areBlank c ?_)
    simpa using among
  | cons c rest =>
    have visible := trimmed.first c rfl
    simp [visible]

theorem IsTrimmed.subset (trimmed : IsTrimmed core text) : core ⊆ text := by
  rcases trimmed.around with ⟨front, back, rfl, _⟩
  intro c among
  simp [among]

end Text

/-! ## How a program ended -/

namespace ExitStatus

/-- A text that goes on in the same line and does not end in a blank. -/
def IsPhrase (text : String) : Prop :=
  '\n' ∉ text.toList ∧ exists c, text.toList.getLast? = some c ∧ Text.isBlank c = false

theorem isPhrase_append (text : String) {ending : String} (noFeed : '\n' ∉ text.toList)
    (phrase : IsPhrase ending) : IsPhrase (text ++ ending) := by
  rcases phrase with ⟨noFeedBehind, c, isLast, visible⟩
  refine ⟨by simp [noFeed, noFeedBehind], c, ?_, visible⟩
  rw [String.toList_append, List.getLast?_append, isLast, Option.some_or]

theorem isPhrase_number (number : Nat) : IsPhrase (toString number) := by
  have digits := Term.Grammar.isDigits_decimal number
  have text : (toString number).toList = Text.decimal number := String.toList_ofList
  rw [IsPhrase, text]
  refine ⟨fun feed => absurd (digits.2 _ feed) (by decide), _,
    List.getLast?_eq_some_getLast digits.1, ?_⟩
  exact isBlank_of_isDigit (digits.2 _ (List.getLast_mem digits.1))

theorem isPhrase_describeSignal (signal : Nat) : IsPhrase (describeSignal signal) := by
  have number := isPhrase_append "signal: " (by decide) (isPhrase_number signal)
  have named : ("" :: signalNames).getD signal "" ∈ "" :: signalNames := by
    rw [List.getD_eq_getElem?_getD]
    cases found : ("" :: signalNames)[signal]? with
    | none => exact List.mem_cons_self
    | some name => exact List.mem_of_getElem? found
  have noFeed : forall name, name ∈ "" :: signalNames -> '\n' ∉ name.toList := by decide
  unfold describeSignal
  split
  · exact number
  · have behind := noFeed _ named
    have front : '\n' ∉ ("signal: " ++ toString signal ++ " (SIG" ++
        ("" :: signalNames).getD signal "").toList := by
      rw [String.toList_append, String.toList_append, List.mem_append, List.mem_append]
      exact not_or.mpr ⟨not_or.mpr ⟨number.1, by decide⟩, behind⟩
    exact isPhrase_append _ front ⟨by decide, ')', by decide, by decide⟩

theorem isPhrase_describe (status : ExitStatus) : IsPhrase status.describe := by
  cases status with
  | exited code =>
    exact isPhrase_append "exit status: " (by decide) (isPhrase_number code)
  | killed signal dumped =>
    have phrase := isPhrase_describeSignal signal
    cases dumped with
    | false =>
      have plain : (killed signal false).describe = describeSignal signal := String.append_empty
      rwa [plain]
    | true => exact isPhrase_append _ phrase.1 ⟨by decide, ')', by decide, by decide⟩

end ExitStatus

namespace BootstrapReport

/-! ## The report -/

/-- What a report tells of a program that ran, and how. -/
structure Tells (report : BootstrapReport) (program : String) (result : ProgramResult) : Prop where
  /-- Only the status decides. -/
  isSuccess_iff : report.isSuccess = true <-> result.status = .exited 0
  /-- The start is told, and then all that the program said, line by line. -/
  progress : exists lines, Text.HasLines (Text.ofBytesLossy result.stdout) lines ∧
    report.progress = ("running " ++ program) :: lines.map String.ofList
  /-- The errors of a program that failed are its lines that are not blank, each without the blanks
  around it, in their order.  If there are none, there is one error that names the status. -/
  errors : result.status ≠ .exited 0 -> exists lines said,
    Text.HasLines (Text.ofBytesLossy result.stderr) lines ∧
    List.Forall₂ Text.IsTrimmed said (lines.filter (!·.all Text.isBlank)) ∧
    report.errors = if said = [] then [program ++ " exited with " ++ result.status.describe]
      else said.map String.ofList
  /-- No error is blank. -/
  visible : forall error, error ∈ report.errors ->
    exists c, c ∈ error.toList ∧ Text.isBlank c = false
  /-- An error goes on in the same line, unless the name of the program does not. -/
  noFeed : forall error, error ∈ report.errors -> '\n' ∈ error.toList -> '\n' ∈ program.toList
  /-- No error has blanks around it, unless there is no name or a blank in front of it. -/
  trimmed : forall error, error ∈ report.errors ->
    (exists c, program.toList.head? = some c ∧ Text.isBlank c = false) ->
      Text.IsTrimmed error.toList error.toList

variable {program : String} {result : ProgramResult}

/-- The lines that are not blank. -/
def saidLines (bytes : ByteArray) : List (List Char) :=
  (Text.lines (Text.ofBytesLossy bytes)).filter (!·.all Text.isBlank)

theorem errorLines_eq (stderr : ByteArray) :
    errorLines stderr = ((saidLines stderr).map Text.trim).map String.ofList := by
  rw [errorLines, List.filter_map, saidLines]
  congr 2
  exact List.filter_congr fun line _ => by
    simp [(Text.isTrimmed_trim line).isEmpty_eq]

/-- The error that names the status. -/
def fallback (program : String) (status : ExitStatus) : String :=
  program ++ " exited with " ++ status.describe

theorem toList_fallback (program : String) (status : ExitStatus) :
    (fallback program status).toList =
      program.toList ++ " exited with ".toList ++ status.describe.toList := by
  rw [fallback, String.toList_append, String.toList_append]

theorem succeeded_iff : result.succeeded = true <-> result.status = .exited 0 :=
  beq_iff_eq

theorem errors_ofResult (program : String) (result : ProgramResult) :
    (ofResult program result).errors =
      if result.status = .exited 0 then []
      else if errorLines result.stderr = [] then [fallback program result.status]
      else errorLines result.stderr := by
  unfold ofResult
  dsimp only
  by_cases success : result.status = .exited 0
  · rw [if_pos success, if_pos (succeeded_iff.mpr success)]
  · rw [if_neg success, if_neg fun succeeded => success (succeeded_iff.mp succeeded)]
    split
    · next silent => rw [if_pos silent]; rfl
    · next said => rw [if_neg said]

/-- An error is a line of what was said, trimmed, or it names the status. -/
theorem mem_errors_ofResult {error : String} (told : error ∈ (ofResult program result).errors) :
    error = fallback program result.status ∨
      Text.IsTrimmed error.toList error.toList ∧ error.toList ≠ [] ∧ '\n' ∉ error.toList := by
  rw [errors_ofResult] at told
  split at told
  · exact absurd told List.not_mem_nil
  · split at told
    · exact .inl (List.mem_singleton.mp told)
    · rw [errorLines_eq, List.map_map] at told
      rcases List.mem_map.mp told with ⟨line, kept, rfl⟩
      rcases List.mem_filter.mp kept with ⟨isLine, visible⟩
      have trimmed := Text.isTrimmed_trim line
      have noFeed := (Text.hasLines_lines _).noFeed isLine
      rw [← trimmed.isEmpty_eq] at visible
      rw [Function.comp_apply, String.toList_ofList]
      exact .inr ⟨trimmed.self, by simpa using visible, fun feed => noFeed (trimmed.subset feed)⟩

/-- What is reported of a program tells how it ended. -/
theorem tells_ofResult (program : String) (result : ProgramResult) :
    (ofResult program result).Tells program result where
  isSuccess_iff := by
    rw [isSuccess, errors_ofResult]
    split
    · simp_all
    · split <;> simp_all
  progress := ⟨_, Text.hasLines_lines _, rfl⟩
  errors failed := by
    refine ⟨_, (saidLines result.stderr).map Text.trim, Text.hasLines_lines _, ?_, ?_⟩
    · exact List.forall₂_map_left_iff.mpr
        (List.forall₂_same.mpr fun line _ => Text.isTrimmed_trim line)
    · rw [errors_ofResult, if_neg failed, errorLines_eq, fallback]
      simp only [List.map_eq_nil_iff]
  visible error told := by
    rcases mem_errors_ofResult told with rfl | ⟨trimmed, notEmpty, _⟩
    · exact ⟨'e', by rw [toList_fallback]; simp, by decide⟩
    · exact ⟨_, List.head_mem notEmpty, trimmed.first _ (List.head?_eq_some_head notEmpty)⟩
  noFeed error told feed := by
    rcases mem_errors_ofResult told with rfl | ⟨_, _, noFeed⟩
    · rw [toList_fallback, List.mem_append, List.mem_append] at feed
      rcases feed with (inName | between) | behind
      · exact inName
      · exact absurd between (by decide)
      · exact absurd behind (result.status.isPhrase_describe).1
    · exact absurd feed noFeed
  trimmed error told named := by
    rcases mem_errors_ofResult told with rfl | ⟨trimmed, _, _⟩
    · rcases named with ⟨c, isFirst, visible⟩
      rcases result.status.isPhrase_describe with ⟨_, d, isLast, visibleLast⟩
      refine ⟨⟨[], [], by simp, by simp⟩, fun first found => ?_, fun last found => ?_⟩
      · rw [toList_fallback, List.append_assoc, List.head?_append, isFirst, Option.some_or] at found
        exact Option.some.inj found ▸ visible
      · rw [toList_fallback, List.getLast?_append, isLast, Option.some_or] at found
        exact Option.some.inj found ▸ visibleLast
    · exact trimmed

end BootstrapReport

namespace ProgramTools

/-! ## Running the program -/

variable {σ : Type} {launch : Launcher σ} {commands : ToolCommands} {command : ToolCommand}
  {request : BootstrapRequest} {workshop prepared after : Workshop σ} {result : ProgramResult}

/-- The folder is removed if it can be, and nothing is said if it cannot. -/
theorem exists_ending_dropCache (cache : Path) (workshop : Workshop σ) :
    exists last, ending (dropCache cache) workshop = (.ok (), last) := by
  rw [dropCache, ending_tryCatch]
  rcases ending (Workshop.withFiles (FileTree.remove cache)) workshop with ⟨outcome, after⟩
  cases outcome with
  | ok _ => exact ⟨after, rfl⟩
  | error fault => exact ⟨after, rfl⟩

/-- Without input, whatever a program that runs comes to is taken as it is. -/
theorem ending_run_of_launched {bindings : Placeholder.Bindings}
    (launched : (launch command.program (command.arguments.map (Placeholder.expand bindings))
      none).run prepared = (some result, after)) :
    ending (run launch command bindings none) prepared = (.ok result, after) := by
  have started : ending (liftM (launch command.program
      (command.arguments.map (Placeholder.expand bindings)) none) :
        ToolWork σ (Option ProgramResult)) prepared = (.ok (some result), after) :=
    congrArg (fun answer => (Except.ok answer.1, answer.2)) launched
  exact ending_bind_eq_ok_iff.mpr ⟨some result, after, started, rfl⟩

/-- If the bootstrap program is launched, in a workshop with the folder that it may use, there is a
report, and it tells how the program ended, whatever it did and said. -/
theorem bootstrap_tells (configured : commands.get? .bootstrap = some command)
    (made : ending (Workshop.withFiles (FileTree.createFolder (cacheFolder workshop.files)))
      workshop = (.ok (), prepared))
    (launched : (launch command.program (command.arguments.map
      (Placeholder.expand (bootstrapBindings request (cacheFolder workshop.files)))) none).run
        prepared = (some result, after)) :
    exists report last,
      ending ((toolchain launch commands).bootstrap request) workshop = (.ok report, last) ∧
        report.Tells command.program result := by
  have found : ending (ProgramTools.command commands .bootstrap) workshop =
      (.ok command, workshop) := by
    unfold ProgramTools.command
    rw [configured]
    rfl
  have ran := ending_run_of_launched launched
  rcases exists_ending_dropCache (cacheFolder workshop.files) after with ⟨last, dropped⟩
  refine ⟨.ofResult command.program result, last, ?_, BootstrapReport.tells_ofResult _ _⟩
  refine ending_bind_eq_ok_iff.mpr ⟨command, workshop, found, ?_⟩
  refine ending_bind_eq_ok_iff.mpr ⟨workshop, workshop, ending_get workshop, ?_⟩
  refine ending_bind_eq_ok_iff.mpr ⟨(), prepared, made, ?_⟩
  refine ending_bind_eq_ok_iff.mpr ⟨result, after, (ending_tryCatch _ _ _).trans ?_, ?_⟩
  · rw [ran]
  · exact ending_bind_eq_ok_iff.mpr ⟨(), last, dropped, rfl⟩

/-- A program that fails, with blanks and a carriage return on its error output. -/
def sampleFailure : ProgramResult where
  status := .killed 9 false
  stdout := ByteArray.empty
  stderr := Text.toBytes " \n\t\r\n bad\r\n"

/-- A workshop with the folder for folders that are used for a while. -/
def sampleWorkshop : Workshop Unit :=
  ⟨.rooted ["tmp"] ⟨0, 0⟩, ()⟩

def sampleRequest : BootstrapRequest :=
  ⟨"stlc", "sxbld", ⟨"stlc.sxbld"⟩, ⟨"bin"⟩, ⟨"stlc.def"⟩, ⟨"stlc.str"⟩⟩

/-- A program that is killed is not taken for one that succeeds. -/
theorem bootstrap_tells_sampleFailure :
    exists report last,
      ToolCommands.get? { bootstrap := some ⟨"compiler", []⟩ } .bootstrap =
        some ⟨"compiler", []⟩ ∧
      (ending (Workshop.withFiles (FileTree.createFolder (cacheFolder sampleWorkshop.files)))
        sampleWorkshop).1 = .ok () ∧
      ending ((toolchain (fun _ _ _ => return some sampleFailure)
        { bootstrap := some ⟨"compiler", []⟩ }).bootstrap sampleRequest) sampleWorkshop =
          (.ok report, last) ∧
      report.Tells "compiler" sampleFailure := by
  have made : (ending (Workshop.withFiles (FileTree.createFolder
      (cacheFolder sampleWorkshop.files))) sampleWorkshop).1 = .ok () := by
    decide +kernel
  rcases @bootstrap_tells Unit (fun _ _ _ => return some sampleFailure)
    { bootstrap := some ⟨"compiler", []⟩ } _ sampleRequest _ _ _ _ rfl
    (Prod.ext made rfl) rfl with ⟨report, last, ended, tells⟩
  exact ⟨report, last, rfl, made, ended, tells⟩

end ProgramTools

end BaseLanguage
