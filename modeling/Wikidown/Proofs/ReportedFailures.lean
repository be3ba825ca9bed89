import Wikidown.Proofs.Batch.Reports
import Wikidown.Proofs.Command.Status

/-!
# Failures that are reported

A run reports what fails in it and returns a status, as long as its configuration file can be read and parsed, the
standard input is a text, the output directory is a proper path, and what can be read can be converted. Anything
else ends the run without a status.
-/

namespace Wikidown

set_option autoImplicit false

/-! ## Settings -/

namespace Settings

variable {environment : Environment} {tree : FileTree} {file : Option Text}

/-- A path at which there is no configuration file, or one that is a text and, if it is JSON at all, has no
number that is too long and is not nested too deep. -/
structure LegibleFile (tree : FileTree) (path : Text) : Prop where
  named : tree.lookup path ≠ .error .nameTooLong
  decoded : ∀ bytes, tree.lookup path ≠ .ok (.file (.raw bytes))
  parsed : ∀ content error, tree.lookup path = .ok (.file (.text content)) →
    JsonValue.parse (unifyLineEnds content) = .error error → error = .malformed

/-- With a legible configuration file nothing but wrong settings keeps its members from being read. -/
theorem file_members_reported_iff (tree : FileTree) (file : Option Text) :
    (∀ fault, fileMembers tree file = .error fault → ∃ wrong, fault = .settings wrong) ↔
      LegibleFile tree (filePath file) := by
  rw [fileMembers]
  generalize filePath file = path
  cases found : tree.lookup path with
  | error cause =>
      have legible : LegibleFile tree path ↔ cause ≠ .nameTooLong := by
        constructor
        · rintro legible rfl
          exact legible.named found
        · exact fun short => ⟨by simpa [found] using short, by simp [found], by simp [found]⟩
      rw [legible]
      rcases FileTree.lookup_error found with rfl | rfl | rfl | rfl <;> simp
  | ok entry =>
      have named : tree.lookup path ≠ .error .nameTooLong := by simp [found]
      cases entry with
      | directory =>
          have legible : LegibleFile tree path := ⟨named, by simp [found], by simp [found]⟩
          simp [legible]
      | file content =>
          cases content with
          | raw bytes =>
              have illegible : ¬ LegibleFile tree path := fun legible => legible.decoded bytes found
              simp [illegible]
          | text content =>
              have legible : LegibleFile tree path ↔
                  ∀ error, JsonValue.parse (unifyLineEnds content) = .error error → error = .malformed := by
                constructor
                · exact fun legible error => legible.parsed content error found
                · intro parsed
                  refine ⟨named, by simp [found], fun other error same => ?_⟩
                  rw [found] at same
                  simp only [Except.ok.injEq, FileEntry.file.injEq, Content.text.injEq] at same
                  exact same ▸ parsed error
              rw [legible]
              dsimp only
              cases JsonValue.parse (unifyLineEnds content) with
              | ok value => cases value <;> simp
              | error error => cases error <;> simp

theorem options_reported_iff (environment : Environment) (tree : FileTree) (crlf promoteFirstRow : Option Bool)
    (file : Option Text) :
    (∀ fault, options environment tree crlf promoteFirstRow file = .error fault →
      ∃ wrong, fault = .settings wrong) ↔ LegibleFile tree (filePath file) := by
  rw [← file_members_reported_iff]
  have flagged (result : Except SettingsFault Bool) (fault : Fault)
      (failed : result.mapError Fault.settings = .error fault) : ∃ wrong, fault = .settings wrong := by
    cases result with
    | ok value => simp [Except.mapError] at failed
    | error wrong => exact ⟨wrong, (Except.error.inj failed).symm⟩
  constructor
  · intro reported fault failed
    refine reported fault ?_
    rw [options, failed]
    rfl
  · intro reported fault failed
    simp only [options, bind, Except.bind] at failed
    split at failed
    · next met members => exact reported fault (members.trans (congrArg _ (Except.error.inj failed)))
    · split at failed
      · next met flag => exact flagged _ fault (flag.trans (congrArg _ (Except.error.inj failed)))
      · split at failed
        · next met flag => exact flagged _ fault (flag.trans (congrArg _ (Except.error.inj failed)))
        · exact absurd failed (fun same => by cases same)

theorem output_directory_reported (legible : LegibleFile tree (filePath file)) {given : Option Text} {fault : Fault}
    (failed : outputDirectory environment tree given file = .error fault) : ∃ wrong, fault = .settings wrong := by
  unfold outputDirectory at failed
  split at failed
  · simp at failed
  · simp at failed
  · cases members : fileMembers tree file with
    | ok known => simp [members, Except.map] at failed
    | error met =>
        rw [members] at failed
        refine (file_members_reported_iff tree file).mpr legible fault ?_
        rw [members, ← Except.error.inj failed]

theorem output_directory_named {given : Option Text} {directory : Text}
    (named : outputDirectory environment tree given file = .ok (.string directory)) : directory ≠ [] := by
  unfold outputDirectory at named
  split at named
  · next c rest _ =>
    rw [← JsonValue.string.inj (Except.ok.inj named)]
    simp
  · next c rest _ =>
    rw [← JsonValue.string.inj (Except.ok.inj named)]
    simp
  · cases members : fileMembers tree file with
    | error fault => simp [members, Except.map] at named
    | ok known =>
        rw [members] at named
        have chosen := Except.ok.inj named
        dsimp only at chosen
        split at chosen
        · split at chosen
          · next value given =>
            rintro rfl
            rw [chosen] at given
            exact absurd given (by decide)
          · rw [← JsonValue.string.inj chosen]
            decide
        · rw [← JsonValue.string.inj chosen]
          decide

end Settings

namespace Command

open Batch

variable {slugOf : Text → Text} {environment : Environment} {input : Content} {arguments : Arguments}
  {options : Options} {files : List Text} {session after : Session}

/-! ## The steps of a run -/

theorem print_input_returns {content markdown : Text}
    (converted : convert options (Settings.unifyLineEnds content) = .ok markdown) (session : Session) :
    ∃ after, (printInput options (.text content)).perform session = (.ok (), after) := by
  obtain ⟨records, run⟩ := convert_text_perform options (Settings.unifyLineEnds content) session
  have shown : (printInput options (.text content)).perform session =
      (Job.print markdown).perform { session with records := records } := by
    rw [printInput, Job.perform_bind, run, converted]
    rfl
  exact ⟨_, shown.trans (Job.perform_print _ _)⟩

theorem print_input_reports_iff (options : Options) (input : Content) (session : Session) :
    (printInput options input).Reports session ↔ ∃ content markdown, input = .text content ∧
      convert options (Settings.unifyLineEnds content) = .ok markdown := by
  constructor
  · intro reports
    cases input with
    | raw bytes =>
        obtain ⟨wrong, same⟩ := reports .notUtf8 session rfl
        simp at same
    | text content =>
        obtain ⟨markdown, converted⟩ := (convert_text_reports_iff options _ session).mp (Job.reports_bind.mp reports).1
        exact ⟨content, markdown, rfl, converted⟩
  · rintro ⟨content, markdown, rfl, converted⟩
    obtain ⟨after, done⟩ := print_input_returns converted session
    exact Job.reports_of_ok done

theorem make_output_reports_iff (directory : Text) (session : Session) :
    (makeOutput directory).Reports session ↔ '\x00' ∉ directory := by
  constructor
  · intro reports nul
    have failed := FileJob.make_with_parents_nul ((FileTree.nul_mem_normal_iff directory).mpr nul) session.tree
    obtain ⟨wrong, same⟩ := reports (.file ⟨.nulInPath, (Path.normal directory).text⟩) session (by
      rw [makeOutput, Job.perform_files, failed]
      rfl)
    simp at same
  · intro clean fault after failed
    have made := FileJob.make_with_parents (Path.normal directory)
      ((FileTree.nul_mem_normal_iff directory).not.mpr clean) session.tree
    rw [makeOutput, Job.perform_files] at failed
    rcases run : ((FileJob.makeWithParents (Path.normal directory)).run session.tree).run with ⟨error | _, tree⟩
    · rw [run] at made failed
      refine ⟨.noDirectory error, ?_⟩
      rw [← Except.error.inj (Prod.mk.inj failed).1, Fault.ofFileError, if_pos (made.failed error rfl)]
    · rw [run] at failed
      simp [Except.mapError] at failed

/-- The files of a run are there. -/
theorem collected_clean (tree : FileTree) (arguments : Arguments) :
    ∀ path ∈ (collected tree arguments).1, '\x00' ∉ path := by
  have clean (path : Text) (file : tree.isFile path = true) : '\x00' ∉ path := by
    intro nul
    rw [FileTree.isFile, FileTree.lookup, FileTree.locate, if_pos (by simpa using nul)] at file
    simp at file
  intro path member
  rw [collected, collect, List.mem_flatMap] at member
  obtain ⟨source, _, inside⟩ := member
  split at inside
  · rw [sourcesIn, List.mem_filterMap] at inside
    obtain ⟨⟨name, other⟩, _, chosen⟩ := inside
    dsimp only at chosen
    split at chosen
    · next test =>
      rw [← Option.some.inj chosen]
      exact clean other (Bool.and_eq_true_iff.mp test).1
    · simp at chosen
  · split at inside
    · next file =>
      rw [List.mem_singleton] at inside
      exact inside ▸ clean source file
    · simp at inside

/-- Where the output directory was made, it is there by the path that was given for it. -/
theorem made_stands {directory : Text} {tree made : FileTree} (named : directory ≠ []) (clean : '\x00' ∉ directory)
    (making : ((FileJob.makeWithParents (Path.normal directory)).run tree).run = (.ok (), made)) :
    FileTree.Standing made directory := by
  have done := FileJob.make_with_parents (Path.normal directory)
    ((FileTree.nul_mem_normal_iff directory).not.mpr clean) tree
  rw [making] at done
  exact FileTree.stands_of_normal (FileTree.is_directory_iff_stands.mp (done.there rfl)).2 named

/-- Once its pages are written, a batch updates their links without any fault. -/
theorem links_reported {directory : Text} {index : Page.Index} {failures : Nat} {converted : Session}
    (batch : (convertAll slugOf options directory files).perform session = (.ok (index, failures), converted)) :
    (updateAllLinks slugOf directory index index).Reports converted := by
  obtain ⟨-, rfl, -, tree⟩ := convert_all_turns batch
  have hold := written_pages_hold_text slugOf options directory files session.tree []
  rw [← tree] at hold
  obtain ⟨changed, finished, done⟩ := update_all_links_returns hold
  exact Job.reports_of_ok done

/-- The part of a run that works in the output directory. -/
def writeInto (slugOf : Text → Text) (options : Options) (files : List Text) (directory : Text) : Job Nat := do
  makeOutput directory
  let (index, failures) ← convertAll slugOf options directory files
  let changed ← updateAllLinks slugOf directory index index
  if changed ≠ 0 then
    Job.say (Markup.styled "yellow"
      ("Updated ".toList ++ decimalText changed ++ " links between pages".toList))
  Job.say (Markup.styled "bold green"
    ("Converted ".toList ++ decimalText index.length ++ " files. Files saved in '".toList ++
      Markup.escape directory ++ "'".toList))
  return failures

theorem write_pages_eq (slugOf : Text → Text) (environment : Environment) (arguments : Arguments)
    (options : Options) (files : List Text) :
    writePages slugOf environment arguments options files =
      Job.tree >>= fun tree =>
        Job.ofExcept (Settings.outputDirectory environment tree arguments.output arguments.config) >>=
          fun setting => Job.ofExcept (pathOf setting) >>= writeInto slugOf options files := rfl

/-- A batch in the output directory goes well if the path of the directory has no NUL character and, once the
directory is made, the source of each turn is handled. -/
def HandledIn (slugOf : Text → Text) (options : Options) (files : List Text) (tree : FileTree)
    (directory : Text) : Prop :=
  '\x00' ∉ directory ∧
    ∀ made, ((FileJob.makeWithParents (Path.normal directory)).run tree).run = (.ok (), made) →
      ∀ turn ∈ turns slugOf options directory files made [], Handled options directory turn.files turn.path

theorem write_into_reports_iff {directory : Text} (named : directory ≠ []) (plain : ∀ title, '\x00' ∉ slugOf title)
    (clean : ∀ path ∈ files, '\x00' ∉ path) :
    (writeInto slugOf options files directory).Reports session ↔
      HandledIn slugOf options files session.tree directory := by
  rw [writeInto, Job.reports_bind, make_output_reports_iff, HandledIn]
  refine and_congr_right fun proper => ?_
  have turn (made : FileTree)
      (making : ((FileJob.makeWithParents (Path.normal directory)).run session.tree).run = (.ok (), made)) :=
    @convert_all_reports_iff slugOf options directory files { session with tree := made }
      (made_stands named proper making) clean fun path _ => plain _
  constructor
  · intro reports made making
    have rest := reports () { session with tree := made } (Job.perform_files_ok.mpr ⟨made, making, rfl⟩)
    exact (turn made making).mp (Job.reports_bind.mp rest).1
  · intro handled _ between done
    obtain ⟨made, making, rfl⟩ := Job.perform_files_ok.mp done
    refine Job.reports_bind.mpr ⟨(turn made making).mpr (handled made making), ?_⟩
    rintro ⟨index, failures⟩ converted batch
    refine Job.reports_bind.mpr ⟨links_reported batch, fun changed linked _ => ?_⟩
    dsimp only
    split
    · exact Job.reports_of_ok rfl
    · exact Job.reports_of_ok rfl

theorem write_pages_reports_iff (plain : ∀ title, '\x00' ∉ slugOf title)
    (legible : Settings.LegibleFile session.tree (Settings.filePath arguments.config))
    (clean : ∀ path ∈ files, '\x00' ∉ path) :
    (writePages slugOf environment arguments options files).Reports session ↔
      ∀ setting, Settings.outputDirectory environment session.tree arguments.output arguments.config = .ok setting →
        ∃ directory, setting = .string directory ∧ HandledIn slugOf options files session.tree directory := by
  rw [write_pages_eq, Job.reports_bind_ok (Job.perform_tree session), Job.reports_bind_of_except,
    and_iff_right fun fault => Settings.output_directory_reported legible]
  refine forall_congr' fun setting => imp_congr_right fun named => ?_
  cases setting with
  | string directory =>
      have path : (Job.ofExcept (pathOf (.string directory))).perform session = (.ok directory, session) := rfl
      rw [Job.reports_bind_ok path,
        write_into_reports_iff (Settings.output_directory_named named) plain clean]
      simp
  | _ =>
      refine iff_of_false (fun reports => ?_) fun ⟨_, same, _⟩ => by simp at same
      obtain ⟨wrong, same⟩ := reports _ session rfl
      simp at same

/-! ## Whole runs -/

/-- What the files of a run need: where pages are printed, they can be converted if they can be read; where pages
are written, the setting for the output directory is a path, and the source of each turn is handled. -/
structure FilesHandled (slugOf : Text → Text) (environment : Environment) (arguments : Arguments)
    (options : Options) (files : List Text) (tree : FileTree) : Prop where
  printed : arguments.stdout = true → ∀ path ∈ files, ∀ source, readSource tree path = .ok source →
    ∃ markdown, convert options source = .ok markdown
  written : arguments.stdout = false → files ≠ [] → ∀ setting,
    Settings.outputDirectory environment tree arguments.output arguments.config = .ok setting →
      ∃ directory, setting = .string directory ∧ HandledIn slugOf options files tree directory

/-- What a run needs so that nothing but wrong settings ends it: a configuration file that can be read and parsed,
and with the options that are chosen a text on the standard input that can be converted, if that is a source, and
files that are handled. -/
structure Orderly (slugOf : Text → Text) (environment : Environment) (input : Content) (arguments : Arguments)
    (tree : FileTree) : Prop where
  configuration : Settings.LegibleFile tree (Settings.filePath arguments.config)
  input : ∀ options, optionsOf environment tree arguments = .ok options → standardInput ∈ arguments.sources →
    ∃ content markdown, input = .text content ∧
      convert options (Settings.unifyLineEnds content) = .ok markdown
  files : ∀ options, optionsOf environment tree arguments = .ok options →
    FilesHandled slugOf environment arguments options (collected tree arguments).1 tree

theorem convert_files_reports_iff (plain : ∀ title, '\x00' ∉ slugOf title)
    (legible : Settings.LegibleFile session.tree (Settings.filePath arguments.config))
    (clean : ∀ path ∈ files, '\x00' ∉ path) :
    (convertFiles slugOf environment arguments options files).Reports session ↔
      FilesHandled slugOf environment arguments options files session.tree := by
  rw [convertFiles]
  by_cases printed : arguments.stdout = true
  · rw [if_pos printed, print_files_reports_iff]
    exact ⟨fun all => ⟨fun _ => all, fun written => by simp [printed] at written⟩,
      fun handled => handled.printed printed⟩
  · have written : arguments.stdout = false := by simpa using printed
    rw [if_neg printed]
    by_cases none : files = []
    · rw [if_pos (by simpa using none)]
      exact iff_of_true (Job.reports_of_ok rfl) ⟨fun shown => absurd shown printed, fun _ some => absurd none some⟩
    · rw [if_neg (by simpa using none), write_pages_reports_iff plain legible clean]
      exact ⟨fun all => ⟨fun shown => absurd shown printed, fun _ _ => all⟩,
        fun handled => handled.written written none⟩

theorem convert_collected_reports_iff (plain : ∀ title, '\x00' ∉ slugOf title)
    (legible : Settings.LegibleFile session.tree (Settings.filePath arguments.config)) :
    (convertCollected slugOf environment arguments options).Reports session ↔
      FilesHandled slugOf environment arguments options (collected session.tree arguments).1 session.tree := by
  obtain ⟨said, saying⟩ := report_missing_perform (collected session.tree arguments).2 session
  have files := @convert_files_reports_iff slugOf environment arguments options _ { session with messages := said }
    plain legible (collected_clean session.tree arguments)
  rw [convertCollected, Job.reports_bind_ok (Job.perform_tree session), Job.reports_bind_ok saying,
    Job.reports_bind, files]
  exact and_iff_left fun failures between _ => Job.reports_of_ok rfl

/-- The standard input is converted before the files, and it leaves them as they are. -/
theorem input_and_files_report_iff (plain : ∀ title, '\x00' ∉ slugOf title)
    (legible : Settings.LegibleFile session.tree (Settings.filePath arguments.config)) :
    ((if arguments.sources.contains standardInput then printInput options input else pure ()) >>= fun _ =>
        convertCollected slugOf environment arguments options).Reports session ↔
      (standardInput ∈ arguments.sources → ∃ content markdown, input = .text content ∧
        convert options (Settings.unifyLineEnds content) = .ok markdown) ∧
      FilesHandled slugOf environment arguments options (collected session.tree arguments).1 session.tree := by
  by_cases given : standardInput ∈ arguments.sources
  · rw [if_pos (by simpa using given), Job.reports_bind, print_input_reports_iff, imp_iff_right given]
    refine and_congr_right ?_
    rintro ⟨content, markdown, rfl, converted⟩
    have later (between : Session) (done : (printInput options (.text content)).perform session = (.ok (), between)) :
        (convertCollected slugOf environment arguments options).Reports between ↔
          FilesHandled slugOf environment arguments options (collected session.tree arguments).1 session.tree := by
      rw [← print_input_tree done] at legible ⊢
      exact convert_collected_reports_iff plain legible
    obtain ⟨between, done⟩ := print_input_returns converted session
    exact ⟨fun all => (later between done).mp (all () between done),
      fun handled _ other doneToo => (later other doneToo).mpr handled⟩
  · rw [if_neg (by simpa using given), pure_bind, convert_collected_reports_iff plain legible]
    exact (and_iff_right fun named => absurd named given).symm

theorem convert_sources_reports_iff (plain : ∀ title, '\x00' ∉ slugOf title) :
    (convertSources slugOf environment input arguments).Reports session ↔
      Orderly slugOf environment input arguments session.tree := by
  rw [convert_sources_eq, Job.reports_bind_ok (Job.perform_tree session), Job.reports_bind_of_except,
    optionsOf, Settings.options_reported_iff, ← optionsOf]
  constructor
  · rintro ⟨legible, rest⟩
    have each (options : Options) (chosen : optionsOf environment session.tree arguments = .ok options) :=
      (input_and_files_report_iff plain legible).mp (rest options chosen)
    exact ⟨legible, fun options chosen => (each options chosen).1, fun options chosen => (each options chosen).2⟩
  · intro orderly
    refine ⟨orderly.configuration, fun options chosen => ?_⟩
    exact (input_and_files_report_iff plain orderly.configuration).mpr
      ⟨orderly.input options chosen, orderly.files options chosen⟩

/-- A run with sources returns a status unless a fault other than wrong settings ends its work. -/
theorem execute_returns_iff (named : arguments.sources ≠ []) :
    (∃ status after, (execute slugOf environment input arguments).perform session = (.ok status, after) ∧
        (status = 0 ∨ status = 1)) ↔ (convertSources slugOf environment input arguments).Reports session := by
  rw [execute, if_neg (by simpa using named), Job.perform_try_catch, Job.perform_bind]
  rcases run : (convertSources slugOf environment input arguments).perform session with ⟨fault | count, last⟩
  · have unreported := convert_sources_passes_none slugOf environment input arguments session fault last run
    cases fault with
    | settings wrong =>
        refine iff_of_true ⟨1, _, rfl, .inr rfl⟩ fun fault after failed => ?_
        rw [run] at failed
        exact ⟨wrong, (Except.error.inj (Prod.mk.inj failed).1).symm⟩
    | source path fault => simp [isReported] at unreported
    | page path error => simp [isReported] at unreported
    | file | notUtf8 | numberTooLong | nestedTooDeep | notPath =>
        refine iff_of_false (fun returned => ?_) fun reports => ?_
        · obtain ⟨status, after, done, _⟩ := returned
          simp at done
        · obtain ⟨wrong, same⟩ := reports _ last run
          simp at same
  · refine iff_of_true ⟨_, last, rfl, ?_⟩ (Job.reports_of_ok run)
    by_cases none : count = 0 <;> simp [none]

/-- A session with one source, and a configuration file with the given content. -/
def configured (content : Content) : Session where
  tree := { entries := [(["a.txt".toList], .file (.text "x".toList)), ([Settings.defaultFile], .file content)] }

end Command

end Wikidown
